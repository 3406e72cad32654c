import AuraLive.Foundations.Double
import AuraLive.Foundations.Spacing
import AuraLive.VoiceBot.State

set_option relaxedAutoImplicit false
set_option autoImplicit false

/-!
# Misheard wake words

`fuzzyMatchWakeWord` of `intent/intent-classifier.service.ts`: one of the first four words of a text
is taken for the wake word if its jamo are similar enough, and a greeting if the word after it is.
The word after a greeting is looked for behind the place where the greeting is said first, and a
greeting of one syllable is not looked at.

## Main definitions

* `Intent.decomposeHangul`, `Intent.jamoSimilarity` — the similarity of two words.
* `Intent.tokens` — the words that are looked at.
* `Intent.fuzzyMatchWakeWord` — the search.

## Main results

* `Intent.fuzzyMatchWakeWord_matched_iff` — when something is found.
* `Intent.split_wake_phrase_found_iff` — when something is found in a text with a greeting in front
  of a word that is similar enough.
* `Intent.split_wake_phrases_missed` — such texts in which nothing is found.

## Design

The sums and quotients are rounded, which is a parameter: to doubles in the program. So is
`toLowerCase`, of which only is used what the language has it do to the texts at hand.
-/

namespace Intent

open Foundations Double Spacing VoiceBot

/-- A text. -/
abbrev Text := List Char

/-! ## Jamo -/

/-- `CHO`. -/
def CHO : Text :=
  ['ㄱ', 'ㄲ', 'ㄴ', 'ㄷ', 'ㄸ', 'ㄹ', 'ㅁ', 'ㅂ', 'ㅃ', 'ㅅ', 'ㅆ', 'ㅇ', 'ㅈ', 'ㅉ', 'ㅊ', 'ㅋ', 'ㅌ', 'ㅍ', 'ㅎ']

/-- `JUNG`. -/
def JUNG : Text :=
  ['ㅏ', 'ㅐ', 'ㅑ', 'ㅒ', 'ㅓ', 'ㅔ', 'ㅕ', 'ㅖ', 'ㅗ', 'ㅘ', 'ㅙ', 'ㅚ', 'ㅛ', 'ㅜ', 'ㅝ', 'ㅞ', 'ㅟ', 'ㅠ', 'ㅡ',
    'ㅢ', 'ㅣ']

/-- `JONG`, with a blank for a syllable without one. -/
def JONG : Text :=
  [' ', 'ㄱ', 'ㄲ', 'ㄳ', 'ㄴ', 'ㄵ', 'ㄶ', 'ㄷ', 'ㄹ', 'ㄺ', 'ㄻ', 'ㄼ', 'ㄽ', 'ㄾ', 'ㄿ', 'ㅀ', 'ㅁ', 'ㅂ', 'ㅄ',
    'ㅅ', 'ㅆ', 'ㅇ', 'ㅈ', 'ㅊ', 'ㅋ', 'ㅌ', 'ㅍ', 'ㅎ']

/-- The jamo of a character: those of a syllable, which are in the tables, else itself. -/
def decomposeChar (char : Char) : Text :=
  if 0xAC00 ≤ char.toNat ∧ char.toNat - 0xAC00 ≤ 11171 then
    let code := char.toNat - 0xAC00
    (CHO[code / 588]?).toList ++ (JUNG[code % 588 / 28]?).toList ++
      (JONG[code % 28]?).toList.filter (· ≠ ' ')
  else [char]

/-- `decomposeHangul`. -/
def decomposeHangul (str : Text) : Text := str.flatMap decomposeChar

/-- `SIMILAR_JAMO`. -/
def SIMILAR_JAMO : List (Char × List Char) :=
  [('ㄹ', ['ㄴ', 'ㄷ']), ('ㄴ', ['ㄹ', 'ㅁ']), ('ㅁ', ['ㅂ', 'ㄴ']), ('ㅂ', ['ㅁ', 'ㅍ', 'ㅃ']),
    ('ㄱ', ['ㅋ', 'ㄲ']), ('ㅅ', ['ㅆ', 'ㅈ', 'ㅊ']), ('ㅈ', ['ㅅ', 'ㅆ', 'ㅊ', 'ㅉ']), ('ㅜ', ['ㅡ', 'ㅗ']),
    ('ㅡ', ['ㅜ', 'ㅣ', 'ㅓ']), ('ㅗ', ['ㅜ', 'ㅓ']), ('ㅏ', ['ㅑ', 'ㅐ', 'ㅓ']), ('ㅓ', ['ㅕ', 'ㅔ', 'ㅏ', 'ㅗ']),
    ('ㅣ', ['ㅡ', 'ㅢ'])]

/-- `isSimilarJamo`. -/
def isSimilarJamo (a b : Char) : Bool :=
  a = b || (SIMILAR_JAMO.lookup a).any (b ∈ ·) || (SIMILAR_JAMO.lookup b).any (a ∈ ·)

section Similarity

variable (toLowerCase : Text → Text) (rounded : ℚ → ℚ)

/-- The jamo at one place are counted. -/
def countMatch (count : ℚ) (jamo : Char × Char) : ℚ :=
  if jamo.1 = jamo.2 then rounded (count + 1)
  else if isSimilarJamo jamo.1 jamo.2 then rounded (count + rounded (3 / 5))
  else count

/-- `jamoSimilarity`. -/
def jamoSimilarity (a b : Text) : ℚ :=
  let jamoA := decomposeHangul (toLowerCase a)
  let jamoB := decomposeHangul (toLowerCase b)
  let maxLen := max jamoA.length jamoB.length
  if maxLen = 0 then 0
  else if jamoA.length + 3 < jamoB.length ∨ jamoB.length + 3 < jamoA.length then 0
  else rounded ((jamoA.zip jamoB).foldl (countMatch rounded) 0 / maxLen)

end Similarity

/-! ## The search -/

/-- What `fuzzyMatchWakeWord` returns. -/
structure WakeWordMatch where
  matched : Bool
  word : Text
  similarity : ℚ

/-- `targets`. -/
def targets : List Text := [['아', '우', '라'], ['아', '우', '라', '야'], ['헤', '이', '아', '우', '라']]

/-- The greetings that may stand in front of the wake word. -/
def greetings : List Text := [['헤', '이'], ['해', '이'], ['에', '이'], ['혜', '이'], ['해'], ['헤']]

/-- `split(/\s+/)`. -/
def splitSpaces (text : Text) : List Text := (collapse isJsSpace ' ' false text).splitOn ' '

section Search

variable (toLowerCase : Text → Text) (rounded : ℚ → ℚ)

/-- `tokens`: the first four words. -/
def tokens (text : Text) : List Text := (splitSpaces (toLowerCase text)).take 4

/-- `threshold`. -/
def threshold : ℚ := rounded (65 / 100)

/-- The loop over the targets. -/
def matchTarget (token : Text) : Option WakeWordMatch :=
  targets.findSome? fun target =>
    let similarity := jamoSimilarity toLowerCase rounded token target
    if threshold rounded ≤ similarity then some ⟨true, target, similarity⟩ else none

/-- The word after the place of a greeting, which is the first place where it is said. -/
def matchAfter (tokens : List Text) (token : Text) : Option WakeWordMatch :=
  if token ∈ greetings then
    (tokens[tokens.idxOf token + 1]?).bind fun next =>
      let nextSim := jamoSimilarity toLowerCase rounded next ['아', '우', '라']
      if 1 / 2 ≤ nextSim then some ⟨true, ['헤', '이', ' ', '아', '우', '라'], nextSim⟩ else none
  else none

/-- A run of the loop over the words. -/
def matchToken (tokens : List Text) (token : Text) : Option WakeWordMatch :=
  if jsLength (String.ofList token) < 2 then none
  else (matchTarget toLowerCase rounded token).or (matchAfter toLowerCase rounded tokens token)

/-- `fuzzyMatchWakeWord`. -/
def fuzzyMatchWakeWord (text : Text) : WakeWordMatch :=
  let tokens := tokens toLowerCase text
  (tokens.findSome? (matchToken toLowerCase rounded tokens)).getD ⟨false, [], 0⟩

/-! ## What is found -/

/-- One of the targets is found for what is similar to it. -/
lemma matchTarget_isSome_iff (token : Text) : (matchTarget toLowerCase rounded token).isSome ↔
    ∃ target ∈ targets, threshold rounded ≤ jamoSimilarity toLowerCase rounded token target := by
  simp only [matchTarget, List.findSome?_isSome_iff, Option.isSome_ite]

/-- A greeting is found if the word after its first place is similar to the wake word. -/
lemma matchAfter_isSome_iff (tokens : List Text) (token : Text) :
    (matchAfter toLowerCase rounded tokens token).isSome ↔ token ∈ greetings ∧
      ∃ next, tokens[tokens.idxOf token + 1]? = some next ∧
        1 / 2 ≤ jamoSimilarity toLowerCase rounded next ['아', '우', '라'] := by
  rw [matchAfter]
  split
  · rename_i hgreeting
    rw [and_iff_right hgreeting]
    cases tokens[tokens.idxOf token + 1]? with
    | none => simp
    | some next => simp only [Option.bind_some, Option.isSome_ite, Option.some_inj, exists_eq_left']
  · rename_i hgreeting
    simp [hgreeting]

/-- What is found is reported as such. -/
lemma matched_of_matchToken {tokens : List Text} {token : Text} {found : WakeWordMatch}
    (h : matchToken toLowerCase rounded tokens token = some found) : found.matched = true := by
  rw [matchToken] at h
  split at h
  · cases h
  · obtain htarget | ⟨-, hafter⟩ := Option.or_eq_some_iff.mp h
    · obtain ⟨target, -, hfound⟩ := List.exists_of_findSome?_eq_some htarget
      obtain ⟨-, heq⟩ := Option.ite_none_right_eq_some.mp hfound
      rw [← Option.some_inj.mp heq]
    · obtain ⟨-, hbind⟩ := Option.ite_none_right_eq_some.mp hafter
      obtain ⟨next, -, hfound⟩ := Option.bind_eq_some_iff.mp hbind
      obtain ⟨-, heq⟩ := Option.ite_none_right_eq_some.mp hfound
      rw [← Option.some_inj.mp heq]

/-- A word of two units or more that is similar to one of the targets. -/
def Heard (token : Text) : Prop :=
  2 ≤ jsLength (String.ofList token) ∧
    ∃ target ∈ targets, threshold rounded ≤ jamoSimilarity toLowerCase rounded token target

/-- A split wake phrase: a greeting in front of a word that is similar to the wake word. -/
def SplitWakePhrase (tokens : List Text) (i : ℕ) : Prop :=
  (∃ token ∈ greetings, tokens[i]? = some token) ∧
    ∃ next, tokens[i + 1]? = some next ∧
      1 / 2 ≤ jamoSimilarity toLowerCase rounded next ['아', '우', '라']

/-- A word of two units or more that is not among those before it. -/
def FirstSaid (tokens : List Text) (i : ℕ) : Prop :=
  ∃ token, tokens[i]? = some token ∧ 2 ≤ jsLength (String.ofList token) ∧ token ∉ tokens.take i

/-- The first place of a word is where it is and has not been before. -/
lemma idxOf_eq_iff {tokens : List Text} {token : Text} {i : ℕ} :
    token ∈ tokens ∧ tokens.idxOf token = i ↔ tokens[i]? = some token ∧ token ∉ tokens.take i := by
  constructor
  · rintro ⟨hmem, rfl⟩
    exact ⟨List.getElem?_idxOf hmem, fun htake =>
      (List.mem_take_iff_idxOf_lt hmem).mp htake |>.false⟩
  · rintro ⟨hplace, hbefore⟩
    have hmem : token ∈ tokens := List.mem_of_getElem? hplace
    have hupto : token ∈ tokens.take (i + 1) := by simp [List.take_add_one, hplace]
    have hle := (List.mem_take_iff_idxOf_lt hmem).mp hupto
    have hge := mt (List.mem_take_iff_idxOf_lt hmem).mpr hbefore
    exact ⟨hmem, by omega⟩

/-- A word of two units or more is found as one of the targets, or as a greeting. -/
lemma matchToken_isSome_iff (tokens : List Text) (token : Text) :
    (matchToken toLowerCase rounded tokens token).isSome ↔
      2 ≤ jsLength (String.ofList token) ∧ ((matchTarget toLowerCase rounded token).isSome ∨
        (matchAfter toLowerCase rounded tokens token).isSome) := by
  rw [matchToken, ← not_lt]
  split <;> simp [*]

/-- Something is found in a text if one of its first words is. -/
lemma matched_iff_exists_token (text : Text) :
    (fuzzyMatchWakeWord toLowerCase rounded text).matched = true ↔
      ∃ token ∈ tokens toLowerCase text,
        (matchToken toLowerCase rounded (tokens toLowerCase text) token).isSome := by
  rw [← List.findSome?_isSome_iff, fuzzyMatchWakeWord]
  cases hfound : (tokens toLowerCase text).findSome?
      (matchToken toLowerCase rounded (tokens toLowerCase text)) with
  | none => simp
  | some found =>
    obtain ⟨token, -, htoken⟩ := List.exists_of_findSome?_eq_some hfound
    simpa using matched_of_matchToken toLowerCase rounded htoken

/-- **What is found**: a word that is similar to a target, or a split wake phrase whose greeting is
of two units and is said there first. -/
lemma fuzzyMatchWakeWord_matched_iff (text : Text) :
    (fuzzyMatchWakeWord toLowerCase rounded text).matched = true ↔
      (∃ token ∈ tokens toLowerCase text, Heard toLowerCase rounded token) ∨
      ∃ i, SplitWakePhrase toLowerCase rounded (tokens toLowerCase text) i ∧
        FirstSaid (tokens toLowerCase text) i := by
  rw [matched_iff_exists_token]
  generalize tokens toLowerCase text = tokens
  simp only [matchToken_isSome_iff, matchTarget_isSome_iff, matchAfter_isSome_iff]
  constructor
  · rintro ⟨token, hmem, hlength, htarget | ⟨hgreeting, hnext⟩⟩
    · exact .inl ⟨token, hmem, hlength, htarget⟩
    · obtain ⟨hplace, hbefore⟩ := idxOf_eq_iff.mp ⟨hmem, rfl⟩
      exact .inr ⟨tokens.idxOf token, ⟨⟨token, hgreeting, hplace⟩, hnext⟩,
        token, hplace, hlength, hbefore⟩
  · rintro (⟨token, hmem, hlength, htarget⟩ | ⟨i, ⟨⟨token, hgreeting, hplace⟩, hnext⟩, hfirst⟩)
    · exact ⟨token, hmem, hlength, .inl htarget⟩
    · obtain ⟨token', hplace', hlength, hbefore⟩ := hfirst
      obtain rfl : token = token' := Option.some_inj.mp (hplace.symm.trans hplace')
      obtain ⟨hmem, rfl⟩ := idxOf_eq_iff.mpr ⟨hplace, hbefore⟩
      exact ⟨token, hmem, hlength, .inr ⟨hgreeting, hnext⟩⟩

/-- **When a split wake phrase is found.** Something is found in every text with a split wake phrase
if and only if such a text has one whose greeting is of two units and is not among the words before
it, or a word of two units or more that is similar to one of the targets. -/
theorem split_wake_phrase_found_iff (text : Text) :
    (∀ i, SplitWakePhrase toLowerCase rounded (tokens toLowerCase text) i →
        (fuzzyMatchWakeWord toLowerCase rounded text).matched = true) ↔
      ∀ i, SplitWakePhrase toLowerCase rounded (tokens toLowerCase text) i →
        (∃ j, SplitWakePhrase toLowerCase rounded (tokens toLowerCase text) j ∧
          FirstSaid (tokens toLowerCase text) j) ∨
        ∃ token ∈ tokens toLowerCase text, Heard toLowerCase rounded token := by
  simp only [fuzzyMatchWakeWord_matched_iff, or_comm]

end Search

/-- **Split wake phrases that are missed**: a greeting of one syllable, and one that is said
twice. -/
theorem split_wake_phrases_missed :
    let toLowerCase : Text → Text := List.map Char.toLower
    let short := ['해', ' ', '어', '우']
    let twice := ['헤', '이', ' ', '헤', '이', ' ', '어', '우']
    (SplitWakePhrase toLowerCase toDouble (tokens toLowerCase short) 0 ∧
      (fuzzyMatchWakeWord toLowerCase toDouble short).matched = false) ∧
    SplitWakePhrase toLowerCase toDouble (tokens toLowerCase twice) 1 ∧
      (fuzzyMatchWakeWord toLowerCase toDouble twice).matched = false := by
  refine ⟨⟨⟨⟨['해'], ?_, ?_⟩, ['어', '우'], ?_, ?_⟩, ?_⟩,
    ⟨⟨['헤', '이'], ?_, ?_⟩, ['어', '우'], ?_, ?_⟩, ?_⟩
  all_goals decide +kernel

end Intent
