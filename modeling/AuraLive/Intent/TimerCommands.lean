import AuraLive.Foundations.Regex
import AuraLive.Foundations.Spacing
import AuraLive.Intent.WakeWord

set_option relaxedAutoImplicit false
set_option autoImplicit false

/-!
# Timer commands

The part of `classify` of `intent/intent-classifier.service.ts` that is about timers: the text is
corrected, and the first pattern of a list that matches it decides what is done, and for how many
minutes. The patterns for a new timer come first, and the words at their end may be missing.

## Main definitions

* `Intent.STT_CORRECTIONS`, `Intent.normalizeText` — the corrections.
* `Intent.TIMER_PATTERNS`, `Intent.timerIntent` — the patterns, and what is decided by them.
* `Intent.AsksToExtend` — a text that asks for an extension.

## Main results

* `Intent.timerIntent_extend_iff` — when a text is taken for an extension by some minutes.
* `Intent.extension_taken_iff` — when one is that asks for it.
* `Intent.new_timer_of_minutes` — after `타이머`, any minutes start a new timer.
* `Intent.extension_starts_timer` — such a text that asks for an extension.

## Design

The flag `i` compares the capital letters of the Latin alphabet; the patterns have no other letters
with case. What the flag `g` keeps in `lastIndex` is set back by the program before it is used
again.
-/

namespace Intent

open Foundations Regex Spacing VoiceBot

/-! ## Patterns -/

/-- `\s*`. -/
def spaces : Regex Char := star (char isJsSpace)

/-- `\s+`. -/
def someSpaces : Regex Char := plus (char isJsSpace)

/-- `\d+`. -/
def digits : Regex Char := plus (char Char.isDigit)

/-- `^`. -/
def atStart : Regex Char := look fun before _ => before.isEmpty

/-- `$`. -/
def atEnd : Regex Char := look fun _ after => after.isEmpty

/-- `\w`. -/
def isWordChar (c : Char) : Bool := c.isAlphanum || c = '_'

/-- `\b`. -/
def wordBoundary : Regex Char :=
  look fun before after => before.head?.any isWordChar != after.head?.any isWordChar

/-- A word, with the flag `i`. -/
def caseless (w : Text) : Regex Char := concat (w.map fun a => char fun c => c.toUpper = a.toUpper)

/-- One of some words, with the flag `i`. -/
def oneOfCaseless (ws : List Text) : Regex Char := oneOf (ws.map caseless)

/-! ## Corrections -/

/-- An entry of `STT_CORRECTIONS`. -/
structure Correction where
  pattern : Regex Char
  replacement : Text
  label : String

/-- `STT_CORRECTIONS`. -/
def STT_CORRECTIONS : List Correction :=
  [
    -- English words
    { pattern := concat [wordBoundary,
        group 1 (oneOfCaseless [['h', 'e', 'y'], ['h', 'a', 'y'], ['h', 'a', 'e']]), spaces,
        group 2 (oneOfCaseless
          [['a', 'u', 'r', 'a'], ['o', 'u', 'r', 'a'], ['a', 'w', 'r', 'a']]), wordBoundary]
      replacement := ['헤', '이', ' ', '아', '우', '라'], label := "en_heyaura" },
    { pattern := oneOf [concat [wordBoundary, caseless ['a', 'u', 'r', 'a'], wordBoundary],
        concat [wordBoundary, caseless ['o', 'u', 'r', 'a'], wordBoundary],
        concat [wordBoundary, caseless ['a', 'w', 'r', 'a'], wordBoundary]]
      replacement := ['아', '우', '라'], label := "en_aura" },
    -- variants with a greeting
    { pattern := concat [atStart,
        group 1 (oneOfCaseless
          [['헤', '이'], ['해', '이'], ['해'], ['헤'], ['에', '이'], ['혜', '이'], ['혜']]), spaces,
        group 2 (oneOfCaseless [['아', '우', '라'], ['아', '오', '라'], ['오', '우', '라'],
          ['아', '울', '라'], ['어', '우', '라']])]
      replacement := ['헤', '이', ' ', '아', '우', '라'], label := "heyaura" },
    -- vowels
    { pattern := concat [atStart,
        group 1 (oneOfCaseless [['아', '오', '라'], ['오', '우', '라'], ['어', '우', '라']]),
        opt (group 2 (oneOfCaseless [['야'], ['아']])),
        group 3 (oneOf [char isJsSpace, atEnd])]
      replacement := ['아', '우', '라', '야', ' '], label := "vowel_aora" },
    -- consonants
    { pattern := concat [atStart,
        group 1 (oneOfCaseless [['아', '울', '라'], ['아', '우', '나'], ['아', '운', '라']]),
        opt (group 2 (oneOfCaseless [['야'], ['아']])),
        group 3 (oneOf [char isJsSpace, atEnd])]
      replacement := ['아', '우', '라', '야', ' '], label := "cons_aula" },
    -- white space
    { pattern := concat [caseless ['아'], someSpaces, caseless ['우'], spaces, caseless ['라'],
        spaces, opt (group 1 (oneOfCaseless [['야'], ['아']]))]
      replacement := ['아', '우', '라', '야'], label := "space_aura" },
    { pattern := concat [caseless ['아', '우'], someSpaces, caseless ['라'], spaces,
        opt (group 1 (oneOfCaseless [['야'], ['아']]))]
      replacement := ['아', '우', '라', '야'], label := "space_aura2" },
    -- the last syllable is missing
    { pattern := concat [atStart, caseless ['아', '우'], spaces, caseless ['야']]
      replacement := ['아', '우', '라', '야'], label := "missing_ra" },
    { pattern := concat [atStart, caseless ['아'], spaces, caseless ['야']]
      replacement := ['아', '우', '라', '야'], label := "missing_ura" },
    -- endings
    { pattern := concat [caseless ['아', '우', '라'], group 1 (oneOfCaseless [['아'], ['여']]),
        group 2 (oneOf [char isJsSpace, atEnd])]
      replacement := ['아', '우', '라', '야', ' '], label := "auraa" },
    { pattern := concat [caseless ['아', '우', '라'], spaces, caseless ['요']]
      replacement := ['아', '우', '라', '야'], label := "aurayo" },
    -- misspellings
    ⟨caseless ['달', '씨'], ['날', '씨'], "weather"⟩,
    ⟨caseless ['너', '씨'], ['날', '씨'], "weather2"⟩,
    ⟨caseless ['날', '시'], ['날', '씨'], "weather3"⟩,
    -- contractions
    ⟨caseless ['그', '니', '까'], ['그', '러', '니', '까'], "contraction1"⟩,
    ⟨caseless ['긍', '까'], ['그', '러', '니', '까'], "contraction2"⟩,
    ⟨caseless ['근', '까'], ['그', '러', '니', '까'], "contraction3"⟩,
    ⟨caseless ['어', '케'], ['어', '떻', '게'], "contraction4"⟩,
    ⟨caseless ['어', '뜨', '케'], ['어', '떻', '게'], "contraction5"⟩,
    ⟨caseless ['이', '케'], ['이', '렇', '게'], "contraction6"⟩,
    ⟨caseless ['저', '케'], ['저', '렇', '게'], "contraction7"⟩,
    ⟨caseless ['그', '케'], ['그', '렇', '게'], "contraction8"⟩,
    -- pronunciation
    ⟨caseless ['어', '떠', '게'], ['어', '떻', '게'], "pron1"⟩,
    ⟨caseless ['어', '떠', '케'], ['어', '떻', '게'], "pron2"⟩,
    ⟨caseless ['머', '라', '고'], ['뭐', '라', '고'], "pron3"⟩,
    ⟨caseless ['머', '래'], ['뭐', '래'], "pron4"⟩,
    ⟨caseless ['됬'], ['됐'], "pron5"⟩,
    ⟨caseless ['햇'], ['했'], "pron6"⟩]

/-- The corrected text, and the labels of the corrections that have changed it. -/
def applyCorrection (state : Text × List String) (rule : Correction) : Text × List String :=
  let (normalized, matchedPatterns) := state
  if (rule.pattern.exec normalized).isSome then
    let after := rule.pattern.replaceAll (fun _ => rule.replacement) normalized
    (after, if normalized ≠ after then matchedPatterns ++ ["보정: " ++ rule.label]
      else matchedPatterns)
  else state

/-- `normalizeText`. -/
def normalizeText (text : Text) (matchedPatterns : List String) : Text × List String :=
  let (normalized, matchedPatterns) :=
    STT_CORRECTIONS.foldl applyCorrection (trim isJsSpace text, matchedPatterns)
  (trim isJsSpace normalized, matchedPatterns)

/-! ## The patterns of commands -/

/-- `timerAction`. -/
inductive TimerAction where
  | start
  | pause
  | resume
  | extend
  | stop
  | status
  deriving DecidableEq

/-- An entry of `TIMER_PATTERNS`. -/
structure TimerPattern where
  pattern : Regex Char
  action : TimerAction
  extractMinutes : Bool := false

/-- The words that may end a command for a new timer. -/
def startWords : List Text :=
  [['시', '작'], ['켜'], ['설', '정'], ['맞', '춰'], ['해'], ['해', '줘']]

/-- `TIMER_PATTERNS`. -/
def TIMER_PATTERNS : List TimerPattern :=
  [
    -- a new timer
    { pattern := concat [word ['타', '이', '머'], spaces, group 1 digits, spaces, word ['분'], spaces,
        opt (group 2 (oneOfWords startWords))]
      action := .start, extractMinutes := true },
    { pattern := concat [group 1 digits, spaces, word ['분'], spaces, word ['타', '이', '머'], spaces,
        opt (group 2 (oneOfWords startWords))]
      action := .start, extractMinutes := true },
    { pattern := concat [word ['회', '의'], spaces, word ['시', '간'], spaces, group 1 digits, spaces,
        word ['분'], spaces, opt (group 2 (word ['으', '로'])), spaces,
        opt (group 3 (oneOfWords [['설', '정'], ['맞', '춰'], ['해'], ['해', '줘']]))]
      action := .start, extractMinutes := true },
    { pattern := concat [word ['타', '이', '머'], spaces,
        group 1 (oneOfWords [['시', '작'], ['켜'], ['설', '정'], ['맞', '춰']])]
      action := .start },
    -- a pause
    { pattern := concat [word ['타', '이', '머'], spaces,
        group 1 (oneOf [concat [word ['일', '시'], spaces, word ['정', '지']], word ['멈', '춰'],
          word ['중', '지'], word ['정', '지'], concat [word ['잠', '깐'], spaces, word ['멈', '춰']],
          word ['스', '톱'], word ['p', 'a', 'u', 's', 'e']])]
      action := .pause },
    { pattern := concat [group 1 (oneOf [concat [word ['일', '시'], spaces, word ['정', '지']],
          word ['멈', '춰'], word ['중', '지'], word ['정', '지']]), spaces, word ['타', '이', '머']]
      action := .pause },
    -- going on
    { pattern := concat [word ['타', '이', '머'], spaces,
        group 1 (oneOf [concat [word ['다', '시'], spaces, word ['시', '작']], word ['재', '개'],
          word ['계', '속'], word ['이', '어', '서'], word ['r', 'e', 's', 'u', 'm', 'e']])]
      action := .resume },
    { pattern := concat [group 1 (oneOf [concat [word ['다', '시'], spaces, word ['시', '작']],
          word ['재', '개'], word ['계', '속']]), spaces, word ['타', '이', '머']]
      action := .resume },
    -- an extension
    { pattern := concat [group 1 digits, spaces, word ['분'], spaces,
        group 2 (oneOfWords [['더'], ['연', '장'], ['추', '가'], ['늘', '려'], ['늘', '려', '줘']])]
      action := .extend, extractMinutes := true },
    { pattern := concat [group 1 (oneOfWords [['시', '간'], ['타', '이', '머']]), spaces,
        group 2 digits, spaces, word ['분'], spaces,
        group 3 (oneOfWords [['연', '장'], ['추', '가'], ['늘', '려']])]
      action := .extend, extractMinutes := true },
    { pattern := concat [group 1 digits, spaces, word ['분'], spaces,
        opt (group 2 (word ['만', '큼'])), spaces,
        group 3 (oneOfWords [['연', '장'], ['추', '가'], ['늘', '려'], ['더']])]
      action := .extend, extractMinutes := true },
    { pattern := concat [word ['시', '간'], spaces, opt (group 1 (word ['좀'])), spaces,
        group 2 (oneOfWords [['더'], ['늘', '려'], ['연', '장']]), spaces, group 3 digits, spaces,
        opt (word ['분'])]
      action := .extend, extractMinutes := true },
    -- the end
    { pattern := concat [word ['타', '이', '머'], spaces,
        group 1 (oneOfWords [['종', '료'], ['끝'], ['끄', '기'], ['꺼'], ['해', '제'], ['취', '소'],
          ['o', 'f', 'f']])]
      action := .stop },
    { pattern := concat [group 1 (oneOfWords
          [['종', '료'], ['끝'], ['끄', '기'], ['꺼'], ['해', '제'], ['취', '소']]), spaces,
        word ['타', '이', '머']]
      action := .stop },
    -- how much is left
    { pattern := concat [word ['타', '이', '머'], spaces,
        group 1 (oneOf [word ['상', '태'], word ['확', '인'],
          concat [word ['얼', '마', '나'], spaces, word ['남', '았']],
          concat [word ['몇'], spaces, word ['분'], spaces, word ['남', '았']]])]
      action := .status },
    { pattern := group 1 (oneOf [concat [word ['남', '은'], spaces, word ['시', '간']],
        concat [word ['얼', '마', '나'], spaces, word ['남', '았']],
        concat [word ['몇'], spaces, word ['분'], spaces, word ['남', '았']]])
      action := .status }]

/-! ## What is decided -/

/-- `parseInt(match, 10)`, none for `NaN`. -/
def parseInt : Option Text → Option ℤ
  | none => none
  | some s =>
    let (sign, s) : ℤ × Text := match s.dropWhile isJsSpace with
      | '-' :: t => (-1, t)
      | '+' :: t => (1, t)
      | t => (1, t)
    let read := s.takeWhile Char.isDigit
    if read = [] then none else some (sign * Nat.ofDigitChars 10 read 0)

/-- The minutes of a match: the first number of its groups that is from 1 to 180. -/
def matchMinutes (timerPattern : TimerPattern) (m : Match Char) : Option ℤ :=
  if timerPattern.extractMinutes then
    (List.range' 1 timerPattern.pattern.groups.length).findSome? fun i =>
      (parseInt (m.get i)).filter fun num => 0 < num ∧ num ≤ 180
  else none

/-- What `classify` says about timers. -/
structure TimerIntent where
  isTimerIntent : Bool
  timerAction : Option TimerAction
  timerMinutes : Option ℤ
  deriving DecidableEq

/-- The first of some patterns that matches, with the match. -/
def firstMatch (patterns : List TimerPattern) (text : Text) :
    Option (TimerPattern × Match Char) :=
  patterns.findSome? fun timerPattern => (timerPattern.pattern.exec text).map (timerPattern, ·)

/-- The loop over `TIMER_PATTERNS`. -/
def timerIntent (lowerNormalized : Text) : TimerIntent :=
  match firstMatch TIMER_PATTERNS lowerNormalized with
  | none => ⟨false, none, none⟩
  | some (timerPattern, m) => ⟨true, some timerPattern.action, matchMinutes timerPattern m⟩

section Classify

variable (toLowerCase : Text → Text)

/-- `lowerNormalized`. -/
def lowerNormalized (text : Text) : Text := toLowerCase (normalizeText text []).1

/-- What `classify` returns about timers. -/
def classifyTimer (text : Text) : TimerIntent := timerIntent (lowerNormalized toLowerCase text)

end Classify

/-! ## The pattern that decides -/

section Patterns

variable {patterns : List TimerPattern} {timerPattern : TimerPattern} {text : Text}
  {m : Match Char} {n : ℤ}

/-- A pattern does not match. -/
lemma exec_map_eq_none_iff (r : TimerPattern) :
    (r.pattern.exec text).map (r, ·) = none ↔ ¬ r.pattern.Occurs text := by
  rw [← exec_isSome_iff, Option.map_eq_none_iff, Option.not_isSome_iff_eq_none]

/-- The first pattern that matches: none of those before it does. -/
lemma firstMatch_eq_some_iff : firstMatch patterns text = some (timerPattern, m) ↔
    ∃ front back, patterns = front ++ timerPattern :: back ∧
      timerPattern.pattern.exec text = some m ∧ ∀ r ∈ front, ¬ r.pattern.Occurs text := by
  rw [firstMatch, List.findSome?_eq_some_iff]
  constructor
  · rintro ⟨front, r, back, rfl, hr, hfront⟩
    obtain ⟨m', hm, heq⟩ := Option.map_eq_some_iff.mp hr
    obtain ⟨rfl, rfl⟩ := Prod.mk.inj heq
    exact ⟨front, back, rfl, hm, fun x hx => (exec_map_eq_none_iff x).mp (hfront x hx)⟩
  · rintro ⟨front, back, rfl, hm, hfront⟩
    exact ⟨front, timerPattern, back, rfl, by rw [hm, Option.map_some],
      fun x hx => (exec_map_eq_none_iff x).mpr (hfront x hx)⟩

/-- No pattern matches. -/
lemma firstMatch_eq_none_iff :
    firstMatch patterns text = none ↔ ∀ r ∈ patterns, ¬ r.pattern.Occurs text := by
  rw [firstMatch, List.findSome?_eq_none_iff]
  exact forall₂_congr fun r _ => exec_map_eq_none_iff r

/-- The pattern that matches first is one of the patterns. -/
lemma mem_of_firstMatch (h : firstMatch patterns text = some (timerPattern, m)) :
    timerPattern ∈ patterns := by
  obtain ⟨front, back, rfl, -⟩ := firstMatch_eq_some_iff.mp h
  exact List.mem_append_right _ List.mem_cons_self

/-- If a pattern matches, one of them does so first. -/
lemma exists_firstMatch (hmem : timerPattern ∈ patterns)
    (hexec : timerPattern.pattern.exec text = some m) :
    ∃ r m', firstMatch patterns text = some (r, m') := by
  cases hfirst : firstMatch patterns text with
  | some found => exact ⟨found.1, found.2, rfl⟩
  | none =>
    have hnot := firstMatch_eq_none_iff.mp hfirst timerPattern hmem
    rw [← exec_isSome_iff, hexec] at hnot
    exact absurd rfl hnot

/-- The patterns that come before those for an extension. -/
def earlierPatterns : List TimerPattern :=
  TIMER_PATTERNS.filter (·.action ∈ [.start, .pause, .resume])

/-- The patterns for an extension. -/
def extendPatterns : List TimerPattern := TIMER_PATTERNS.filter (·.action = .extend)

/-- The patterns that come after those for an extension. -/
def laterPatterns : List TimerPattern := TIMER_PATTERNS.filter (·.action ∈ [.stop, .status])

/-- The order of the patterns. -/
lemma firstMatch_TIMER_PATTERNS (text : Text) : firstMatch TIMER_PATTERNS text =
    (firstMatch earlierPatterns text).or
      ((firstMatch extendPatterns text).or (firstMatch laterPatterns text)) := by
  have horder : TIMER_PATTERNS = earlierPatterns ++ (extendPatterns ++ laterPatterns) := rfl
  rw [horder, firstMatch, List.findSome?_append, List.findSome?_append]
  rfl

/-- A pattern for an extension matches first if no earlier pattern does. -/
lemma firstMatch_extend_iff (haction : timerPattern.action = .extend) :
    firstMatch TIMER_PATTERNS text = some (timerPattern, m) ↔
      (∀ r ∈ earlierPatterns, ¬ r.pattern.Occurs text) ∧
        firstMatch extendPatterns text = some (timerPattern, m) := by
  rw [firstMatch_TIMER_PATTERNS, ← firstMatch_eq_none_iff]
  constructor
  · intro h
    obtain hearlier | ⟨hnone, h⟩ := Option.or_eq_some_iff.mp h
    · have hmem := (List.mem_filter.mp (mem_of_firstMatch hearlier)).2
      simp [haction] at hmem
    · obtain hextend | ⟨-, hlater⟩ := Option.or_eq_some_iff.mp h
      · exact ⟨hnone, hextend⟩
      · have hmem := (List.mem_filter.mp (mem_of_firstMatch hlater)).2
        simp [haction] at hmem
  · rintro ⟨hnone, hextend⟩
    rw [hnone, hextend]
    rfl

/-- **When a text is taken for an extension**: no earlier pattern matches, and the first one for an
extension that does captures the minutes. -/
lemma timerIntent_extend_iff : ((timerIntent text).timerAction = some .extend ∧
      (timerIntent text).timerMinutes = some n) ↔
    (∀ r ∈ earlierPatterns, ¬ r.pattern.Occurs text) ∧
      ∃ r m, firstMatch extendPatterns text = some (r, m) ∧ matchMinutes r m = some n := by
  constructor
  · rintro ⟨haction, hminutes⟩
    rw [timerIntent] at haction hminutes
    cases hfirst : firstMatch TIMER_PATTERNS text with
    | none =>
      rw [hfirst] at haction
      cases haction
    | some found =>
      obtain ⟨r, m⟩ := found
      rw [hfirst] at haction hminutes
      obtain ⟨hearlier, hextend⟩ := (firstMatch_extend_iff (Option.some_inj.mp haction)).mp hfirst
      exact ⟨hearlier, r, m, hextend, hminutes⟩
  · rintro ⟨hearlier, r, m, hextend, hminutes⟩
    have haction : r.action = .extend := by
      have hmem := (List.mem_filter.mp (mem_of_firstMatch hextend)).2
      exact of_decide_eq_true hmem
    rw [timerIntent, (firstMatch_extend_iff haction).mpr ⟨hearlier, hextend⟩]
    exact ⟨congrArg some haction, hminutes⟩

end Patterns

/-- **Minutes after `타이머`** start a new timer, whatever is said after them. -/
lemma new_timer_of_minutes {before gap minutes gap' after : Text} (hgap : ∀ c ∈ gap, isJsSpace c)
    (hne : minutes ≠ []) (hminutes : ∀ c ∈ minutes, c.isDigit) (hgap' : ∀ c ∈ gap', isJsSpace c) :
    (timerIntent (before ++ ((['타', '이', '머'] ++ (gap ++ (minutes ++ (gap' ++ (['분'] ++ []))))) ++
      after))).timerAction = some .start := by
  have hoccurs : (concat ([word ['타', '이', '머'], spaces, group 1 digits, spaces, word ['분']] ++
      [spaces, opt (group 2 (oneOfWords startWords))])).Occurs (before ++
      ((['타', '이', '머'] ++ (gap ++ (minutes ++ (gap' ++ (['분'] ++ []))))) ++ after)) := by
    refine (occurs_concat_append_iff fun b t => ?_).mpr ⟨before, _, after, rfl, ?_⟩
    · exact ⟨[], [], rfl, .nil, [], [], rfl, .inr rfl, rfl⟩
    · exact ⟨_, _, rfl, matches_word_iff.mpr rfl, _, _, rfl, matches_star_char_iff.mpr hgap,
        _, _, rfl, matches_plus_char hne hminutes, _, _, rfl, matches_star_char_iff.mpr hgap',
        _, _, rfl, matches_word_iff.mpr rfl, rfl⟩
  obtain ⟨m, hm⟩ := Option.isSome_iff_exists.mp (exec_isSome_iff.mpr hoccurs)
  have hfirst : firstMatch TIMER_PATTERNS _ = some (⟨_, .start, true⟩, m) :=
    firstMatch_eq_some_iff.mpr ⟨[], TIMER_PATTERNS.tail, rfl, hm, by simp⟩
  rw [timerIntent, hfirst]

/-! ## The number of an extension -/

section Numbers

variable {timerPattern : TimerPattern} {text number : Text} {m : Match Char} {i : ℕ} {n : ℤ}

/-- An expression that matches no number. -/
def Wordy (r : Regex Char) : Prop := ∀ b w t, r.Matches b w t → parseInt (some w) = none

/-- Words that are no numbers. -/
lemma wordy_oneOfWords {ws : List Text} (h : ∀ w ∈ ws, parseInt (some w) = none) :
    Wordy (oneOfWords ws) :=
  fun _ w _ hw => h w (matches_oneOfWords_iff.mp hw)

/-- A word that is no number. -/
lemma wordy_word {w : Text} (h : parseInt (some w) = none) : Wordy (word w) := by
  rintro b v t hv
  rwa [matches_word_iff.mp hv]

/-- The pattern has one group for a number, and the others are for words. -/
def HasNumberGroup (timerPattern : TimerPattern) : Prop :=
  timerPattern.extractMinutes = true ∧
    ∃ k ∈ List.range' 1 timerPattern.pattern.groups.length,
      ∀ body ∈ timerPattern.pattern.bodies, body.1 = k ∨ Wordy body.2

/-- Every pattern for an extension has one group for a number, and the others are for words. -/
lemma hasNumberGroup : ∀ r ∈ extendPatterns, HasNumberGroup r := by
  refine List.forall_mem_cons.mpr ⟨?_, List.forall_mem_cons.mpr ⟨?_, List.forall_mem_cons.mpr
    ⟨?_, List.forall_mem_singleton.mpr ?_⟩⟩⟩
  · refine ⟨rfl, 1, by decide, List.forall_mem_cons.mpr ⟨.inl rfl,
      List.forall_mem_singleton.mpr (.inr ?_)⟩⟩
    exact wordy_oneOfWords (by decide)
  · refine ⟨rfl, 2, by decide, List.forall_mem_cons.mpr ⟨.inr ?_, List.forall_mem_cons.mpr
      ⟨.inl rfl, List.forall_mem_singleton.mpr (.inr ?_)⟩⟩⟩
    · exact wordy_oneOfWords (by decide)
    · exact wordy_oneOfWords (by decide)
  · refine ⟨rfl, 1, by decide, List.forall_mem_cons.mpr ⟨.inl rfl, List.forall_mem_cons.mpr
      ⟨.inr ?_, List.forall_mem_singleton.mpr (.inr ?_)⟩⟩⟩
    · exact wordy_word (by decide)
    · exact wordy_oneOfWords (by decide)
  · refine ⟨rfl, 3, by decide, List.forall_mem_cons.mpr ⟨.inr ?_, List.forall_mem_cons.mpr
      ⟨.inr ?_, List.forall_mem_singleton.mpr (.inl rfl)⟩⟩⟩
    · exact wordy_word (by decide)
    · exact wordy_oneOfWords (by decide)

/-- The number that a match of such a pattern captures is the minutes. -/
lemma matchMinutes_eq_some (h : HasNumberGroup timerPattern)
    (hexec : timerPattern.pattern.exec text = some m) (hget : m.get i = some number)
    (hnumber : parseInt (some number) = some n) (hpos : 0 < n) (hle : n ≤ 180) :
    matchMinutes timerPattern m = some n := by
  obtain ⟨hextract, k, hk, hbodies⟩ := h
  -- the other groups have no number
  have hother {j : ℕ} (hj : j ≠ k) : parseInt (m.get j) = none := by
    cases hword : m.get j with
    | none => rfl
    | some w =>
      obtain ⟨s, hs, b, t, hmatches⟩ := exists_body_of_exec hexec hword
      exact (hbodies _ hs).resolve_left hj b w t hmatches
  obtain rfl : i = k := by
    by_contra hne
    have hnone := hother hne
    rw [hget, hnumber] at hnone
    cases hnone
  have hfound : (parseInt (m.get i)).filter (fun num => 0 < num ∧ num ≤ 180) = some n := by
    rw [hget, hnumber]
    simp [hpos, hle]
  rw [matchMinutes, if_pos hextract]
  obtain ⟨front, back, heq⟩ := List.append_of_mem hk
  rw [List.findSome?_eq_some_iff]
  refine ⟨front, i, back, heq, hfound, fun j hj => ?_⟩
  have hne : j ≠ i := by
    rintro rfl
    have hnodup : (List.range' 1 timerPattern.pattern.groups.length).Nodup := List.nodup_range'
    rw [heq, List.nodup_append] at hnodup
    exact hnodup.2.2 j hj j List.mem_cons_self rfl
  rw [hother hne]
  rfl

end Numbers

/-! ## Asking for an extension -/

/-- The words that ask for an extension. -/
def extensionWords : List Text := [['연', '장'], ['추', '가'], ['늘', '려']]

/-- The text matches a pattern for an extension with the captured number `n`, and one of the words
is after that number. -/
structure AsksToExtend (text : Text) (timerPattern : TimerPattern) (n : ℤ) : Prop where
  mem : timerPattern ∈ TIMER_PATTERNS
  action : timerPattern.action = .extend
  pos : 0 < n
  le : n ≤ 180
  captured : ∃ m i number before after, timerPattern.pattern.exec text = some m ∧
    m.get i = some number ∧ parseInt (some number) = some n ∧ text = before ++ number ++ after ∧
      ∃ w ∈ extensionWords, w <:+: after

section Classify

variable {toLowerCase : Text → Text} {text : Text} {timerPattern : TimerPattern} {n : ℤ}

/-- **When the request for an extension is understood.** A text that asks for an extension is taken
for one by that many minutes if and only if no pattern for a new timer, for a pause or for going on
matches it, and no pattern for an extension that stands before the one in question is the first of
them to match, with other minutes. -/
theorem extension_taken_iff (h : AsksToExtend (lowerNormalized toLowerCase text) timerPattern n) :
    ((classifyTimer toLowerCase text).timerAction = some .extend ∧
        (classifyTimer toLowerCase text).timerMinutes = some n) ↔
      (∀ r ∈ TIMER_PATTERNS, r.action ∈ [.start, .pause, .resume] →
        ¬ r.pattern.Occurs (lowerNormalized toLowerCase text)) ∧
      ∀ front r between back m, extendPatterns = front ++ r :: (between ++ timerPattern :: back) →
        (∀ x ∈ front, ¬ x.pattern.Occurs (lowerNormalized toLowerCase text)) →
        r.pattern.exec (lowerNormalized toLowerCase text) = some m →
        matchMinutes r m = some n := by
  have hearlier : (∀ r ∈ earlierPatterns, ¬ r.pattern.Occurs (lowerNormalized toLowerCase text)) ↔
      ∀ r ∈ TIMER_PATTERNS, r.action ∈ [.start, .pause, .resume] →
        ¬ r.pattern.Occurs (lowerNormalized toLowerCase text) := by
    simp only [earlierPatterns, List.mem_filter, decide_eq_true_eq, and_imp]
  have hmem : timerPattern ∈ extendPatterns :=
    List.mem_filter.mpr ⟨h.mem, decide_eq_true h.action⟩
  rw [classifyTimer, timerIntent_extend_iff, hearlier]
  refine and_congr_right fun _ => ?_
  constructor
  · rintro ⟨r, m, hfirst, hminutes⟩ front r' between back m' horder hfront hexec
    have hfirst' := firstMatch_eq_some_iff.mpr ⟨front, _, horder, hexec, hfront⟩
    obtain ⟨rfl, rfl⟩ := Prod.mk.inj (Option.some_inj.mp (hfirst.symm.trans hfirst'))
    exact hminutes
  · intro hother
    obtain ⟨m, i, number, before, after, hexec, hget, hnumber, -⟩ := h.captured
    obtain ⟨r, m', hfirst⟩ := exists_firstMatch hmem hexec
    refine ⟨r, m', hfirst, ?_⟩
    obtain ⟨front, rest, horder, hexec', hfront⟩ := firstMatch_eq_some_iff.mp hfirst
    rw [horder, List.mem_append, List.mem_cons] at hmem
    obtain hmem | rfl | hmem := hmem
    · -- it matches itself
      have hnot := hfront _ hmem
      rw [← exec_isSome_iff, hexec] at hnot
      exact absurd rfl hnot
    · obtain rfl := Option.some_inj.mp (hexec.symm.trans hexec')
      have hextend : timerPattern ∈ extendPatterns := mem_of_firstMatch hfirst
      exact matchMinutes_eq_some (hasNumberGroup _ hextend) hexec hget hnumber h.pos h.le
    · obtain ⟨between, back, rfl⟩ := List.append_of_mem hmem
      exact hother front r between back m' horder hfront hexec'

end Classify

/-- An extension that is understood. -/
theorem extension_taken_iff_time :
    let toLowerCase : Text → Text := List.map Char.toLower
    let text := ['시', '간', ' ', '1', '0', '분', ' ', '연', '장']
    classifyTimer toLowerCase text = ⟨true, some .extend, some 10⟩ ∧
      (∀ r ∈ TIMER_PATTERNS, r.action ∈ [.start, .pause, .resume] →
        ¬ r.pattern.Occurs (lowerNormalized toLowerCase text)) ∧
      ∀ front r between back m,
        extendPatterns = front ++ r :: (between ++ TIMER_PATTERNS[9] :: back) →
        (∀ x ∈ front, ¬ x.pattern.Occurs (lowerNormalized toLowerCase text)) →
        r.pattern.exec (lowerNormalized toLowerCase text) = some m →
        matchMinutes r m = some 10 := by
  refine ⟨by decide +kernel, (extension_taken_iff ⟨List.getElem_mem _, rfl, by decide, by decide,
    ?_⟩).mp ⟨by decide +kernel, by decide +kernel⟩⟩
  refine ⟨⟨[], ['시', '간', ' ', '1', '0', '분', ' ', '연', '장'], [],
      [(3, ['연', '장']), (2, ['1', '0']), (1, ['시', '간'])]⟩, 2, ['1', '0'], ['시', '간', ' '],
    ['분', ' ', '연', '장'], ?_, ?_, ?_, ?_, ['연', '장'], ?_, ?_⟩
  all_goals decide +kernel

/-- **An extension that starts a new timer**: it says `타이머` before the minutes. -/
theorem extension_starts_timer :
    let toLowerCase : Text → Text := List.map Char.toLower
    let text := ['타', '이', '머', ' ', '1', '0', '분', ' ', '연', '장']
    AsksToExtend (lowerNormalized toLowerCase text) TIMER_PATTERNS[9] 10 ∧
      classifyTimer toLowerCase text = ⟨true, some .start, some 10⟩ := by
  refine ⟨⟨List.getElem_mem _, rfl, by decide, by decide, ?_⟩, by decide +kernel⟩
  refine ⟨⟨[], ['타', '이', '머', ' ', '1', '0', '분', ' ', '연', '장'], [],
      [(3, ['연', '장']), (2, ['1', '0']), (1, ['타', '이', '머'])]⟩, 2, ['1', '0'],
    ['타', '이', '머', ' '], ['분', ' ', '연', '장'], ?_, ?_, ?_, ?_, ['연', '장'], ?_, ?_⟩
  all_goals decide +kernel

end Intent
