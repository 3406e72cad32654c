import AuraLive.Foundations.Spacing
import AuraLive.VoiceBot.State

set_option relaxedAutoImplicit false
set_option autoImplicit false

/-!
# Phonetic corrections

`postProcess` of `stt/stt.service.ts` corrects what the recogniser has heard: first by a table of
words that are replaced, then by asking a language model if the text still looks wrong. The first
stage replaces the misheard wake words for which the second one waits.

## Main definitions

* `Stt.PHONETIC_CORRECTIONS`, `applyPhoneticCorrections` — the first stage.
* `Stt.shouldUseLlmCorrection`, `postProcess` — the second stage.
* `Stt.misheardWakeWords` — the words of the trigger that may be anywhere in the text.
* `Stt.StaysWeird` — the texts about which there is something to ask after the first stage.

## Main results

* `Stt.not_infix_corrected` — no misheard word is left by the first stage.
* `Stt.infix_applyPhoneticCorrections_iff` — the patterns that can be left or made, and of what.
* `Stt.correctWithLlm_called_iff` — when the model is asked about a misheard wake word.
* `Stt.misheard_not_sent` — the wake word `아울라` alone is not sent to the model.

## Design

A text is a list of characters. The words of the table and the patterns consist of Hangul and
blanks, which have no case: the flag `i` of the expressions and `toLowerCase` make no difference.
-/

namespace Stt

open Foundations Rewriting Spacing VoiceBot

/-- A text. -/
abbrev Text := List Char

/-! ## The first stage -/

/-- `PHONETIC_CORRECTIONS`: what is heard, and what is meant. -/
def PHONETIC_CORRECTIONS : List (Text × Text) :=
  [
    -- place names
    (['성', '숙'], ['성', '수']), (['성', '수', '기'], ['성', '수']),
    (['성', '숙', '하', '게'], ['성', '수', ' ', '카', '페']), (['성', '숙', '해'], ['성', '수']),
    (['강', '남', '역'], ['강', '남']), (['홍', '대', '입', '구'], ['홍', '대']),
    (['신', '촌', '역'], ['신', '촌']), (['합', '정', '역'], ['합', '정']),
    (['건', '대', '입', '구'], ['건', '대']), (['선', '릉', '역'], ['선', '릉']),
    (['역', '삼', '역'], ['역', '삼']), (['삼', '성', '역'], ['삼', '성']), (['잠', '실', '역'], ['잠', '실']),
    (['여', '의', '도', '역'], ['여', '의', '도']), (['판', '교', '역'], ['판', '교']),
    -- categories
    (['카', '패'], ['카', '페']), (['커', '피', '숍'], ['카', '페']), (['캬', '페'], ['카', '페']),
    (['맛', '있', '집'], ['맛', '집']), (['마', '집'], ['맛', '집']), (['술', ' ', '집'], ['술', '집']),
    (['분', ' ', '식'], ['분', '식']), (['떡', '복', '이'], ['떡', '볶', '이']),
    (['팝', ' ', '업'], ['팝', '업']), (['전', ' ', '시'], ['전', '시']), (['날', ' ', '씨'], ['날', '씨']),
    -- the wake word, as it is said in Korean
    (['아', ' ', '우', '라'], ['아', '우', '라']), (['아', '우', ' ', '라'], ['아', '우', '라']),
    (['아', '우', '라', ' ', '야'], ['아', '우', '라', '야']), (['아', '울', '라'], ['아', '우', '라']),
    (['아', '울', '라', '야'], ['아', '우', '라', '야']), (['아', '우', '나'], ['아', '우', '라']),
    (['아', '우', '나', '야'], ['아', '우', '라', '야']), (['아', '우', '러'], ['아', '우', '라']),
    (['아', '우', '러', '야'], ['아', '우', '라', '야']), (['아', '오', '라'], ['아', '우', '라']),
    (['아', '오', '라', '야'], ['아', '우', '라', '야']), (['오', '우', '라'], ['아', '우', '라']),
    (['오', '우', '라', '야'], ['아', '우', '라', '야']), (['어', '우', '라'], ['아', '우', '라']),
    (['어', '우', '라', '야'], ['아', '우', '라', '야']),
    (['헤', '이', ' ', '아', '울', '라'], ['헤', '이', ' ', '아', '우', '라']),
    (['헤', '이', ' ', '아', '우', '나'], ['헤', '이', ' ', '아', '우', '라']),
    (['헤', '이', ' ', '오', '우', '라'], ['헤', '이', ' ', '아', '우', '라']),
    (['해', '이', '아', '우', '라'], ['헤', '이', ' ', '아', '우', '라']),
    (['에', '이', '아', '우', '라'], ['헤', '이', ' ', '아', '우', '라']),
    -- the wake word, as it is said in English
    (['오', '라'], ['아', '우', '라']), (['오', '라', '야'], ['아', '우', '라', '야']),
    (['어', '라'], ['아', '우', '라']), (['어', '라', '야'], ['아', '우', '라', '야']),
    (['아', '러'], ['아', '우', '라']), (['아', '러', '야'], ['아', '우', '라', '야']),
    (['아', ' ', '라'], ['아', '우', '라']), (['아', ' ', '라', '야'], ['아', '우', '라', '야']),
    (['오', ' ', '라'], ['아', '우', '라']), (['오', ' ', '라', '야'], ['아', '우', '라', '야']),
    (['아', '으', '라'], ['아', '우', '라']), (['아', '으', '라', '야'], ['아', '우', '라', '야']),
    (['아', '아', '라'], ['아', '우', '라']), (['아', '아', '라', '야'], ['아', '우', '라', '야']),
    (['아', ' ', '어', ' ', '라'], ['아', '우', '라']),
    (['헤', '이', ' ', '오', '라'], ['헤', '이', ' ', '아', '우', '라']),
    (['헤', '이', ' ', '어', '라'], ['헤', '이', ' ', '아', '우', '라']),
    (['해', ' ', '아', '우', '라'], ['헤', '이', ' ', '아', '우', '라']),
    (['해', ' ', '오', '라'], ['헤', '이', ' ', '아', '우', '라']),
    -- more place names
    (['이', '태', '원'], ['이', '태', '원']), (['잇', '태', '원'], ['이', '태', '원']),
    (['이', '테', '원'], ['이', '태', '원']), (['한', '남', '동'], ['한', '남', '동']),
    (['한', '남'], ['한', '남']), (['압', '구', '정'], ['압', '구', '정']),
    (['압', '꾸', '정'], ['압', '구', '정']), (['청', '담', '동'], ['청', '담']),
    (['가', '로', '수', '길'], ['가', '로', '수', '길']),
    (['가', '로', '수', ' ', '길'], ['가', '로', '수', '길']),
    (['경', '리', '단', '길'], ['경', '리', '단', '길']),
    (['경', '리', '단', ' ', '길'], ['경', '리', '단', '길']),
    (['망', '리', '단', '길'], ['망', '리', '단', '길']),
    (['망', '리', '단', ' ', '길'], ['망', '리', '단', '길']),
    (['송', '리', '단', '길'], ['송', '리', '단', '길']),
    (['송', '리', '단', ' ', '길'], ['송', '리', '단', '길']),
    -- more categories
    (['브', '런', '치'], ['브', '런', '치']), (['브', '런', ' ', '치'], ['브', '런', '치']),
    (['부', '런', '치'], ['브', '런', '치']), (['애', '견', '카', '페'], ['애', '견', '카', '페']),
    (['애', '견', ' ', '카', '페'], ['애', '견', '카', '페']),
    (['고', '양', '이', '카', '페'], ['고', '양', '이', '카', '페']),
    (['고', '양', '이', ' ', '카', '페'], ['고', '양', '이', '카', '페']),
    (['스', '터', '디', '카', '페'], ['스', '터', '디', '카', '페']),
    (['스', '터', '디', ' ', '카', '페'], ['스', '터', '디', '카', '페']),
    (['북', '카', '페'], ['북', '카', '페']), (['북', ' ', '카', '페'], ['북', '카', '페']),
    (['루', '프', '탑'], ['루', '프', '탑']), (['루', '프', ' ', '탑'], ['루', '프', '탑']),
    (['룹', '탑'], ['루', '프', '탑'])]

/-- `applyPhoneticCorrections`. -/
def applyPhoneticCorrections (text : Text) : Text :=
  normalize isJsSpace ' ' (rewrite PHONETIC_CORRECTIONS text)

/-! ## The second stage -/

/-- `properNounPatterns`. -/
def properNounPatterns : List Text :=
  [['대', '학', '교'], ['대', '학'], ['고', '등', '학', '교'], ['중', '학', '교'],
    ['초', '등', '학', '교'], ['회', '사'], ['기', '업'], ['그', '룹'], ['주', '식', '회', '사']]

/-- The patterns of `wakePatterns` that may be anywhere. -/
def misheardWakeWords : List Text :=
  [['아', '울', '라'], ['아', '우', '나'], ['아', '우', '러'], ['아', '오', '라'], ['오', '우', '라'],
    ['어', '우', '라'], ['아', '으', '라'], ['아', '아', '라']]

/-- The patterns of `wakePatterns` that are at the beginning. -/
def misheardBeginnings : List Text := [['오', '라'], ['어', '라'], ['아', '러']]

/-- The alternatives of `hasWeirdWord`. -/
def weirdWords : List Text := [['성', '숙'], ['캬', '페'], ['마', '집'], ['떡', '복']]

/-- `shouldUseLlmCorrection`. -/
def shouldUseLlmCorrection (text : Text) : Bool :=
  if properNounPatterns.any fun p => p <:+: text then false
  else if misheardWakeWords.any (fun p => p <:+: text) ||
      misheardBeginnings.any (fun p => p <+: text) then true
  else weirdWords.any fun p => p <:+: text

/-- `postProcess`, with the texts it passes to `correctWithLlm`, which may throw. -/
def postProcess (correctWithLlm : Text → Option Text) (rawTranscript : Text) : Text × List Text :=
  if trim isJsSpace rawTranscript = [] then (rawTranscript, [])
  else
    let corrected := applyPhoneticCorrections rawTranscript
    if shouldUseLlmCorrection corrected then
      match correctWithLlm corrected with
      | some llmCorrected => (if llmCorrected = [] then corrected else llmCorrected, [corrected])
      | none => (corrected, [corrected])
    else (corrected, [])

/-! ## What the first stage leaves -/

/-- No word of the table is empty. -/
lemma corrections_ne_nil : ∀ rule ∈ PHONETIC_CORRECTIONS, rule.1 ≠ [] := by decide +kernel

/-- The patterns that have a rule, and are not made by any other one. -/
def corrected : List Text := misheardWakeWords ++ misheardBeginnings ++ [['캬', '페'], ['마', '집']]

/-- The corrected patterns have a rule. -/
lemma corrected_mem : ∀ p ∈ corrected, ∃ rule ∈ PHONETIC_CORRECTIONS, rule.1 = p := by
  decide +kernel

/-- The corrected patterns are not made by any rule. -/
lemma corrected_free : ∀ p ∈ corrected, ∀ rule ∈ PHONETIC_CORRECTIONS, Free p rule.2 := by
  decide +kernel

/-- **No misheard word is left** that has a rule and is not made by any other one. -/
lemma not_infix_corrected (raw : Text) {p : Text} (hp : p ∈ corrected) :
    ¬ p <:+: rewrite PHONETIC_CORRECTIONS raw :=
  not_infix_rewrite corrections_ne_nil (corrected_mem p hp) (corrected_free p hp)

/-- **What the rule for `삼성역` makes**: `성숙` is the result of `삼성역숙`, and of nothing else. -/
lemma infix_seongsuk_iff (raw : Text) :
    ['성', '숙'] <:+: rewrite PHONETIC_CORRECTIONS raw ↔
      ['삼', '성', '역', '숙'] <:+: rewrite (PHONETIC_CORRECTIONS.take 11) raw := by
  have hne := corrections_ne_nil
  have hafter : ∀ rule ∈ PHONETIC_CORRECTIONS.drop 12,
      Free ['성', '숙'] rule.1 ∧ Free ['성', '숙'] rule.2 := by decide +kernel
  have hstraddle : Straddles ['삼', '성', '역'] ['삼', '성'] ['성'] ['숙'] := by decide
  have hbefore : ¬ ['성', '숙'] <:+: rewrite (PHONETIC_CORRECTIONS.take 11) raw :=
    not_infix_rewrite (fun rule h => hne rule (List.mem_of_mem_take h)) (by decide)
      (by decide +kernel)
  rw [rewrite_eq_getElem PHONETIC_CORRECTIONS 11 (by decide), infix_rewrite_iff
    (fun rule h => hne rule (List.mem_of_mem_drop h)) hafter]
  exact (infix_replaceAll_straddle (by decide) hstraddle).trans (or_iff_right hbefore)

/-- **What the rule for `떡복이` leaves**: `떡복` where something else follows it. -/
lemma infix_tteokbok_iff (raw : Text) :
    ['떡', '복'] <:+: rewrite PHONETIC_CORRECTIONS raw ↔ OccursWithout ['떡', '복'] ['이'] raw := by
  have hne := corrections_ne_nil
  have hafter : ∀ rule ∈ PHONETIC_CORRECTIONS.drop 23,
      Free ['떡', '복'] rule.1 ∧ Free ['떡', '복'] rule.2 := by decide +kernel
  have hbefore : ∀ rule ∈ PHONETIC_CORRECTIONS.take 22,
      (Free ['떡', '복'] rule.1 ∧ Free ['떡', '복'] rule.2) ∧
        Clear ['이'] rule.1 ∧ Clear ['이'] rule.2 := by decide +kernel
  have hextends : Extends ['떡', '복'] ['이'] ['떡', '볶', '이'] := by decide
  rw [rewrite_eq_getElem PHONETIC_CORRECTIONS 22 (by decide), infix_rewrite_iff
    (fun rule h => hne rule (List.mem_of_mem_drop h)) hafter]
  refine (infix_replaceAll_longer hextends).trans (rewrite_iff fun rule h t => ?_)
  obtain ⟨⟨hpw, hpc⟩, hsw, hsc⟩ := hbefore rule h
  exact occursWithout_replaceAll_iff (hne rule (List.mem_of_mem_take h)) hpw hpc hsw hsc

/-- The words of which the rules make a proper noun. -/
def nounMakers : List Text := [['홍', '대', '입', '구', '학'], ['건', '대', '입', '구', '학']]

/-- What the rules up to the one for `건대입구` leave of `대학`. -/
lemma infix_daehak_take_iff (raw : Text) :
    ['대', '학'] <:+: rewrite (PHONETIC_CORRECTIONS.take 8) raw ↔
      ['대', '학'] <:+: raw ∨ ['홍', '대', '입', '구', '학'] <:+: raw := by
  have hne : ∀ rule ∈ PHONETIC_CORRECTIONS.take 8, rule.1 ≠ [] :=
    fun rule h => corrections_ne_nil rule (List.mem_of_mem_take h)
  have hafter : ∀ rule ∈ (PHONETIC_CORRECTIONS.take 8).drop 6,
      Free ['대', '학'] rule.1 ∧ Free ['대', '학'] rule.2 := by decide +kernel
  have hbefore : ∀ rule ∈ (PHONETIC_CORRECTIONS.take 8).take 5,
      (Free ['대', '학'] rule.1 ∧ Free ['대', '학'] rule.2) ∧
      Free ['홍', '대', '입', '구', '학'] rule.1 ∧
        Free ['홍', '대', '입', '구', '학'] rule.2 := by decide +kernel
  have hne₅ : ∀ rule ∈ (PHONETIC_CORRECTIONS.take 8).take 5, rule.1 ≠ [] :=
    fun rule h => hne rule (List.mem_of_mem_take h)
  have hstraddle : Straddles ['홍', '대', '입', '구'] ['홍', '대'] ['대'] ['학'] := by decide
  rw [rewrite_eq_getElem _ 5 (by decide), infix_rewrite_iff
    (fun rule h => hne rule (List.mem_of_mem_drop h)) hafter]
  exact (infix_replaceAll_straddle (by decide) hstraddle).trans (or_congr
    (infix_rewrite_iff hne₅ fun rule h => (hbefore rule h).1)
    (infix_rewrite_iff hne₅ fun rule h => (hbefore rule h).2))

/-- **What the rules for `홍대입구` and `건대입구` make**: `대학`, if `학` follows. -/
lemma infix_daehak_iff (raw : Text) :
    ['대', '학'] <:+: rewrite PHONETIC_CORRECTIONS raw ↔
      ['대', '학'] <:+: raw ∨ ∃ p ∈ nounMakers, p <:+: raw := by
  have hne := corrections_ne_nil
  have hafter : ∀ rule ∈ PHONETIC_CORRECTIONS.drop 9,
      Free ['대', '학'] rule.1 ∧ Free ['대', '학'] rule.2 := by decide +kernel
  have hbefore : ∀ rule ∈ PHONETIC_CORRECTIONS.take 8, Free ['건', '대', '입', '구', '학'] rule.1 ∧
      Free ['건', '대', '입', '구', '학'] rule.2 := by decide +kernel
  have hstraddle : Straddles ['건', '대', '입', '구'] ['건', '대'] ['대'] ['학'] := by decide
  rw [rewrite_eq_getElem PHONETIC_CORRECTIONS 8 (by decide), infix_rewrite_iff
    (fun rule h => hne rule (List.mem_of_mem_drop h)) hafter]
  refine ((infix_replaceAll_straddle (by decide) hstraddle).trans (or_congr
    (infix_daehak_take_iff raw)
    (infix_rewrite_iff (fun rule h => hne rule (List.mem_of_mem_take h)) hbefore))).trans ?_
  simp only [nounMakers, List.mem_cons, List.not_mem_nil, or_false, exists_eq_or_imp,
    exists_eq_left, or_assoc]
  exact Iff.rfl

/-! ## When the model is asked -/

/-- A text that still has a weird word after the first stage, which makes no proper noun of it:
`떡복` without `이` after it, or `성숙`. -/
structure StaysWeird (raw : Text) : Prop where
  weird : OccursWithout ['떡', '복'] ['이'] raw ∨
    ['삼', '성', '역', '숙'] <:+: rewrite (PHONETIC_CORRECTIONS.take 11) raw
  nouns : ∀ p ∈ nounMakers, ¬ p <:+: raw

/-- The patterns have no white space. -/
lemma patterns_letters : ∀ p ∈ properNounPatterns ++ corrected ++ weirdWords,
    p ≠ [] ∧ ∀ a ∈ p, isJsSpace a = false := by
  have hletters : ∀ p ∈ properNounPatterns ++ corrected ++ weirdWords,
      p ≠ [] ∧ p.all (fun a => !isJsSpace a) = true := by decide +kernel
  intro p hp
  obtain ⟨hne, hall⟩ := hletters p hp
  exact ⟨hne, fun a ha => by simpa using List.all_eq_true.mp hall a ha⟩

/-- A pattern occurs in the corrected text if and only if the rules leave it. -/
lemma infix_applyPhoneticCorrections_iff (raw : Text) {p : Text}
    (hp : p ∈ properNounPatterns ++ corrected ++ weirdWords) :
    p <:+: applyPhoneticCorrections raw ↔ p <:+: rewrite PHONETIC_CORRECTIONS raw :=
  infix_normalize_iff (by decide) (patterns_letters p hp).1 (patterns_letters p hp).2

/-- The proper nouns in the corrected text, if there were none. -/
lemma exists_properNoun_iff {raw : Text} (hproper : ∀ p ∈ properNounPatterns, ¬ p <:+: raw) :
    (∃ p ∈ properNounPatterns, p <:+: applyPhoneticCorrections raw) ↔
      ∃ p ∈ nounMakers, p <:+: raw := by
  have hdaehak : ['대', '학'] <:+: rewrite PHONETIC_CORRECTIONS raw ↔
      ∃ p ∈ nounMakers, p <:+: raw :=
    (infix_daehak_iff raw).trans (or_iff_right (hproper _ (by decide)))
  have hnotMade : ∀ p ∈ properNounPatterns, ['대', '학'] <:+: p ∨
      ∀ rule ∈ PHONETIC_CORRECTIONS, Free p rule.2 := by decide +kernel
  rw [← hdaehak]
  constructor
  · rintro ⟨p, hp, hoccurs⟩
    rw [infix_applyPhoneticCorrections_iff raw (by simp [hp])] at hoccurs
    rcases hnotMade p hp with hlong | hfree
    · exact hlong.trans hoccurs
    · exact (hproper p hp (infix_of_infix_rewrite corrections_ne_nil hfree hoccurs)).elim
  · intro hoccurs
    exact ⟨_, by decide, (infix_applyPhoneticCorrections_iff raw (by decide)).mpr hoccurs⟩

/-- **What is left to ask about** in a text without proper nouns. -/
lemma shouldUseLlmCorrection_iff {raw : Text} (hproper : ∀ p ∈ properNounPatterns, ¬ p <:+: raw) :
    shouldUseLlmCorrection (applyPhoneticCorrections raw) = true ↔ StaysWeird raw := by
  have hgone : ∀ p ∈ corrected, ¬ p <:+: applyPhoneticCorrections raw := fun p hp => by
    rw [infix_applyPhoneticCorrections_iff raw (by simp [hp])]
    exact not_infix_corrected raw hp
  have hwords : ¬ ∃ p ∈ misheardWakeWords, p <:+: applyPhoneticCorrections raw :=
    fun ⟨p, hp, hoccurs⟩ => hgone p (by simp [corrected, hp]) hoccurs
  have hbeginnings : ¬ ∃ p ∈ misheardBeginnings, p <+: applyPhoneticCorrections raw :=
    fun ⟨p, hp, hstart⟩ => hgone p (by simp [corrected, hp]) hstart.isInfix
  have hweird : (∃ p ∈ weirdWords, p <:+: applyPhoneticCorrections raw) ↔
      OccursWithout ['떡', '복'] ['이'] raw ∨
        ['삼', '성', '역', '숙'] <:+: rewrite (PHONETIC_CORRECTIONS.take 11) raw := by
    rw [← infix_tteokbok_iff, ← infix_seongsuk_iff,
      ← infix_applyPhoneticCorrections_iff raw (p := ['떡', '복']) (by decide),
      ← infix_applyPhoneticCorrections_iff raw (p := ['성', '숙']) (by decide)]
    have hkyape := hgone ['캬', '페'] (by decide)
    have hmajip := hgone ['마', '집'] (by decide)
    simp only [weirdWords, List.mem_cons, List.not_mem_nil, or_false, exists_eq_or_imp,
      exists_eq_left, hkyape, hmajip, false_or]
    exact or_comm
  have hnouns := exists_properNoun_iff hproper
  rw [shouldUseLlmCorrection]
  simp only [List.any_eq_true, decide_eq_true_eq, Bool.or_eq_true, hnouns, hwords, hbeginnings,
    or_self, if_false]
  split
  · rename_i hmade
    obtain ⟨p, hp, hoccurs⟩ := hmade
    exact iff_of_false Bool.false_ne_true fun h => h.nouns p hp hoccurs
  · rename_i hmade
    rw [List.any_eq_true]
    simp only [decide_eq_true_eq, hweird]
    exact ⟨fun h => ⟨h, fun p hp hoccurs => hmade ⟨p, hp, hoccurs⟩⟩, StaysWeird.weird⟩

/-- **When the model is asked about a misheard wake word**: if the text stays weird because of
another word. -/
theorem correctWithLlm_called_iff (correctWithLlm : Text → Option Text) {raw : Text}
    (hmisheard : ∃ p ∈ misheardWakeWords, p <:+: raw)
    (hproper : ∀ p ∈ properNounPatterns, ¬ p <:+: raw) :
    (postProcess correctWithLlm raw).2 ≠ [] ↔ StaysWeird raw := by
  obtain ⟨w, hw, hoccurs⟩ := hmisheard
  have hnonblank : trim isJsSpace raw ≠ [] := by
    intro hblank
    obtain ⟨hne, hletters⟩ := patterns_letters w (by simp [corrected, hw])
    rw [← infix_trim_iff hne hletters, hblank] at hoccurs
    exact hne (List.infix_nil.mp hoccurs)
  rw [← shouldUseLlmCorrection_iff hproper, postProcess, if_neg hnonblank]
  dsimp only
  split
  · rename_i hneeds
    refine iff_of_true ?_ hneeds
    split <;> exact List.cons_ne_nil _ _
  · rename_i hno
    exact iff_of_false (fun h => h rfl) hno

/-- A misheard wake word is asked about because of another word. -/
theorem correctWithLlm_called_tteokbok :
    (postProcess some ['아', '울', '라', ' ', '떡', '복']).2 ≠ [] :=
  have hmisheard : ∃ p ∈ misheardWakeWords, p <:+: ['아', '울', '라', ' ', '떡', '복'] := by decide
  (correctWithLlm_called_iff some hmisheard (by decide)).mpr
    ⟨.inl ⟨['아', '울', '라', ' '], [], rfl, by decide⟩, by decide⟩

/-- **A misheard wake word is not sent**: whatever the model would say, it is not asked. -/
theorem misheard_not_sent :
    ∃ raw : Text, (∃ p ∈ misheardWakeWords, p <:+: raw) ∧
      (∀ p ∈ properNounPatterns, ¬ p <:+: raw) ∧
      ∀ correctWithLlm, (postProcess correctWithLlm raw).2 = [] := by
  refine ⟨['아', '울', '라'], by decide, by decide, fun correctWithLlm => ?_⟩
  have hno : shouldUseLlmCorrection (applyPhoneticCorrections ['아', '울', '라']) = false := by
    decide +kernel
  rw [postProcess, if_neg (by decide)]
  simp [hno]

end Stt
