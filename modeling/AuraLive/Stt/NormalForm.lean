import AuraLive.Stt.PhoneticCorrections

set_option relaxedAutoImplicit false
set_option autoImplicit false

/-!
# Repeated corrections

`applyPhoneticCorrections` goes through its table once, and normalises white space at the end. What
a rule makes can be the word of an earlier rule, and words with blanks are found only where there is
one blank.

## Main definitions

* `Stt.misheard` — how much there is to correct in a letter.

## Main results

* `Stt.applyPhoneticCorrections_eq_self_iff` — a normalised text is not changed if and only if it
  has no word that the table changes.
* `Stt.applyPhoneticCorrections_normal` — what the corrections make normal.
* `Stt.applyPhoneticCorrections_not_normal` — a correction that is corrected again, and a wake word
  with two blanks in it.
-/

namespace Stt

open Foundations Rewriting Spacing VoiceBot

/-- How much there is to correct in a letter: every rule that changes a word lowers the sum. -/
def misheard (a : Char) : ℕ :=
  if a ∈ ['오', '어', '해', '에'] then 2
  else if isJsSpace a || a ∈ ['숙', '기', '역', '입', '패', '숍', '캬', '있', '마', '게', '복', '울', '나',
      '러', '으', '아', '잇', '테', '꾸', '동', '부', '룹'] then 1
  else 0

/-- Every rule lowers it, or changes nothing. -/
lemma corrections_lighten : ∀ rule ∈ PHONETIC_CORRECTIONS, Lightens misheard rule := by
  decide +kernel

/-- White space is white space. -/
lemma misheard_space {a : Char} (ha : isJsSpace a) : misheard ' ' ≤ misheard a := by
  have hblank : misheard ' ' = 1 := by decide
  rw [hblank, misheard]
  split
  · decide
  · rw [if_pos (by simp [ha])]

/-- **A normalised text is not changed** if and only if it has no word that the table changes. -/
lemma applyPhoneticCorrections_eq_self_iff {text : Text}
    (htext : normalize isJsSpace ' ' text = text) :
    applyPhoneticCorrections text = text ↔
      ∀ rule ∈ PHONETIC_CORRECTIONS, rule.1 ≠ rule.2 → ¬ rule.1 <:+: text := by
  constructor
  · intro h
    have hle := weight_rewrite_le corrections_lighten text
    have hge := weight_normalize_le (fun _ => misheard_space) (rewrite PHONETIC_CORRECTIONS text)
    rw [show normalize isJsSpace ' ' (rewrite PHONETIC_CORRECTIONS text) = text from h] at hge
    exact not_infix_of_weight_rewrite_eq corrections_lighten (le_antisymm hle hge)
  · intro h
    rw [applyPhoneticCorrections, rewrite_eq_self corrections_lighten h, htext]

/-- The words of the table and what replaces them have single blanks between letters. -/
lemma corrections_tidy : ∀ rule ∈ PHONETIC_CORRECTIONS,
    Tidy isJsSpace ' ' rule.1 ∧ Tidy isJsSpace ' ' rule.2 := by
  decide +kernel

/-- **What the corrections make normal.** White space is normalised; correcting the result again
changes it if and only if it has a word that the table changes; and the result is the same for texts
that have, once they are trimmed, the same letters and single blanks at the same places, and other
white space at the same places. -/
theorem applyPhoneticCorrections_normal (t : Text) :
    normalize isJsSpace ' ' (applyPhoneticCorrections t) = applyPhoneticCorrections t ∧
    (applyPhoneticCorrections (applyPhoneticCorrections t) = applyPhoneticCorrections t ↔
      ∀ rule ∈ PHONETIC_CORRECTIONS, rule.1 ≠ rule.2 →
        ¬ rule.1 <:+: applyPhoneticCorrections t) ∧
    ∀ t', SameSpacing isJsSpace ' ' (trim isJsSpace t) (trim isJsSpace t') →
      applyPhoneticCorrections t = applyPhoneticCorrections t' := by
  have hnormal : normalize isJsSpace ' ' (applyPhoneticCorrections t) =
      applyPhoneticCorrections t := normalize_normalize _
  exact ⟨hnormal, applyPhoneticCorrections_eq_self_iff hnormal, fun t' h =>
    normalize_rewrite_eq (by decide) corrections_tidy h⟩

/-- A wake word with two blanks in it, and with a tab. -/
theorem applyPhoneticCorrections_normal_wide :
    applyPhoneticCorrections ['아', ' ', ' ', '우', '라'] =
      applyPhoneticCorrections [' ', '아', '\t', '우', '라'] := by
  refine (applyPhoneticCorrections_normal _).2.2 _ ?_
  have htrim : trim isJsSpace ['아', ' ', ' ', '우', '라'] = ['아', ' ', ' ', '우', '라'] := by decide
  have htrim' : trim isJsSpace [' ', '아', '\t', '우', '라'] = ['아', '\t', '우', '라'] := by decide
  rw [htrim, htrim']
  have hwake : SameSpacing isJsSpace ' ' ['우', '라'] ['우', '라'] :=
    .letter (by decide) (.letter (by decide) .nil)
  have hblanks : Wide isJsSpace ' ' [' ', ' '] :=
    ⟨List.all_eq_true.mp (by decide), by decide, by decide⟩
  have htab : Wide isJsSpace ' ' ['\t'] :=
    ⟨List.all_eq_true.mp (by decide), by decide, by decide⟩
  have hbegins : Begins isJsSpace ['우', '라'] := by simp [Begins, isJsSpace]
  exact .letter (by decide) (.wide hblanks htab hbegins hwake)

/-- **Not a normal form**: a correction is corrected again, and a wake word with two blanks in it is
not corrected. -/
theorem applyPhoneticCorrections_not_normal :
    (applyPhoneticCorrections ['성', '수', '기', '기'] = ['성', '수', '기'] ∧
      applyPhoneticCorrections ['성', '수', '기'] = ['성', '수']) ∧
    normalize isJsSpace ' ' ['아', ' ', ' ', '우', '라'] = ['아', ' ', '우', '라'] ∧
    applyPhoneticCorrections ['아', ' ', ' ', '우', '라'] ≠
      applyPhoneticCorrections ['아', ' ', '우', '라'] := by
  decide +kernel

end Stt
