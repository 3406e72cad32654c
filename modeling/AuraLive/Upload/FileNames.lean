import AuraLive.Upload.ChatFiles

set_option relaxedAutoImplicit false
set_option autoImplicit false

/-!
# Names of uploaded files

The name of a file arrives with its bytes in UTF-8 read as Latin-1. `decodeFileName` reads them as
UTF-8 again and keeps the result if it has a Hangul syllable; otherwise it returns the name as it
has arrived.

## Main definitions

* `Upload.delivered` — the name that arrives.
* `Upload.HasHangul`, `IsAscii` — the names that are not changed on the way.

## Main results

* `Upload.delivered_eq_iff` — a name in ASCII arrives as it is, and no other one does.
* `Upload.decodeFileName_delivered` — which names are restored, and what becomes of the others.
-/

namespace Upload

open Foundations

/-- The bytes of a name in UTF-8, read as Latin-1. -/
def delivered (name : String) : Text := (utf8 name.toList).map UInt8.toNat

/-- Some character is a syllable from 가 to 힣. -/
def HasHangul (name : String) : Prop := ∃ c ∈ name.toList, isHangul c.toNat

/-- All characters are in ASCII. -/
def IsAscii (name : String) : Prop := ∀ c ∈ name.toList, c.toNat < 0x80

/-- The low bytes are the bytes of the name. -/
lemma latin1_delivered (name : String) : latin1 (delivered name) = utf8 name.toList := by
  rw [latin1, delivered, List.map_map]
  refine (List.map_congr_left fun b _ => ?_).trans (List.map_id _)
  exact UInt8.ofNat_toNat

/-- Surrogates are no Hangul. -/
lemma any_isHangul_utf16 (name : String) : (utf16 name).any isHangul ↔ HasHangul name := by
  have hunits (c : Char) : (utf16Units c).any isHangul = isHangul c.toNat := by
    unfold utf16Units
    split
    · simp
    · have hlarge : 0xD7A3 < c.toNat := by omega
      have hlead (n : ℕ) : 0xD7A3 < 0xD800 + n := by omega
      have htrail (n : ℕ) : 0xD7A3 < 0xDC00 + n := by omega
      simp only [isHangul, List.any_cons, List.any_nil, Nat.not_le.mpr hlarge,
        Nat.not_le.mpr (hlead _), Nat.not_le.mpr (htrail _), decide_false, Bool.and_false,
        Bool.or_false]
  rw [utf16, List.any_flatMap, List.any_eq_true]
  simp only [hunits, HasHangul]

/-- A character has at least as many bytes as code units; in ASCII, they are the same. -/
lemma length_utf16Units (c : Char) :
    (utf16Units c).length ≤ (String.utf8EncodeChar c).length ∧
      (0x80 ≤ c.toNat → (utf16Units c).length < (String.utf8EncodeChar c).length) ∧
      (c.toNat < 0x80 → (String.utf8EncodeChar c).map UInt8.toNat = utf16Units c) := by
  have hencodes := encodes_utf8EncodeChar c
  generalize String.utf8EncodeChar c = bytes at *
  unfold utf16Units
  cases hencodes with
  | one b hv hb => simp [hb, show c.toNat < 0x10000 by omega]; omega
  | two b b' hv _ _ => simp [show c.toNat < 0x10000 by omega]; omega
  | three b b' b'' hv _ _ _ => simp [hv.2]; omega
  | four b b' b'' b''' hv _ _ _ _ =>
    simp [show ¬ c.toNat < 0x10000 by omega]
    omega

/-- A text has at most as many code units as bytes. -/
lemma length_le_length_utf8 (cs : List Char) :
    (cs.flatMap utf16Units).length ≤ (cs.flatMap String.utf8EncodeChar).length := by
  induction cs with
  | nil => exact Nat.le_refl 0
  | cons c cs ih =>
    have hfirst := (length_utf16Units c).1
    rw [List.flatMap_cons, List.flatMap_cons, List.length_append, List.length_append]
    omega

/-- **A name arrives as it is** if it is in ASCII, and no other one does. -/
lemma delivered_eq_iff (name : String) : delivered name = utf16 name ↔ IsAscii name := by
  unfold delivered utf16 IsAscii utf8
  induction name.toList with
  | nil => simp
  | cons c cs ih =>
    obtain ⟨hle, hlt, hsame⟩ := length_utf16Units c
    have hrest := length_le_length_utf8 cs
    rw [List.flatMap_cons, List.flatMap_cons, List.map_append, List.forall_mem_cons]
    constructor
    · intro heq
      have hlengths := congrArg List.length heq
      simp only [List.length_append, List.length_map] at hlengths
      have hc : c.toNat < 0x80 := by
        by_contra hlarge
        have hmore := hlt (Nat.le_of_not_lt hlarge)
        omega
      rw [hsame hc] at heq
      exact ⟨hc, ih.mp (List.append_cancel_left heq)⟩
    · rintro ⟨hc, hcs⟩
      rw [hsame hc, ih.mpr hcs]

/-- **Which names are restored**: those with a Hangul syllable, and those in ASCII, which have not
been changed. The others stay as they have arrived. -/
theorem decodeFileName_delivered (name : String) :
    (decodeFileName (delivered name) = utf16 name ↔ HasHangul name ∨ IsAscii name) ∧
      (¬ HasHangul name → decodeFileName (delivered name) = delivered name) := by
  have hdecode : decodeFileName (delivered name) =
      if (utf16 name).any isHangul then utf16 name else delivered name := by
    rw [decodeFileName, latin1_delivered, decodeUtf8_utf8]
    rfl
  by_cases hhangul : HasHangul name
  · rw [hdecode, if_pos ((any_isHangul_utf16 name).mpr hhangul)]
    exact ⟨iff_of_true rfl (.inl hhangul), fun hnot => absurd hhangul hnot⟩
  · rw [hdecode, if_neg fun hany => hhangul ((any_isHangul_utf16 name).mp hany), delivered_eq_iff,
      or_iff_right hhangul]
    exact ⟨Iff.rfl, fun _ => rfl⟩

/-- `é` arrives as two characters, and stays so. -/
theorem accent_not_restored : decodeFileName (delivered "é") ≠ utf16 "é" ∧
    decodeFileName (delivered "é") = utf16 "Ã©" := by
  decide +kernel

end Upload
