import Mathlib.Data.List.Basic
import Mathlib.Tactic.Common

set_option relaxedAutoImplicit false
set_option autoImplicit false

/-!
# Encodings of text

Strings as sequences of code units, where a program depends on them: lengths and prefixes of strings
are counted in UTF-16, and streams are made of bytes in UTF-8.

## Main definitions

* `Foundations.utf16` — the code units of a string in UTF-16.
* `Foundations.utf8` — the bytes of a text in UTF-8.
* `Foundations.decodeUtf8` — the text of some bytes, with U+FFFD for what is not UTF-8, as the
  encoding standard prescribes it.
* `Foundations.decodeChunks` — the text of a stream that is decoded chunk by chunk.
* `Foundations.ReadAs` — what a text may be read as then.

## Main results

* `Foundations.append_separator_left_inj`, `append_separator_right_inj` — texts joined by a
  separator can be taken apart where one of them does not contain it.
* `Foundations.utf16_toString_inj`, `underscore_notMem_utf16_toString` — decimal numbers.
* `Foundations.decodeUtf8_utf8_append` — decoding undoes encoding.
* `Foundations.decodeUtf8_of_split` — a character that is cut off becomes U+FFFD.
* `Foundations.utf8_eq_append` — where bytes in UTF-8 are cut in two.
* `Foundations.readAs_decodeChunks` — characters are read as they are or, if they are cut, as two or
  more U+FFFD.
* `Foundations.flatten_eq_utf8_decodeChunks` — chunks in UTF-8 are decoded to the text.
-/

namespace Foundations

/-! ## Separators -/

section Separators

variable {α : Type*} {a : α} {x x' y y' : List α}

/-- The first separator ends a text that does not contain it. -/
lemma append_separator_left_inj (hx : a ∉ x) (hx' : a ∉ x') :
    x ++ a :: y = x' ++ a :: y' ↔ x = x' ∧ y = y' := by
  refine ⟨fun h => ?_, fun ⟨hxx, hyy⟩ => by rw [hxx, hyy]⟩
  rcases List.append_eq_append_iff.mp h with ⟨z, rfl, hz⟩ | ⟨z, rfl, hz⟩
  · cases z with
    | nil => simpa using hz
    | cons b z =>
      obtain ⟨rfl, -⟩ := List.cons.inj hz
      exact absurd (List.mem_append_right _ List.mem_cons_self) hx'
  · cases z with
    | nil => simpa [eq_comm] using hz
    | cons b z =>
      obtain ⟨rfl, -⟩ := List.cons.inj hz
      exact absurd (List.mem_append_right _ List.mem_cons_self) hx

/-- The last separator starts a text that does not contain it. -/
lemma append_separator_right_inj (hy : a ∉ y) (hy' : a ∉ y') :
    x ++ a :: y = x' ++ a :: y' ↔ x = x' ∧ y = y' := by
  refine ⟨fun h => ?_, fun ⟨hxx, hyy⟩ => by rw [hxx, hyy]⟩
  rcases List.append_eq_append_iff.mp h with ⟨z, rfl, hz⟩ | ⟨z, rfl, hz⟩
  · cases z with
    | nil => simpa using hz
    | cons b z =>
      obtain ⟨-, rfl⟩ := List.cons.inj hz
      exact absurd (List.mem_append_right _ List.mem_cons_self) hy
  · cases z with
    | nil => simpa [eq_comm] using hz
    | cons b z =>
      obtain ⟨-, rfl⟩ := List.cons.inj hz
      exact absurd (List.mem_append_right _ List.mem_cons_self) hy'

end Separators

/-! ## UTF-16 -/

/-- The code units of a character in UTF-16: one, or a surrogate pair. -/
def utf16Units (c : Char) : List ℕ :=
  if c.toNat < 0x10000 then [c.toNat]
  else [0xD800 + (c.toNat - 0x10000) / 0x400, 0xDC00 + (c.toNat - 0x10000) % 0x400]

/-- The code units of a string in UTF-16. -/
def utf16 (s : String) : List ℕ := s.toList.flatMap utf16Units

/-- The code units of a number are those of its digits. -/
lemma utf16_toString (n : ℕ) : utf16 (toString n) = (Nat.toDigits 10 n).map Char.toNat := by
  have hsmall : ∀ c ∈ Nat.toDigits 10 n, utf16Units c = [c.toNat] := by
    intro c hc
    have hdigit := Nat.isDigit_of_mem_toDigits (by decide) (Nat.le_refl 10) hc
    have hle : c.toNat ≤ 57 := by
      simp only [Char.isDigit, Bool.and_eq_true, decide_eq_true_eq] at hdigit
      exact hdigit.2
    exact if_pos (by omega)
  rw [utf16, Nat.toString_eq_ofList_toDigits, String.toList_ofList, List.flatMap_def,
    List.map_congr_left hsmall]
  induction Nat.toDigits 10 n with
  | nil => rfl
  | cons c cs ih => simp [ih]

/-- Different numbers have different digits. -/
lemma utf16_toString_inj {m n : ℕ} : utf16 (toString m) = utf16 (toString n) ↔ m = n := by
  refine ⟨fun h => ?_, fun h => by rw [h]⟩
  rw [utf16_toString, utf16_toString] at h
  have hdigits := List.map_injective_iff.mpr (fun _ _ => Char.toNat_inj.mp) h
  calc m = Nat.ofDigitChars 10 (Nat.toDigits 10 m) 0 := Nat.ofDigitChars_ten_toDigits.symm
    _ = Nat.ofDigitChars 10 (Nat.toDigits 10 n) 0 := by rw [hdigits]
    _ = n := Nat.ofDigitChars_ten_toDigits

/-- A number has no characters but digits. -/
lemma notMem_utf16_toString {c : Char} (hc : c.isDigit = false) (n : ℕ) :
    c.toNat ∉ utf16 (toString n) := by
  rw [utf16_toString]
  intro hmem
  obtain ⟨d, hd, hval⟩ := List.mem_map.mp hmem
  obtain rfl : d = c := Char.toNat_inj.mp hval
  have hdigit := Nat.isDigit_of_mem_toDigits (by decide) (Nat.le_refl 10) hd
  exact Bool.false_ne_true (hc.symm.trans hdigit)

/-! ## UTF-8 -/

/-- U+FFFD. -/
def replacement : Char := Char.ofNat 0xFFFD

/-- The bytes of a text. -/
def utf8 (text : List Char) : List UInt8 := text.flatMap String.utf8EncodeChar

/-- A character of which some bytes have been read. -/
structure Pending where
  /-- The bits so far. -/
  code : ℕ
  /-- How many bytes are to come. -/
  needed : ℕ
  /-- The bounds for the next byte. -/
  lower : ℕ
  upper : ℕ

/-- A byte at the start of a character. -/
def decodeLead (b : UInt8) : List Char × Option Pending :=
  if b.toNat < 0x80 then ([Char.ofNat b.toNat], none)
  else if b.toNat < 0xC2 then ([replacement], none)
  else if b.toNat < 0xE0 then ([], some ⟨b.toNat - 0xC0, 1, 0x80, 0xBF⟩)
  else if b.toNat < 0xF0 then
    ([], some ⟨b.toNat - 0xE0, 2, if b.toNat = 0xE0 then 0xA0 else 0x80,
      if b.toNat = 0xED then 0x9F else 0xBF⟩)
  else if b.toNat < 0xF5 then
    ([], some ⟨b.toNat - 0xF0, 3, if b.toNat = 0xF0 then 0x90 else 0x80,
      if b.toNat = 0xF4 then 0x8F else 0xBF⟩)
  else ([replacement], none)

/-- The next byte. One that does not belong to the character is read again as the start of another
one. -/
def decodeByte (p : Option Pending) (b : UInt8) : List Char × Option Pending :=
  match p with
  | none => decodeLead b
  | some p =>
    if p.lower ≤ b.toNat ∧ b.toNat ≤ p.upper then
      let code := p.code * 64 + (b.toNat - 0x80)
      if p.needed = 1 then ([Char.ofNat code], none)
      else ([], some ⟨code, p.needed - 1, 0x80, 0xBF⟩)
    else (replacement :: (decodeLead b).1, (decodeLead b).2)

/-- The rest of the bytes; a character that is not complete at the end is replaced. -/
def decodeFrom : Option Pending → List UInt8 → List Char
  | none, [] => []
  | some _, [] => [replacement]
  | p, b :: bs => (decodeByte p b).1 ++ decodeFrom (decodeByte p b).2 bs

/-- The text of some bytes. -/
def decodeUtf8 (bytes : List UInt8) : List Char := decodeFrom none bytes

/-- The encoding of a code point by its length. -/
inductive Encodes (v : ℕ) : List UInt8 → Prop where
  | one (b : UInt8) (hv : v < 0x80) (hb : b.toNat = v) : Encodes v [b]
  | two (b c : UInt8) (hv : 0x80 ≤ v ∧ v < 0x800) (hb : b.toNat = 0xC0 + v / 64)
      (hc : c.toNat = 0x80 + v % 64) : Encodes v [b, c]
  | three (b c d : UInt8) (hv : 0x800 ≤ v ∧ v < 0x10000) (hb : b.toNat = 0xE0 + v / 4096)
      (hc : c.toNat = 0x80 + v / 64 % 64) (hd : d.toNat = 0x80 + v % 64) : Encodes v [b, c, d]
  | four (b c d e : UInt8) (hv : 0x10000 ≤ v ∧ v < 0x110000) (hb : b.toNat = 0xF0 + v / 262144)
      (hc : c.toNat = 0x80 + v / 4096 % 64) (hd : d.toNat = 0x80 + v / 64 % 64)
      (he : e.toNat = 0x80 + v % 64) : Encodes v [b, c, d, e]

/-- A code point is below the end of the code space and not a surrogate. -/
lemma toNat_lt (c : Char) : c.toNat < 0xD800 ∨ 0xDFFF < c.toNat ∧ c.toNat < 0x110000 := c.valid

/-- The bytes of a character. -/
lemma encodes_utf8EncodeChar (c : Char) : Encodes c.toNat (String.utf8EncodeChar c) := by
  have hvalid := toNat_lt c
  have hval : c.val.toNat = c.toNat := rfl
  unfold String.utf8EncodeChar
  simp only [hval]
  split
  · refine .one _ (by omega) ?_
    rw [UInt8.toNat_ofNat']
    omega
  · split
    · refine .two _ _ (by omega) ?_ ?_
      all_goals
        rw [UInt8.toNat_ofNat']
        omega
    · split
      · refine .three _ _ _ (by omega) ?_ ?_ ?_
        all_goals
          rw [UInt8.toNat_ofNat']
          omega
      · refine .four _ _ _ _ (by omega) ?_ ?_ ?_ ?_
        all_goals
          rw [UInt8.toNat_ofNat']
          omega

/-- A byte that continues a character is none of its own. -/
def Continues (b : UInt8) : Prop := 0x80 ≤ b.toNat ∧ b.toNat < 0xC0

section Lead

variable {b : UInt8}

/-- A lone byte of a longer character is replaced. -/
lemma decodeLead_of_continues (h : Continues b) : decodeLead b = ([replacement], none) := by
  obtain ⟨hle, hlt⟩ := h
  unfold decodeLead
  rw [if_neg (by omega), if_pos (by omega)]

/-- The first of two bytes. -/
lemma decodeLead_two (h : 0xC2 ≤ b.toNat ∧ b.toNat < 0xE0) :
    decodeLead b = ([], some ⟨b.toNat - 0xC0, 1, 0x80, 0xBF⟩) := by
  unfold decodeLead
  rw [if_neg (by omega), if_neg (by omega), if_pos h.2]

/-- The first of three bytes. -/
lemma decodeLead_three (h : 0xE0 ≤ b.toNat ∧ b.toNat < 0xF0) :
    decodeLead b = ([], some ⟨b.toNat - 0xE0, 2, if b.toNat = 0xE0 then 0xA0 else 0x80,
      if b.toNat = 0xED then 0x9F else 0xBF⟩) := by
  unfold decodeLead
  rw [if_neg (by omega), if_neg (by omega), if_neg (by omega), if_pos h.2]

/-- The first of four bytes. -/
lemma decodeLead_four (h : 0xF0 ≤ b.toNat ∧ b.toNat < 0xF5) :
    decodeLead b = ([], some ⟨b.toNat - 0xF0, 3, if b.toNat = 0xF0 then 0x90 else 0x80,
      if b.toNat = 0xF4 then 0x8F else 0xBF⟩) := by
  unfold decodeLead
  rw [if_neg (by omega), if_neg (by omega), if_neg (by omega), if_neg (by omega), if_pos h.2]

/-- The last byte of a character. -/
lemma decodeByte_last {code lower upper : ℕ} (h : lower ≤ b.toNat ∧ b.toNat ≤ upper) :
    decodeByte (some ⟨code, 1, lower, upper⟩) b =
      ([Char.ofNat (code * 64 + (b.toNat - 0x80))], none) := by
  simp only [decodeByte]
  rw [if_pos h, if_pos trivial]

/-- A byte within a character. -/
lemma decodeByte_more {code needed lower upper : ℕ} (h : lower ≤ b.toNat ∧ b.toNat ≤ upper) :
    decodeByte (some ⟨code, needed + 2, lower, upper⟩) b =
      ([], some ⟨code * 64 + (b.toNat - 0x80), needed + 1, 0x80, 0xBF⟩) := by
  simp only [decodeByte]
  rw [if_pos h, if_neg (by omega)]
  rfl

end Lead

/-- Lone bytes are replaced one by one. -/
lemma decodeUtf8_continues {bytes : List UInt8} (h : ∀ b ∈ bytes, Continues b) (rest : List UInt8) :
    decodeUtf8 (bytes ++ rest) = List.replicate bytes.length replacement ++ decodeUtf8 rest := by
  induction bytes with
  | nil => rfl
  | cons b bytes ih =>
    have hb : decodeByte none b = ([replacement], none) :=
      decodeLead_of_continues (h b List.mem_cons_self)
    have ih' := ih fun x hx => h x (List.mem_cons_of_mem b hx)
    simp only [decodeUtf8, List.cons_append, decodeFrom, hb, List.length_cons,
      List.replicate_succ, List.nil_append, List.cons.injEq, true_and] at ih' ⊢
    exact ih'

/-- Reading a character that is there.

**Proof sketch.** The encoding has one to four bytes. The first one says how many follow and how the
next one is bounded, each of them adds six bits, and the last one completes the character. -/
lemma decodeUtf8_utf8EncodeChar_append (c : Char) (rest : List UInt8) :
    decodeUtf8 (String.utf8EncodeChar c ++ rest) = c :: decodeUtf8 rest := by
  have hvalid := toNat_lt c
  have henc := encodes_utf8EncodeChar c
  have hofNat : ∀ n, n = c.toNat → Char.ofNat n = c := by
    rintro n rfl
    exact Char.ofNat_toNat c
  unfold decodeUtf8
  generalize String.utf8EncodeChar c = bytes at henc
  cases henc with
  | one b hv hb =>
    have hlead : decodeLead b = ([Char.ofNat b.toNat], none) := if_pos (by omega)
    simp only [List.cons_append, List.nil_append, decodeFrom, decodeByte, hlead]
    rw [hofNat _ hb]
  | two b d hv hb hd =>
    simp only [List.cons_append, List.nil_append, decodeFrom, decodeByte.eq_1]
    rw [decodeLead_two (by omega)]
    dsimp only
    rw [decodeByte_last (by omega)]
    dsimp only
    rw [hofNat _ (by omega)]
    rfl
  | three b d e hv hb hd he =>
    simp only [List.cons_append, List.nil_append, decodeFrom, decodeByte.eq_1]
    rw [decodeLead_three (by omega)]
    dsimp only
    rw [decodeByte_more (by constructor <;> split <;> omega)]
    dsimp only
    rw [decodeByte_last (by omega)]
    dsimp only
    rw [hofNat _ (by omega)]
    rfl
  | four b d e f hv hb hd he hf =>
    simp only [List.cons_append, List.nil_append, decodeFrom, decodeByte.eq_1]
    rw [decodeLead_four (by omega)]
    dsimp only
    rw [decodeByte_more (by constructor <;> split <;> omega)]
    dsimp only
    rw [decodeByte_more (by omega)]
    dsimp only
    rw [decodeByte_last (by omega)]
    dsimp only
    rw [hofNat _ (by omega)]
    rfl

/-- **Decoding undoes encoding.** -/
lemma decodeUtf8_utf8_append (text : List Char) (rest : List UInt8) :
    decodeUtf8 (utf8 text ++ rest) = text ++ decodeUtf8 rest := by
  induction text with
  | nil => rfl
  | cons c text ih =>
    rw [utf8, List.flatMap_cons, List.append_assoc, decodeUtf8_utf8EncodeChar_append]
    exact congrArg (c :: ·) ih

/-- Decoding the bytes of a text. -/
@[simp] lemma decodeUtf8_utf8 (text : List Char) : decodeUtf8 (utf8 text) = text := by
  have h := decodeUtf8_utf8_append text []
  rwa [List.append_nil, show decodeUtf8 [] = [] from rfl, List.append_nil] at h

/-- Different texts have different bytes. -/
lemma utf8_injective {text text' : List Char} (h : utf8 text = utf8 text') : text = text' := by
  rw [← decodeUtf8_utf8 text, h, decodeUtf8_utf8]

@[simp] lemma utf8_append (text text' : List Char) :
    utf8 (text ++ text') = utf8 text ++ utf8 text' :=
  List.flatMap_append

/-! ## Cuts -/

section Cuts

variable {c : Char} {x y : List UInt8}

/-- Only the first byte of a character does not continue it. -/
lemma continues_of_split (h : String.utf8EncodeChar c = x ++ y) (hx : x ≠ []) :
    ∀ b ∈ y, Continues b := by
  have htail : ∀ b ∈ (String.utf8EncodeChar c).tail, Continues b := by
    have henc := encodes_utf8EncodeChar c
    generalize String.utf8EncodeChar c = bytes at henc
    cases henc with
    | one b hv hb => simp
    | two b d hv hb hd =>
      simp only [List.tail_cons, List.forall_mem_singleton, Continues]
      omega
    | three b d e hv hb hd he =>
      simp only [List.tail_cons, List.forall_mem_cons, List.not_mem_nil, false_implies,
        implies_true, and_true, Continues]
      omega
    | four b d e f hv hb hd he hf =>
      simp only [List.tail_cons, List.forall_mem_cons, List.not_mem_nil, false_implies,
        implies_true, and_true, Continues]
      omega
  intro b hb
  refine htail b ?_
  rw [h, List.tail_append_of_ne_nil hx]
  exact List.mem_append_right _ hb

/-- **A character that is cut off** becomes one U+FFFD.

**Proof sketch.** The bytes that are there are the first one, two or three of two, three or four.
None of them completes the character, and none is out of bounds. -/
lemma decodeUtf8_of_split (h : String.utf8EncodeChar c = x ++ y) (hx : x ≠ []) (hy : y ≠ []) :
    decodeUtf8 x = [replacement] := by
  have hvalid := toNat_lt c
  have henc := encodes_utf8EncodeChar c
  have hpos : 0 < x.length := List.length_pos_iff.mpr hx
  have hlt : x.length < (String.utf8EncodeChar c).length := by
    have hy' := List.length_pos_iff.mpr hy
    rw [h, List.length_append]
    omega
  have htake : x = (String.utf8EncodeChar c).take x.length := by rw [h, List.take_left]
  rw [htake]
  generalize x.length = n at hpos hlt
  generalize String.utf8EncodeChar c = bytes at henc hlt
  unfold decodeUtf8
  cases henc with
  | one b hv hb =>
    simp only [List.length_singleton] at hlt
    omega
  | two b d hv hb hd =>
    simp only [List.length_cons, List.length_nil] at hlt
    obtain rfl : n = 1 := by omega
    simp only [List.take_succ_cons, List.take_zero, decodeFrom, decodeByte.eq_1]
    rw [decodeLead_two (by omega)]
    rfl
  | three b d e hv hb hd he =>
    simp only [List.length_cons, List.length_nil] at hlt
    have hlead := decodeLead_three (b := b) (by omega)
    obtain rfl | rfl : n = 1 ∨ n = 2 := by omega
    · simp only [List.take_succ_cons, List.take_zero, decodeFrom, decodeByte.eq_1, hlead]
      rfl
    · simp only [List.take_succ_cons, List.take_zero, decodeFrom, decodeByte.eq_1, hlead]
      rw [decodeByte_more (by constructor <;> split <;> omega)]
      rfl
  | four b d e f hv hb hd he hf =>
    simp only [List.length_cons, List.length_nil] at hlt
    have hlead := decodeLead_four (b := b) (by omega)
    obtain rfl | rfl | rfl : n = 1 ∨ n = 2 ∨ n = 3 := by omega
    · simp only [List.take_succ_cons, List.take_zero, decodeFrom, decodeByte.eq_1, hlead]
      rfl
    · simp only [List.take_succ_cons, List.take_zero, decodeFrom, decodeByte.eq_1, hlead]
      rw [decodeByte_more (by constructor <;> split <;> omega)]
      rfl
    · simp only [List.take_succ_cons, List.take_zero, decodeFrom, decodeByte.eq_1, hlead]
      rw [decodeByte_more (by constructor <;> split <;> omega)]
      dsimp only
      rw [decodeByte_more (by omega)]
      rfl

end Cuts

/-- **Where bytes are cut.** Bytes in UTF-8 are cut in two between two characters or within one. -/
lemma utf8_eq_append {text : List Char} {x y : List UInt8} (h : utf8 text = x ++ y) :
    (∃ t₁ t₂, text = t₁ ++ t₂ ∧ x = utf8 t₁ ∧ y = utf8 t₂) ∨
    ∃ t₁ c t₂ u v, text = t₁ ++ c :: t₂ ∧ String.utf8EncodeChar c = u ++ v ∧ u ≠ [] ∧ v ≠ [] ∧
      x = utf8 t₁ ++ u ∧ y = v ++ utf8 t₂ := by
  induction text generalizing x with
  | nil =>
    obtain ⟨rfl, rfl⟩ := List.append_eq_nil_iff.mp h.symm
    exact .inl ⟨[], [], rfl, rfl, rfl⟩
  | cons c text ih =>
    have hcons : utf8 (c :: text) = String.utf8EncodeChar c ++ utf8 text := List.flatMap_cons
    rw [hcons] at h
    rcases List.append_eq_append_iff.mp h with ⟨x', rfl, hrest⟩ | ⟨v, hc, rfl⟩
    · -- the first character is before the cut
      rcases ih hrest with ⟨t₁, t₂, rfl, rfl, rfl⟩ | ⟨t₁, d, t₂, u, v, rfl, hd, hu, hv, rfl, rfl⟩
      · exact .inl ⟨c :: t₁, t₂, rfl, List.flatMap_cons.symm, rfl⟩
      · refine .inr ⟨c :: t₁, d, t₂, u, v, rfl, hd, hu, hv, ?_, rfl⟩
        rw [← List.append_assoc]
        exact congrArg (· ++ u) List.flatMap_cons.symm
    · by_cases hx : x = []
      · subst hx
        refine .inl ⟨[], c :: text, rfl, rfl, ?_⟩
        rw [hcons, hc, List.nil_append]
      · by_cases hv : v = []
        · subst hv
          rw [List.append_nil] at hc
          refine .inl ⟨[c], text, rfl, ?_, rfl⟩
          rw [← hc, utf8, List.flatMap_singleton]
        · exact .inr ⟨[], c, text, x, v, rfl, hc, hx, hv, rfl, rfl⟩

/-! ## Chunks -/

/-- The text of a stream of which every chunk is decoded by itself. -/
def decodeChunks (chunks : List (List UInt8)) : List Char := chunks.flatMap decodeUtf8

lemma decodeChunks_cons (chunk : List UInt8) (chunks : List (List UInt8)) :
    decodeChunks (chunk :: chunks) = decodeUtf8 chunk ++ decodeChunks chunks := List.flatMap_cons

/-- Some bytes are the encoding of a text. -/
def IsUtf8 (bytes : List UInt8) : Prop := ∃ text, bytes = utf8 text

/-- What a text is read as: a character as itself or, if it has more than one byte, as at least two
replacements. -/
inductive ReadAs : List Char → List Char → Prop where
  | nil : ReadAs [] []
  | whole (c : Char) {text read : List Char} (h : ReadAs text read) : ReadAs (c :: text) (c :: read)
  | cut (c : Char) (n : ℕ) {text read : List Char} (hc : 0x80 ≤ c.toNat) (h : ReadAs text read) :
      ReadAs (c :: text) (List.replicate (n + 2) replacement ++ read)

namespace ReadAs

variable {text read : List Char}

/-- No character is lost. -/
lemma length_le (h : ReadAs text read) : text.length ≤ read.length := by
  induction h with
  | nil => exact Nat.le_refl _
  | whole c h ih => exact Nat.succ_le_succ ih
  | cut c n hc h ih =>
    simp only [List.length_cons, List.length_append, List.length_replicate]
    omega

/-- Characters that are read as they are. -/
lemma append (front : List Char) (h : ReadAs text read) :
    ReadAs (front ++ text) (front ++ read) := by
  induction front with
  | nil => exact h
  | cons c front ih => exact .whole c ih

end ReadAs

/-- A character that can be cut has more than one byte. -/
lemma le_toNat_of_split {c : Char} {x y : List UInt8} (h : String.utf8EncodeChar c = x ++ y)
    (hx : x ≠ []) (hy : y ≠ []) : 0x80 ≤ c.toNat := by
  have henc := encodes_utf8EncodeChar c
  rw [h] at henc
  by_contra hsmall
  have hlength : (x ++ y).length = 1 := by
    generalize x ++ y = bytes at henc
    cases henc with
    | one b hv hb => rfl
    | _ => omega
  have hx' := List.length_pos_iff.mpr hx
  have hy' := List.length_pos_iff.mpr hy
  rw [List.length_append] at hlength
  omega

/-- **Decoding chunk by chunk.** From a cut within a character on, of which the bytes `q` are left,
a stream is decoded to replacements for `q` and something that the text is read as. If that is no
longer than the text, every chunk is in UTF-8.

**Proof sketch.** Induction on the chunks. A chunk ends within `q`, between two characters or within
one; in the last case the character is read as one replacement and one for each of its bytes in the
chunks that follow. -/
lemma readAs_decodeChunks {chunks : List (List UInt8)} :
    ∀ {q : List UInt8} {text : List Char}, chunks.flatten = q ++ utf8 text →
      (∀ b ∈ q, Continues b) →
      ∃ read, decodeChunks chunks = List.replicate q.length replacement ++ read ∧
        ReadAs text read ∧
        (q = [] → read.length ≤ text.length → ∀ chunk ∈ chunks, IsUtf8 chunk) := by
  induction chunks with
  | nil =>
    intro q text h _
    obtain ⟨rfl, htext⟩ := List.append_eq_nil_iff.mp h.symm
    obtain rfl := utf8_injective (htext.trans (show [] = utf8 [] from rfl))
    exact ⟨[], rfl, .nil, fun _ _ chunk hmem => absurd hmem List.not_mem_nil⟩
  | cons chunk chunks ih =>
    intro q text h hq
    rw [List.flatten_cons] at h
    rcases List.append_eq_append_iff.mp h with ⟨q', rfl, hrest⟩ | ⟨chunk', rfl, hrest⟩
    · -- the chunk ends within the bytes that are left
      obtain ⟨read, hread, has, hvalid⟩ :=
        ih hrest fun b hb => hq b (List.mem_append_right _ hb)
      have hchunk := decodeUtf8_continues (fun b hb => hq b (List.mem_append_left _ hb)) []
      rw [List.append_nil, show decodeUtf8 [] = [] from rfl, List.append_nil] at hchunk
      refine ⟨read, ?_, has, fun hnil hle => ?_⟩
      · rw [decodeChunks_cons, hchunk, hread, List.length_append, List.replicate_add,
          List.append_assoc]
      · obtain ⟨rfl, rfl⟩ := List.append_eq_nil_iff.mp hnil
        exact List.forall_mem_cons.mpr ⟨⟨[], rfl⟩, hvalid rfl hle⟩
    · have hchunk := decodeUtf8_continues hq chunk'
      rcases utf8_eq_append hrest with
        ⟨t₁, t₂, rfl, rfl, hbytes⟩ | ⟨t₁, c, t₂, u, v, rfl, hc, hu, hv, rfl, hbytes⟩
      · -- it ends between two characters
        obtain ⟨read, hread, has, hvalid⟩ := ih (show chunks.flatten = [] ++ utf8 t₂ from hbytes)
          fun b hb => absurd hb List.not_mem_nil
        refine ⟨t₁ ++ read, ?_, has.append t₁, fun hnil hle => ?_⟩
        · rw [decodeChunks_cons, hchunk, decodeUtf8_utf8, hread, List.append_assoc]
          rfl
        · subst hnil
          rw [List.length_append, List.length_append] at hle
          exact List.forall_mem_cons.mpr ⟨⟨t₁, rfl⟩, hvalid rfl (by omega)⟩
      · -- it ends within the character `c`
        obtain ⟨read, hread, has, -⟩ := ih hbytes (continues_of_split hc hu)
        obtain ⟨n, hn⟩ : ∃ n, v.length = n + 1 :=
          Nat.exists_eq_succ_of_ne_zero fun h0 => hv (List.length_eq_zero_iff.mp h0)
        refine ⟨t₁ ++ (List.replicate (n + 2) replacement ++ read), ?_,
          (ReadAs.cut c n (le_toNat_of_split hc hu hv) has).append t₁, fun _ hle => ?_⟩
        · rw [decodeChunks_cons, hchunk, decodeUtf8_utf8_append, decodeUtf8_of_split hc hu hv,
            hread, hn, List.replicate_succ (n := n + 1)]
          simp
        · have hlonger := has.length_le
          simp only [List.length_append, List.length_cons, List.length_replicate] at hle
          omega

/-- Chunks in UTF-8 are decoded to the text of the stream. -/
lemma flatten_eq_utf8_decodeChunks {chunks : List (List UInt8)}
    (h : ∀ chunk ∈ chunks, IsUtf8 chunk) :
    chunks.flatten = utf8 (decodeChunks chunks) := by
  induction chunks with
  | nil => rfl
  | cons chunk chunks ih =>
    obtain ⟨text, rfl⟩ := h chunk List.mem_cons_self
    rw [List.flatten_cons, ih fun x hx => h x (List.mem_cons_of_mem _ hx), decodeChunks_cons,
      decodeUtf8_utf8, utf8_append]

end Foundations
