import AuraLive.Intent.WakeWord
import Mathlib.Algebra.Order.BigOperators.Group.List
import Mathlib.Data.List.Zip
import Mathlib.Tactic.Linarith

set_option relaxedAutoImplicit false
set_option autoImplicit false

/-!
# Jamo

Syllables are taken apart into their jamo without anything in between, and a final consonant may be
the first one of another syllable. A text of syllables can still be read back, since a vowel is
always the second of the jamo of a syllable. Without rounding, the similarity of two words is
symmetric, lies between zero and one, and is one for the same jamo only.

## Main definitions

* `Intent.SyllableShape` — the jamo of one syllable: a consonant, a vowel and at most one consonant.
* `Intent.IsSyllable` — the syllables of Unicode.
* `Intent.score` — what the jamo at one place contribute to the similarity.

## Main results

* `Intent.flatten_injective_of_shape` — syllables that are written one after the other can be told
  apart.
* `Intent.decomposeHangul_faithful` — so different texts have different jamo.
* `Intent.jamoSimilarity_measure` — the similarity is a measure of similarity.
-/

namespace Intent

open Foundations Double

/-! ## Reading syllables -/

section Shape

variable {β : Type*} {vowel : β → Bool} {w x : List β} {ws xs : List (List β)}

/-- A consonant, a vowel and at most one consonant. -/
inductive SyllableShape (vowel : β → Bool) : List β → Prop where
  | opened {c v} : vowel c = false → vowel v = true → SyllableShape vowel [c, v]
  | closed {c v j} : vowel c = false → vowel v = true → vowel j = false →
      SyllableShape vowel [c, v, j]

/-- What is read after a syllable is nothing, or a consonant in front of a vowel. -/
lemma flatten_eq_nil_or (h : ∀ w ∈ ws, SyllableShape vowel w) :
    ws.flatten = [] ∨
      ∃ c v t, ws.flatten = c :: v :: t ∧ vowel c = false ∧ vowel v = true := by
  cases ws with
  | nil => exact .inl rfl
  | cons w ws =>
    rw [List.flatten_cons]
    cases h w List.mem_cons_self with
    | opened hc hv => exact .inr ⟨_, _, _, rfl, hc, hv⟩
    | closed hc hv hj => exact .inr ⟨_, _, _, rfl, hc, hv⟩

/-- A consonant that ends a syllable is not the first one of the next syllable: there is no vowel
behind it. -/
lemma closed_ne_opened {j : β} {s t : List β} (hs : s = j :: t)
    (hshape : s = [] ∨ ∃ c v r, s = c :: v :: r ∧ vowel c = false ∧ vowel v = true)
    (hshape' : t = [] ∨ ∃ c v r, t = c :: v :: r ∧ vowel c = false ∧ vowel v = true) : False := by
  subst hs
  obtain h | ⟨c, v, r, h, hc, hv⟩ := hshape
  · cases h
  · obtain ⟨-, rfl⟩ := List.cons.inj h
    obtain h' | ⟨c', v', r', h', hc', -⟩ := hshape'
    · cases h'
    · obtain ⟨rfl, -⟩ := List.cons.inj h'
      exact Bool.false_ne_true (hc'.symm.trans hv)

/-- **One syllable is read**: it is determined by a text that begins with it. -/
lemma eq_of_append_eq (hw : SyllableShape vowel w) (hx : SyllableShape vowel x)
    (hws : ∀ w ∈ ws, SyllableShape vowel w) (hxs : ∀ x ∈ xs, SyllableShape vowel x)
    (h : w ++ ws.flatten = x ++ xs.flatten) : w = x ∧ ws.flatten = xs.flatten := by
  have hrest := flatten_eq_nil_or hws
  have hrest' := flatten_eq_nil_or hxs
  cases hw with
  | opened hc hv =>
    cases hx with
    | opened hc' hv' =>
      simp only [List.cons_append, List.nil_append, List.cons.injEq] at h
      obtain ⟨rfl, rfl, h⟩ := h
      exact ⟨rfl, h⟩
    | closed hc' hv' hj' =>
      simp only [List.cons_append, List.nil_append, List.cons.injEq] at h
      exact (closed_ne_opened h.2.2 hrest hrest').elim
  | closed hc hv hj =>
    cases hx with
    | opened hc' hv' =>
      simp only [List.cons_append, List.nil_append, List.cons.injEq] at h
      exact (closed_ne_opened h.2.2.symm hrest' hrest).elim
    | closed hc' hv' hj' =>
      simp only [List.cons_append, List.nil_append, List.cons.injEq] at h
      obtain ⟨rfl, rfl, rfl, h⟩ := h
      exact ⟨rfl, h⟩

/-- **Syllables one after the other** can be told apart. -/
lemma flatten_injective_of_shape (hws : ∀ w ∈ ws, SyllableShape vowel w)
    (hxs : ∀ x ∈ xs, SyllableShape vowel x) (h : ws.flatten = xs.flatten) : ws = xs := by
  induction ws generalizing xs with
  | nil =>
    cases xs with
    | nil => rfl
    | cons x xs => cases hxs x List.mem_cons_self <;> simp at h
  | cons w ws ih =>
    obtain ⟨hw, hws'⟩ := List.forall_mem_cons.mp hws
    cases xs with
    | nil => cases hw <;> simp at h
    | cons x xs =>
      obtain ⟨hx, hxs'⟩ := List.forall_mem_cons.mp hxs
      rw [List.flatten_cons, List.flatten_cons] at h
      obtain ⟨rfl, hrest⟩ := eq_of_append_eq hw hx hws' hxs' h
      rw [ih hws' hxs' hrest]

end Shape

/-! ## The jamo of syllables -/

/-- A character from U+AC00 to U+D7A3. -/
def IsSyllable (c : Char) : Prop := 0xAC00 ≤ c.toNat ∧ c.toNat ≤ 0xD7A3

/-- The jamo of `JUNG`. -/
def isVowel (c : Char) : Bool := c ∈ JUNG

/-- The places of the jamo of a syllable in the tables. -/
lemma lookups_in_range {c : Char} (h : IsSyllable c) :
    (c.toNat - 0xAC00) / 588 < CHO.length ∧
    (c.toNat - 0xAC00) % 588 / 28 < JUNG.length ∧
    (c.toNat - 0xAC00) % 28 < JONG.length := by
  obtain ⟨hle, hlt⟩ := h
  have hcho : CHO.length = 19 := rfl
  have hjung : JUNG.length = 21 := rfl
  have hjong : JONG.length = 28 := rfl
  omega

/-- The jamo of a syllable are those in the tables. -/
lemma decomposeChar_eq {c : Char} (h : IsSyllable c) :
    ∃ cho jung jong, CHO[(c.toNat - 0xAC00) / 588]? = some cho ∧
      JUNG[(c.toNat - 0xAC00) % 588 / 28]? = some jung ∧
      JONG[(c.toNat - 0xAC00) % 28]? = some jong ∧
      decomposeChar c = cho :: jung :: [jong].filter (· ≠ ' ') := by
  obtain ⟨hcho, hjung, hjong⟩ := lookups_in_range h
  have hsyllable : 0xAC00 ≤ c.toNat ∧ c.toNat - 0xAC00 ≤ 11171 := by
    obtain ⟨hle, hlt⟩ := h
    omega
  refine ⟨_, _, _, List.getElem?_eq_getElem hcho, List.getElem?_eq_getElem hjung,
    List.getElem?_eq_getElem hjong, ?_⟩
  rw [decomposeChar, if_pos hsyllable]
  simp only [List.getElem?_eq_getElem hcho, List.getElem?_eq_getElem hjung,
    List.getElem?_eq_getElem hjong, Option.toList_some, List.cons_append, List.nil_append]

/-- The jamo of a syllable have the shape of one. -/
lemma shape_decomposeChar {c : Char} (h : IsSyllable c) :
    SyllableShape isVowel (decomposeChar c) := by
  obtain ⟨cho, jung, jong, hcho, hjung, hjong, heq⟩ := decomposeChar_eq h
  have hconsonants : ∀ i ∈ CHO, isVowel i = false := by
    have hall : CHO.all (fun i => !isVowel i) = true := by decide +kernel
    exact fun i hi => by simpa using List.all_eq_true.mp hall i hi
  have hfinals : ∀ i ∈ JONG, isVowel i = false := by
    have hall : JONG.all (fun i => !isVowel i) = true := by decide +kernel
    exact fun i hi => by simpa using List.all_eq_true.mp hall i hi
  have hc := hconsonants cho (List.mem_of_getElem? hcho)
  have hv : isVowel jung = true := decide_eq_true (List.mem_of_getElem? hjung)
  rw [heq]
  by_cases hblank : jong = ' '
  · subst hblank
    exact .opened hc hv
  · rw [List.filter_cons_of_pos (by simpa using hblank)]
    exact .closed hc hv (hfinals jong (List.mem_of_getElem? hjong))

/-- Two places of a table with the same jamo are the same. -/
lemma index_eq {table : Text} (hnodup : table.Nodup) {i j : ℕ} {jamo : Char}
    (hi : table[i]? = some jamo) (hj : table[j]? = some jamo) : i = j := by
  obtain ⟨hlt, -⟩ := List.getElem?_eq_some_iff.mp hi
  exact (List.getElem?_inj hlt hnodup).mp (hi.trans hj.symm)

/-- Different syllables have different jamo. -/
lemma decomposeChar_injective {c d : Char} (hc : IsSyllable c) (hd : IsSyllable d)
    (h : decomposeChar c = decomposeChar d) : c = d := by
  obtain ⟨cho, jung, jong, hcho, hjung, hjong, heq⟩ := decomposeChar_eq hc
  obtain ⟨cho', jung', jong', hcho', hjung', hjong', heq'⟩ := decomposeChar_eq hd
  rw [heq, heq', List.cons.injEq, List.cons.injEq] at h
  obtain ⟨rfl, rfl, hfinal⟩ := h
  have hsame : jong = jong' := by
    by_cases hblank : jong = ' ' <;> by_cases hblank' : jong' = ' ' <;>
      simp_all
  subst hsame
  have h₁ := index_eq (by decide +kernel) hcho hcho'
  have h₂ := index_eq (by decide +kernel) hjung hjung'
  have h₃ := index_eq (by decide +kernel) hjong hjong'
  obtain ⟨hle, -⟩ := hc
  obtain ⟨hle', -⟩ := hd
  refine Char.toNat_inj.mp ?_
  omega

/-- Texts of syllables with the same jamo at every place are the same. -/
lemma map_decomposeChar_injective {s t : Text} (hs : ∀ c ∈ s, IsSyllable c)
    (ht : ∀ c ∈ t, IsSyllable c) (h : s.map decomposeChar = t.map decomposeChar) : s = t := by
  induction s generalizing t with
  | nil => exact (List.map_eq_nil_iff.mp h.symm).symm
  | cons c s ih =>
    cases t with
    | nil => cases h
    | cons d t =>
      obtain ⟨hc, hs'⟩ := List.forall_mem_cons.mp hs
      obtain ⟨hd, ht'⟩ := List.forall_mem_cons.mp ht
      obtain ⟨hhead, htail⟩ := List.cons.inj h
      rw [decomposeChar_injective hc hd hhead, ih hs' ht' htail]

/-- **Jamo are faithful.** The jamo of a syllable are within the tables, and texts of syllables with
the same jamo are the same. -/
theorem decomposeHangul_faithful :
    (∀ c, IsSyllable c → (c.toNat - 0xAC00) / 588 < CHO.length ∧
      (c.toNat - 0xAC00) % 588 / 28 < JUNG.length ∧ (c.toNat - 0xAC00) % 28 < JONG.length) ∧
    ∀ s t : Text, (∀ c ∈ s, IsSyllable c) → (∀ c ∈ t, IsSyllable c) →
      decomposeHangul s = decomposeHangul t → s = t := by
  refine ⟨fun c hc => lookups_in_range hc, fun s t hs ht h => ?_⟩
  have hshapes {s : Text} (hs : ∀ c ∈ s, IsSyllable c) :
      ∀ w ∈ s.map decomposeChar, SyllableShape isVowel w :=
    List.forall_mem_map.mpr fun c hc => shape_decomposeChar (hs c hc)
  refine map_decomposeChar_injective hs ht (flatten_injective_of_shape (hshapes hs) (hshapes ht) ?_)
  rwa [← List.flatMap_def, ← List.flatMap_def]

/-- Two syllables, given by their numbers, of which the first one ends with a consonant that the
second one could begin with. -/
theorem decomposeHangul_faithful_gak :
    ((0xAC01 - 0xAC00) / 588 < CHO.length ∧ (0xAC01 - 0xAC00) % 588 / 28 < JUNG.length ∧
      (0xAC01 - 0xAC00) % 28 < JONG.length) ∧
    [Char.ofNat 0xAC01, Char.ofNat 0xAC00] = ['각', '가'] := by
  have hgak : IsSyllable '각' := ⟨by decide, by decide⟩
  have hga : IsSyllable '가' := ⟨by decide, by decide⟩
  have hboth : ∀ c ∈ ['각', '가'], IsSyllable c :=
    List.forall_mem_cons.mpr ⟨hgak, List.forall_mem_singleton.mpr hga⟩
  exact ⟨decomposeHangul_faithful.1 '각' hgak,
    decomposeHangul_faithful.2 _ _ hboth hboth (by decide +kernel)⟩

/-! ## The similarity of jamo -/

/-- What the jamo at one place contribute. -/
def score (jamo : Char × Char) : ℚ :=
  if jamo.1 = jamo.2 then 1 else if isSimilarJamo jamo.1 jamo.2 then 3 / 5 else 0

/-- Both tables are looked into, so similarity is symmetric. -/
lemma isSimilarJamo_comm (a b : Char) : isSimilarJamo a b = isSimilarJamo b a := by
  have hcomm : (decide (a = b)) = decide (b = a) := decide_eq_decide.mpr eq_comm
  rw [isSimilarJamo, isSimilarJamo, hcomm, Bool.or_assoc, Bool.or_assoc]
  exact congrArg _ (Bool.or_comm _ _)

/-- The contribution of a place is symmetric. -/
lemma score_swap (jamo : Char × Char) : score jamo.swap = score jamo := by
  simp only [score, Prod.fst_swap, Prod.snd_swap, isSimilarJamo_comm jamo.2, eq_comm]

/-- The contribution of a place is between zero and one. -/
lemma score_mem (jamo : Char × Char) : 0 ≤ score jamo ∧ score jamo ≤ 1 := by
  unfold score
  split
  · norm_num
  · split <;> norm_num

/-- The contribution of a place is one for the same jamo only. -/
lemma score_eq_one_iff (jamo : Char × Char) : score jamo = 1 ↔ jamo.1 = jamo.2 := by
  unfold score
  split
  · simpa
  · split <;> norm_num <;> assumption

/-- Without rounding, the contributions are added. -/
lemma foldl_countMatch (l : List (Char × Char)) (count : ℚ) :
    l.foldl (countMatch id) count = count + (l.map score).sum := by
  induction l generalizing count with
  | nil => simp
  | cons jamo l ih =>
    have hstep : countMatch id count jamo = count + score jamo := by
      unfold countMatch score
      split
      · rfl
      · split <;> simp
    rw [List.foldl_cons, hstep, ih, List.map_cons, List.sum_cons, add_assoc]

/-- The contributions of two lists of jamo. -/
def total (a b : Text) : ℚ := ((a.zip b).map score).sum

lemma total_comm (a b : Text) : total a b = total b a := by
  have hswap : score ∘ Prod.swap = score := funext score_swap
  rw [total, total, ← List.zip_swap a b, List.map_map, hswap]

/-- No contribution is negative. -/
lemma total_nonneg (a b : Text) : 0 ≤ total a b :=
  List.sum_nonneg (List.forall_mem_map.mpr fun jamo _ => (score_mem jamo).1)

/-- The total is at most the length of the shorter list. -/
lemma total_le_min (a b : Text) : total a b ≤ (min a.length b.length : ℕ) := by
  induction a generalizing b with
  | nil => simp [total]
  | cons x a ih =>
    cases b with
    | nil => simp [total]
    | cons y b =>
      have hcons : total (x :: a) (y :: b) = score (x, y) + total a b := by simp [total]
      have hmin : min (x :: a).length (y :: b).length = min a.length b.length + 1 := by
        simp only [List.length_cons]
        omega
      rw [hcons, hmin, Nat.cast_add_one, add_comm]
      exact add_le_add (ih b) (score_mem (x, y)).2

/-- The total is at most the length of the longer list. -/
lemma total_le_max (a b : Text) : total a b ≤ (max a.length b.length : ℕ) :=
  (total_le_min a b).trans (Nat.cast_le.mpr min_le_max)

/-- **The greatest total** is that of the same jamo at all places of both lists. -/
lemma total_eq_max_iff (a b : Text) : total a b = (max a.length b.length : ℕ) ↔ a = b := by
  induction a generalizing b with
  | nil =>
    cases b with
    | nil => simp [total]
    | cons y b =>
      have hpos : (0 : ℚ) ≠ (b.length + 1 : ℕ) := (Nat.cast_ne_zero.mpr b.length.succ_ne_zero).symm
      simpa [total] using hpos
  | cons x a ih =>
    cases b with
    | nil =>
      have hpos : (0 : ℚ) ≠ (a.length + 1 : ℕ) := (Nat.cast_ne_zero.mpr a.length.succ_ne_zero).symm
      simpa [total] using hpos
    | cons y b =>
      have hcons : total (x :: a) (y :: b) = score (x, y) + total a b := by simp [total]
      have hmax : max (x :: a).length (y :: b).length = max a.length b.length + 1 := by
        simp only [List.length_cons]
        omega
      have hle := total_le_max a b
      have hscore := (score_mem (x, y)).2
      rw [hcons, hmax, Nat.cast_add_one, List.cons.injEq, ← ih, ← score_eq_one_iff (x, y)]
      constructor
      · intro h
        exact ⟨by linarith, by linarith⟩
      · rintro ⟨h₁, h₂⟩
        rw [h₁, h₂, add_comm]

/-- The similarity of two lists of jamo. -/
lemma jamoSimilarity_eq (toLowerCase : Text → Text) (a b : Text) :
    jamoSimilarity toLowerCase id a b =
      let jamoA := decomposeHangul (toLowerCase a)
      let jamoB := decomposeHangul (toLowerCase b)
      if max jamoA.length jamoB.length = 0 ∨ jamoA.length + 3 < jamoB.length ∨
        jamoB.length + 3 < jamoA.length then 0
      else total jamoA jamoB / (max jamoA.length jamoB.length : ℕ) := by
  simp only [jamoSimilarity, foldl_countMatch, zero_add, id, total]
  split
  · rename_i h
    rw [if_pos (.inl h)]
  · rename_i h
    simp only [or_iff_right h]

/-- **The similarity is a measure.** It is symmetric, between zero and one, and one exactly if both
texts in lower case have the same jamo, and some. -/
theorem jamoSimilarity_measure (toLowerCase : Text → Text) (a b : Text) :
    jamoSimilarity toLowerCase id a b = jamoSimilarity toLowerCase id b a ∧
    (0 ≤ jamoSimilarity toLowerCase id a b ∧ jamoSimilarity toLowerCase id a b ≤ 1) ∧
    (jamoSimilarity toLowerCase id a b = 1 ↔
      decomposeHangul (toLowerCase a) = decomposeHangul (toLowerCase b) ∧
        decomposeHangul (toLowerCase a) ≠ []) := by
  rw [jamoSimilarity_eq, jamoSimilarity_eq]
  generalize decomposeHangul (toLowerCase a) = jamoA
  generalize decomposeHangul (toLowerCase b) = jamoB
  dsimp only
  refine ⟨?_, ?_, ?_⟩
  · rw [total_comm, max_comm jamoB.length]
    exact if_congr (or_congr_right or_comm) rfl rfl
  · split
    · norm_num
    · have hnonneg : (0 : ℚ) ≤ (max jamoA.length jamoB.length : ℕ) := Nat.cast_nonneg _
      exact ⟨div_nonneg (total_nonneg jamoA jamoB) hnonneg,
        div_le_one_of_le₀ (total_le_max jamoA jamoB) hnonneg⟩
  · split
    · rename_i hzero
      refine iff_of_false (by norm_num) ?_
      rintro ⟨rfl, hne⟩
      have hpos := List.length_pos_iff.mpr hne
      rw [max_self] at hzero
      omega
    · rename_i hlength
      have hmax : ((max jamoA.length jamoB.length : ℕ) : ℚ) ≠ 0 :=
        Nat.cast_ne_zero.mpr fun h => hlength (.inl h)
      rw [div_eq_one_iff_eq hmax, total_eq_max_iff]
      refine (and_iff_left_of_imp ?_).symm
      rintro rfl rfl
      exact hlength (.inl rfl)

end Intent
