import Mathlib.Algebra.BigOperators.Group.List.Basic
import Mathlib.Algebra.GroupWithZero.Nat
import Mathlib.Data.List.Infix

set_option relaxedAutoImplicit false
set_option autoImplicit false

/-!
# Replacing words

A word is replaced in a text from left to right, and what has been put in its place is not read
again. A list of such rules is applied once, in its order. Whether some pattern occurs in the
result depends on how it can overlap with the words of the rules.

## Main definitions

* `Foundations.Rewriting.replaceAll` — all occurrences of a word that do not overlap, from the left.
* `Foundations.Rewriting.rewrite` — the rules of a list, one after the other.
* `Foundations.Rewriting.Clear`, `Free` — a pattern that no word begins in, or overlaps with.
* `Foundations.Rewriting.weight` — the sum of the weights of the letters.

## Main results

* `Foundations.Rewriting.replaceAll_append_append`, `exists_of_replaceAll_eq` — what is free of the
  words is left alone and is not made.
* `Foundations.Rewriting.infix_replaceAll_straddle`, `infix_replaceAll_longer` — a pattern that ends
  after a new word, and one that begins an old word.
* `Foundations.Rewriting.not_infix_of_weight_rewrite_eq`, `rewrite_eq_self` — rules that lower a
  weight change a text if and only if one of their words occurs in it.
-/

namespace Foundations

namespace Rewriting

/-! ## Overlaps -/

variable {α : Type*} {p w c : List α}

/-- The word `w` does not begin within `p`: no end of `p` can be continued to `w`, or contains it at
its beginning. -/
def Clear (p w : List α) : Prop := ∀ x ∈ p.tails, x ≠ [] → ¬ x <+: w ∧ ¬ w <+: x

/-- The pattern `p` does not overlap with the word `w`. -/
structure Free (p w : List α) : Prop where
  clear : Clear p w
  apart : ∀ x ∈ p.inits, x ≠ [] → ¬ x <:+ w
  outside : ¬ p <:+: w

instance [DecidableEq α] (p w : List α) : Decidable (Clear p w) :=
  inferInstanceAs (Decidable (∀ x ∈ p.tails, x ≠ [] → ¬ x <+: w ∧ ¬ w <+: x))

/-- Words without a common letter do not overlap. -/
lemma Free.of_disjoint (hp : p ≠ []) (hw : w ≠ []) (h : ∀ a ∈ p, a ∉ w) : Free p w := by
  have hcommon {x : List α} (hx : x ≠ []) (hxp : x ⊆ p) (hxw : x ⊆ w) : False := by
    obtain ⟨a, x, rfl⟩ := List.exists_cons_of_ne_nil hx
    exact h a (hxp List.mem_cons_self) (hxw List.mem_cons_self)
  refine ⟨fun x hx hne => ⟨fun hxw => ?_, fun hwx => ?_⟩, fun x hx hne hxw => ?_, fun hpw => ?_⟩
  · exact hcommon hne ((List.mem_tails _ _).mp hx).subset hxw.subset
  · exact hcommon hw (List.Subset.trans hwx.subset ((List.mem_tails _ _).mp hx).subset)
      (List.Subset.refl w)
  · exact hcommon hne ((List.mem_inits _ _).mp hx).subset hxw.subset
  · exact hcommon hp (List.Subset.refl p) hpw.subset

/-- Common letters are looked for first, as most words have none. -/
instance [DecidableEq α] (p w : List α) : Decidable (Free p w) :=
  decidable_of_iff ((p ≠ [] ∧ w ≠ [] ∧ ∀ a ∈ p, a ∉ w) ∨
      (Clear p w ∧ (∀ x ∈ p.inits, x ≠ [] → ¬ x <:+ w) ∧ ¬ p <:+: w))
    ⟨fun h => h.elim (fun h => .of_disjoint h.1 h.2.1 h.2.2) fun h => ⟨h.1, h.2.1, h.2.2⟩,
      fun h => .inr ⟨h.1, h.2, h.3⟩⟩

/-- The rest of a clear pattern is clear. -/
lemma Clear.tail {a : α} (h : Clear (a :: p) w) : Clear p w :=
  fun x hx => h x ((List.mem_tails _ _).mpr
    (((List.mem_tails _ _).mp hx).trans (List.suffix_cons a p)))

/-- An end of a clear pattern is clear. -/
lemma Clear.suffix {q : List α} (h : Clear p w) (hq : q <:+ p) : Clear q w :=
  fun x hx => h x ((List.mem_tails _ _).mpr (((List.mem_tails _ _).mp hx).trans hq))

/-- A free pattern is not empty. -/
lemma Free.ne_nil (h : Free p w) : p ≠ [] := by
  rintro rfl
  exact h.outside List.nil_infix

/-- A free pattern after a word is after it. -/
lemma Free.eq_append (h : Free p c) {r x y : List α} (heq : c ++ r = x ++ (p ++ y)) :
    ∃ z, x = c ++ z ∧ r = z ++ (p ++ y) := by
  rcases List.append_eq_append_iff.mp heq with ⟨z, hx, hr⟩ | ⟨z, hc, hr⟩
  · exact ⟨z, hx, hr⟩
  · cases z with
    | nil => exact ⟨[], by simpa using hc.symm, by simpa using hr.symm⟩
    | cons a z =>
      -- the letters `z` would belong to both
      have hstart : a :: z <+: p ++ y := hr ▸ List.prefix_append _ _
      rcases List.prefix_or_prefix_of_prefix hstart (List.prefix_append p y) with hz | hz
      · exact (h.apart _ ((List.mem_inits _ _).mpr hz) (List.cons_ne_nil a z)
          ⟨x, hc.symm⟩).elim
      · exact (h.outside (hz.isInfix.trans ⟨x, [], by rw [List.append_nil, hc]⟩)).elim

/-- No beginning of the word is an end of it. -/
def Unbordered (w : List α) : Prop := ∀ x ∈ w.inits, x ≠ [] → x ≠ w → ¬ x <:+ w

instance [DecidableEq α] (w : List α) : Decidable (Unbordered w) :=
  inferInstanceAs (Decidable (∀ x ∈ w.inits, x ≠ [] → x ≠ w → ¬ x <:+ w))

/-! ## Replacing a word -/

variable [DecidableEq α] {t : List α}

/-- The replacement of `w` by `c`, after the letters that belong to the last occurrence. -/
def scan (w c : List α) : ℕ → List α → List α
  | _, [] => []
  | skip + 1, _ :: t => scan w c skip t
  | 0, a :: t => if w <+: a :: t then c ++ scan w c (w.length - 1) t else a :: scan w c 0 t

/-- All occurrences of `w` are replaced by `c`. -/
def replaceAll (w c t : List α) : List α := scan w c 0 t

/-- Letters that are skipped are left out. -/
lemma scan_eq (n : ℕ) (t : List α) : scan w c n t = replaceAll w c (t.drop n) := by
  induction n generalizing t with
  | zero => rfl
  | succ n ih =>
    cases t with
    | nil => rfl
    | cons a t => exact ih t

/-- Nothing is left of nothing. -/
@[simp] lemma replaceAll_nil : replaceAll w c [] = [] := rfl

/-- Where the word does not begin, a letter is kept. -/
lemma replaceAll_cons {a : α} {t : List α} (h : ¬ w <+: a :: t) :
    replaceAll w c (a :: t) = a :: replaceAll w c t := if_neg h

/-- Where it begins, it is replaced. -/
lemma replaceAll_append (hw : w ≠ []) (t : List α) :
    replaceAll w c (w ++ t) = c ++ replaceAll w c t := by
  obtain ⟨a, w, rfl⟩ := List.exists_cons_of_ne_nil hw
  rw [List.cons_append]
  refine (if_pos (List.prefix_append (a :: w) t)).trans ?_
  rw [scan_eq, List.length_cons, Nat.add_sub_cancel, List.drop_left]

/-- **Induction along a scan** for a word. -/
lemma scan_induction {P : List α → Prop} (hw : w ≠ []) (nil : P [])
    (keep : ∀ a t, ¬ w <+: a :: t → P t → P (a :: t)) (hit : ∀ t, P t → P (w ++ t)) :
    ∀ t, P t
  | [] => nil
  | a :: t => by
    by_cases h : w <+: a :: t
    · obtain ⟨rest, hrest⟩ := h
      have hlt : rest.length < (a :: t).length := by
        rw [← hrest, List.length_append]
        exact Nat.lt_add_of_pos_left (List.length_pos_iff.mpr hw)
      rw [← hrest]
      exact hit rest (scan_induction hw nil keep hit rest)
    · exact keep a t h (scan_induction hw nil keep hit t)
termination_by t => t.length
decreasing_by
  · exact hlt
  · exact Nat.lt_succ_self t.length

/-! ## Patterns without overlaps -/

/-- A clear pattern at the beginning is left alone. -/
lemma replaceAll_clear_append (h : Clear p w) (t : List α) :
    replaceAll w c (p ++ t) = p ++ replaceAll w c t := by
  induction p with
  | nil => rfl
  | cons a p ih =>
    have hhead := h (a :: p) ((List.mem_tails _ _).mpr (List.suffix_refl _)) (List.cons_ne_nil a p)
    have hno : ¬ w <+: a :: (p ++ t) := fun hw =>
      (List.prefix_or_prefix_of_prefix hw (List.prefix_append (a :: p) t)).elim hhead.2 hhead.1
    rw [List.cons_append, replaceAll_cons hno, ih h.tail, List.cons_append]

/-- A clear pattern at the beginning of the result was there. -/
lemma exists_of_replaceAll_eq_append (hw : w ≠ []) (h : Clear p c) {y' : List α}
    (heq : replaceAll w c t = p ++ y') : ∃ y, t = p ++ y ∧ replaceAll w c y = y' := by
  induction p generalizing t with
  | nil => exact ⟨t, rfl, heq⟩
  | cons a p ih =>
    cases t with
    | nil => cases heq
    | cons b t =>
      by_cases hhit : w <+: b :: t
      · -- the new word would overlap with the pattern
        obtain ⟨rest, hrest⟩ := hhit
        rw [← hrest, replaceAll_append hw] at heq
        have hhead := h (a :: p) ((List.mem_tails _ _).mpr (List.suffix_refl _))
          (List.cons_ne_nil a p)
        have hstart : a :: p <+: c ++ replaceAll w c rest := heq ▸ List.prefix_append _ _
        exact ((List.prefix_or_prefix_of_prefix hstart (List.prefix_append c _)).elim hhead.1
          hhead.2).elim
      · rw [replaceAll_cons hhit, List.cons_append] at heq
        obtain ⟨rfl, htail⟩ := List.cons.inj heq
        obtain ⟨y, rfl, hy⟩ := ih h.tail htail
        exact ⟨y, rfl, hy⟩

/-- **A free pattern is left alone**, and the texts before and after it are scanned by
themselves. -/
lemma replaceAll_append_append (hw : w ≠ []) (h : Free p w) (x y : List α) :
    replaceAll w c (x ++ (p ++ y)) = replaceAll w c x ++ (p ++ replaceAll w c y) := by
  induction x using scan_induction hw with
  | nil => exact replaceAll_clear_append h.clear y
  | keep a x hno ih =>
    have hno' : ¬ w <+: a :: (x ++ (p ++ y)) := by
      rintro ⟨r, hr⟩
      obtain ⟨z, hz, -⟩ := h.eq_append (x := a :: x) hr
      exact hno ⟨z, hz.symm⟩
    rw [List.cons_append, replaceAll_cons hno', ih, replaceAll_cons hno, List.cons_append]
  | hit x ih =>
    rw [List.append_assoc, replaceAll_append hw, ih, replaceAll_append hw, List.append_assoc]

/-- **A free pattern is not made**: it was there, and the texts before and after it are scanned by
themselves. -/
lemma exists_of_replaceAll_eq (hw : w ≠ []) (h : Free p c) {x' y' : List α}
    (heq : replaceAll w c t = x' ++ (p ++ y')) :
    ∃ x y, t = x ++ (p ++ y) ∧ replaceAll w c x = x' ∧ replaceAll w c y = y' := by
  induction t using scan_induction hw generalizing x' with
  | nil =>
    have hnil := congrArg (List.drop x'.length) heq
    rw [replaceAll_nil, List.drop_nil, List.drop_left] at hnil
    exact (h.ne_nil (List.append_eq_nil_iff.mp hnil.symm).1).elim
  | keep a t hno ih =>
    rw [replaceAll_cons hno] at heq
    cases x' with
    | nil =>
      rw [← replaceAll_cons hno] at heq
      obtain ⟨y, ht, hy⟩ := exists_of_replaceAll_eq_append hw h.clear heq
      exact ⟨[], y, ht, rfl, hy⟩
    | cons b x' =>
      obtain ⟨rfl, htail⟩ := List.cons.inj heq
      obtain ⟨x, y, rfl, hx, hy⟩ := ih htail
      have hno' : ¬ w <+: a :: x := fun hx => hno (hx.trans (List.prefix_append (a :: x) _))
      exact ⟨a :: x, y, rfl, by rw [replaceAll_cons hno', hx], hy⟩
  | hit t ih =>
    rw [replaceAll_append hw] at heq
    obtain ⟨z, rfl, hz⟩ := h.eq_append heq
    obtain ⟨x, y, rfl, hx, hy⟩ := ih hz
    exact ⟨w ++ x, y, (List.append_assoc _ _ _).symm, by rw [replaceAll_append hw, hx], hy⟩

/-- A free pattern occurs if it did. -/
lemma infix_of_infix_replaceAll (hw : w ≠ []) (h : Free p c) (hp : p <:+: replaceAll w c t) :
    p <:+: t := by
  obtain ⟨x', y', heq⟩ := hp
  rw [List.append_assoc] at heq
  obtain ⟨x, y, rfl, -, -⟩ := exists_of_replaceAll_eq hw h heq.symm
  exact ⟨x, y, List.append_assoc x p y⟩

/-- A pattern that is free of both words occurs if and only if it did. -/
lemma infix_replaceAll_iff (hw : w ≠ []) (hpw : Free p w) (hpc : Free p c) :
    p <:+: replaceAll w c t ↔ p <:+: t := by
  refine ⟨infix_of_infix_replaceAll hw hpc, ?_⟩
  rintro ⟨x, y, rfl⟩
  rw [List.append_assoc, replaceAll_append_append hw hpw]
  exact ⟨_, _, List.append_assoc _ _ _⟩

/-- A word that is free of what replaces it does not occur any more. -/
lemma not_infix_replaceAll (h : Free w c) : ¬ w <:+: replaceAll w c t := by
  have hw := h.ne_nil
  induction t using scan_induction hw with
  | nil => exact fun hoccurs => hw (List.infix_nil.mp hoccurs)
  | keep a t hno ih =>
    rw [replaceAll_cons hno, List.infix_cons_iff, not_or]
    refine ⟨fun hstart => hno ?_, ih⟩
    obtain ⟨y', hy'⟩ := hstart
    rw [← replaceAll_cons hno] at hy'
    obtain ⟨y, hy, -⟩ := exists_of_replaceAll_eq_append hw h.clear hy'.symm
    exact ⟨y, hy.symm⟩
  | hit t ih =>
    rw [replaceAll_append hw]
    rintro ⟨x, y, heq⟩
    rw [List.append_assoc] at heq
    obtain ⟨z, -, hz⟩ := h.eq_append heq.symm
    exact ih ⟨z, y, by rw [List.append_assoc, hz]⟩

/-! ## Patterns with an overlap -/

/-- An unbordered word is replaced wherever it occurs, and the texts before and after it are scanned
by themselves. -/
lemma replaceAll_append_self (hw : w ≠ []) (h : Unbordered w) (x y : List α) :
    replaceAll w c (x ++ (w ++ y)) = replaceAll w c x ++ (c ++ replaceAll w c y) := by
  induction x using scan_induction hw with
  | nil => exact replaceAll_append hw y
  | keep a x hno ih =>
    have hno' : ¬ w <+: a :: (x ++ (w ++ y)) := by
      rintro ⟨r, hr⟩
      rcases List.append_eq_append_iff.mp (show w ++ r = (a :: x) ++ (w ++ y) from hr) with
        ⟨z, hz, -⟩ | ⟨z, hz, hy⟩
      · exact hno ⟨z, hz.symm⟩
      · -- the letters `z` would belong to two occurrences
        have hlt : z.length < w.length := by
          rw [hz, List.length_append, List.length_cons]
          omega
        have hstart : z <+: w := List.prefix_of_prefix_length_le
          (hy ▸ List.prefix_append z r) (List.prefix_append w y) hlt.le
        have hnil : z = [] := by
          by_contra hne
          exact h z ((List.mem_inits _ _).mpr hstart) hne (by rintro rfl; omega) ⟨a :: x, hz.symm⟩
        exact hno ⟨[], by rw [List.append_nil, hz, hnil, List.append_nil]⟩
    rw [List.cons_append, replaceAll_cons hno', ih, replaceAll_cons hno, List.cons_append]
  | hit x ih =>
    rw [List.append_assoc, replaceAll_append hw, ih, replaceAll_append hw, List.append_assoc]

/-- A pattern of which the first part can be the end of the new word, and which overlaps in no other
way. -/
structure Straddles (w c p₁ p₂ : List α) : Prop where
  free : Free (p₁ ++ p₂) w
  clear : Clear (p₁ ++ p₂) c
  outside : ¬ p₁ ++ p₂ <:+: c
  split : ∀ x ∈ (p₁ ++ p₂).inits, x ≠ [] → x <:+ c → x = p₁
  suffix : p₁ <:+ c
  unbordered : Unbordered w

instance (w c p₁ p₂ : List α) : Decidable (Straddles w c p₁ p₂) :=
  decidable_of_iff (Free (p₁ ++ p₂) w ∧ Clear (p₁ ++ p₂) c ∧ ¬ p₁ ++ p₂ <:+: c ∧
    (∀ x ∈ (p₁ ++ p₂).inits, x ≠ [] → x <:+ c → x = p₁) ∧ p₁ <:+ c ∧ Unbordered w)
    ⟨fun h => ⟨h.1, h.2.1, h.2.2.1, h.2.2.2.1, h.2.2.2.2.1, h.2.2.2.2.2⟩,
      fun h => ⟨h.1, h.2, h.3, h.4, h.5, h.6⟩⟩

/-- **A pattern that ends after a new word** was there, or its second part was after the old one. -/
lemma infix_replaceAll_straddle (hw : w ≠ []) {p₁ p₂ : List α} (h : Straddles w c p₁ p₂) :
    p₁ ++ p₂ <:+: replaceAll w c t ↔ p₁ ++ p₂ <:+: t ∨ w ++ p₂ <:+: t := by
  constructor
  · induction t using scan_induction hw with
    | nil => exact .inl
    | keep a t hno ih =>
      rw [replaceAll_cons hno, List.infix_cons_iff]
      rintro (⟨y', hy'⟩ | hoccurs)
      · rw [← replaceAll_cons hno] at hy'
        obtain ⟨y, hy, -⟩ := exists_of_replaceAll_eq_append hw h.clear hy'.symm
        exact .inl ⟨[], y, by rw [List.nil_append, hy]⟩
      · have hcons : t <:+: a :: t := (List.suffix_cons a t).isInfix
        exact (ih hoccurs).imp (·.trans hcons) (·.trans hcons)
    | hit t ih =>
      have hafter : t <:+: w ++ t := (List.suffix_append w t).isInfix
      rw [replaceAll_append hw, List.infix_append_iff]
      rintro (hoccurs | hoccurs | ⟨x, y, hsplit, hx, hy⟩)
      · exact (h.outside hoccurs).elim
      · exact (ih hoccurs).imp (·.trans hafter) (·.trans hafter)
      · by_cases hnil : x = []
        · rw [hnil, List.nil_append] at hsplit
          exact (ih (hsplit ▸ hy.isInfix)).imp (·.trans hafter) (·.trans hafter)
        · -- the first part is in the new word, and the second one after it
          have hfirst := h.split x ((List.mem_inits _ _).mpr ⟨y, hsplit.symm⟩) hnil hx
          rw [hfirst, List.append_cancel_left_eq] at hsplit
          subst hsplit
          obtain ⟨y', hy'⟩ := hy
          obtain ⟨rest, rfl, -⟩ := exists_of_replaceAll_eq_append hw
            (h.clear.suffix (List.suffix_append p₁ p₂)) hy'.symm
          exact .inr ⟨[], rest, by rw [List.nil_append, List.append_assoc]⟩
  · rintro (⟨x, y, rfl⟩ | ⟨x, y, rfl⟩)
    · rw [List.append_assoc, replaceAll_append_append hw h.free]
      exact ⟨_, _, List.append_assoc _ _ _⟩
    · obtain ⟨c', rfl⟩ := h.suffix
      rw [List.append_assoc, List.append_assoc, replaceAll_append_self hw h.unbordered,
        replaceAll_clear_append (h.free.clear.suffix (List.suffix_append p₁ p₂))]
      exact ⟨replaceAll w (c' ++ p₁) x ++ c', replaceAll w (c' ++ p₁) y, by simp⟩

/-- The pattern `p` occurs, and is not followed by `s`. -/
def OccursWithout (p s t : List α) : Prop := ∃ x y, t = x ++ (p ++ y) ∧ ¬ s <+: y

/-- A word that begins with a pattern, which overlaps with it in no other way. -/
structure Extends (p s c : List α) : Prop where
  free : Free p c
  tail : Clear p.tail (p ++ s)
  apart : ∀ x ∈ p.inits, x ≠ [] → ¬ x <:+ p ++ s
  inside : ¬ p <:+: (p ++ s).tail

instance (p s c : List α) : Decidable (Extends p s c) :=
  decidable_of_iff (Free p c ∧ Clear p.tail (p ++ s) ∧
    (∀ x ∈ p.inits, x ≠ [] → ¬ x <:+ p ++ s) ∧ ¬ p <:+: (p ++ s).tail)
    ⟨fun h => ⟨h.1, h.2.1, h.2.2.1, h.2.2.2⟩, fun h => ⟨h.1, h.2, h.3, h.4⟩⟩

/-- **A pattern that begins an old word** is left where something else follows it.

**Proof sketch.** Each direction is an induction over the scan for the old word. A pattern in the
result cannot touch a new word, since these have no letter in common at their ends, so it comes from
letters that were kept, where the old word was not found. Conversely, a pattern that is not followed
by the rest of the old word is kept: an old word that overlapped it from the left would end with a
part of the pattern, or contain it within. -/
lemma infix_replaceAll_longer {s : List α} (h : Extends p s c) :
    p <:+: replaceAll (p ++ s) c t ↔ OccursWithout p s t := by
  have hw : p ++ s ≠ [] := List.append_ne_nil_of_left_ne_nil h.free.ne_nil s
  constructor
  · induction t using scan_induction hw with
    | nil => exact fun hoccurs => (h.free.ne_nil (List.infix_nil.mp hoccurs)).elim
    | keep a t hno ih =>
      rw [replaceAll_cons hno, List.infix_cons_iff]
      rintro (⟨y', hy'⟩ | hoccurs)
      · rw [← replaceAll_cons hno] at hy'
        obtain ⟨y, hy, -⟩ := exists_of_replaceAll_eq_append hw h.free.clear hy'.symm
        refine ⟨[], y, hy, fun hs => hno ?_⟩
        rw [hy, List.prefix_append_right_inj]
        exact hs
      · obtain ⟨x, y, rfl, hy⟩ := ih hoccurs
        exact ⟨a :: x, y, rfl, hy⟩
    | hit t ih =>
      rw [replaceAll_append hw]
      rintro ⟨x', y', heq⟩
      rw [List.append_assoc] at heq
      obtain ⟨z, -, hz⟩ := h.free.eq_append heq.symm
      obtain ⟨x, y, rfl, hy⟩ := ih ⟨z, y', by rw [List.append_assoc, hz]⟩
      exact ⟨p ++ s ++ x, y, (List.append_assoc _ _ _).symm, hy⟩
  · rintro ⟨x, y, rfl, hy⟩
    induction x using scan_induction hw with
    | nil =>
      obtain ⟨a, q, rfl⟩ := List.exists_cons_of_ne_nil h.free.ne_nil
      have hno : ¬ a :: q ++ s <+: a :: (q ++ y) := fun hstart =>
        hy ((List.prefix_append_right_inj (a :: q)).mp hstart)
      have hkept : replaceAll (a :: q ++ s) c (a :: (q ++ y)) =
          a :: q ++ replaceAll (a :: q ++ s) c y := by
        rw [replaceAll_cons hno]
        exact congrArg _ (replaceAll_clear_append h.tail y)
      show a :: q <:+: replaceAll (a :: q ++ s) c (a :: (q ++ y))
      rw [hkept]
      exact (List.prefix_append (a :: q) _).isInfix
    | keep a x hno ih =>
      have hno' : ¬ p ++ s <+: a :: (x ++ (p ++ y)) := by
        rintro ⟨r, hr⟩
        rcases List.append_eq_append_iff.mp (show p ++ s ++ r = (a :: x) ++ (p ++ y) from hr) with
          ⟨z, hz, -⟩ | ⟨z, hz, hrest⟩
        · exact hno ⟨z, hz.symm⟩
        · by_cases hnil : z = []
          · exact hno ⟨[], by rw [List.append_nil, hz, hnil, List.append_nil]⟩
          -- the letters `z` would belong to both
          rcases List.prefix_or_prefix_of_prefix (hrest ▸ List.prefix_append z r)
            (List.prefix_append p y) with hstart | hstart
          · exact h.apart z ((List.mem_inits _ _).mpr hstart) hnil ⟨a :: x, hz.symm⟩
          · refine h.inside (hstart.isInfix.trans ?_)
            rw [hz]
            exact (List.suffix_append x z).isInfix
      rw [List.cons_append, replaceAll_cons hno']
      exact ih.trans (List.suffix_cons a _).isInfix
    | hit x ih =>
      rw [List.append_assoc, replaceAll_append hw]
      exact ih.trans (List.suffix_append c _).isInfix

/-- Where a free pattern is not followed by something else that is clear of the words. -/
lemma occursWithout_replaceAll_iff (hw : w ≠ []) {s : List α} (hpw : Free p w) (hpc : Free p c)
    (hsw : Clear s w) (hsc : Clear s c) :
    OccursWithout p s (replaceAll w c t) ↔ OccursWithout p s t := by
  have hfollow (y : List α) : s <+: replaceAll w c y ↔ s <+: y := by
    constructor
    · rintro ⟨y', hy'⟩
      obtain ⟨rest, rfl, -⟩ := exists_of_replaceAll_eq_append hw hsc hy'.symm
      exact List.prefix_append s rest
    · rintro ⟨rest, rfl⟩
      rw [replaceAll_clear_append hsw]
      exact List.prefix_append s _
  constructor
  · rintro ⟨x', y', heq, hy'⟩
    obtain ⟨x, y, rfl, -, rfl⟩ := exists_of_replaceAll_eq hw hpc heq
    exact ⟨x, y, rfl, fun hs => hy' ((hfollow y).mpr hs)⟩
  · rintro ⟨x, y, rfl, hy⟩
    exact ⟨_, _, replaceAll_append_append hw hpw x y, fun hs => hy ((hfollow y).mp hs)⟩

/-! ## Lists of rules -/

/-- The rules of a list, each a word and what replaces it, one after the other. -/
def rewrite (rules : List (List α × List α)) (t : List α) : List α :=
  rules.foldl (fun t rule => replaceAll rule.1 rule.2 t) t

/-- The first rule goes first. -/
lemma rewrite_cons (rule : List α × List α) (rules : List (List α × List α)) (t : List α) :
    rewrite (rule :: rules) t = rewrite rules (replaceAll rule.1 rule.2 t) := rfl

/-- Rules that follow others. -/
lemma rewrite_append (rules rules' : List (List α × List α)) (t : List α) :
    rewrite (rules ++ rules') t = rewrite rules' (rewrite rules t) := List.foldl_append

/-- A rule of a list, with the rules before and after it. -/
lemma rewrite_eq_getElem (rules : List (List α × List α)) (n : ℕ) (hn : n < rules.length)
    (t : List α) : rewrite rules t =
      rewrite (rules.drop (n + 1))
        (replaceAll rules[n].1 rules[n].2 (rewrite (rules.take n) t)) := by
  rw [← rewrite_cons, List.getElem_cons_drop, ← rewrite_append, List.take_append_drop]

variable {rules : List (List α × List α)}

/-- **What every rule keeps is kept by all.** -/
lemma rewrite_induction {P : List α → Prop}
    (hstep : ∀ rule ∈ rules, ∀ t, P t → P (replaceAll rule.1 rule.2 t)) (h : P t) :
    P (rewrite rules t) := by
  induction rules generalizing t with
  | nil => exact h
  | cons rule rules ih =>
    obtain ⟨hrule, hrules⟩ := List.forall_mem_cons.mp hstep
    exact ih hrules (hrule t h)

/-- What holds after every rule if and only if it did before. -/
lemma rewrite_iff {P : List α → Prop}
    (hstep : ∀ rule ∈ rules, ∀ t, P (replaceAll rule.1 rule.2 t) ↔ P t) :
    P (rewrite rules t) ↔ P t := by
  induction rules generalizing t with
  | nil => exact Iff.rfl
  | cons rule rules ih =>
    obtain ⟨hrule, hrules⟩ := List.forall_mem_cons.mp hstep
    exact (ih hrules).trans (hrule t)

/-- A pattern that no rule makes occurs if it did. -/
lemma infix_of_infix_rewrite (hne : ∀ rule ∈ rules, rule.1 ≠ [])
    (hfree : ∀ rule ∈ rules, Free p rule.2) (h : p <:+: rewrite rules t) : p <:+: t := by
  by_contra hno
  exact rewrite_induction (P := fun u => ¬ p <:+: u) (fun rule hrule u hu hoccurs =>
    hu (infix_of_infix_replaceAll (hne rule hrule) (hfree rule hrule) hoccurs)) hno h

/-- A pattern that is free of all words occurs if and only if it did. -/
lemma infix_rewrite_iff (hne : ∀ rule ∈ rules, rule.1 ≠ [])
    (hfree : ∀ rule ∈ rules, Free p rule.1 ∧ Free p rule.2) :
    p <:+: rewrite rules t ↔ p <:+: t :=
  rewrite_iff fun rule hrule _ =>
    infix_replaceAll_iff (hne rule hrule) (hfree rule hrule).1 (hfree rule hrule).2

/-- **A word that has a rule and is not made** does not occur in the end. -/
lemma not_infix_rewrite (hne : ∀ rule ∈ rules, rule.1 ≠ []) (hmem : ∃ rule ∈ rules, rule.1 = w)
    (hfree : ∀ rule ∈ rules, Free w rule.2) : ¬ w <:+: rewrite rules t := by
  obtain ⟨rule, hrule, rfl⟩ := hmem
  obtain ⟨before, after, rfl⟩ := List.append_of_mem hrule
  rw [rewrite_append, rewrite_cons]
  intro hoccurs
  have hafter : ∀ r ∈ after, r ∈ before ++ rule :: after := fun r hr =>
    List.mem_append_right _ (List.mem_cons_of_mem rule hr)
  exact not_infix_replaceAll (hfree rule hrule) (infix_of_infix_rewrite
    (fun r hr => hne r (hafter r hr)) (fun r hr => hfree r (hafter r hr)) hoccurs)

/-! ## Weights -/

/-- The sum of the weights of the letters. -/
def weight (f : α → ℕ) (t : List α) : ℕ := (t.map f).sum

variable {f : α → ℕ}

omit [DecidableEq α] in
/-- The weight of two texts. -/
lemma weight_append (f : α → ℕ) (t u : List α) : weight f (t ++ u) = weight f t + weight f u := by
  rw [weight, List.map_append, List.sum_append]
  rfl

/-- A word that does not occur is not replaced. -/
lemma replaceAll_eq_self (h : ¬ w <:+: t) : replaceAll w c t = t := by
  induction t with
  | nil => rfl
  | cons a t ih =>
    rw [List.infix_cons_iff, not_or] at h
    rw [replaceAll_cons h.1, ih h.2]

/-- What is replaced by itself stays. -/
lemma replaceAll_self (hw : w ≠ []) (t : List α) : replaceAll w w t = t := by
  induction t using scan_induction hw with
  | nil => rfl
  | keep a t hno ih => rw [replaceAll_cons hno, ih]
  | hit t ih => rw [replaceAll_append hw, ih]

/-- Lighter words do not make a text heavier. -/
lemma weight_replaceAll_le (hw : w ≠ []) (h : weight f c ≤ weight f w) (t : List α) :
    weight f (replaceAll w c t) ≤ weight f t := by
  induction t using scan_induction hw with
  | nil => exact le_rfl
  | keep a t hno ih =>
    rw [replaceAll_cons hno]
    exact Nat.add_le_add_left ih (f a)
  | hit t ih =>
    rw [replaceAll_append hw, weight_append, weight_append]
    exact Nat.add_le_add h ih

/-- Lighter words make a text lighter. -/
lemma weight_replaceAll_lt (h : weight f c < weight f w) (hoccurs : w <:+: t) :
    weight f (replaceAll w c t) < weight f t := by
  have hw : w ≠ [] := by
    rintro rfl
    exact absurd h (Nat.not_lt_zero _)
  induction t using scan_induction hw with
  | nil => exact (hw (List.infix_nil.mp hoccurs)).elim
  | keep a t hno ih =>
    rw [replaceAll_cons hno]
    exact Nat.add_lt_add_left (ih ((List.infix_cons_iff.mp hoccurs).resolve_left hno)) (f a)
  | hit t ih =>
    rw [replaceAll_append hw, weight_append, weight_append]
    exact Nat.add_lt_add_of_lt_of_le h (weight_replaceAll_le hw h.le t)

/-- A rule puts something lighter in the place of a word, or the word itself. -/
def Lightens (f : α → ℕ) (rule : List α × List α) : Prop :=
  rule.1 ≠ [] ∧ (rule.1 = rule.2 ∨ weight f rule.2 < weight f rule.1)

instance (f : α → ℕ) (rule : List α × List α) : Decidable (Lightens f rule) :=
  inferInstanceAs (Decidable (_ ∧ _))

/-- A rule that lightens does not make a text heavier. -/
lemma Lightens.le {rule : List α × List α} (h : Lightens f rule) (t : List α) :
    weight f (replaceAll rule.1 rule.2 t) ≤ weight f t :=
  weight_replaceAll_le h.1 (h.2.elim (fun heq => by rw [heq]) le_of_lt) t

/-- Rules that lighten do not make a text heavier. -/
lemma weight_rewrite_le (h : ∀ rule ∈ rules, Lightens f rule) (t : List α) :
    weight f (rewrite rules t) ≤ weight f t :=
  rewrite_induction (P := fun u => weight f u ≤ weight f t)
    (fun rule hrule u hu => ((h rule hrule).le u).trans hu) le_rfl

/-- A text that does not become lighter has none of the words that are changed. -/
lemma not_infix_of_weight_rewrite_eq (h : ∀ rule ∈ rules, Lightens f rule)
    (heq : weight f (rewrite rules t) = weight f t) :
    ∀ rule ∈ rules, rule.1 ≠ rule.2 → ¬ rule.1 <:+: t := by
  induction rules with
  | nil => exact fun _ hmem => absurd hmem List.not_mem_nil
  | cons first rules ih =>
    obtain ⟨hfirst, hrules⟩ := List.forall_mem_cons.mp h
    rw [rewrite_cons] at heq
    have hle := weight_rewrite_le hrules (replaceAll first.1 first.2 t)
    have hfirst' : first.1 ≠ first.2 → ¬ first.1 <:+: t := fun hne hoccurs => by
      have hlt := weight_replaceAll_lt (hfirst.2.resolve_left hne) hoccurs
      omega
    have hself : replaceAll first.1 first.2 t = t := by
      by_cases hne : first.1 = first.2
      · rw [← hne, replaceAll_self hfirst.1]
      · exact replaceAll_eq_self (hfirst' hne)
    rw [hself] at heq
    exact List.forall_mem_cons.mpr ⟨hfirst', ih hrules heq⟩

/-- A text without the words that are changed is not changed. -/
lemma rewrite_eq_self (h : ∀ rule ∈ rules, Lightens f rule)
    (hno : ∀ rule ∈ rules, rule.1 ≠ rule.2 → ¬ rule.1 <:+: t) : rewrite rules t = t := by
  refine rewrite_induction (P := fun u => u = t) (fun rule hrule u hu => ?_) rfl
  rw [hu]
  by_cases hne : rule.1 = rule.2
  · rw [← hne, replaceAll_self (h rule hrule).1]
  · exact replaceAll_eq_self (hno rule hrule hne)

end Rewriting

end Foundations
