import Mathlib.Algebra.BigOperators.Group.List.Basic
import Mathlib.Algebra.GroupWithZero.Nat
import Mathlib.Data.List.Nodup

set_option relaxedAutoImplicit false
set_option autoImplicit false

/-!
# Insertion-ordered maps

The `Map` of ECMAScript: a finite map whose iteration order is the order in which its keys were
first inserted. Setting an existing key keeps its place, deleting a key and setting it again
moves it to the end.

## Main definitions

* `Foundations.JsMap` — a list of entries with pairwise distinct keys.
* `Foundations.JsMap.get`, `set`, `delete`, `update` — the operations.
* `Foundations.JsMap.restrict` — the entries whose keys satisfy a predicate.
* `Foundations.JsMap.total` — the sum of a weight over all entries.

## Main results

* `Foundations.JsMap.get_set`, `get_delete`, `get_restrict` — the lookup laws.
* `Foundations.JsMap.restrict_set_of_pos`, `restrict_set_of_neg` — setting a key commutes with a
  restriction that keeps the key and is invisible to one that does not.
* `Foundations.JsMap.total_set_le`, `total_update` — the effect of `set` and `update` on a total.
-/

namespace Foundations

variable {κ α : Type*} [DecidableEq κ]

/-! ## Association lists -/

namespace Assoc

/-- The value stored under a key. -/
def get (k : κ) : List (κ × α) → Option α
  | [] => none
  | e :: l => if e.1 = k then some e.2 else get k l

/-- Replace the value of a key in place, or append a new entry. -/
def set (k : κ) (v : α) : List (κ × α) → List (κ × α)
  | [] => [(k, v)]
  | e :: l => if e.1 = k then (k, v) :: l else e :: set k v l

/-- A key is present exactly when it is listed. -/
lemma get_eq_none_iff (k : κ) (l : List (κ × α)) : get k l = none ↔ k ∉ l.map Prod.fst := by
  induction l with
  | nil => simp [get]
  | cons e l ih =>
    by_cases h : e.1 = k
    · simp [get, h]
    · simp [get, h, ih, Ne.symm h]

/-- `set` keeps the listed keys and appends the key if it is new. -/
lemma map_fst_set (k : κ) (v : α) (l : List (κ × α)) :
    (set k v l).map Prod.fst =
      if k ∈ l.map Prod.fst then l.map Prod.fst else l.map Prod.fst ++ [k] := by
  induction l with
  | nil => simp [set]
  | cons e l ih =>
    by_cases h : e.1 = k
    · simp [set, h]
    · have h' : ¬ k = e.1 := fun hk => h hk.symm
      simp only [set, h, if_false, List.map_cons, ih, List.mem_cons, h', false_or]
      split <;> simp

/-- Looking up after a `set`. -/
lemma get_set (k k' : κ) (v : α) (l : List (κ × α)) :
    get k' (set k v l) = if k = k' then some v else get k' l := by
  induction l with
  | nil => simp [set, get]
  | cons e l ih =>
    by_cases h : e.1 = k
    · by_cases hk : k = k' <;> simp [set, get, h, hk]
    · simp only [set, h, if_false, get, ih]
      by_cases hk : k = k'
      · have : ¬ e.1 = k' := fun he => h (he.trans hk.symm)
        simp [hk, this]
      · simp [hk]

/-- Only the last of two assignments counts. -/
lemma set_set (k : κ) (v w : α) (l : List (κ × α)) : set k w (set k v l) = set k w l := by
  induction l with
  | nil => simp [set]
  | cons e l ih =>
    by_cases h : e.1 = k
    · simp [set, h]
    · simp [set, h, ih]

/-- Looking up in the entries whose keys satisfy `p`. -/
lemma get_filter (p : κ → Bool) (k : κ) (l : List (κ × α)) :
    get k (l.filter fun e => p e.1) = if p k then get k l else none := by
  induction l with
  | nil => simp [get]
  | cons e l ih =>
    by_cases hp : p e.1 = true
    · rw [List.filter_cons, if_pos hp]
      by_cases h : e.1 = k
      · have hpk : p k = true := h ▸ hp
        simp [get, h, hpk]
      · simp [get, h, ih]
    · rw [List.filter_cons, if_neg hp, ih]
      by_cases h : e.1 = k
      · have hpk : ¬ p k = true := h ▸ hp
        simp [hpk]
      · simp [get, h]

/-- `set` commutes with a filter that keeps the key. -/
lemma filter_set_of_pos {p : κ → Bool} {k : κ} (hp : p k = true) (v : α) (l : List (κ × α)) :
    (set k v l).filter (fun e => p e.1) = set k v (l.filter fun e => p e.1) := by
  induction l with
  | nil => simp [set, hp]
  | cons e l ih =>
    by_cases h : e.1 = k
    · have he : p e.1 = true := h ▸ hp
      simp [set, h, hp]
    · by_cases hpe : p e.1 = true
      · simp [set, h, hpe, ih]
      · simp [set, h, hpe, ih]

/-- `set` is invisible to a filter that drops the key. -/
lemma filter_set_of_neg {p : κ → Bool} {k : κ} (hp : p k = false) (v : α) (l : List (κ × α)) :
    (set k v l).filter (fun e => p e.1) = l.filter fun e => p e.1 := by
  induction l with
  | nil => simp [set, hp]
  | cons e l ih =>
    by_cases h : e.1 = k
    · have he : p e.1 = false := h ▸ hp
      simp [set, h, hp]
    · by_cases hpe : p e.1 = true
      · simp [set, h, hpe, ih]
      · simp [set, h, hpe, ih]

/-- The sum of a weight after a `set`: the old weight of the key is replaced by the new one. -/
lemma sum_set {M : Type*} [AddCommMonoid M] (f : κ → α → M) (k : κ) (v : α) (l : List (κ × α)) :
    ((set k v l).map fun e => f e.1 e.2).sum + ((get k l).map (f k)).getD 0 =
      (l.map fun e => f e.1 e.2).sum + f k v := by
  induction l with
  | nil => simp [set, get]
  | cons e l ih =>
    by_cases h : e.1 = k
    · simp [set, get, h, add_comm, add_left_comm]
    · simp only [set, get, h, if_false, List.map_cons, List.sum_cons]
      rw [add_assoc, ih, add_assoc]

/-- `set` on a listed key keeps what a function sees of the values, if it sees the same of the new
value. -/
lemma map_set_of_eq {β : Type*} {f : α → β} {k : κ} {v w : α} {l : List (κ × α)}
    (h : get k l = some v) (hf : f w = f v) :
    ((set k w l).map fun e => f e.2) = l.map fun e => f e.2 := by
  induction l with
  | nil => cases h
  | cons e l ih =>
    by_cases hk : e.1 = k
    · simp only [get, hk, if_true, Option.some.injEq] at h
      simp only [set, hk, if_true, List.map_cons, hf, h]
    · simp only [get, hk, if_false] at h
      simp only [set, hk, if_false, List.map_cons, ih h]

/-- `set` on a new key appends it. -/
lemma set_of_get_eq_none {k : κ} {l : List (κ × α)} (h : get k l = none) (v : α) :
    set k v l = l ++ [(k, v)] := by
  induction l with
  | nil => rfl
  | cons e l ih =>
    by_cases hk : e.1 = k
    · simp [get, hk] at h
    · simp only [get, hk, if_false] at h
      simp [set, hk, ih h]

/-- `set` of the value that a key has changes nothing. -/
lemma set_of_get_eq_some {k : κ} {v : α} {l : List (κ × α)} (h : get k l = some v) :
    set k v l = l := by
  induction l with
  | nil => cases h
  | cons e l ih =>
    by_cases hk : e.1 = k
    · simp only [get, hk, if_true, Option.some.injEq] at h
      simp only [set, hk, if_true, ← h]
      rw [← hk]
    · simp only [get, hk, if_false] at h
      simp [set, hk, ih h]

/-- Counting the entries without a key, of which it has one. -/
lemma countP_filter_ne {k : κ} {v : α} {l : List (κ × α)} (hl : (l.map Prod.fst).Nodup)
    (h : get k l = some v) (p : κ × α → Bool) :
    (l.filter (·.1 ≠ k)).countP p + (if p (k, v) then 1 else 0) = l.countP p := by
  induction l with
  | nil => cases h
  | cons e l ih =>
    obtain ⟨hnot, hl⟩ := List.nodup_cons.mp hl
    by_cases hk : e.1 = k
    · obtain ⟨k', v'⟩ := e
      obtain rfl : k' = k := hk
      simp only [get, if_true, Option.some.injEq] at h
      subst h
      -- the key is not among the rest
      have hrest : l.filter (·.1 ≠ k') = l := by
        refine List.filter_eq_self.mpr fun e he => decide_eq_true fun heq => hnot ?_
        have hmem : e.1 ∈ l.map Prod.fst := List.mem_map_of_mem he
        exact heq ▸ hmem
      simp only [ne_eq, not_true, decide_false, Bool.false_eq_true, not_false_eq_true,
        List.filter_cons_of_neg, List.countP_cons]
      rw [hrest]
    · simp only [get, hk, if_false] at h
      rw [List.filter_cons_of_pos (by simpa using hk), List.countP_cons, List.countP_cons,
        ← ih hl h]
      omega

/-- Lists with the same keys in the same order, and the same values, are the same. -/
lemma eq_of_get_eq {l l' : List (κ × α)} (hl : (l.map Prod.fst).Nodup)
    (hkeys : l.map Prod.fst = l'.map Prod.fst) (hget : ∀ k, get k l = get k l') : l = l' := by
  induction l generalizing l' with
  | nil => exact (List.map_eq_nil_iff.mp hkeys.symm).symm
  | cons e l ih =>
    cases l' with
    | nil => cases hkeys
    | cons e' l' =>
      rw [List.map_cons, List.map_cons, List.cons.injEq] at hkeys
      obtain ⟨hkey, hkeys⟩ := hkeys
      rw [List.map_cons, List.nodup_cons] at hl
      have hvalue : e.2 = e'.2 := by simpa [get, hkey] using hget e.1
      have hrest : l = l' := by
        refine ih hl.2 hkeys fun k => ?_
        by_cases hk : e.1 = k
        · subst hk
          rw [(get_eq_none_iff _ l).mpr hl.1, (get_eq_none_iff _ l').mpr (hkeys ▸ hl.1)]
        · simpa [get, hk, hkey ▸ hk] using hget k
      rw [Prod.ext hkey hvalue, hrest]
end Assoc

/-! ## The map -/

/-- A finite map iterated in insertion order: entries with pairwise distinct keys. -/
structure JsMap (κ α : Type*) where
  /-- The entries, oldest key first. -/
  entries : List (κ × α)
  /-- No key is listed twice. -/
  nodup : (entries.map Prod.fst).Nodup

namespace JsMap

omit [DecidableEq κ] in
/-- Maps with the same entries are equal. -/
@[ext] lemma ext {m m' : JsMap κ α} (h : m.entries = m'.entries) : m = m' := by
  cases m; cases m'; cases h; rfl

/-- The empty map. -/
def empty : JsMap κ α := ⟨[], by simp⟩

instance : EmptyCollection (JsMap κ α) := ⟨empty⟩

/-- The value stored under a key, if any. -/
def get (m : JsMap κ α) (k : κ) : Option α := Assoc.get k m.entries

/-- Whether a key is present. -/
def has (m : JsMap κ α) (k : κ) : Bool := (m.get k).isSome

/-- The keys in insertion order. -/
def keys (m : JsMap κ α) : List κ := m.entries.map Prod.fst

/-- Store a value under a key. -/
def set (m : JsMap κ α) (k : κ) (v : α) : JsMap κ α where
  entries := Assoc.set k v m.entries
  nodup := by
    rw [Assoc.map_fst_set]
    split
    · exact m.nodup
    · rename_i h
      exact List.Nodup.append m.nodup (by simp) (by simpa using h)

/-- The entries whose keys satisfy a predicate. -/
def restrict (m : JsMap κ α) (p : κ → Bool) : JsMap κ α where
  entries := m.entries.filter fun e => p e.1
  nodup := m.nodup.sublist (List.filter_sublist.map Prod.fst)

/-- Remove a key. -/
def delete (m : JsMap κ α) (k : κ) : JsMap κ α := m.restrict (· ≠ k)

/-- Change the value of a key that is present. -/
def update (m : JsMap κ α) (k : κ) (f : α → α) : JsMap κ α :=
  match m.get k with
  | none => m
  | some v => m.set k (f v)

/-- The sum of a weight over all entries. -/
def total (m : JsMap κ α) (f : κ → α → ℕ) : ℕ := (m.entries.map fun e => f e.1 e.2).sum

/-! ### Lookups -/

/-- The empty map has no values. -/
@[simp] lemma get_empty (k : κ) : (∅ : JsMap κ α).get k = none := rfl

/-- The value of a key after an assignment. -/
lemma get_set (m : JsMap κ α) (k k' : κ) (v : α) :
    (m.set k v).get k' = if k = k' then some v else m.get k' := Assoc.get_set k k' v m.entries

/-- The value just assigned. -/
@[simp] lemma get_set_self (m : JsMap κ α) (k : κ) (v : α) : (m.set k v).get k = some v := by
  rw [get_set, if_pos rfl]

/-- Other keys keep their values. -/
@[simp] lemma get_set_of_ne (m : JsMap κ α) {k k' : κ} (h : k ≠ k') (v : α) :
    (m.set k v).get k' = m.get k' := by rw [get_set, if_neg h]

/-- Only the last of two assignments to a key counts. -/
@[simp] lemma set_set (m : JsMap κ α) (k : κ) (v w : α) : (m.set k v).set k w = m.set k w :=
  ext (Assoc.set_set k v w m.entries)

/-- The value of a key in a restricted map. -/
lemma get_restrict (m : JsMap κ α) (p : κ → Bool) (k : κ) :
    (m.restrict p).get k = if p k then m.get k else none := Assoc.get_filter p k m.entries

/-- The value of a key after a deletion. -/
lemma get_delete (m : JsMap κ α) (k k' : κ) :
    (m.delete k).get k' = if k = k' then none else m.get k' := by
  rw [delete, get_restrict]
  by_cases h : k = k'
  · simp [h]
  · simp [h, Ne.symm h]

/-- A deleted key has no value. -/
@[simp] lemma get_delete_self (m : JsMap κ α) (k : κ) : (m.delete k).get k = none := by
  rw [get_delete, if_pos rfl]

/-- Other keys keep their values. -/
@[simp] lemma get_delete_of_ne (m : JsMap κ α) {k k' : κ} (h : k ≠ k') :
    (m.delete k).get k' = m.get k' := by rw [get_delete, if_neg h]

/-- A property of entries holds after an assignment if the new entry has it and the other ones that
stay have it. -/
lemma forall_get_set {m : JsMap κ α} {P : κ → α → Prop} {k : κ} {v : α} (hnew : P k v)
    (hother : ∀ k' v', k ≠ k' → m.get k' = some v' → P k' v') :
    ∀ k' v', (m.set k v).get k' = some v' → P k' v' := by
  intro k' v' h
  by_cases hk : k = k'
  · subst hk
    rw [get_set_self] at h
    exact Option.some.inj h ▸ hnew
  · rw [get_set_of_ne m hk] at h
    exact hother k' v' hk h

/-- An entry that is left after a deletion has been there before, under another key. -/
lemma get_of_get_delete {m : JsMap κ α} {k k' : κ} {v : α} (h : (m.delete k).get k' = some v) :
    k ≠ k' ∧ m.get k' = some v := by
  by_cases hk : k = k'
  · subst hk
    rw [get_delete_self] at h
    cases h
  · rw [get_delete_of_ne m hk] at h
    exact ⟨hk, h⟩

/-- Storing the value that a key has changes nothing. -/
lemma set_eq_self (m : JsMap κ α) {k : κ} {v : α} (h : m.get k = some v) : m.set k v = m :=
  JsMap.ext (Assoc.set_of_get_eq_some h)

/-- Removing a key that is absent changes nothing. -/
lemma delete_eq_self (m : JsMap κ α) {k : κ} (h : m.get k = none) : m.delete k = m := by
  refine JsMap.ext (List.filter_eq_self.mpr fun e he => decide_eq_true fun heq => ?_)
  have hmem : e.1 ∈ m.entries.map Prod.fst := List.mem_map_of_mem he
  exact (Assoc.get_eq_none_iff k m.entries).mp h (heq ▸ hmem)

/-- The value of a key after an update. -/
lemma get_update (m : JsMap κ α) (k k' : κ) (f : α → α) :
    (m.update k f).get k' = if k = k' then (m.get k').map f else m.get k' := by
  unfold update
  by_cases h : k = k'
  · subst h
    cases hk : m.get k <;> simp [hk]
  · cases hk : m.get k <;> simp [h]

/-- The value just updated. -/
@[simp] lemma get_update_self (m : JsMap κ α) (k : κ) (f : α → α) :
    (m.update k f).get k = (m.get k).map f := by rw [get_update, if_pos rfl]

/-- The keys are those with a value. -/
lemma mem_keys_iff (m : JsMap κ α) (k : κ) : k ∈ m.keys ↔ (m.get k).isSome := by
  have h := Assoc.get_eq_none_iff k m.entries
  rw [keys, ← not_iff_not, ← h]
  cases hk : m.get k <;> simp_all [get]

/-- Maps with the same keys in the same order, and the same values, are the same. -/
lemma ext_get {m m' : JsMap κ α} (hkeys : m.keys = m'.keys) (hget : ∀ k, m.get k = m'.get k) :
    m = m' :=
  JsMap.ext (Assoc.eq_of_get_eq m.nodup hkeys hget)

/-- An update keeps the keys. -/
@[simp] lemma keys_update (m : JsMap κ α) (k : κ) (f : α → α) : (m.update k f).keys = m.keys := by
  unfold update
  cases hk : m.get k with
  | none => rfl
  | some v =>
    have hmem : k ∈ m.keys := (mem_keys_iff m k).mpr (by rw [hk]; rfl)
    exact (Assoc.map_fst_set k (f v) m.entries).trans (if_pos hmem)

/-- Updates of different keys can be exchanged. -/
lemma update_comm (m : JsMap κ α) {k k' : κ} (h : k ≠ k') (f g : α → α) :
    (m.update k f).update k' g = (m.update k' g).update k f := by
  refine ext_get (by simp) fun j => ?_
  simp only [get_update]
  by_cases hj : k = j <;> by_cases hj' : k' = j <;> simp [hj, hj']
  exact absurd (hj.trans hj'.symm) h
/-- Every listed entry is the one found under its key. -/
lemma get_of_mem_entries (m : JsMap κ α) {e : κ × α} (h : e ∈ m.entries) :
    m.get e.1 = some e.2 := by
  have key : ∀ l : List (κ × α), (l.map Prod.fst).Nodup → e ∈ l → Assoc.get e.1 l = some e.2 := by
    intro l
    induction l with
    | nil => simp
    | cons a l ih =>
      intro hn hm
      rw [List.map_cons, List.nodup_cons] at hn
      rcases List.mem_cons.mp hm with rfl | hm
      · simp [Assoc.get]
      · have : a.1 ≠ e.1 := fun ha => hn.1 (ha ▸ List.mem_map_of_mem hm)
        simp [Assoc.get, this, ih hn.2 hm]
  exact key m.entries m.nodup h

/-- An entry that is found is listed. -/
lemma mem_entries_of_get (m : JsMap κ α) {k : κ} {v : α} (h : m.get k = some v) :
    (k, v) ∈ m.entries := by
  have key : ∀ l : List (κ × α), Assoc.get k l = some v → (k, v) ∈ l := by
    intro l
    induction l with
    | nil => simp [Assoc.get]
    | cons a l ih =>
      intro hg
      by_cases ha : a.1 = k
      · simp only [Assoc.get, ha, if_true, Option.some.injEq] at hg
        subst ha hg
        simp
      · simp only [Assoc.get, ha, if_false] at hg
        exact List.mem_cons_of_mem _ (ih hg)
  exact key m.entries h

/-! ### Restrictions -/

/-- Restricting to a part that contains the assigned key. -/
lemma restrict_set_of_pos (m : JsMap κ α) {p : κ → Bool} {k : κ} (h : p k = true) (v : α) :
    (m.set k v).restrict p = (m.restrict p).set k v :=
  ext (Assoc.filter_set_of_pos h v m.entries)

/-- Restricting to a part without the assigned key. -/
lemma restrict_set_of_neg (m : JsMap κ α) {p : κ → Bool} {k : κ} (h : p k = false) (v : α) :
    (m.set k v).restrict p = m.restrict p :=
  ext (Assoc.filter_set_of_neg h v m.entries)

/-- Restricting to a part that contains the updated key. -/
lemma restrict_update_of_pos (m : JsMap κ α) {p : κ → Bool} {k : κ} (h : p k = true)
    (f : α → α) : (m.update k f).restrict p = (m.restrict p).update k f := by
  have hg : (m.restrict p).get k = m.get k := by rw [get_restrict, if_pos h]
  unfold update
  rw [hg]
  cases m.get k with
  | none => rfl
  | some v => exact restrict_set_of_pos m h (f v)

/-- Restricting to a part without the updated key. -/
lemma restrict_update_of_neg (m : JsMap κ α) {p : κ → Bool} {k : κ} (h : p k = false)
    (f : α → α) : (m.update k f).restrict p = m.restrict p := by
  unfold update
  cases m.get k with
  | none => rfl
  | some v => exact restrict_set_of_neg m h (f v)

/-! ### Totals -/

/-- An assignment adds at most the weight of the new value. -/
lemma total_set_le (m : JsMap κ α) (k : κ) (f : κ → α → ℕ) (v : α) :
    (m.set k v).total f ≤ m.total f + f k v := by
  have := Assoc.sum_set f k v m.entries
  simp only [total, set]
  omega

/-- An update replaces the weight of the old value by that of the new one. -/
lemma total_update (m : JsMap κ α) {k : κ} {v : α} (h : m.get k = some v) (f : κ → α → ℕ)
    (g : α → α) : (m.update k g).total f + f k v = m.total f + f k (g v) := by
  have := Assoc.sum_set f k (g v) m.entries
  simp only [get] at h
  simpa [total, update, get, set, h] using this

/-- Updating an absent key changes nothing. -/
lemma total_update_of_none (m : JsMap κ α) {k : κ} (h : m.get k = none) (f : κ → α → ℕ)
    (g : α → α) : (m.update k g).total f = m.total f := by
  simp [update, h]

omit [DecidableEq κ] in
/-- Keys without weight may be left out. -/
lemma total_eq_restrict (m : JsMap κ α) (p : κ → Bool) (f : κ → α → ℕ)
    (hf : ∀ k v, p k = false → f k v = 0) : m.total f = (m.restrict p).total f := by
  simp only [total, restrict]
  induction m.entries with
  | nil => rfl
  | cons e l ih =>
    by_cases hp : p e.1 = true
    · simp [hp, ih]
    · simp [hp, ih, hf e.1 e.2 (by simpa using hp)]

end JsMap

end Foundations
