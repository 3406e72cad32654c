import AuraLive.Foundations.JsMap

set_option relaxedAutoImplicit false
set_option autoImplicit false

/-!
# Numbered things in progress

Calls that wait for a reply, jobs that run: each has a number that no other one had before. A ledger
keeps those that are in progress.

## Main definitions

* `Foundations.Ledger` — the things in progress under their numbers, and the next number.
* `Foundations.Ledger.enter`, `modify`, `amend`, `remove` — something begins, changes, is replaced,
  ends.
* `Foundations.Ledger.pending`, `count` — how many are in progress, and how many of a kind.

## Main results

* `Foundations.Ledger.get_enter`, `get_modify`, `get_amend`, `get_remove` — the lookup laws.
* `Foundations.Ledger.get_next` — the next number is free.
* `Foundations.Ledger.pending_remove_lt` — removing something in progress leaves fewer.
* `Foundations.Ledger.count_enter`, `count_remove`, `count_pos_iff` — counting what is in progress.
-/

namespace Foundations

variable {α : Type*}

/-- Things in progress, each under its number. -/
structure Ledger (α : Type*) where
  /-- What is in progress. -/
  entries : JsMap ℕ α
  /-- The next number. -/
  next : ℕ
  /-- The numbers in use have been given out. -/
  lt_next : ∀ i x, entries.get i = some x → i < next

namespace Ledger

/-- Nothing is in progress. -/
def empty : Ledger α := ⟨∅, 0, fun _ _ h => absurd h (by simp)⟩

/-- What is in progress under a number. -/
def get (l : Ledger α) (i : ℕ) : Option α := l.entries.get i

/-- Something begins, under the next number. -/
def enter (l : Ledger α) (x : α) : Ledger α where
  entries := l.entries.set l.next x
  next := l.next + 1
  lt_next i y h := by
    rw [JsMap.get_set] at h
    split at h
    · omega
    · have := l.lt_next i y h
      omega

/-- What is in progress under a number changes. -/
def modify (l : Ledger α) (i : ℕ) (f : α → α) : Ledger α where
  entries := l.entries.update i f
  next := l.next
  lt_next j y h := by
    rw [JsMap.get_update] at h
    split at h
    · obtain ⟨z, hz, -⟩ := Option.map_eq_some_iff.mp h
      exact l.lt_next j z hz
    · exact l.lt_next j y h

/-- Something else is in progress under a number. -/
def amend (l : Ledger α) (i : ℕ) (x : α) : Ledger α := l.modify i fun _ => x

/-- What is in progress under a number ends. -/
def remove (l : Ledger α) (i : ℕ) : Ledger α where
  entries := l.entries.delete i
  next := l.next
  lt_next j y h := by
    rw [JsMap.get_delete] at h
    split at h
    · cases h
    · exact l.lt_next j y h

/-- How many are in progress. -/
def pending (l : Ledger α) : ℕ := l.entries.entries.length

/-- How many of those in progress are of a kind. -/
def count (l : Ledger α) (p : α → Bool) : ℕ := l.entries.entries.countP fun e => p e.2

variable (l : Ledger α) (i j : ℕ) (x : α)

@[simp] lemma get_empty : (empty : Ledger α).get i = none := rfl

/-- The next number is free. -/
@[simp] lemma get_next : l.get l.next = none := by
  cases h : l.get l.next with
  | none => rfl
  | some y => exact absurd (l.lt_next l.next y h) (Nat.lt_irrefl _)

/-- After something has begun. -/
lemma get_enter : (l.enter x).get j = if l.next = j then some x else l.get j :=
  JsMap.get_set l.entries l.next j x

/-- After something has changed. -/
lemma get_modify (f : α → α) : (l.modify i f).get j = if i = j then (l.get j).map f else l.get j :=
  JsMap.get_update l.entries i j f

/-- After something has been replaced. -/
lemma get_amend : (l.amend i x).get j = if i = j then (l.get j).map fun _ => x else l.get j :=
  l.get_modify i j fun _ => x

/-- After something has ended. -/
lemma get_remove : (l.remove i).get j = if i = j then none else l.get j :=
  JsMap.get_delete l.entries i j

@[simp] lemma enter_next : (l.enter x).next = l.next + 1 := rfl

@[simp] lemma modify_next (f : α → α) : (l.modify i f).next = l.next := rfl

@[simp] lemma remove_next : (l.remove i).next = l.next := rfl

variable {l i x}

/-- What is in progress has begun before the next number. -/
lemma lt_next_of_get (h : l.get i = some x) : i < l.next := l.lt_next i x h

/-- What is in progress after something has ended was in progress before. -/
lemma get_of_get_remove {y : α} (h : (l.remove i).get j = some y) : i ≠ j ∧ l.get j = some y :=
  JsMap.get_of_get_delete h

/-- Ending something that is in progress leaves fewer. -/
lemma pending_remove_lt (h : l.get i = some x) : (l.remove i).pending < l.pending := by
  refine List.length_filter_lt_length_iff_exists.mpr ⟨(i, x), l.entries.mem_entries_of_get h, ?_⟩
  simp

/-- What begins is counted. -/
lemma count_enter (p : α → Bool) :
    (l.enter x).count p = l.count p + if p x then 1 else 0 := by
  have hset : (l.enter x).entries.entries = l.entries.entries ++ [(l.next, x)] :=
    Assoc.set_of_get_eq_none l.get_next x
  rw [count, hset, List.countP_append]
  simp [count, List.countP_cons]

/-- What ends is not counted any more. -/
lemma count_remove (h : l.get i = some x) (p : α → Bool) :
    (l.remove i).count p + (if p x then 1 else 0) = l.count p :=
  Assoc.countP_filter_ne l.entries.nodup h fun e => p e.2

/-- Something of a kind is in progress if there is a number for it. -/
lemma count_pos_iff {p : α → Bool} :
    0 < l.count p ↔ ∃ i x, l.get i = some x ∧ p x = true := by
  rw [count, List.countP_pos_iff]
  constructor
  · rintro ⟨e, he, hp⟩
    exact ⟨e.1, e.2, l.entries.get_of_mem_entries he, hp⟩
  · rintro ⟨i, x, hx, hp⟩
    exact ⟨(i, x), l.entries.mem_entries_of_get hx, hp⟩

/-- If something is in progress it has a number. -/
lemma exists_get_of_pending (h : l.pending ≠ 0) : ∃ i x, l.get i = some x := by
  obtain ⟨e, he⟩ := List.exists_mem_of_length_pos (Nat.pos_of_ne_zero h)
  exact ⟨e.1, e.2, l.entries.get_of_mem_entries he⟩

/-- If nothing is in progress no number is in use. -/
lemma get_of_pending_eq_zero (h : l.pending = 0) (i : ℕ) : l.get i = none := by
  cases hi : l.get i with
  | none => rfl
  | some y =>
    have hmem := l.entries.mem_entries_of_get hi
    rw [List.length_eq_zero_iff.mp h] at hmem
    cases hmem

end Ledger

end Foundations
