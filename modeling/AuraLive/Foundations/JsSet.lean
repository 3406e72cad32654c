import AuraLive.Foundations.JsValue

set_option relaxedAutoImplicit false
set_option autoImplicit false

/-!
# Insertion-ordered sets

The `Set` of ECMAScript: a list without repetitions under a comparison that is not the equality
of Lean. For parsed JSON values the comparison is `SameValueZero`: primitive values are compared
by value, and an object or array obtained from a fresh `JSON.parse` is equal to no other value.

## Main definitions

* `Foundations.JsSet.has`, `add`, `delete` — the operations, for any comparison.
* `Foundations.JsVal.sameValueZero` — the comparison of parsed values and `undefined`.

## Main results

* `Foundations.JsSet.add_eq_self_iff`, `delete_eq_self_iff` — when an operation changes nothing.
* `Foundations.JsSet.has_add`, `has_of_has_delete` — where the elements come from.
-/

namespace Foundations

namespace JsSet

variable {α : Type*} (same : α → α → Bool)

/-- `set.has(v)`. -/
def has (l : List α) (v : α) : Bool := l.any (same v)

/-- `set.add(v)`: nothing if the value is there, else it comes last. -/
def add (l : List α) (v : α) : List α := if has same l v then l else l ++ [v]

/-- `set.delete(v)`. -/
def delete (l : List α) (v : α) : List α := l.filter fun w => !same v w

variable {same}

/-- Adding changes nothing exactly when the value is there. -/
lemma add_eq_self_iff {l : List α} {v : α} : add same l v = l ↔ has same l v = true := by
  unfold add
  split
  · simp [*]
  · simp [*]

/-- Deleting changes nothing exactly when the value is not there. -/
lemma delete_eq_self_iff {l : List α} {v : α} : delete same l v = l ↔ has same l v = false := by
  simp [delete, has]

/-- An element after `add` was there or compares equal to the added one. -/
lemma has_add {l : List α} {v w : α} (h : has same (add same l v) w = true) :
    has same l w = true ∨ same w v = true := by
  unfold add at h
  split at h
  · exact .inl h
  · simpa [has] using h

/-- An element after `delete` was there before. -/
lemma has_of_has_delete {l : List α} {v w : α} (h : has same (delete same l v) w = true) :
    has same l w = true := by
  simp only [has, delete, List.any_filter, List.any_eq_true, Bool.and_eq_true] at h ⊢
  obtain ⟨x, hx, -, hw⟩ := h
  exact ⟨x, hx, hw⟩

end JsSet

namespace JsVal

/-- `SameValueZero` on parsed values and `undefined`: objects and arrays have an identity of
their own, and every parse makes new ones. -/
def sameValueZero : Option JsVal → Option JsVal → Bool
  | none, none => true
  | some null, some null => true
  | some (bool a), some (bool b) => a = b
  | some (num a), some (num b) => a = b
  | some (str a), some (str b) => a = b
  | _, _ => false

/-- A string is only the same as itself. -/
lemma sameValueZero_str {s : String} {v : Option JsVal} :
    sameValueZero (some (str s)) v = true ↔ v = some (str s) := by
  unfold sameValueZero
  split <;> simp_all [eq_comm]

end JsVal

end Foundations
