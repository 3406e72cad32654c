import Mathlib.Data.List.Infix

set_option relaxedAutoImplicit false
set_option autoImplicit false

/-!
# Formats of lines

Texts that consist of lines, each of which says one thing. If each line can be read by itself, the
whole text can.

## Main definitions

* `Foundations.LineFormat` — what a line says as a text, and what is read of a line.
* `Foundations.LineFormat.write`, `parse` — whole texts.
* `Foundations.LineFormat.Legible` — a line that is read as what it says.
* `Foundations.strip`, `cut` — a reader goes past a prefix, or up to a letter.

## Main results

* `Foundations.LineFormat.parse_write` — what legible lines say is read from their text.
* `Foundations.LineFormat.exists_of_mem_parse` — nothing else is read from a text than from lines.
* `Foundations.LineFormat.write_inj` — so different legible lines have different texts.
-/

namespace Foundations

/-! ## Reading a line -/

section Reading

variable {α : Type*} [DecidableEq α]

/-- What comes after a prefix. -/
def strip (p t : List α) : Option (List α) := if p <+: t then some (t.drop p.length) else none

/-- What comes before a letter, and what comes after it. -/
def cut (a : α) (t : List α) : Option (List α × List α) :=
  match t.dropWhile (· ≠ a) with
  | [] => none
  | _ :: rest => some (t.takeWhile (· ≠ a), rest)

variable {a b : α} {p t w : List α}

/-- A prefix that is there. -/
@[simp] lemma strip_append (p t : List α) : strip p (p ++ t) = some t := by
  rw [strip, if_pos (List.prefix_append p t), List.drop_left]

/-- A prefix that is not there. -/
lemma strip_eq_none (h : ¬ p <+: t) : strip p t = none := if_neg h

/-- Up to the first place of a letter. -/
lemma cut_append (h : a ∉ w) (t : List α) : cut a (w ++ a :: t) = some (w, t) := by
  have hw : ∀ x ∈ w, (decide (x ≠ a)) = true := by
    intro x hx
    exact decide_eq_true fun hxa => h (hxa ▸ hx)
  rw [cut, List.dropWhile_append_of_pos hw, List.takeWhile_append_of_pos hw]
  simp

omit [DecidableEq α] in
/-- A word is read as far as its letters go. -/
lemma span_append {q : α → Bool} (hw : ∀ x ∈ w, q x) (ht : ∀ x ∈ t.head?, q x = false) :
    (w ++ t).takeWhile q = w ∧ (w ++ t).dropWhile q = t := by
  rw [List.takeWhile_append_of_pos hw, List.dropWhile_append_of_pos hw]
  cases t with
  | nil => exact ⟨List.append_nil w, rfl⟩
  | cons x t =>
    have hx : q x = false := ht x rfl
    rw [List.takeWhile_cons_of_neg (by simp [hx]), List.dropWhile_cons_of_neg (by simp [hx])]
    exact ⟨List.append_nil w, rfl⟩

omit [DecidableEq α] in
/-- A word is not followed by another letter where a prefix has a letter that the word has not. -/
lemma not_prefix_of_notMem (hb : b ∈ p) (hbw : b ∉ w) (ha : a ∉ p) : ¬ p <+: w ++ a :: t := by
  rintro ⟨r, hr⟩
  obtain ⟨x, rfl, -⟩ | ⟨x, rfl, hx⟩ := List.append_eq_append_iff.mp hr
  · exact hbw (List.mem_append_left x hb)
  · cases x with
    | nil => exact hbw (by simpa using hb)
    | cons c x =>
      obtain rfl := (List.cons.inj hx).1
      exact ha (by simp)

end Reading

/-! ## Formats -/

/-- What a line says as a text, and what is read of a line. -/
structure LineFormat (ι : Type*) where
  render : ι → String
  read : List Char → Option ι

namespace LineFormat

variable {ι : Type*} (F : LineFormat ι)

/-- The text of some lines. -/
def write (items : List ι) : String := "\n".intercalate (items.map F.render)

/-- What is read from a text. -/
def parse (text : String) : Option (List ι) := (text.toList.splitOn '\n').mapM F.read

/-- A line that is one, and is read as what it says. -/
structure Legible (item : ι) : Prop where
  line : '\n' ∉ (F.render item).toList
  read : F.read (F.render item).toList = some item

variable {F} {items items' : List ι}

/-- **Reading back.** -/
theorem parse_write (hne : items ≠ []) (h : ∀ item ∈ items, F.Legible item) :
    F.parse (F.write items) = some items := by
  have hlines : ∀ l ∈ (items.map F.render).map String.toList, '\n' ∉ l := by
    intro l hl
    obtain ⟨s, hs, rfl⟩ := List.mem_map.mp hl
    obtain ⟨item, hitem, rfl⟩ := List.mem_map.mp hs
    exact (h item hitem).line
  have hsplit : (F.write items).toList.splitOn '\n' =
      (items.map F.render).map String.toList := by
    rw [write, String.toList_intercalate]
    exact List.splitOn_intercalate '\n' hlines (by simpa using hne)
  rw [parse, hsplit, List.mapM_map, List.mapM_map]
  have hread : ∀ item ∈ items, F.read (F.render item).toList = some item :=
    fun item hitem => (h item hitem).read
  clear hsplit hlines hne h
  induction items with
  | nil => rfl
  | cons item items ih =>
    rw [List.mapM_cons]
    simp only [Function.comp_apply] at ih ⊢
    rw [hread item List.mem_cons_self, ih fun x hx => hread x (List.mem_cons_of_mem _ hx)]
    rfl

/-- What is read from a text is read from its lines. -/
lemma exists_of_mem_parse {text : String} {item : ι} (h : F.parse text = some items)
    (hitem : item ∈ items) : ∃ l, F.read l = some item := by
  rw [parse] at h
  generalize text.toList.splitOn '\n' = ls at h
  induction ls generalizing items with
  | nil =>
    obtain rfl := Option.some.inj h
    cases hitem
  | cons l ls ih =>
    rw [List.mapM_cons] at h
    obtain ⟨first, hfirst, h⟩ := Option.bind_eq_some_iff.mp h
    obtain ⟨rest, hrest, heq⟩ := Option.bind_eq_some_iff.mp h
    obtain rfl := Option.some.inj heq
    rcases List.mem_cons.mp hitem with rfl | hitem
    · exact ⟨l, hfirst⟩
    · exact ih hitem hrest

/-- **Different lines have different texts.** -/
lemma write_inj (hne : items ≠ []) (hne' : items' ≠ []) (h : ∀ item ∈ items, F.Legible item)
    (h' : ∀ item ∈ items', F.Legible item) (heq : F.write items = F.write items') :
    items = items' := by
  have hparse := parse_write hne h
  rw [heq, parse_write hne' h'] at hparse
  exact (Option.some.inj hparse).symm

end LineFormat

end Foundations
