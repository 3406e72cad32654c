import AuraLive.Foundations.Rewriting
import Mathlib.Data.List.Chain
import Mathlib.Data.List.DropRight

set_option relaxedAutoImplicit false
set_option autoImplicit false

/-!
# White space

White space is normalised by putting one blank in the place of every run of it and removing it at
the ends. Replacing words that have single blanks between their letters does not see how much white
space there is where there is more than one blank.

## Main definitions

* `Foundations.Spacing.collapse`, `trim`, `normalize` — the normalisation.
* `Foundations.Spacing.Spaced`, `Tidy` — single blanks between letters.
* `Foundations.Spacing.SameSpacing` — texts that differ only in runs that are not single blanks.

## Main results

* `Foundations.Spacing.infix_normalize_iff` — words without white space are the same after it.
* `Foundations.Spacing.normalize_normalize` — what is normalised is not changed.
* `Foundations.Spacing.SameSpacing.rewrite` — rules with tidy words keep the spacing the same.
* `Foundations.Spacing.normalize_rewrite_eq` — so the normalised results are the same.
-/

namespace Foundations

namespace Spacing

open Rewriting

variable {α : Type*}

section Definitions

variable (space : α → Bool) (blank : α)

/-- Every run of white space is replaced by a blank; the flag tells that a run has begun. -/
def collapse : Bool → List α → List α
  | _, [] => []
  | begun, a :: t =>
    if space a then if begun then collapse true t else blank :: collapse true t
    else a :: collapse false t

/-- White space is removed at both ends. -/
def trim (t : List α) : List α := (t.dropWhile space).rdropWhile space

/-- White space is collapsed, and removed at the ends. -/
def normalize (t : List α) : List α := trim space (collapse space blank false t)

end Definitions

variable {space : α → Bool} {blank : α} {t u p : List α}

/-- A run of white space becomes one blank. -/
lemma collapse_spaces_append {g : List α} (hne : g ≠ []) (hg : ∀ a ∈ g, space a) (t : List α) :
    collapse space blank false (g ++ t) = blank :: collapse space blank true t := by
  have hrest {g : List α} (hg : ∀ a ∈ g, space a) :
      collapse space blank true (g ++ t) = collapse space blank true t := by
    induction g with
    | nil => rfl
    | cons a g ih =>
      obtain ⟨ha, hg⟩ := List.forall_mem_cons.mp hg
      rw [List.cons_append, collapse, if_pos ha, if_pos rfl, ih hg]
  obtain ⟨a, g, rfl⟩ := List.exists_cons_of_ne_nil hne
  obtain ⟨ha, hg⟩ := List.forall_mem_cons.mp hg
  rw [List.cons_append, collapse, if_pos ha, if_neg Bool.false_ne_true, hrest hg]

/-! ## Words without white space -/

/-- A word without white space at the beginning of a text is kept. -/
lemma prefix_collapse_iff (hblank : space blank) (hp : ∀ a ∈ p, space a = false) :
    p <+: collapse space blank false t ↔ p <+: t := by
  induction p generalizing t with
  | nil => simp
  | cons b p ih =>
    obtain ⟨hb, hp⟩ := List.forall_mem_cons.mp hp
    cases t with
    | nil => rfl
    | cons a t =>
      rw [collapse]
      split
      · rename_i ha
        have hne : b ≠ blank := by rintro rfl; simp [hblank] at hb
        have hne' : b ≠ a := by rintro rfl; simp [ha] at hb
        simp [List.cons_prefix_cons, hne, hne']
      · simp [List.cons_prefix_cons, ih hp]

/-- A word without white space does not begin where a space is. -/
lemma infix_space_cons_iff {a : α} (ha : space a) (hne : p ≠ []) (hp : ∀ a ∈ p, space a = false) :
    p <:+: a :: t ↔ p <:+: t := by
  rw [List.infix_cons_iff, or_iff_right]
  intro hstart
  obtain ⟨b, p, rfl⟩ := List.exists_cons_of_ne_nil hne
  rw [(List.cons_prefix_cons.mp hstart).1] at hp
  simp [ha] at hp

/-- A word without white space occurs after collapsing if and only if it did. -/
lemma infix_collapse_iff (hblank : space blank) (hne : p ≠ []) (hp : ∀ a ∈ p, space a = false)
    (begun : Bool) : p <:+: collapse space blank begun t ↔ p <:+: t := by
  induction t generalizing begun with
  | nil => rfl
  | cons a t ih =>
    rw [collapse]
    split
    · rename_i ha
      rw [infix_space_cons_iff ha hne hp]
      split
      · exact ih true
      · rw [infix_space_cons_iff hblank hne hp]
        exact ih true
    · rename_i ha
      rw [List.infix_cons_iff, List.infix_cons_iff, ih]
      refine or_congr_left ?_
      have hstart := prefix_collapse_iff (t := a :: t) hblank hp
      rwa [collapse, if_neg ha] at hstart

/-- A word without white space occurs after white space has been dropped if and only if it did
before. -/
lemma infix_dropWhile_iff (hne : p ≠ []) (hp : ∀ a ∈ p, space a = false) :
    p <:+: t.dropWhile space ↔ p <:+: t := by
  induction t with
  | nil => rfl
  | cons a t ih =>
    cases ha : space a with
    | true => rw [List.dropWhile_cons_of_pos ha, ih, infix_space_cons_iff ha hne hp]
    | false => rw [List.dropWhile_cons_of_neg (by simp [ha])]

/-- A word without white space occurs in the trimmed text if and only if it did before. -/
lemma infix_trim_iff (hne : p ≠ []) (hp : ∀ a ∈ p, space a = false) :
    p <:+: trim space t ↔ p <:+: t := by
  have hreverse : p.reverse ≠ [] := by simpa using hne
  rw [trim, List.rdropWhile, ← List.reverse_infix, List.reverse_reverse,
    infix_dropWhile_iff hreverse (by simpa using hp), List.reverse_infix,
    infix_dropWhile_iff hne hp]

/-- **A word without white space** occurs in the normalised text if and only if it did before. -/
lemma infix_normalize_iff (hblank : space blank) (hne : p ≠ []) (hp : ∀ a ∈ p, space a = false) :
    p <:+: normalize space blank t ↔ p <:+: t := by
  rw [normalize, infix_trim_iff hne hp, infix_collapse_iff hblank hne hp]

/-! ## Normalised texts -/

/-- The text does not begin with white space. -/
def Begins (space : α → Bool) (t : List α) : Prop := ∀ a ∈ t.head?, space a = false

/-- All white space of the text is single blanks. -/
structure Collapsed (space : α → Bool) (blank : α) (t : List α) : Prop where
  chain : t.IsChain fun a b => space a → space b = false
  blanks : ∀ a ∈ t, space a → a = blank

/-- The rest of a collapsed text is collapsed. -/
lemma Collapsed.tail {a : α} (h : Collapsed space blank (a :: t)) : Collapsed space blank t :=
  ⟨h.chain.tail, fun b hb => h.blanks b (List.mem_cons_of_mem a hb)⟩

/-- A part of a collapsed text is collapsed. -/
lemma Collapsed.part (h : Collapsed space blank t) (hu : u <:+: t) : Collapsed space blank u :=
  { chain := h.chain.infix hu
    blanks := fun a ha => h.blanks a (hu.subset ha) }

/-- The result of collapsing is collapsed, and goes on with a letter after a run. -/
lemma collapsed_collapse (t : List α) (begun : Bool) :
    Collapsed space blank (collapse space blank begun t) ∧
      (begun → Begins space (collapse space blank begun t)) := by
  induction t generalizing begun with
  | nil => exact ⟨⟨List.isChain_nil, by simp [collapse]⟩, by simp [collapse, Begins]⟩
  | cons a t ih =>
    obtain ⟨hafter, hletter⟩ := ih true
    rw [collapse]
    split
    · split
      · exact ⟨hafter, fun _ => hletter rfl⟩
      · rename_i hbegun
        refine ⟨⟨List.isChain_cons.mpr ⟨fun b hb _ => hletter rfl b hb, hafter.chain⟩, ?_⟩,
          fun h => absurd h hbegun⟩
        exact List.forall_mem_cons.mpr ⟨fun _ => rfl, hafter.blanks⟩
    · rename_i ha
      refine ⟨⟨List.isChain_cons.mpr ⟨fun b _ h => absurd h ha, (ih false).1.chain⟩, ?_⟩,
        fun _ b hb => ?_⟩
      · exact List.forall_mem_cons.mpr ⟨fun h => absurd h ha, (ih false).1.blanks⟩
      · rw [← Option.some_inj.mp hb]
        simpa using ha

/-- A collapsed text is not changed by collapsing. -/
lemma Collapsed.collapse_eq (h : Collapsed space blank t) (begun : Bool)
    (hbegun : begun → Begins space t) : collapse space blank begun t = t := by
  induction t generalizing begun with
  | nil => rfl
  | cons a t ih =>
    rw [collapse]
    split
    · rename_i ha
      have hafter : Begins space t := fun b hb => (List.isChain_cons.mp h.chain).1 b hb ha
      have hfirst : ¬ begun = true := fun hb => by simp [hbegun hb a rfl] at ha
      rw [if_neg hfirst, ih h.tail true fun _ => hafter, h.blanks a List.mem_cons_self ha]
    · rw [ih h.tail false (by simp)]

/-- What is trimmed is a part of the text. -/
lemma trim_isInfix (space : α → Bool) (t : List α) : trim space t <:+: t :=
  (List.rdropWhile_prefix space (t.dropWhile space)).isInfix.trans (List.dropWhile_suffix _).isInfix

/-- Trimming again changes nothing. -/
lemma trim_trim (space : α → Bool) (t : List α) : trim space (trim space t) = trim space t := by
  have hfirst : (trim space t).dropWhile space = trim space t := by
    cases htrim : trim space t with
    | nil => rfl
    | cons a u =>
      obtain ⟨r, hr⟩ : a :: u <+: t.dropWhile space := htrim ▸ List.rdropWhile_prefix _ _
      have hletter := List.head?_dropWhile_not space t
      rw [← hr] at hletter
      exact List.dropWhile_cons_of_neg (by simpa using hletter)
  rw [trim, hfirst]
  exact List.rdropWhile_idempotent _ _

/-- **Normalising again** changes nothing. -/
lemma normalize_normalize (t : List α) :
    normalize space blank (normalize space blank t) = normalize space blank t := by
  have hcollapsed : Collapsed space blank (normalize space blank t) :=
    (collapsed_collapse t false).1.part (trim_isInfix space _)
  rw [normalize, hcollapsed.collapse_eq false (by simp), normalize, trim_trim]

/-- White space that is as heavy as the blank: normalising does not make a text heavier. -/
lemma weight_normalize_le {f : α → ℕ} (hf : ∀ a, space a → f blank ≤ f a) (t : List α) :
    weight f (normalize space blank t) ≤ weight f t := by
  have hpart {u v : List α} (h : u <:+: v) : weight f u ≤ weight f v := by
    obtain ⟨x, y, rfl⟩ := h
    rw [weight_append, weight_append]
    omega
  have hcollapse (begun : Bool) : weight f (collapse space blank begun t) ≤ weight f t := by
    induction t generalizing begun with
    | nil => exact le_rfl
    | cons a t ih =>
      have hcons (b : α) (u : List α) : weight f (b :: u) = f b + weight f u := rfl
      rw [collapse]
      split
      · rename_i ha
        split
        · exact (ih true).trans (Nat.le_add_left _ _)
        · rw [hcons, hcons]
          exact Nat.add_le_add (hf a ha) (ih true)
      · rw [hcons, hcons]
        exact Nat.add_le_add_left (ih false) _
  exact (hpart (trim_isInfix space _)).trans (hcollapse false)

/-! ## The same spacing -/

/-- A word that ends with a letter, with single blanks between its letters. -/
structure Spaced (space : α → Bool) (blank : α) (w : List α) : Prop where
  last : ∃ a ∈ w.getLast?, space a = false
  collapsed : Collapsed space blank w

/-- A word that also begins with a letter. -/
structure Tidy (space : α → Bool) (blank : α) (w : List α) : Prop extends Spaced space blank w where
  first : ∃ a ∈ w.head?, space a = false

instance [DecidableEq α] (space : α → Bool) (blank : α) (t : List α) :
    Decidable (Collapsed space blank t) :=
  decidable_of_iff ((t.IsChain fun a b => space a → space b = false) ∧
    ∀ a ∈ t, space a → a = blank) ⟨fun h => ⟨h.1, h.2⟩, fun h => ⟨h.1, h.2⟩⟩

instance [DecidableEq α] (space : α → Bool) (blank : α) (w : List α) :
    Decidable (Tidy space blank w) :=
  decidable_of_iff ((∃ a ∈ w.getLast?, space a = false) ∧ Collapsed space blank w ∧
    ∃ a ∈ w.head?, space a = false)
    ⟨fun h => ⟨⟨h.1, h.2.1⟩, h.2.2⟩, fun h => ⟨h.last, h.collapsed, h.first⟩⟩

/-- A run of white space that is not a single blank. -/
structure Wide (space : α → Bool) (blank : α) (g : List α) : Prop where
  spaces : ∀ a ∈ g, space a
  ne_nil : g ≠ []
  ne_blank : g ≠ [blank]

/-- The texts have the same letters, and single blanks at the same places; where one has other white
space, so does the other. -/
inductive SameSpacing (space : α → Bool) (blank : α) : List α → List α → Prop where
  | nil : SameSpacing space blank [] []
  | letter {a t t'} : space a = false → SameSpacing space blank t t' →
      SameSpacing space blank (a :: t) (a :: t')
  | single {t t'} : Begins space t → SameSpacing space blank t t' →
      SameSpacing space blank (blank :: t) (blank :: t')
  | wide {g g' t t'} : Wide space blank g → Wide space blank g' → Begins space t →
      SameSpacing space blank t t' → SameSpacing space blank (g ++ t) (g' ++ t')

variable {t' w c : List α}

/-- A spaced word is not empty, and without its first letter it is spaced or empty. -/
lemma Spaced.tail {a b : α} (h : Spaced space blank (a :: b :: w)) :
    Spaced space blank (b :: w) :=
  ⟨by simpa only [List.getLast?_cons_cons] using h.last, h.collapsed.tail⟩

/-- A tidy word is not empty. -/
lemma Tidy.ne_nil (h : Tidy space blank w) : w ≠ [] := by
  rintro rfl
  obtain ⟨a, ha, -⟩ := h.first
  cases ha

namespace SameSpacing

/-- Wide white space is white space at its beginning. -/
lemma begins_of_wide {g : List α} (hg : Wide space blank g) (hbegins : Begins space (g ++ t)) :
    False := by
  obtain ⟨a, g, rfl⟩ := List.exists_cons_of_ne_nil hg.ne_nil
  have ha := hg.spaces a List.mem_cons_self
  simp [hbegins a rfl] at ha

/-- Texts with the same spacing both begin with a letter, or neither. -/
lemma begins (hblank : space blank) (h : SameSpacing space blank t t')
    (hbegins : Begins space t) : Begins space t' := by
  cases h with
  | nil => exact hbegins
  | letter ha _ => exact fun b hb => Option.some_inj.mp hb ▸ ha
  | single _ _ => simp [hbegins blank rfl] at hblank
  | wide hg _ _ _ => exact (begins_of_wide hg hbegins).elim

/-- To have the same spacing is symmetric. -/
lemma symm (hblank : space blank) (h : SameSpacing space blank t t') :
    SameSpacing space blank t' t := by
  induction h with
  | nil => exact .nil
  | letter ha _ ih => exact .letter ha ih
  | single hbegins h ih => exact .single (h.begins hblank hbegins) ih
  | wide hg hg' hbegins h ih => exact .wide hg' hg (h.begins hblank hbegins) ih

/-- A letter at the beginning of one text is at the beginning of the other. -/
lemma cons_letter {a : α} (h : SameSpacing space blank (a :: t) t') (hblank : space blank)
    (ha : space a = false) : ∃ r, t' = a :: r ∧ SameSpacing space blank t r := by
  generalize hu : a :: t = u at h
  cases h with
  | nil => cases hu
  | letter _ h =>
    obtain ⟨rfl, rfl⟩ := List.cons.inj hu
    exact ⟨_, rfl, h⟩
  | single _ _ => simp [(List.cons.inj hu).1, hblank] at ha
  | wide hg _ _ _ =>
    have hbegins : Begins space (a :: t) := fun b hb => Option.some_inj.mp hb ▸ ha
    exact (begins_of_wide hg (hu ▸ hbegins)).elim

/-- A blank in front of a letter at the beginning of one text is at the beginning of the other. -/
lemma cons_blank {b : α} (h : SameSpacing space blank (blank :: b :: t) t') (hblank : space blank)
    (hb : space b = false) : ∃ r, t' = blank :: r ∧ SameSpacing space blank (b :: t) r := by
  generalize hu : blank :: b :: t = u at h
  cases h with
  | nil => cases hu
  | letter ha _ => simp [← (List.cons.inj hu).1, hblank] at ha
  | single _ h =>
    rw [(List.cons.inj hu).2]
    exact ⟨_, rfl, h⟩
  | @wide g _ _ _ hg _ _ _ =>
    obtain ⟨x, g, rfl⟩ := List.exists_cons_of_ne_nil hg.ne_nil
    cases g with
    | nil => exact (hg.ne_blank (by rw [← (List.cons.inj hu).1])).elim
    | cons y g =>
      have hy := hg.spaces y (List.mem_cons_of_mem x List.mem_cons_self)
      simp [← (List.cons.inj (List.cons.inj hu).2).1, hb] at hy

/-- A spaced word at the beginning of one text is at the beginning of the other. -/
lemma exists_of_append (hblank : space blank) (hw : Spaced space blank w)
    (h : SameSpacing space blank (w ++ t) t') :
    ∃ r, t' = w ++ r ∧ SameSpacing space blank t r := by
  induction w generalizing t' with
  | nil =>
    obtain ⟨a, ha, -⟩ := hw.last
    cases ha
  | cons a w ih =>
    cases w with
    | nil =>
      obtain ⟨b, hb, hletter⟩ := hw.last
      cases hb
      exact h.cons_letter hblank hletter
    | cons b w =>
      have hrest : ∀ r, t' = a :: r → SameSpacing space blank (b :: w ++ t) r →
          ∃ r, t' = a :: b :: w ++ r ∧ SameSpacing space blank t r := by
        rintro r rfl hr
        obtain ⟨r', rfl, hr'⟩ := ih hw.tail hr
        exact ⟨r', rfl, hr'⟩
      cases ha : space a with
      | true =>
        have hb := (List.isChain_cons.mp hw.collapsed.chain).1 b rfl ha
        obtain rfl := hw.collapsed.blanks a List.mem_cons_self ha
        obtain ⟨r, hr, hsame⟩ := h.cons_blank hblank hb
        exact hrest r hr hsame
      | false =>
        obtain ⟨r, hr, hsame⟩ := h.cons_letter hblank ha
        exact hrest r hr hsame

/-- A spaced word in front of two texts. -/
lemma append (hw : Spaced space blank w) (h : SameSpacing space blank t t') :
    SameSpacing space blank (w ++ t) (w ++ t') := by
  induction w with
  | nil => exact h
  | cons a w ih =>
    cases w with
    | nil =>
      obtain ⟨b, hb, hletter⟩ := hw.last
      cases hb
      exact .letter hletter h
    | cons b w =>
      cases ha : space a with
      | true =>
        have hb := (List.isChain_cons.mp hw.collapsed.chain).1 b rfl ha
        obtain rfl := hw.collapsed.blanks a List.mem_cons_self ha
        exact .single (fun x hx => Option.some_inj.mp hx ▸ hb) (ih hw.tail)
      | false => exact .letter ha (ih hw.tail)

/-- Collapsing makes texts with the same spacing the same. -/
lemma collapse_eq (hblank : space blank) (h : SameSpacing space blank t t') :
    ∀ begun : Bool, (begun → Begins space t) →
      collapse space blank begun t = collapse space blank begun t' := by
  induction h with
  | nil => exact fun _ _ => rfl
  | letter ha _ ih =>
    intro begun _
    rw [collapse, if_neg (by simp [ha]), collapse, if_neg (by simp [ha]), ih false (by simp)]
  | single hbegins _ ih =>
    intro begun hbegun
    have hfirst : begun = false := by
      by_contra hb
      simp [hbegun (by simpa using hb) blank rfl] at hblank
    rw [hfirst, collapse, if_pos hblank, collapse, if_pos hblank, ih true fun _ => hbegins]
  | wide hg hg' hbegins _ ih =>
    intro begun hbegun
    have hfirst : begun = false := by
      by_contra hb
      exact begins_of_wide hg (hbegun (by simpa using hb))
    rw [hfirst, collapse_spaces_append hg.ne_nil hg.spaces,
      collapse_spaces_append hg'.ne_nil hg'.spaces, ih true fun _ => hbegins]

/-- A tidy word does not begin with white space. -/
lemma not_prefix_of_space {a : α} (hw : Tidy space blank w) (ha : space a) : ¬ w <+: a :: t := by
  obtain ⟨b, hb, hletter⟩ := hw.first
  obtain ⟨w', rfl⟩ := List.head?_eq_some_iff.mp hb
  rintro ⟨r, hr⟩
  simp [(List.cons.inj hr).1, ha] at hletter

variable [DecidableEq α]

/-- Replacing tidy words leaves white space at the beginning alone. -/
lemma replaceAll_spaces_append (hw : Tidy space blank w) {g : List α} (hg : ∀ a ∈ g, space a) :
    replaceAll w c (g ++ t) = g ++ replaceAll w c t := by
  induction g with
  | nil => rfl
  | cons a g ih =>
    obtain ⟨ha, hg⟩ := List.forall_mem_cons.mp hg
    rw [List.cons_append, replaceAll_cons (not_prefix_of_space hw ha), ih hg, List.cons_append]

/-- Replacing tidy words keeps a letter at the beginning. -/
lemma begins_replaceAll (hw : Tidy space blank w) (hc : Tidy space blank c)
    (h : Begins space t) : Begins space (replaceAll w c t) := by
  cases t with
  | nil => exact h
  | cons a t =>
    by_cases hstart : w <+: a :: t
    · obtain ⟨r, hr⟩ := hstart
      obtain ⟨b, hb, hletter⟩ := hc.first
      obtain ⟨c', rfl⟩ := List.head?_eq_some_iff.mp hb
      rw [← hr, replaceAll_append hw.ne_nil]
      exact fun x hx => Option.some_inj.mp hx ▸ hletter
    · rw [replaceAll_cons hstart]
      exact fun x hx => h x hx

/-- **Replacing tidy words keeps the spacing the same.** -/
lemma replaceAll (hblank : space blank) (hw : Tidy space blank w) (hc : Tidy space blank c) :
    ∀ {t t' : List α}, SameSpacing space blank t t' →
      SameSpacing space blank (replaceAll w c t) (replaceAll w c t')
  | t, t', h => by
    have hne := hw.ne_nil
    by_cases hstart : w <+: t
    · obtain ⟨r, ht⟩ := hstart
      have hlt : r.length < t.length := by
        rw [← ht, List.length_append]
        exact Nat.lt_add_of_pos_left (List.length_pos_iff.mpr hne)
      rw [← ht] at h ⊢
      obtain ⟨r', rfl, hr⟩ := exists_of_append hblank hw.toSpaced h
      rw [replaceAll_append hne, replaceAll_append hne]
      exact append hc.toSpaced (replaceAll hblank hw hc hr)
    · have hstart' : ¬ w <+: t' := by
        rintro ⟨r', rfl⟩
        obtain ⟨r, rfl, -⟩ := exists_of_append hblank hw.toSpaced (h.symm hblank)
        exact hstart (List.prefix_append w r)
      cases h with
      | nil => exact .nil
      | letter ha h =>
        rw [replaceAll_cons hstart, replaceAll_cons hstart']
        exact .letter ha (replaceAll hblank hw hc h)
      | single hbegins h =>
        rw [replaceAll_cons hstart, replaceAll_cons hstart']
        exact .single (begins_replaceAll hw hc hbegins) (replaceAll hblank hw hc h)
      | @wide g g' u u' hg hg' hbegins h =>
        rw [replaceAll_spaces_append hw hg.spaces, replaceAll_spaces_append hw hg'.spaces]
        have hpos : 0 < g.length := List.length_pos_iff.mpr hg.ne_nil
        exact .wide hg hg' (begins_replaceAll hw hc hbegins) (replaceAll hblank hw hc h)
termination_by t => t.length

/-- Rules with tidy words keep the spacing the same. -/
lemma rewrite (hblank : space blank) {rules : List (List α × List α)}
    (hrules : ∀ rule ∈ rules, Tidy space blank rule.1 ∧ Tidy space blank rule.2)
    (h : SameSpacing space blank t t') :
    SameSpacing space blank (rewrite rules t) (rewrite rules t') := by
  induction rules generalizing t t' with
  | nil => exact h
  | cons rule rules ih =>
    obtain ⟨⟨hw, hc⟩, hrules⟩ := List.forall_mem_cons.mp hrules
    exact ih hrules (h.replaceAll hblank hw hc)

end SameSpacing

/-! ## White space at the ends -/

section Ends

/-- White space at the beginning is dropped. -/
lemma dropWhile_spaces_append {g : List α} (hg : ∀ a ∈ g, space a) (t : List α) :
    (g ++ t).dropWhile space = t.dropWhile space := by
  induction g with
  | nil => rfl
  | cons a g ih =>
    obtain ⟨ha, hg⟩ := List.forall_mem_cons.mp hg
    rw [List.cons_append, List.dropWhile_cons_of_pos ha, ih hg]

/-- White space at the end is trimmed. -/
lemma trim_append_spaces {g : List α} (hg : ∀ a ∈ g, space a) (t : List α) :
    trim space (t ++ g) = trim space t := by
  have hend (u : List α) : (u ++ g).rdropWhile space = u.rdropWhile space := by
    rw [List.rdropWhile, List.reverse_append, dropWhile_spaces_append (by simpa using hg)]
    rfl
  rw [trim, trim, List.dropWhile_append]
  split
  · rename_i hempty
    rw [List.isEmpty_iff.mp hempty, ← List.append_nil g, dropWhile_spaces_append hg]
    rfl
  · exact hend _

/-- White space at the end becomes white space at the end. -/
lemma collapse_append_spaces (hblank : space blank) {g : List α} (hg : ∀ a ∈ g, space a)
    (t : List α) (begun : Bool) : ∃ g' : List α, (∀ a ∈ g', space a) ∧
      collapse space blank begun (t ++ g) = collapse space blank begun t ++ g' := by
  induction t generalizing begun with
  | nil =>
    refine ⟨collapse space blank begun g, ?_, rfl⟩
    induction g generalizing begun with
    | nil => simp [collapse]
    | cons a g ih =>
      obtain ⟨ha, hg⟩ := List.forall_mem_cons.mp hg
      rw [collapse, if_pos ha]
      split
      · exact ih hg true
      · exact List.forall_mem_cons.mpr ⟨hblank, ih hg true⟩
  | cons a t ih =>
    rw [List.cons_append, collapse, collapse]
    split
    · obtain ⟨g', hg', heq⟩ := ih true
      refine ⟨g', hg', ?_⟩
      rw [heq]
      split <;> rfl
    · obtain ⟨g', hg', heq⟩ := ih false
      exact ⟨g', hg', by rw [heq, List.cons_append]⟩

/-- White space at the ends does not matter to what is normalised. -/
lemma normalize_append (hblank : space blank) {g g' : List α} (hg : ∀ a ∈ g, space a)
    (hg' : ∀ a ∈ g', space a) (t : List α) :
    normalize space blank (g ++ (t ++ g')) = normalize space blank t := by
  have hfirst (u : List α) : (collapse space blank true u).dropWhile space =
      (collapse space blank false u).dropWhile space := by
    cases u with
    | nil => rfl
    | cons a u =>
      rw [collapse, collapse]
      split
      · rw [if_pos rfl, if_neg (by simp), List.dropWhile_cons_of_pos hblank]
      · rfl
  have hspaces (begun : Bool) (u : List α) : (collapse space blank begun (g ++ u)).dropWhile space =
      (collapse space blank false u).dropWhile space := by
    induction g generalizing begun with
    | nil => cases begun with
      | true => exact hfirst u
      | false => rfl
    | cons a g ih =>
      obtain ⟨ha, hg⟩ := List.forall_mem_cons.mp hg
      rw [List.cons_append, collapse, if_pos ha]
      split
      · exact ih hg true
      · rw [List.dropWhile_cons_of_pos hblank, ih hg true]
  obtain ⟨g'', hg'', heq⟩ := collapse_append_spaces hblank hg' t false
  rw [normalize, trim, hspaces false, ← trim, heq, trim_append_spaces hg'']
  rfl

variable [DecidableEq α]

/-- Replacing tidy words leaves white space at the end alone. -/
lemma replaceAll_append_spaces (hw : Tidy space blank w) {g : List α} (hg : ∀ a ∈ g, space a) :
    replaceAll w c (t ++ g) = replaceAll w c t ++ g := by
  induction t using scan_induction hw.ne_nil with
  | nil => simpa using SameSpacing.replaceAll_spaces_append (t := []) hw hg
  | keep a t hno ih =>
    have hno' : ¬ w <+: a :: (t ++ g) := by
      rintro ⟨r, hr⟩
      rcases List.append_eq_append_iff.mp (show w ++ r = (a :: t) ++ g from hr) with
        ⟨z, hz, -⟩ | ⟨z, hz, hrest⟩
      · exact hno ⟨z, hz.symm⟩
      · obtain ⟨b, hb, hletter⟩ := hw.last
        by_cases hnil : z = []
        · exact hno ⟨[], by rw [List.append_nil, hz, hnil, List.append_nil]⟩
        -- the last letter of the word would be white space
        · rw [hz, List.getLast?_append_of_ne_nil _ hnil] at hb
          have hmem : b ∈ g := hrest ▸ List.mem_append_left r (List.mem_of_getLast? hb)
          simp [hg b hmem] at hletter
    rw [List.cons_append, replaceAll_cons hno', ih, replaceAll_cons hno, List.cons_append]
  | hit t ih =>
    rw [List.append_assoc, replaceAll_append hw.ne_nil, ih, replaceAll_append hw.ne_nil,
      List.append_assoc]

/-- Rules with tidy words leave white space at the ends alone. -/
lemma rewrite_append_spaces {rules : List (List α × List α)}
    (hrules : ∀ rule ∈ rules, Tidy space blank rule.1 ∧ Tidy space blank rule.2) {g g' : List α}
    (hg : ∀ a ∈ g, space a) (hg' : ∀ a ∈ g', space a) (t : List α) :
    rewrite rules (g ++ (t ++ g')) = g ++ (rewrite rules t ++ g') := by
  induction rules generalizing t with
  | nil => rfl
  | cons rule rules ih =>
    obtain ⟨⟨hw, -⟩, hrules⟩ := List.forall_mem_cons.mp hrules
    rw [rewrite_cons, SameSpacing.replaceAll_spaces_append hw hg, replaceAll_append_spaces hw hg',
      ih hrules, rewrite_cons]

/-- **The normalised result of rules with tidy words** is the same for texts that have the same
spacing once they are trimmed. -/
lemma normalize_rewrite_eq (hblank : space blank) {rules : List (List α × List α)}
    (hrules : ∀ rule ∈ rules, Tidy space blank rule.1 ∧ Tidy space blank rule.2)
    (h : SameSpacing space blank (trim space t) (trim space t')) :
    normalize space blank (rewrite rules t) = normalize space blank (rewrite rules t') := by
  have htrim (u : List α) : normalize space blank (rewrite rules u) =
      normalize space blank (rewrite rules (trim space u)) := by
    have hparts : u.takeWhile space ++
        (trim space u ++ (u.dropWhile space).rtakeWhile space) = u := by
      rw [trim, List.rdropWhile_append_rtakeWhile, List.takeWhile_append_dropWhile]
    have hfirst : ∀ a ∈ u.takeWhile space, space a := fun a ha => List.mem_takeWhile_imp ha
    have hlast : ∀ a ∈ (u.dropWhile space).rtakeWhile space, space a :=
      fun a ha => List.mem_rtakeWhile_imp ha
    conv_lhs => rw [← hparts]
    rw [rewrite_append_spaces hrules hfirst hlast, normalize_append hblank hfirst hlast]
  rw [htrim t, htrim t', normalize, (h.rewrite hblank hrules).collapse_eq hblank false (by simp)]
  rfl

end Ends

end Spacing

end Foundations
