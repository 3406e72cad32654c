import AuraLive.Foundations.Regex
import Mathlib.Data.List.Forall2
import Mathlib.Data.List.TakeWhile

set_option relaxedAutoImplicit false
set_option autoImplicit false

/-!
# Replacing matches

Facts about replacing the matches of a regular expression in a text. A letter that no class of the
expression has stays where it is, and the text is replaced on both sides of it on its own.
Repetitions of a class read as many of its letters as there are, if what comes next does not begin
with one.

## Main definitions

* `Foundations.Regex.accepts`, `looks` — the letters that an expression reads, and what it asks for.
* `Foundations.Regex.Consumes` — an expression that does not match the empty word.
* `Foundations.Regex.between` — a bounded repetition.
* `Foundations.Regex.enclosed`, `unmark` — a word between marks, and what is left without them.
* `Foundations.Regex.KeepsMarks` — a substitution that keeps the letters apart from the marks.

## Main results

* `Foundations.Regex.run_alike` — an expression does not see beyond a letter that it does not read.
* `Foundations.Regex.replaceFrom_append`, `replaceFrom_append_cons` — so a text can be cut there.
* `Foundations.Regex.filter_replaceFrom` — letters that are kept by every replacement.
* `Foundations.Regex.flatMap_run_star_char`, `flatMap_run_upTo_char` — how far repetitions read.
* `Foundations.Regex.replaceFrom_flatMap` — marks are removed before or after a substitution.
-/

namespace Foundations

namespace Regex

variable {α : Type*}

/-! ## The letters of an expression -/

/-- Some class of the expression has the letter. -/
def accepts : Regex α → α → Bool
  | empty, _ | look _, _ => false
  | char p, a => p a
  | seq r s, a | alt r s, a => r.accepts a || s.accepts a
  | star r, a | group _ r, a => r.accepts a

/-- What an expression asks for without reading. -/
def looks : Regex α → List (List α → List α → Bool)
  | empty | char _ => []
  | look p => [p]
  | seq r s | alt r s => r.looks ++ s.looks
  | star r | group _ r => r.looks

/-- The empty word is not matched. -/
def Consumes (r : Regex α) : Prop := ∀ b t, ¬ r.Matches b [] t

/-- A letter is read. -/
lemma consumes_char (p : α → Bool) : (char p).Consumes := by
  rintro b t ⟨a, -, ha⟩
  cases ha

/-- The first part does not match the empty word. -/
lemma Consumes.seq_left {r : Regex α} (h : r.Consumes) (s : Regex α) : (seq r s).Consumes := by
  rintro b t ⟨u, v, huv, hu, -⟩
  obtain ⟨rfl, rfl⟩ := List.append_eq_nil_iff.mp huv.symm
  exact h _ _ hu

/-- The second part does not match the empty word. -/
lemma Consumes.seq_right {s : Regex α} (h : s.Consumes) (r : Regex α) : (seq r s).Consumes := by
  rintro b t ⟨u, v, huv, -, hv⟩
  obtain ⟨rfl, rfl⟩ := List.append_eq_nil_iff.mp huv.symm
  exact h _ _ hv

/-- The letters of a word that is matched are read by the expression. -/
lemma accepts_of_matches {r : Regex α} {b w t : List α} (h : r.Matches b w t) :
    ∀ a ∈ w, r.accepts a = true := by
  induction r generalizing b w t with
  | empty =>
    obtain rfl : w = [] := h
    simp
  | char p =>
    obtain ⟨a, ha, rfl⟩ := h
    simpa [accepts] using ha
  | seq r s ihr ihs =>
    obtain ⟨u, v, rfl, hr, hs⟩ := h
    intro a ha
    obtain hu | hv := List.mem_append.mp ha
    · simp [accepts, ihr hr a hu]
    · simp [accepts, ihs hs a hv]
  | alt r s ihr ihs =>
    intro a ha
    obtain hr | hs := h
    · simp [accepts, ihr hr a ha]
    · simp [accepts, ihs hs a ha]
  | star r ih =>
    change Repeats r.Matches b w t at h
    induction h with
    | nil => simp
    | cons hM _ ihv =>
      intro a ha
      obtain hu | hv := List.mem_append.mp ha
      · exact ih hM a hu
      · exact ihv a hv
  | group i r ih => exact ih h
  | look p =>
    obtain ⟨rfl, -⟩ := h
    simp

/-! ## Texts that look alike -/

/-- The same place in two texts, of which the second one has something else at its beginning and
goes on after the end of the first one. -/
structure Alike (b b' y : List α) (c d : Cursor α) : Prop where
  before : ∃ x, c.before = x ++ b ∧ d.before = x ++ b'
  after : d.after = c.after ++ y
  captures : d.captures = c.captures

section Alike

variable {b b' y u : List α} {c d : Cursor α}

/-- Two places that are alike are as far from their ends. -/
lemma Alike.length_after (h : Alike b b' y c d) : d.after.length = c.after.length + y.length := by
  rw [h.after, List.length_append]

/-- Repeating a step as often as there are letters is repeating it as often as one likes. -/
lemma iterate_eq (step : Cursor α → List (Cursor α)) {m n : ℕ} {c : Cursor α}
    (hm : c.after.length ≤ m) (hn : c.after.length ≤ n) : iterate step m c = iterate step n c := by
  induction m generalizing n c with
  | zero =>
    cases n with
    | zero => rfl
    | succ n =>
      have hnone : (step c).filter (fun d => d.after.length < c.after.length) = [] :=
        List.filter_eq_nil_iff.mpr fun d _ => by simp; omega
      rw [iterate, iterate, hnone]
      rfl
  | succ m ih =>
    cases n with
    | zero =>
      have hnone : (step c).filter (fun d => d.after.length < c.after.length) = [] :=
        List.filter_eq_nil_iff.mpr fun d _ => by simp; omega
      rw [iterate, iterate, hnone]
      rfl
    | succ n =>
      rw [iterate, iterate, List.flatMap_congr fun d hd => ?_]
      have hlt : d.after.length < c.after.length := by simpa using (List.mem_filter.mp hd).2
      exact ih (by omega) (by omega)

/-- Steps that do alike can be repeated. -/
lemma forall₂_iterate {step step' : Cursor α → List (Cursor α)}
    (hstep : ∀ c d, Alike b b' y c d → List.Forall₂ (Alike b b' y) (step c) (step' d)) (n : ℕ)
    (h : Alike b b' y c d) :
    List.Forall₂ (Alike b b' y) (iterate step n c) (iterate step' n d) := by
  induction n generalizing c d with
  | zero => exact .cons h .nil
  | succ n ih =>
    refine List.rel_append (List.rel_flatMap (List.rel_filter (fun e e' he => ?_) (hstep c d h))
      fun e e' he => ih he) (.cons h .nil)
    simp only [decide_eq_true_eq, he.length_after, h.length_after]
    omega

/-- **What an expression does not see**: what is before, if it asks for nothing there that is
different, and what is after a letter that it does not read.

**Proof sketch.** Induction on the expression, for places that are alike. A letter that is read is
followed by places that are alike again, and at the end of the first text neither reads. A
repetition has more rounds in the longer text, but not more than it has letters to read. What a
group captures lies before the end of the first text. A condition is asked at places that agree as
far as it looks. -/
theorem run_alike {r : Regex α} (hy : ∀ a ∈ y.head?, r.accepts a = false)
    (hlooks : ∀ p ∈ r.looks, ∀ x t, p (x ++ b') (t ++ y) = p (x ++ b) t)
    (h : Alike b b' y c d) : List.Forall₂ (Alike b b' y) (r.run c) (r.run d) := by
  induction r generalizing c d with
  | empty => exact .cons h .nil
  | char p =>
    obtain ⟨⟨x, hb, hb'⟩, hafter, hcaptures⟩ := h
    rw [run, run, hafter]
    cases ht : c.after with
    | nil =>
      cases y with
      | nil => exact .nil
      | cons a y =>
        have hrejected : p a = false := hy a rfl
        simp [hrejected]
    | cons a t =>
      simp only [List.cons_append]
      split
      · exact .cons ⟨⟨a :: x, by simp [hb], by simp [hb']⟩, rfl, hcaptures⟩ .nil
      · exact .nil
  | seq r s ihr ihs =>
    have hr := ihr (fun a ha => (Bool.or_eq_false_iff.mp (hy a ha)).1)
      (fun p hp => hlooks p (List.mem_append_left _ hp)) h
    exact List.rel_flatMap hr fun e e' he =>
      ihs (fun a ha => (Bool.or_eq_false_iff.mp (hy a ha)).2)
        (fun p hp => hlooks p (List.mem_append_right _ hp)) he
  | alt r s ihr ihs =>
    exact List.rel_append
      (ihr (fun a ha => (Bool.or_eq_false_iff.mp (hy a ha)).1)
        (fun p hp => hlooks p (List.mem_append_left _ hp)) h)
      (ihs (fun a ha => (Bool.or_eq_false_iff.mp (hy a ha)).2)
        (fun p hp => hlooks p (List.mem_append_right _ hp)) h)
  | star r ih =>
    rw [run, run, h.length_after, iterate_eq _ (Nat.le_refl _) (Nat.le_add_right _ y.length)]
    refine forall₂_iterate (fun e e' he => ih hy hlooks ?_) _ h
    exact ⟨he.before, he.after, by simp [Cursor.forget, he.captures]⟩
  | group i r ih =>
    refine List.rel_map (fun e e' he => ?_) (ih hy hlooks h)
    refine ⟨he.before, he.after, ?_⟩
    have hword : d.after.take (d.after.length - e'.after.length) =
        c.after.take (c.after.length - e.after.length) := by
      rw [h.length_after, he.length_after, h.after, Nat.add_sub_add_right,
        List.take_append_of_le_length (Nat.sub_le _ _)]
    simp only [Cursor.capture, hword, he.captures]
  | look p =>
    obtain ⟨x, hb, hb'⟩ := h.before
    have hsame : p d.before d.after = p c.before c.after := by
      rw [hb, hb', h.after]
      exact hlooks p (List.mem_singleton.mpr rfl) x c.after
    rw [run, run, hsame]
    split
    · exact .cons h .nil
    · exact .nil

/-- At places that are alike, the same is found. -/
lemma firstAt_alike {r : Regex α} (hy : ∀ a ∈ y.head?, r.accepts a = false)
    (hlooks : ∀ p ∈ r.looks, ∀ x t, p (x ++ b') (t ++ y) = p (x ++ b) t) :
    r.firstAt b' (u ++ y) =
      (r.firstAt b u).map fun m => ⟨b'.reverse, m.word, m.after ++ y, m.captures⟩ := by
  have hrun := run_alike hy hlooks
    (show Alike b b' y ⟨b, u, []⟩ ⟨b', u ++ y, []⟩ from ⟨⟨[], rfl, rfl⟩, rfl, rfl⟩)
  unfold firstAt
  generalize r.run ⟨b, u, []⟩ = ways at hrun
  generalize r.run ⟨b', u ++ y, []⟩ = ways' at hrun
  cases hrun with
  | nil => rfl
  | @cons e e' _ _ he _ =>
    have hword : (u ++ y).take ((u ++ y).length - e'.after.length) =
        u.take (u.length - e.after.length) := by
      rw [List.length_append, he.length_after, Nat.add_sub_add_right,
        List.take_append_of_le_length (Nat.sub_le _ _)]
    simp only [List.head?_cons, Option.map_some, hword]
    rw [he.after, he.captures]

end Alike

/-! ## Replacing -/

section Replacing

variable {r : Regex α} {f : Match α → List α} {b b' t u y : List α} {m : Match α}

/-- What is found at a place. -/
lemma firstAt_spec (h : r.firstAt b t = some m) :
    t = m.word ++ m.after ∧ r.Matches b m.word m.after := by
  obtain ⟨d, hd, rfl⟩ := Option.map_eq_some_iff.mp h
  obtain ⟨w, hw, hmatches⟩ := exists_of_mem_run (List.mem_of_head? hd)
  have hafter : t = w ++ d.after := hw.1
  have hword : t.take (t.length - d.after.length) = w := by
    rw [hafter, List.length_append, Nat.add_sub_cancel, List.take_left]
  simp only [hword]
  exact ⟨hafter, hmatches⟩

/-- The words of the groups are matched by their expressions. -/
lemma captures_of_firstAt {P : ℕ × List α → Prop}
    (hbodies : ∀ i s, (i, s) ∈ r.bodies → ∀ b w t, s.Matches b w t → P (i, w))
    (h : r.firstAt b t = some m) : ∀ x ∈ m.captures, P x := by
  obtain ⟨d, hd, rfl⟩ := Option.map_eq_some_iff.mp h
  exact captures_of_mem_run hbodies (by simp) (List.mem_of_head? hd)

/-- A word that is the only one to be matched is found. -/
lemma exists_firstAt {w : List α} (h : r.Matches b w t)
    (hunique : ∀ w' t', w ++ t = w' ++ t' → r.Matches b w' t' → w' = w) :
    ∃ m, r.firstAt b (w ++ t) = some m ∧ m.after = t := by
  obtain ⟨m, hm⟩ := Option.isSome_iff_exists.mp (firstAt_isSome_iff.mpr ⟨w, t, rfl, h⟩)
  obtain ⟨hsplit, hmatches⟩ := firstAt_spec hm
  have hword := hunique m.word m.after hsplit hmatches
  rw [hword] at hsplit
  exact ⟨m, hm, (List.append_cancel_left hsplit).symm⟩

/-- An expression that does not match the empty word finds something. -/
lemma word_ne_nil (hr : r.Consumes) (h : r.firstAt b t = some m) : m.word ≠ [] := by
  intro hnil
  have hmatches := (firstAt_spec h).2
  rw [hnil] at hmatches
  exact hr _ _ hmatches

/-- Nothing is found at the end. -/
lemma firstAt_nil (hr : r.Consumes) (b : List α) : r.firstAt b [] = none := by
  cases h : r.firstAt b [] with
  | none => rfl
  | some m =>
    obtain ⟨hword, -⟩ := List.append_eq_nil_iff.mp (firstAt_spec h).1.symm
    exact (word_ne_nil hr h hword).elim

lemma replaceFrom_nil (hr : r.Consumes) (n : ℕ) (b : List α) : r.replaceFrom f n b [] = [] := by
  cases n <;> simp [replaceFrom, firstAt_nil hr]

/-- The letters of a match are dropped. -/
lemma replaceFrom_length (u t : List α) :
    r.replaceFrom f u.length b (u ++ t) = r.replaceFrom f 0 (u.reverse ++ b) t := by
  induction u generalizing b with
  | nil => rfl
  | cons a u ih =>
    rw [List.cons_append, List.length_cons, replaceFrom, ih, List.reverse_cons, List.append_assoc]
    rfl

/-- Where nothing is found, a letter is kept. -/
lemma replaceFrom_of_none {a : α} (h : r.firstAt b (a :: t) = none) :
    r.replaceFrom f 0 b (a :: t) = a :: r.replaceFrom f 0 (a :: b) t := by
  rw [replaceFrom, h]

/-- What is found is replaced. -/
lemma replaceFrom_of_some (hr : r.Consumes) (h : r.firstAt b t = some m) :
    r.replaceFrom f 0 b t = f m ++ r.replaceFrom f 0 (m.word.reverse ++ b) m.after := by
  obtain ⟨a, u, hword⟩ := List.exists_cons_of_ne_nil (word_ne_nil hr h)
  have ht : t = a :: (u ++ m.after) := by
    rw [(firstAt_spec h).1, hword]
    rfl
  subst ht
  rw [replaceFrom, h]
  simp only [hword, List.length_cons]
  rw [replaceFrom_length, List.reverse_cons, List.append_assoc]
  rfl

/-- **Induction along a replacement**: a letter is kept, or something that is found is replaced. -/
lemma replaceFrom_induction {P : List α → List α → List α → Prop} (hr : r.Consumes)
    (nil : ∀ b, P b [] [])
    (keep : ∀ b a t o, r.firstAt b (a :: t) = none → P (a :: b) t o → P b (a :: t) (a :: o))
    (hit : ∀ b t m o, r.firstAt b t = some m → t = m.word ++ m.after →
      P (m.word.reverse ++ b) m.after o → P b t (f m ++ o)) :
    ∀ b t, P b t (r.replaceFrom f 0 b t) := by
  intro b t
  induction hlength : t.length using Nat.strongRecOn generalizing b t with
  | _ n ih =>
    cases t with
    | nil =>
      rw [replaceFrom_nil hr]
      exact nil b
    | cons a t =>
      cases h : r.firstAt b (a :: t) with
      | none =>
        rw [replaceFrom_of_none h]
        exact keep b a t _ h (ih t.length (by simp [← hlength]) _ _ rfl)
      | some m =>
        have hsplit := (firstAt_spec h).1
        have hpos := List.length_pos_iff.mpr (word_ne_nil hr h)
        have hlt : m.after.length < n := by
          rw [← hlength, hsplit, List.length_append]
          omega
        rw [replaceFrom_of_some hr h]
        exact hit b _ m _ h hsplit (ih _ hlt _ _ rfl)

/-- **Letters that are kept** by every replacement are kept in the text. -/
lemma filter_replaceFrom {q : α → Bool} (hr : r.Consumes)
    (hf : ∀ b t m, r.firstAt b t = some m → (f m).filter q = m.word.filter q) (b t : List α) :
    (r.replaceFrom f 0 b t).filter q = t.filter q := by
  refine replaceFrom_induction (P := fun _ t o => o.filter q = t.filter q) hr (fun _ => rfl)
    (fun b a t o _ ho => ?_) (fun b t m o h ht ho => ?_) b t
  · rw [List.filter_cons, List.filter_cons, ho]
  · rw [ht, List.filter_append, List.filter_append, hf b t m h, ho]

/-- Letters that are neither read nor written are kept. -/
lemma filter_replaceFrom_of_not_accepts {q : α → Bool} (hr : r.Consumes)
    (hq : ∀ a, q a → r.accepts a = false) (hf : ∀ m, (f m).filter q = []) (b t : List α) :
    (r.replaceFrom f 0 b t).filter q = t.filter q := by
  refine filter_replaceFrom hr (fun b t m h => ?_) b t
  rw [hf, eq_comm, List.filter_eq_nil_iff]
  intro a ha haq
  simpa [hq a haq] using accepts_of_matches (firstAt_spec h).2 a ha

/-- Replacements that only leave letters out do so in the text. -/
lemma replaceFrom_sublist (hr : r.Consumes)
    (hf : ∀ b t m, r.firstAt b t = some m → (f m).Sublist m.word) (b t : List α) :
    (r.replaceFrom f 0 b t).Sublist t := by
  refine replaceFrom_induction (P := fun _ t o => o.Sublist t) hr (fun _ => .slnil)
    (fun b a t o _ ho => ho.cons_cons a) (fun b t m o h ht ho => ?_) b t
  rw [ht]
  exact (hf b t m h).append ho

/-- A replacement depends on the word that is found and on its groups. -/
def Local (f : Match α → List α) : Prop :=
  ∀ m m' : Match α, m.word = m'.word → m.captures = m'.captures → f m = f m'

/-- **A text is cut** in front of a letter that is not read: the first part does not depend on what
is before the text, as far as it is not asked for. -/
theorem replaceFrom_append (hr : r.Consumes) (hf : Local f)
    (hy : ∀ a ∈ y.head?, r.accepts a = false)
    (hlooks : ∀ p ∈ r.looks, ∀ x t, p (x ++ b') (t ++ y) = p (x ++ b) t) :
    r.replaceFrom f 0 b' (u ++ y) =
      r.replaceFrom f 0 b u ++ r.replaceFrom f 0 (u.reverse ++ b') y := by
  induction hlength : u.length using Nat.strongRecOn generalizing b b' u with
  | _ n ih =>
    have hlooks' (z : List α) : ∀ p ∈ r.looks, ∀ x t,
        p (x ++ (z ++ b')) (t ++ y) = p (x ++ (z ++ b)) t := by
      intro p hp x t
      rw [← List.append_assoc, ← List.append_assoc]
      exact hlooks p hp (x ++ z) t
    have hfirst := firstAt_alike (u := u) hy hlooks
    cases u with
    | nil => simp [replaceFrom_nil hr]
    | cons a u =>
      cases h : r.firstAt b (a :: u) with
      | none =>
        rw [h] at hfirst
        have hnone : r.firstAt b' (a :: (u ++ y)) = none := hfirst
        have hrest : r.replaceFrom f 0 (a :: b') (u ++ y) =
            r.replaceFrom f 0 (a :: b) u ++ r.replaceFrom f 0 (u.reverse ++ a :: b') y :=
          ih u.length (by simp [← hlength]) (hlooks' [a]) rfl
        rw [List.cons_append, replaceFrom_of_none hnone, replaceFrom_of_none h, hrest,
          List.reverse_cons, List.append_assoc]
        rfl
      | some m =>
        rw [h] at hfirst
        have hsplit := (firstAt_spec h).1
        have hpos := List.length_pos_iff.mpr (word_ne_nil hr h)
        have hlt : m.after.length < n := by
          rw [← hlength, hsplit, List.length_append]
          omega
        rw [replaceFrom_of_some hr hfirst, replaceFrom_of_some hr h]
        simp only
        rw [ih _ hlt (hlooks' m.word.reverse) rfl, hsplit, List.reverse_append, List.append_assoc,
          List.append_assoc, hf ⟨b'.reverse, m.word, m.after ++ y, m.captures⟩ m rfl rfl]

/-- What is before a text makes no difference if it is not asked for. -/
lemma replaceFrom_congr (hr : r.Consumes) (hf : Local f)
    (hlooks : ∀ p ∈ r.looks, ∀ x t, p (x ++ b') t = p (x ++ b) t) (t : List α) :
    r.replaceFrom f 0 b' t = r.replaceFrom f 0 b t := by
  have happend : r.replaceFrom f 0 b' (t ++ []) =
      r.replaceFrom f 0 b t ++ r.replaceFrom f 0 (t.reverse ++ b') [] :=
    replaceFrom_append hr hf (by simp) fun p hp x t => by
      rw [List.append_nil]
      exact hlooks p hp x t
  rwa [List.append_nil, replaceFrom_nil hr, List.append_nil] at happend

/-- **A letter that is not read** stays, and the text is replaced on both sides of it. -/
lemma replaceFrom_append_cons (hr : r.Consumes) (hf : Local f) {a : α} (ha : r.accepts a = false)
    (hlooks : ∀ p ∈ r.looks, ∀ x t t', p x t = p x t') :
    r.replaceFrom f 0 b (u ++ a :: t) =
      r.replaceFrom f 0 b u ++ a :: r.replaceFrom f 0 (a :: (u.reverse ++ b)) t := by
  have hy : ∀ c ∈ (a :: t).head?, r.accepts c = false := fun c hc => Option.some.inj hc ▸ ha
  have hnone : r.firstAt (u.reverse ++ b) (a :: t) = none := by
    have hfirst : r.firstAt (u.reverse ++ b) ([] ++ a :: t) =
        (r.firstAt (u.reverse ++ b) []).map _ :=
      firstAt_alike hy fun p hp x t => hlooks p hp _ _ _
    rw [firstAt_nil hr] at hfirst
    exact hfirst
  rw [replaceFrom_append hr hf hy fun p hp x t => hlooks p hp _ _ _, replaceFrom_of_none hnone]

/-- Letters at which nothing is found are kept. -/
lemma replaceFrom_append_of_none (hu : ∀ a ∈ u, ∀ b t, r.firstAt b (a :: t) = none) (b t : List α) :
    r.replaceFrom f 0 b (u ++ t) = u ++ r.replaceFrom f 0 (u.reverse ++ b) t := by
  induction u generalizing b with
  | nil => rfl
  | cons a u ih =>
    obtain ⟨ha, hu⟩ := List.forall_mem_cons.mp hu
    rw [List.cons_append, replaceFrom_of_none (ha b (u ++ t)), ih hu, List.reverse_cons,
      List.append_assoc]
    rfl

/-- A text of letters at which nothing is found is kept. -/
lemma replaceFrom_of_forall_none (hr : r.Consumes)
    (hu : ∀ a ∈ u, ∀ b t, r.firstAt b (a :: t) = none) (b : List α) :
    r.replaceFrom f 0 b u = u := by
  have happend := replaceFrom_append_of_none (f := f) hu b []
  rwa [replaceFrom_nil hr, List.append_nil] at happend

/-- **A word between letters at which nothing is found** is replaced, if it is the only one to be
matched there. -/
lemma exists_replaceAll_eq (hr : r.Consumes) (f : Match α → List α) {w : List α}
    (h : r.Matches u.reverse w t)
    (hunique : ∀ w' t', w ++ t = w' ++ t' → r.Matches u.reverse w' t' → w' = w)
    (hu : ∀ a ∈ u, ∀ b t, r.firstAt b (a :: t) = none)
    (ht : ∀ a ∈ t, ∀ b t, r.firstAt b (a :: t) = none) :
    ∃ m, r.firstAt u.reverse (w ++ t) = some m ∧
      r.replaceAll f (u ++ (w ++ t)) = u ++ (f m ++ t) := by
  obtain ⟨m, hm, hafter⟩ := exists_firstAt h hunique
  refine ⟨m, hm, ?_⟩
  rw [replaceAll, replaceFrom_append_of_none hu, List.append_nil, replaceFrom_of_some hr hm, hafter,
    replaceFrom_of_forall_none hr ht]

/-- A text in which there is no match is kept. -/
lemma replaceAll_of_not_occurs (hr : r.Consumes) (h : ¬ r.Occurs t) : r.replaceAll f t = t := by
  have hnone (u y : List α) (ht : t = u ++ y) : r.firstAt u.reverse y = none := by
    rw [← Option.not_isSome_iff_eq_none, firstAt_isSome_iff]
    rintro ⟨w, z, rfl, hw⟩
    exact h ⟨u, w, z, ht, hw⟩
  have hfrom (y u : List α) (ht : t = u ++ y) : r.replaceFrom f 0 u.reverse y = y := by
    induction y generalizing u with
    | nil => exact replaceFrom_nil hr 0 _
    | cons a y ih =>
      have hnext := ih (u ++ [a]) (by rw [ht, List.append_assoc]; rfl)
      rw [List.reverse_append] at hnext
      rw [replaceFrom_of_none (hnone u (a :: y) ht)]
      exact congrArg (a :: ·) hnext
  exact hfrom t [] rfl

end Replacing

/-! ## Repetitions of a class -/

/-- `n` times. -/
def times (r : Regex α) : ℕ → Regex α
  | 0 => empty
  | n + 1 => seq r (times r n)

/-- At most `n` times. -/
def upTo (r : Regex α) : ℕ → Regex α
  | 0 => empty
  | n + 1 => opt (seq r (upTo r n))

/-- `r{lo,hi}`. -/
def between (r : Regex α) (lo hi : ℕ) : Regex α := seq (times r lo) (upTo r (hi - lo))

section Runs

variable {p : α → Bool} {s : Cursor α → List (Cursor α)} {b t : List α}
  {captures : List (ℕ × List α)}

/-- The first letters of a class, after some of them. -/
lemma takeWhile_drop {n : ℕ} (h : n ≤ (t.takeWhile p).length) :
    (t.drop n).takeWhile p = (t.takeWhile p).drop n ∧ (t.drop n).dropWhile p = t.dropWhile p := by
  induction n generalizing t with
  | zero => simp
  | succ n ih =>
    cases t with
    | nil => simp at h
    | cons a t =>
      cases ha : p a with
      | true =>
        have hn : n ≤ (t.takeWhile p).length := by simpa [ha] using h
        simpa [ha] using ih hn
      | false => simp [ha] at h

/-- Some of the first letters of a class. -/
lemma take_takeWhile {n : ℕ} (h : n ≤ (t.takeWhile p).length) :
    (t.takeWhile p).take n = t.take n := by
  conv_rhs => rw [← List.takeWhile_append_dropWhile (p := p) (l := t)]
  rw [List.take_append_of_le_length h]

/-- One more letter of the class. -/
lemma run_star_char_cons {a : α} (ha : p a = true) :
    (star (char p)).run ⟨b, a :: t, captures⟩ =
      (star (char p)).run ⟨a :: b, t, captures⟩ ++ [⟨b, a :: t, captures⟩] := by
  simp [run, iterate, Cursor.forget, groups, ha]

/-- No more letter of the class. -/
lemma run_star_char_of_not (h : ∀ a ∈ t.head?, p a = false) :
    (star (char p)).run ⟨b, t, captures⟩ = [⟨b, t, captures⟩] := by
  cases t with
  | nil => rfl
  | cons a t =>
    have ha : p a = false := h a rfl
    simp [run, iterate, Cursor.forget, groups, ha]

/-- **A repetition reads all letters** of its class if what comes next does not begin with one. -/
lemma flatMap_run_star_char (hs : ∀ b a t captures, p a = true → s ⟨b, a :: t, captures⟩ = []) :
    ((star (char p)).run ⟨b, t, captures⟩).flatMap s =
      s ⟨(t.takeWhile p).reverse ++ b, t.dropWhile p, captures⟩ := by
  induction t generalizing b with
  | nil =>
    rw [run_star_char_of_not (by simp)]
    simp
  | cons a t ih =>
    cases ha : p a with
    | true => simp [run_star_char_cons ha, ih, ha, hs]
    | false =>
      rw [run_star_char_of_not (by simp [ha])]
      simp [ha]

/-- A group that is not empty reads all letters of its class, and has them as its word. -/
lemma flatMap_run_group_char (i : ℕ)
    (hs : ∀ b a t captures, p a = true → s ⟨b, a :: t, captures⟩ = []) :
    ((group i (plus (char p))).run ⟨b, t, captures⟩).flatMap s =
      if t.takeWhile p = [] then []
      else s ⟨(t.takeWhile p).reverse ++ b, t.dropWhile p, (i, t.takeWhile p) :: captures⟩ := by
  cases t with
  | nil => simp [run, plus]
  | cons a t =>
    cases ha : p a with
    | false => simp [run, plus, ha]
    | true =>
      have hword : (a :: t).take ((a :: t).length - (t.dropWhile p).length) =
          a :: t.takeWhile p := by
        have hlength := congrArg List.length (List.takeWhile_append_dropWhile (p := p) (l := t))
        rw [List.length_append] at hlength
        have hsub : (a :: t).length - (t.dropWhile p).length = (t.takeWhile p).length + 1 := by
          rw [List.length_cons]
          omega
        rw [hsub, List.take_succ_cons, ← take_takeWhile (Nat.le_refl _), List.take_length]
      have hrun : (plus (char p)).run ⟨b, a :: t, captures⟩ =
          (star (char p)).run ⟨a :: b, t, captures⟩ := by
        simp [plus, run, ha]
      rw [run, hrun, List.flatMap_map]
      refine (flatMap_run_star_char (s := fun e => s (Cursor.capture ⟨b, a :: t, captures⟩ i e))
        fun b a t _ h => hs b a t _ h).trans ?_
      simp only [Cursor.capture, hword]
      simp [ha]

/-- A number of letters of the class. -/
lemma run_times_char (n : ℕ) :
    (times (char p) n).run ⟨b, t, captures⟩ =
      if n ≤ (t.takeWhile p).length then [⟨(t.take n).reverse ++ b, t.drop n, captures⟩]
      else [] := by
  induction n generalizing b t with
  | zero => simp [times, run]
  | succ n ih =>
    cases t with
    | nil => simp [times, run]
    | cons a t =>
      cases ha : p a with
      | true => simp [times, run, ha, ih]
      | false => simp [times, run, ha]

/-- A bounded repetition reads all letters of the class, if what comes next does not begin with one,
or fails. -/
lemma flatMap_run_upTo_char (n : ℕ)
    (hs : ∀ b a t captures, p a = true → s ⟨b, a :: t, captures⟩ = []) :
    ((upTo (char p) n).run ⟨b, t, captures⟩).flatMap s =
      if (t.takeWhile p).length ≤ n then
        s ⟨(t.takeWhile p).reverse ++ b, t.dropWhile p, captures⟩
      else [] := by
  induction n generalizing b t with
  | zero =>
    cases t with
    | nil => simp [upTo, run]
    | cons a t =>
      cases ha : p a with
      | true => simp [upTo, run, ha, hs]
      | false => simp [upTo, run, ha]
  | succ n ih =>
    cases t with
    | nil => simp [upTo, opt, run]
    | cons a t =>
      cases ha : p a with
      | true => simp [upTo, opt, run, ha, ih, hs]
      | false => simp [upTo, opt, run, ha]

/-- `{0,n}` of a class reads as many letters of it as it may. -/
lemma head?_run_upTo_char (n : ℕ) :
    ((upTo (char p) n).run ⟨b, t, captures⟩).head? =
      some ⟨(t.take (min n (t.takeWhile p).length)).reverse ++ b,
        t.drop (min n (t.takeWhile p).length), captures⟩ := by
  induction n generalizing b t with
  | zero => simp [upTo, run]
  | succ n ih =>
    cases t with
    | nil => simp [upTo, opt, run]
    | cons a t =>
      cases ha : p a with
      | true => simp [upTo, opt, run, ha, List.head?_append, ih, Nat.succ_min_succ]
      | false => simp [upTo, opt, run, ha]

/-- The letters of a class at the beginning are read by repeating it as often as there are some, if
what comes next does not begin with one. -/
lemma flatMap_run_between_char {lo hi : ℕ} (hle : lo ≤ hi)
    (hs : ∀ b a t captures, p a = true → s ⟨b, a :: t, captures⟩ = []) :
    ((between (char p) lo hi).run ⟨b, t, captures⟩).flatMap s =
      if lo ≤ (t.takeWhile p).length ∧ (t.takeWhile p).length ≤ hi then
        s ⟨(t.takeWhile p).reverse ++ b, t.dropWhile p, captures⟩
      else [] := by
  rw [between, run, List.flatMap_assoc, run_times_char]
  by_cases hlo : lo ≤ (t.takeWhile p).length
  · obtain ⟨htake, hdrop⟩ := takeWhile_drop hlo
    rw [if_pos hlo, List.flatMap_singleton, flatMap_run_upTo_char _ hs, htake, hdrop]
    have hword : ((t.takeWhile p).drop lo).reverse ++ ((t.take lo).reverse ++ b) =
        (t.takeWhile p).reverse ++ b := by
      rw [← List.append_assoc, ← List.reverse_append, ← take_takeWhile hlo, List.take_append_drop]
    rw [hword, List.length_drop]
    refine if_congr ?_ rfl rfl
    omega
  · rw [if_neg hlo, if_neg fun h => hlo h.1, List.flatMap_nil]

/-- As many of them as may be are read rather than fewer. -/
lemma head?_run_between_char {lo hi : ℕ} (hle : lo ≤ hi) :
    ((between (char p) lo hi).run ⟨b, t, captures⟩).head? =
      if lo ≤ (t.takeWhile p).length then
        some ⟨(t.take (min hi (t.takeWhile p).length)).reverse ++ b,
          t.drop (min hi (t.takeWhile p).length), captures⟩
      else none := by
  rw [between, run, run_times_char]
  by_cases hlo : lo ≤ (t.takeWhile p).length
  · obtain ⟨htake, -⟩ := takeWhile_drop hlo
    have hmin : min hi (t.takeWhile p).length =
        lo + min (hi - lo) ((t.takeWhile p).length - lo) := by omega
    rw [if_pos hlo, if_pos hlo, List.flatMap_singleton, head?_run_upTo_char, htake,
      List.length_drop, List.drop_drop, hmin, List.take_add, List.reverse_append,
      List.append_assoc]
  · rw [if_neg hlo, if_neg hlo]
    rfl

end Runs

/-! ## Words between marks -/

/-- A word between marks. Its group is the word without them. -/
def enclosed (p : α → Bool) (lo hi : ℕ) : Regex α :=
  seq (between (char p) lo hi) (seq (group 1 (plus (char fun a => !p a))) (between (char p) lo hi))

/-- The marks are taken away. -/
def unmark (m : Match α) : List α := (m.get 1).getD []

/-- What is left is the word of a group, or nothing. -/
lemma unmark_mem (m : Match α) : unmark m = [] ∨ (1, unmark m) ∈ m.captures := by
  cases h : m.get 1 with
  | none => simp [unmark, h]
  | some w =>
    obtain ⟨front, back, hcaptures, -⟩ := List.lookup_eq_some_iff.mp h
    simp [unmark, h, hcaptures]

section Enclosed

variable {p : α → Bool} {lo hi : ℕ} {b b' t u : List α}

/-- What is found at a place is determined by the first marks, by what follows them and by the
marks that come then. -/
lemma firstAt_enclosed (hlo : 1 ≤ lo) (hle : lo ≤ hi) {marks inner rest : List α}
    (hmarks : t.takeWhile p = marks) (hinner : (t.dropWhile p).takeWhile (fun a => !p a) = inner)
    (hrest : (t.dropWhile p).dropWhile (fun a => !p a) = rest) :
    (enclosed p lo hi).firstAt b t =
      if lo ≤ marks.length ∧ marks.length ≤ hi ∧ inner ≠ [] ∧ lo ≤ (rest.takeWhile p).length then
        let after := rest.drop (min hi (rest.takeWhile p).length)
        some ⟨b.reverse, t.take (t.length - after.length), after, [(1, inner)]⟩
      else none := by
  have hclosing (b : List α) (a : α) (t : List α) (captures : List (ℕ × List α))
      (ha : p a = false) : (between (char p) lo hi).run ⟨b, a :: t, captures⟩ = [] := by
    rw [between, run, run_times_char, if_neg (by simp [ha]; omega), List.flatMap_nil]
  have hgroup (b y : List α) (captures : List (ℕ × List α)) :
      (seq (group 1 (plus (char fun a => !p a))) (between (char p) lo hi)).run ⟨b, y, captures⟩ =
        if y.takeWhile (fun a => !p a) = [] then []
        else (between (char p) lo hi).run ⟨(y.takeWhile fun a => !p a).reverse ++ b,
          y.dropWhile fun a => !p a, (1, y.takeWhile fun a => !p a) :: captures⟩ :=
    flatMap_run_group_char 1 fun b a t captures h => hclosing b a t captures (by simpa using h)
  have hopening (b : List α) (a : α) (y : List α) (captures : List (ℕ × List α))
      (ha : p a = true) : (seq (group 1 (plus (char fun a => !p a))) (between (char p) lo hi)).run
        ⟨b, a :: y, captures⟩ = [] := by
    rw [hgroup, if_pos (by simp [ha])]
  rw [firstAt, enclosed, run, flatMap_run_between_char hle hopening, hgroup, hmarks, hinner, hrest]
  by_cases hcount : lo ≤ marks.length ∧ marks.length ≤ hi
  · by_cases hne : inner = []
    · rw [if_pos hcount, if_pos hne, if_neg fun h => h.2.2.1 hne]
      rfl
    · rw [if_pos hcount, if_neg hne, head?_run_between_char hle]
      by_cases hclosed : lo ≤ (rest.takeWhile p).length
      · rw [if_pos hclosed, if_pos ⟨hcount.1, hcount.2, hne, hclosed⟩]
        rfl
      · rw [if_neg hclosed, if_neg fun h => hclosed h.2.2.2]
        rfl
  · rw [if_neg hcount, if_neg fun h => hcount ⟨h.1, h.2.1⟩]
    rfl

/-- Marks only begin where there is one. -/
lemma firstAt_enclosed_of_not (hlo : 1 ≤ lo) (hle : lo ≤ hi) {a : α} (ha : p a = false) :
    (enclosed p lo hi).firstAt b (a :: t) = none := by
  rw [firstAt_enclosed hlo hle rfl rfl rfl, if_neg]
  rintro ⟨hcount, -⟩
  simp [ha] at hcount
  omega

/-- What is found is a word and the marks around it. -/
lemma word_of_firstAt_enclosed (hlo : 1 ≤ lo) (hle : lo ≤ hi) {m : Match α}
    (h : (enclosed p lo hi).firstAt b t = some m) :
    ∃ x y, m.word = x ++ unmark m ++ y ∧ (∀ a ∈ x ++ y, p a = true) := by
  have hspec := (firstAt_spec h).1
  rw [firstAt_enclosed hlo hle rfl rfl rfl] at h
  split at h
  · obtain rfl := Option.some.inj h
    generalize hinner : (t.dropWhile p).takeWhile (fun a => !p a) = inner at *
    generalize hrest : (t.dropWhile p).dropWhile (fun a => !p a) = rest at *
    generalize hk : min hi (rest.takeWhile p).length = k at *
    have hle' : k ≤ (rest.takeWhile p).length := by omega
    refine ⟨t.takeWhile p, (rest.takeWhile p).take k, ?_, ?_⟩
    · have ht : t = t.takeWhile p ++ (inner ++ rest) := by
        rw [← hinner, ← hrest, List.takeWhile_append_dropWhile, List.takeWhile_append_dropWhile]
      refine List.append_cancel_right (hspec.symm.trans (ht.trans ?_))
      rw [take_takeWhile hle', List.append_assoc, List.append_assoc, List.take_append_drop]
      rfl
    · intro a ha
      obtain ha | ha := List.mem_append.mp ha
      · exact List.mem_takeWhile_imp ha
      · exact List.mem_takeWhile_imp (List.mem_of_mem_take ha)
  · cases h

/-- A word between marks is not empty: the marks are part of what is found. -/
lemma consumes_enclosed (hlo : 1 ≤ lo) : (enclosed p lo hi).Consumes := by
  rintro b t ⟨u, v, huv, ⟨x, y, rfl, hx, -⟩, -⟩
  obtain ⟨rfl, rfl, rfl⟩ : x = [] ∧ y = [] ∧ v = [] := by simpa using huv.symm
  obtain ⟨n, rfl⟩ : ∃ n, lo = n + 1 := Nat.exists_eq_succ_of_ne_zero (by omega)
  obtain ⟨x, y, hxy, ⟨a, -, rfl⟩, -⟩ := hx
  simp at hxy

/-- Taking marks away keeps the other letters. -/
lemma filter_unmark {q : α → Bool} (hlo : 1 ≤ lo) (hle : lo ≤ hi) (hq : ∀ a, p a → q a = false)
    (b t : List α) : ((enclosed p lo hi).replaceFrom unmark 0 b t).filter q = t.filter q := by
  refine filter_replaceFrom (consumes_enclosed hlo) (fun b t m h => ?_) b t
  obtain ⟨x, y, hword, hmarks⟩ := word_of_firstAt_enclosed hlo hle h
  have hnone (z : List α) (hz : ∀ a ∈ z, p a = true) : z.filter q = [] :=
    List.filter_eq_nil_iff.mpr fun a ha => by simp [hq a (hz a ha)]
  rw [hword, List.filter_append, List.filter_append,
    hnone x fun a ha => hmarks a (List.mem_append_left y ha),
    hnone y fun a ha => hmarks a (List.mem_append_right x ha), List.append_nil, List.nil_append]

/-- Taking marks away only leaves letters out. -/
lemma unmark_sublist (hlo : 1 ≤ lo) (hle : lo ≤ hi) (b t : List α) :
    ((enclosed p lo hi).replaceFrom unmark 0 b t).Sublist t := by
  refine replaceFrom_sublist (consumes_enclosed hlo) (fun b t m h => ?_) b t
  obtain ⟨x, y, hword, -⟩ := word_of_firstAt_enclosed hlo hle h
  rw [hword]
  exact (List.sublist_append_right x _).trans (List.sublist_append_left _ y)

/-- Something else is written for the letters, but the marks stay marks and no other letter becomes
one. -/
structure KeepsMarks (p : α → Bool) (σ : α → List α) : Prop where
  mark : ∀ a, p a = true → σ a = [a]
  ne_nil : ∀ a, p a = false → σ a ≠ []
  other : ∀ a, p a = false → ∀ c ∈ σ a, p c = false

namespace KeepsMarks

variable {σ : α → List α} (h : KeepsMarks p σ)
include h

/-- The marks at the beginning are the same. -/
lemma marks (t : List α) :
    (t.flatMap σ).takeWhile p = t.takeWhile p ∧
      (t.flatMap σ).dropWhile p = (t.dropWhile p).flatMap σ := by
  induction t with
  | nil => simp
  | cons a t ih =>
    cases ha : p a with
    | true => simpa [h.mark a ha, ha] using ih
    | false =>
      obtain ⟨c, w, hw⟩ := List.exists_cons_of_ne_nil (h.ne_nil a ha)
      have hc : p c = false := h.other a ha c (by simp [hw])
      simp [hw, ha, hc]

/-- What comes before the first mark is rewritten like the text. -/
lemma inner (t : List α) :
    (t.flatMap σ).takeWhile (fun a => !p a) = (t.takeWhile fun a => !p a).flatMap σ ∧
      (t.flatMap σ).dropWhile (fun a => !p a) = (t.dropWhile fun a => !p a).flatMap σ := by
  induction t with
  | nil => simp
  | cons a t ih =>
    cases ha : p a with
    | true => simp [h.mark a ha, ha]
    | false =>
      have hall : ∀ c ∈ σ a, (fun a => !p a) c = true := fun c hc => by
        simp [h.other a ha c hc]
      rw [List.flatMap_cons, List.takeWhile_append_of_pos hall, List.dropWhile_append_of_pos hall]
      simp [ha, ih]

/-- Some of the marks at the beginning can be dropped before or after. -/
lemma drop {n : ℕ} (hn : n ≤ (t.takeWhile p).length) :
    (t.flatMap σ).drop n = (t.drop n).flatMap σ := by
  induction n generalizing t with
  | zero => rfl
  | succ n ih =>
    cases t with
    | nil => simp at hn
    | cons a t =>
      cases ha : p a with
      | true => simpa [h.mark a ha] using ih (t := t) (by simpa [ha] using hn)
      | false => simp [ha] at hn

/-- Nothing disappears. -/
lemma flatMap_eq_nil_iff (t : List α) : t.flatMap σ = [] ↔ t = [] := by
  cases t with
  | nil => simp
  | cons a t =>
    cases ha : p a with
    | true => simp [h.mark a ha]
    | false => simp [h.ne_nil a ha]

/-- What is between marks is found before or after. -/
lemma firstAt_flatMap (hlo : 1 ≤ lo) (hle : lo ≤ hi) (b b' t : List α) :
    Option.Rel (fun m m' : Match α => unmark m' = (unmark m).flatMap σ ∧
        m'.after = m.after.flatMap σ)
      ((enclosed p lo hi).firstAt b t) ((enclosed p lo hi).firstAt b' (t.flatMap σ)) := by
  have hinner : ((t.flatMap σ).dropWhile p).takeWhile (fun a => !p a) =
      ((t.dropWhile p).takeWhile fun a => !p a).flatMap σ := by
    rw [(h.marks t).2, (h.inner _).1]
  have hrest : ((t.flatMap σ).dropWhile p).dropWhile (fun a => !p a) =
      ((t.dropWhile p).dropWhile fun a => !p a).flatMap σ := by
    rw [(h.marks t).2, (h.inner _).2]
  rw [firstAt_enclosed hlo hle rfl rfl rfl, firstAt_enclosed hlo hle (h.marks t).1 hinner hrest]
  simp only [(h.marks _).1, ne_eq, h.flatMap_eq_nil_iff]
  split
  · exact .some ⟨rfl, h.drop (Nat.min_le_right _ _)⟩
  · exact .none

/-- **Taking the marks away** and writing something else for the other letters can be exchanged.

**Proof sketch.** Strong induction on the length of the text, since a match goes on behind what it
has found. A match is found in both texts or in neither (`firstAt_flatMap`), with corresponding
words and rests. Without one, the first letter is kept: what is written for it contains no mark, so
nothing is found within it, or it is a mark itself and written as it is. -/
theorem replaceFrom_flatMap (hlo : 1 ≤ lo) (hle : lo ≤ hi) (b b' t : List α) :
    (enclosed p lo hi).replaceFrom unmark 0 b' (t.flatMap σ) =
      ((enclosed p lo hi).replaceFrom unmark 0 b t).flatMap σ := by
  have hr : (enclosed p lo hi).Consumes := consumes_enclosed hlo
  induction hlength : t.length using Nat.strongRecOn generalizing b b' t with
  | _ n ih =>
    have hfirst := h.firstAt_flatMap hlo hle b b' t
    cases hm : (enclosed p lo hi).firstAt b t with
    | some m =>
      rw [hm] at hfirst
      obtain ⟨m', hm', hword, hafter⟩ : ∃ m',
          (enclosed p lo hi).firstAt b' (t.flatMap σ) = some m' ∧
          unmark m' = (unmark m).flatMap σ ∧ m'.after = m.after.flatMap σ := by
        cases hm' : (enclosed p lo hi).firstAt b' (t.flatMap σ) with
        | none => rw [hm'] at hfirst; cases hfirst
        | some m' => rw [hm'] at hfirst; cases hfirst; exact ⟨m', rfl, ‹_›⟩
      have hpos := List.length_pos_iff.mpr (word_ne_nil hr hm)
      have hlt : m.after.length < n := by
        rw [← hlength, (firstAt_spec hm).1, List.length_append]
        omega
      rw [replaceFrom_of_some hr hm, replaceFrom_of_some hr hm', List.flatMap_append, hword, hafter,
        ih _ hlt _ _ _ rfl]
    | none =>
      cases t with
      | nil => rw [List.flatMap_nil, replaceFrom_nil hr, replaceFrom_nil hr, List.flatMap_nil]
      | cons a t =>
        have hlt : t.length < n := by simp [← hlength]
        rw [replaceFrom_of_none hm, List.flatMap_cons, List.flatMap_cons]
        cases ha : p a with
        | false =>
          rw [replaceFrom_append_of_none (fun c hc b t =>
            firstAt_enclosed_of_not hlo hle (h.other a ha c hc)), ih _ hlt _ _ _ rfl]
        | true =>
          have hm' : (enclosed p lo hi).firstAt b' (a :: t.flatMap σ) = none := by
            rw [hm, List.flatMap_cons, h.mark a ha] at hfirst
            cases hm' : (enclosed p lo hi).firstAt b' (a :: t.flatMap σ) with
            | none => rfl
            | some m' => rw [List.singleton_append, hm'] at hfirst; cases hfirst
          rw [h.mark a ha, List.singleton_append, replaceFrom_of_none hm', ih _ hlt _ _ _ rfl]
          rfl

end KeepsMarks

/-- Other letters than marks at the beginning are kept. -/
lemma unmark_append_of_not (hlo : 1 ≤ lo) (hle : lo ≤ hi) {w : List α}
    (hw : ∀ a ∈ w, p a = false) (b b' t : List α) :
    (enclosed p lo hi).replaceFrom unmark 0 b' (w ++ t) =
      w ++ (enclosed p lo hi).replaceFrom unmark 0 b t := by
  have hsame : KeepsMarks p fun a => [a] := ⟨fun _ _ => rfl, by simp, by simp⟩
  have hcongr := hsame.replaceFrom_flatMap hlo hle b (w.reverse ++ b') t
  simp only [List.flatMap_singleton'] at hcongr
  rw [replaceFrom_append_of_none fun a ha b t => firstAt_enclosed_of_not hlo hle (hw a ha), hcongr]

end Enclosed

end Regex

end Foundations
