import Mathlib.Data.List.Basic

set_option relaxedAutoImplicit false
set_option autoImplicit false

/-!
# Regular expressions

Regular expressions that are matched by backtracking, with groups whose words are captured. The
alternatives are tried in order, a repetition goes on as long as it can, and the first way to match
at the first place of a text is what is found.

## Main definitions

* `Foundations.Regex` — the expressions.
* `Foundations.Regex.run` — all ways to match at a place, the preferred one first.
* `Foundations.Regex.exec`, `replaceAll` — the first match, and all of them replaced.
* `Foundations.Regex.Matches`, `Occurs` — the words that are matched, and the texts that have one.

## Main results

* `Foundations.Regex.exists_of_mem_run`, `mem_run_of_matches` — the ways to match a word.
* `Foundations.Regex.exec_isSome_iff` — a match is found in the texts in which there is one.
* `Foundations.Regex.occurs_concat_append_iff` — what may be empty at the end makes no difference.
* `Foundations.Regex.Occurs.between` — without looking around a match stays one in a longer text.

## Design

A repetition is not repeated for the empty word, and forgets the words of its groups each time it
begins anew. What is before a place is kept with the last letter first.
-/

namespace Foundations

/-- A regular expression over an alphabet. `look` reads nothing and asks for what is before and
after a place. -/
inductive Regex (α : Type*) where
  | empty
  | char (p : α → Bool)
  | seq (r s : Regex α)
  | alt (r s : Regex α)
  | star (r : Regex α)
  | group (i : ℕ) (r : Regex α)
  | look (p : List α → List α → Bool)

namespace Regex

variable {α : Type*}

/-! ## Expressions -/

/-- `r?`. -/
def opt (r : Regex α) : Regex α := alt r empty

/-- `r+`. -/
def plus (r : Regex α) : Regex α := seq r (star r)

/-- One expression after the other. -/
def concat (rs : List (Regex α)) : Regex α := rs.foldr seq empty

/-- One of the expressions. -/
def oneOf (rs : List (Regex α)) : Regex α := rs.foldr alt (char fun _ => false)

/-- A word. -/
def word [DecidableEq α] (w : List α) : Regex α := concat (w.map fun a => char (· = a))

/-- One of the words. -/
def oneOfWords [DecidableEq α] (ws : List (List α)) : Regex α := oneOf (ws.map word)

/-- The numbers of the groups. -/
def groups : Regex α → List ℕ
  | empty | char _ | look _ => []
  | seq r s | alt r s => r.groups ++ s.groups
  | star r => r.groups
  | group i r => i :: r.groups

/-- The expressions of the groups. -/
def bodies : Regex α → List (ℕ × Regex α)
  | empty | char _ | look _ => []
  | seq r s | alt r s => r.bodies ++ s.bodies
  | star r => r.bodies
  | group i r => (i, r) :: r.bodies

/-! ## Matching -/

/-- A place in a text, and the words of the groups so far, the last one first. -/
structure Cursor (α : Type*) where
  before : List α
  after : List α
  captures : List (ℕ × List α)

namespace Cursor

variable {c d e : Cursor α} {w u : List α}

/-- The words of some groups are forgotten. -/
def forget (c : Cursor α) (is : List ℕ) : Cursor α :=
  { c with captures := c.captures.filter fun capture => capture.1 ∉ is }

/-- The word from a place on is the one of a group. -/
def capture (c : Cursor α) (i : ℕ) (d : Cursor α) : Cursor α :=
  { d with captures := (i, c.after.take (c.after.length - d.after.length)) :: d.captures }

/-- Between two places a word is read. -/
def Reads (c : Cursor α) (w : List α) (d : Cursor α) : Prop :=
  c.after = w ++ d.after ∧ d.before = w.reverse ++ c.before

/-- Words are read one after the other. -/
lemma Reads.trans (h : c.Reads w d) (h' : d.Reads u e) : c.Reads (w ++ u) e := by
  refine ⟨?_, ?_⟩
  · rw [h.1, h'.1, List.append_assoc]
  · rw [h'.2, h.2, List.reverse_append, List.append_assoc]

end Cursor

/-- A step is repeated as long as it reads something, at most `n` times. -/
def iterate (step : Cursor α → List (Cursor α)) : ℕ → Cursor α → List (Cursor α)
  | 0, c => [c]
  | n + 1, c =>
    ((step c).filter fun d => d.after.length < c.after.length).flatMap (iterate step n) ++ [c]

/-- The ways to match at a place, in the order in which they are tried. -/
def run : Regex α → Cursor α → List (Cursor α)
  | empty, c => [c]
  | char p, c =>
    match c.after with
    | [] => []
    | a :: t => if p a then [{ c with before := a :: c.before, after := t }] else []
  | seq r s, c => (r.run c).flatMap s.run
  | alt r s, c => r.run c ++ s.run c
  | star r, c => iterate (fun d => r.run (d.forget r.groups)) c.after.length c
  | group i r, c => (r.run c).map (c.capture i)
  | look p, c => if p c.before c.after then [c] else []

/-- A match: the text before it, its word, the text after it and the words of the groups. -/
structure Match (α : Type*) where
  before : List α
  word : List α
  after : List α
  captures : List (ℕ × List α)
  deriving DecidableEq

/-- `match[i]`: a group that has not taken part has no word. -/
def Match.get (m : Match α) (i : ℕ) : Option (List α) := m.captures.lookup i

/-- The first way to match at a place. -/
def firstAt (r : Regex α) (before after : List α) : Option (Match α) :=
  (r.run ⟨before, after, []⟩).head?.map fun d =>
    ⟨before.reverse, after.take (after.length - d.after.length), d.after, d.captures⟩

/-- The first match from a place on. -/
def execFrom (r : Regex α) : List α → List α → Option (Match α)
  | before, [] => r.firstAt before []
  | before, a :: t => (r.firstAt before (a :: t)).or (r.execFrom (a :: before) t)

/-- The first match in a text. -/
def exec (r : Regex α) (text : List α) : Option (Match α) := r.execFrom [] text

/-- The matches from a place on are replaced; the number is that of the letters of the last match
that are still to be dropped. -/
def replaceFrom (r : Regex α) (f : Match α → List α) : ℕ → List α → List α → List α
  | _, before, [] => (r.firstAt before []).elim [] f
  | n + 1, before, a :: t => r.replaceFrom f n (a :: before) t
  | 0, before, a :: t =>
    match r.firstAt before (a :: t) with
    | none => a :: r.replaceFrom f 0 (a :: before) t
    | some m =>
      match m.word.length with
      | 0 => f m ++ a :: r.replaceFrom f 0 (a :: before) t
      | n + 1 => f m ++ r.replaceFrom f n (a :: before) t

/-- All matches in a text are replaced. -/
def replaceAll (r : Regex α) (f : Match α → List α) (text : List α) : List α :=
  r.replaceFrom f 0 [] text

/-! ## The words that are matched -/

/-- Words one after the other, each of them at its place. -/
inductive Repeats (M : List α → List α → List α → Prop) : List α → List α → List α → Prop where
  | nil {b t} : Repeats M b [] t
  | cons {b u v t} : M b u (v ++ t) → Repeats M (u.reverse ++ b) v t → Repeats M b (u ++ v) t

/-- A word is matched between what is before it, with the last letter first, and what is after
it. -/
def Matches : Regex α → List α → List α → List α → Prop
  | empty, _, w, _ => w = []
  | char p, _, w, _ => ∃ a, p a ∧ w = [a]
  | seq r s, b, w, t => ∃ u v, w = u ++ v ∧ r.Matches b u (v ++ t) ∧ s.Matches (u.reverse ++ b) v t
  | alt r s, b, w, t => r.Matches b w t ∨ s.Matches b w t
  | star r, b, w, t => Repeats r.Matches b w t
  | group _ r, b, w, t => r.Matches b w t
  | look p, b, w, t => w = [] ∧ p b t

section Iterate

variable {step : Cursor α → List (Cursor α)} {M : List α → List α → List α → Prop}

/-- What is read by repeating a step. -/
lemma exists_of_mem_iterate
    (hstep : ∀ c, ∀ d ∈ step c, ∃ w, c.Reads w d ∧ M c.before w d.after) {n : ℕ}
    {c d : Cursor α} (h : d ∈ iterate step n c) :
    ∃ w, c.Reads w d ∧ Repeats M c.before w d.after := by
  induction n generalizing c with
  | zero =>
    obtain rfl := List.mem_singleton.mp h
    exact ⟨[], ⟨rfl, rfl⟩, .nil⟩
  | succ n ih =>
    rw [iterate, List.mem_append, List.mem_singleton] at h
    obtain h | rfl := h
    · obtain ⟨e, he, hd⟩ := List.mem_flatMap.mp h
      obtain ⟨u, hu, hM⟩ := hstep c e (List.mem_filter.mp he).1
      obtain ⟨v, hv, hrepeats⟩ := ih hd
      rw [hv.1] at hM
      rw [hu.2] at hrepeats
      exact ⟨u ++ v, hu.trans hv, .cons hM hrepeats⟩
    · exact ⟨[], ⟨rfl, rfl⟩, .nil⟩

/-- What is true of all that a step captures is true if it is repeated. -/
lemma captures_of_mem_iterate {P : ℕ × List α → Prop}
    (hstep : ∀ c : Cursor α, (∀ x ∈ c.captures, P x) → ∀ d ∈ step c, ∀ x ∈ d.captures, P x) {n : ℕ}
    {c d : Cursor α} (hc : ∀ x ∈ c.captures, P x) (h : d ∈ iterate step n c) :
    ∀ x ∈ d.captures, P x := by
  induction n generalizing c with
  | zero =>
    obtain rfl := List.mem_singleton.mp h
    exact hc
  | succ n ih =>
    rw [iterate, List.mem_append, List.mem_singleton] at h
    obtain h | rfl := h
    · obtain ⟨e, he, hd⟩ := List.mem_flatMap.mp h
      exact ih (hstep c hc e (List.mem_filter.mp he).1) hd
    · exact hc

/-- A place is reached by repeating nothing. -/
lemma self_mem_iterate (n : ℕ) (c : Cursor α) : c ∈ iterate step n c := by
  cases n <;> simp [iterate]

/-- Words one after the other are read by repeating a step.

**Proof sketch.** Induction on the words. An empty one is skipped; another one makes what is left
shorter, so that the step may be repeated once less. -/
lemma mem_iterate_of_repeats
    (hstep : ∀ b w t captures, M b w t →
      ∃ captures', ⟨w.reverse ++ b, t, captures'⟩ ∈ step ⟨b, w ++ t, captures⟩)
    {n : ℕ} {b w t : List α} {captures : List (ℕ × List α)} (h : Repeats M b w t)
    (hn : (w ++ t).length ≤ n) :
    ∃ captures', ⟨w.reverse ++ b, t, captures'⟩ ∈ iterate step n ⟨b, w ++ t, captures⟩ := by
  induction h generalizing n captures with
  | nil => exact ⟨captures, self_mem_iterate n _⟩
  | @cons b u v t hM _ ih =>
    by_cases hu : u = []
    · subst hu
      exact ih hn
    · have hpos : 0 < u.length := List.length_pos_iff.mpr hu
      simp only [List.length_append] at hn
      obtain ⟨m, rfl⟩ : ∃ m, n = m + 1 := Nat.exists_eq_succ_of_ne_zero (by omega)
      obtain ⟨captures', hfirst⟩ := hstep b u (v ++ t) captures hM
      have hm : (v ++ t).length ≤ m := by
        simp only [List.length_append]
        omega
      obtain ⟨captures'', hrest⟩ := @ih m captures' hm
      refine ⟨captures'', List.mem_append_left _
        (List.mem_flatMap.mpr ⟨⟨u.reverse ++ b, v ++ t, captures'⟩, ?_, ?_⟩)⟩
      · rw [List.append_assoc]
        refine List.mem_filter.mpr ⟨hfirst, ?_⟩
        simp only [List.length_append, decide_eq_true_eq]
        omega
      · rwa [List.reverse_append, List.append_assoc]

end Iterate

/-- **What is read** is a word that is matched.

**Proof sketch.** Induction on the expression. One after the other, what the second one finds before
it is what the first one has read; a repetition is an induction of its own. -/
lemma exists_of_mem_run {r : Regex α} {c d : Cursor α} (h : d ∈ r.run c) :
    ∃ w, c.Reads w d ∧ r.Matches c.before w d.after := by
  induction r generalizing c d with
  | empty =>
    obtain rfl := List.mem_singleton.mp h
    exact ⟨[], ⟨rfl, rfl⟩, rfl⟩
  | char p =>
    rw [run] at h
    split at h
    · cases h
    · rename_i a t hafter
      split at h
      · rename_i ha
        obtain rfl := List.mem_singleton.mp h
        exact ⟨[a], ⟨hafter, rfl⟩, a, ha, rfl⟩
      · cases h
  | seq r s ihr ihs =>
    obtain ⟨e, he, hd⟩ := List.mem_flatMap.mp h
    obtain ⟨u, hu, hr⟩ := ihr he
    obtain ⟨v, hv, hs⟩ := ihs hd
    rw [hv.1] at hr
    rw [hu.2] at hs
    exact ⟨u ++ v, hu.trans hv, u, v, rfl, hr, hs⟩
  | alt r s ihr ihs =>
    obtain h | h := List.mem_append.mp h
    · obtain ⟨w, hw, hr⟩ := ihr h
      exact ⟨w, hw, .inl hr⟩
    · obtain ⟨w, hw, hs⟩ := ihs h
      exact ⟨w, hw, .inr hs⟩
  | star r ih =>
    refine exists_of_mem_iterate (fun c d hd => ?_) h
    obtain ⟨w, hw, hr⟩ := ih hd
    exact ⟨w, hw, hr⟩
  | group i r ih =>
    obtain ⟨e, he, rfl⟩ := List.mem_map.mp h
    obtain ⟨w, hw, hr⟩ := ih he
    exact ⟨w, hw, hr⟩
  | look p =>
    rw [run] at h
    split at h
    · rename_i hp
      obtain rfl := List.mem_singleton.mp h
      exact ⟨[], ⟨rfl, rfl⟩, rfl, hp⟩
    · cases h

/-- **What is captured** is matched by the expression of its group.

**Proof sketch.** Induction on the expression. Only a group captures something: the letters between
the places before and after its body, which are a word that the body matches. -/
lemma captures_of_mem_run {r : Regex α} {P : ℕ × List α → Prop}
    (hbodies : ∀ i s, (i, s) ∈ r.bodies → ∀ b w t, s.Matches b w t → P (i, w)) {c d : Cursor α}
    (hc : ∀ x ∈ c.captures, P x) (h : d ∈ r.run c) : ∀ x ∈ d.captures, P x := by
  induction r generalizing c d with
  | empty =>
    obtain rfl := List.mem_singleton.mp h
    exact hc
  | char p =>
    rw [run] at h
    split at h
    · cases h
    · split at h
      · obtain rfl := List.mem_singleton.mp h
        exact hc
      · cases h
  | seq r s ihr ihs =>
    obtain ⟨e, he, hd⟩ := List.mem_flatMap.mp h
    have hr := ihr (fun i s hi => hbodies i s (List.mem_append_left _ hi)) hc he
    exact ihs (fun i s hi => hbodies i s (List.mem_append_right _ hi)) hr hd
  | alt r s ihr ihs =>
    obtain h | h := List.mem_append.mp h
    · exact ihr (fun i s hi => hbodies i s (List.mem_append_left _ hi)) hc h
    · exact ihs (fun i s hi => hbodies i s (List.mem_append_right _ hi)) hc h
  | star r ih =>
    refine captures_of_mem_iterate (fun c hc d hd => ih hbodies ?_ hd) hc h
    exact fun x hx => hc x (List.mem_filter.mp hx).1
  | group i r ih =>
    obtain ⟨e, he, rfl⟩ := List.mem_map.mp h
    have hr := ih (fun i s hi => hbodies i s (List.mem_cons_of_mem _ hi)) hc he
    obtain ⟨w, hw, hmatches⟩ := exists_of_mem_run he
    refine List.forall_mem_cons.mpr ⟨?_, hr⟩
    have hword : c.after.take (c.after.length - e.after.length) = w := by
      rw [hw.1, List.length_append, Nat.add_sub_cancel, List.take_left]
    rw [hword]
    exact hbodies i r List.mem_cons_self _ _ _ hmatches
  | look p =>
    rw [run] at h
    split at h
    · obtain rfl := List.mem_singleton.mp h
      exact hc
    · cases h

/-- **A word that is matched** is read in one of the ways. -/
lemma mem_run_of_matches {r : Regex α} {b w t : List α} (captures : List (ℕ × List α))
    (h : r.Matches b w t) :
    ∃ captures', ⟨w.reverse ++ b, t, captures'⟩ ∈ r.run ⟨b, w ++ t, captures⟩ := by
  induction r generalizing b w t captures with
  | empty =>
    obtain rfl : w = [] := h
    exact ⟨captures, List.mem_singleton.mpr rfl⟩
  | char p =>
    obtain ⟨a, ha, rfl⟩ := h
    exact ⟨captures, by simp [run, ha]⟩
  | seq r s ihr ihs =>
    obtain ⟨u, v, rfl, hr, hs⟩ := h
    obtain ⟨captures', hfirst⟩ := ihr captures hr
    obtain ⟨captures'', hrest⟩ := ihs captures' hs
    refine ⟨captures'', List.mem_flatMap.mpr ⟨⟨u.reverse ++ b, v ++ t, captures'⟩, ?_, ?_⟩⟩
    · rwa [List.append_assoc]
    · rwa [List.reverse_append, List.append_assoc]
  | alt r s ihr ihs =>
    obtain h | h := h
    · obtain ⟨captures', hfirst⟩ := ihr captures h
      exact ⟨captures', List.mem_append_left _ hfirst⟩
    · obtain ⟨captures', hfirst⟩ := ihs captures h
      exact ⟨captures', List.mem_append_right _ hfirst⟩
  | star r ih =>
    rw [run]
    refine mem_iterate_of_repeats (fun b w t captures h => ?_) h (Nat.le_refl _)
    exact ih _ h
  | group i r ih =>
    obtain ⟨captures', hfirst⟩ := ih captures h
    exact ⟨_, List.mem_map.mpr ⟨_, hfirst, rfl⟩⟩
  | look p =>
    obtain ⟨rfl, hp⟩ := h
    exact ⟨captures, by simp [run, hp]⟩

/-! ## The texts in which there is a match -/

/-- A word of the text is matched where it is. -/
def Occurs (r : Regex α) (text : List α) : Prop :=
  ∃ b w t, text = b ++ (w ++ t) ∧ r.Matches b.reverse w t

/-- Something is found at a place if and only if a word there matches. -/
lemma firstAt_isSome_iff {r : Regex α} {before after : List α} :
    (r.firstAt before after).isSome ↔ ∃ w t, after = w ++ t ∧ r.Matches before w t := by
  rw [firstAt, Option.isSome_map, List.isSome_head?]
  constructor
  · intro hne
    obtain ⟨d, hd⟩ := List.exists_mem_of_ne_nil _ hne
    obtain ⟨w, hw, hmatches⟩ := exists_of_mem_run hd
    exact ⟨w, d.after, hw.1, hmatches⟩
  · rintro ⟨w, t, rfl, hmatches⟩
    obtain ⟨captures, hmem⟩ := mem_run_of_matches [] hmatches
    exact List.ne_nil_of_mem hmem

/-- Something is found from a place on if and only if a word from there on matches. -/
lemma execFrom_isSome_iff {r : Regex α} {before after : List α} :
    (r.execFrom before after).isSome ↔
      ∃ b w t, after = b ++ (w ++ t) ∧ r.Matches (b.reverse ++ before) w t := by
  induction after generalizing before with
  | nil =>
    rw [execFrom, firstAt_isSome_iff]
    constructor
    · rintro ⟨w, t, heq, hmatches⟩
      exact ⟨[], w, t, heq, hmatches⟩
    · rintro ⟨b, w, t, heq, hmatches⟩
      obtain ⟨rfl, -⟩ := List.append_eq_nil_iff.mp heq.symm
      exact ⟨w, t, heq, hmatches⟩
  | cons a after ih =>
    rw [execFrom, Option.isSome_or, Bool.or_eq_true, firstAt_isSome_iff, ih]
    constructor
    · rintro (⟨w, t, heq, hmatches⟩ | ⟨b, w, t, rfl, hmatches⟩)
      · exact ⟨[], w, t, heq, hmatches⟩
      · refine ⟨a :: b, w, t, rfl, ?_⟩
        rwa [List.reverse_cons, List.append_assoc]
    · rintro ⟨b, w, t, heq, hmatches⟩
      cases b with
      | nil => exact .inl ⟨w, t, heq, hmatches⟩
      | cons a' b =>
        obtain ⟨rfl, rfl⟩ := List.cons.inj heq
        rw [List.reverse_cons, List.append_assoc] at hmatches
        exact .inr ⟨b, w, t, rfl, hmatches⟩

/-- **A match is found** in the texts in which there is one. -/
lemma exec_isSome_iff {r : Regex α} {text : List α} : (r.exec text).isSome ↔ r.Occurs text := by
  simp only [exec, execFrom_isSome_iff, List.append_nil, Occurs]

/-- The word of a group in a match that is found is matched by the expression of the group. -/
lemma exists_body_of_exec {r : Regex α} {text : List α} {m : Match α} {i : ℕ} {w : List α}
    (hexec : r.exec text = some m) (hget : m.get i = some w) :
    ∃ s, (i, s) ∈ r.bodies ∧ ∃ b t, s.Matches b w t := by
  have hfirst {before after : List α} (h : r.firstAt before after = some m) :
      ∀ x ∈ m.captures, ∃ s, (x.1, s) ∈ r.bodies ∧ ∃ b t, s.Matches b x.2 t := by
    obtain ⟨d, hd, rfl⟩ := Option.map_eq_some_iff.mp h
    refine captures_of_mem_run (fun i s hi b w t hs => ⟨s, hi, b, t, hs⟩) ?_ (List.mem_of_head? hd)
    simp
  have hfrom {before after : List α} (h : r.execFrom before after = some m) :
      ∀ x ∈ m.captures, ∃ s, (x.1, s) ∈ r.bodies ∧ ∃ b t, s.Matches b x.2 t := by
    induction after generalizing before with
    | nil => exact hfirst h
    | cons a after ih =>
      obtain h | ⟨-, h⟩ := Option.or_eq_some_iff.mp h
      · exact hfirst h
      · exact ih h
  obtain ⟨front, back, hcaptures, -⟩ := List.lookup_eq_some_iff.mp hget
  exact hfrom hexec (i, w) (by simp [hcaptures])

/-- A word is matched by itself. -/
lemma matches_word_iff [DecidableEq α] {v b w t : List α} : (word v).Matches b w t ↔ w = v := by
  induction v generalizing b w with
  | nil => rfl
  | cons a v ih =>
    have hcons : word (a :: v) = seq (char (· = a)) (word v) := rfl
    rw [hcons]
    constructor
    · rintro ⟨x, y, rfl, ⟨a', ha, rfl⟩, hy⟩
      rw [ih.mp hy, of_decide_eq_true ha]
      rfl
    · rintro rfl
      exact ⟨[a], v, rfl, ⟨a, decide_eq_true rfl, rfl⟩, ih.mpr rfl⟩

/-- One of some words is matched by each of them. -/
lemma matches_oneOfWords_iff [DecidableEq α] {vs : List (List α)} {b w t : List α} :
    (oneOfWords vs).Matches b w t ↔ w ∈ vs := by
  induction vs with
  | nil =>
    constructor
    · rintro ⟨a, ha, -⟩
      cases ha
    · intro h
      cases h
  | cons v vs ih =>
    have hcons : oneOfWords (v :: vs) = alt (word v) (oneOfWords vs) := rfl
    rw [hcons, List.mem_cons]
    exact or_congr matches_word_iff ih

/-- Letters of a class are matched by its repetition. -/
lemma matches_star_char_iff {p : α → Bool} {b w t : List α} :
    (star (char p)).Matches b w t ↔ ∀ a ∈ w, p a := by
  constructor
  · intro h
    induction h with
    | nil => simp
    | cons hM _ ih =>
      obtain ⟨a, ha, rfl⟩ := hM
      exact List.forall_mem_cons.mpr ⟨ha, ih⟩
  · intro h
    induction w generalizing b with
    | nil => exact .nil
    | cons a w ih =>
      obtain ⟨ha, hw⟩ := List.forall_mem_cons.mp h
      exact .cons ⟨a, ha, rfl⟩ (ih hw)

/-- A nonempty word of letters of a class is matched by `+` of the class. -/
lemma matches_plus_char {p : α → Bool} {b w t : List α} (hne : w ≠ []) (h : ∀ a ∈ w, p a) :
    (plus (char p)).Matches b w t := by
  obtain ⟨a, w, rfl⟩ := List.exists_cons_of_ne_nil hne
  obtain ⟨ha, hw⟩ := List.forall_mem_cons.mp h
  exact ⟨[a], w, rfl, ⟨a, ha, rfl⟩, matches_star_char_iff.mpr hw⟩

/-- One list of expressions after the other. -/
lemma matches_concat_append_iff {rs ss : List (Regex α)} {b w t : List α} :
    (concat (rs ++ ss)).Matches b w t ↔ (seq (concat rs) (concat ss)).Matches b w t := by
  induction rs generalizing b w with
  | nil =>
    constructor
    · intro h
      exact ⟨[], w, rfl, rfl, h⟩
    · rintro ⟨u, v, rfl, rfl, h⟩
      exact h
  | cons r rs ih =>
    have hcons (ts : List (Regex α)) : concat (r :: ts) = seq r (concat ts) := rfl
    rw [List.cons_append, hcons, hcons]
    simp only [Matches, ih]
    constructor
    · rintro ⟨u, v, rfl, hr, x, y, rfl, hx, hy⟩
      refine ⟨u ++ x, y, by rw [List.append_assoc], ⟨u, x, rfl, ?_, hx⟩, ?_⟩
      · rwa [List.append_assoc] at hr
      · rwa [List.reverse_append, List.append_assoc]
    · rintro ⟨x, y, rfl, ⟨u, v, rfl, hr, hv⟩, hy⟩
      refine ⟨u, v ++ y, by rw [List.append_assoc], ?_, v, y, rfl, hv, ?_⟩
      · rwa [List.append_assoc]
      · rwa [List.reverse_append, List.append_assoc] at hy

/-- **What may be empty at the end** makes no difference to the texts in which there is a match. -/
lemma occurs_concat_append_iff {rs ss : List (Regex α)} {text : List α}
    (h : ∀ b t, (concat ss).Matches b [] t) :
    (concat (rs ++ ss)).Occurs text ↔ (concat rs).Occurs text := by
  constructor
  · rintro ⟨b, w, t, rfl, hmatches⟩
    obtain ⟨u, v, rfl, hu, -⟩ := matches_concat_append_iff.mp hmatches
    exact ⟨b, u, v ++ t, by rw [List.append_assoc], hu⟩
  · rintro ⟨b, w, t, rfl, hmatches⟩
    exact ⟨b, w, t, rfl, matches_concat_append_iff.mpr ⟨w, [], by simp, hmatches, h _ _⟩⟩

/-! ## Expressions that do not look around -/

/-- An expression asks only for what it reads. -/
def isLocal : Regex α → Bool
  | empty | char _ => true
  | seq r s | alt r s => r.isLocal && s.isLocal
  | star r | group _ r => r.isLocal
  | look _ => false

/-- A word that is matched by such an expression is matched anywhere. -/
lemma Matches.anywhere {r : Regex α} {b w t : List α} (hr : r.isLocal = true)
    (h : r.Matches b w t) (b' t' : List α) : r.Matches b' w t' := by
  induction r generalizing b w t b' t' with
  | empty => exact h
  | char p => exact h
  | seq r s ihr ihs =>
    obtain ⟨hlocal, hlocal'⟩ := Bool.and_eq_true_iff.mp hr
    obtain ⟨u, v, rfl, hu, hv⟩ := h
    exact ⟨u, v, rfl, ihr hlocal hu _ _, ihs hlocal' hv _ _⟩
  | alt r s ihr ihs =>
    obtain ⟨hlocal, hlocal'⟩ := Bool.and_eq_true_iff.mp hr
    exact h.imp (fun h => ihr hlocal h _ _) fun h => ihs hlocal' h _ _
  | star r ih =>
    have hrepeats : Repeats r.Matches b w t := h
    change Repeats r.Matches b' w t'
    clear h
    induction hrepeats generalizing b' with
    | nil => exact .nil
    | cons hM _ ihw => exact .cons (ih hr hM _ _) (ihw _)
  | group i r ih => exact ih hr h _ _
  | look p => cases hr

/-- **A match stays a match** in a longer text. -/
lemma Occurs.between {r : Regex α} {text : List α} (hr : r.isLocal = true) (h : r.Occurs text)
    (x y : List α) : r.Occurs (x ++ (text ++ y)) := by
  obtain ⟨b, w, t, rfl, hmatches⟩ := h
  refine ⟨x ++ b, w, t ++ y, ?_, hmatches.anywhere hr _ _⟩
  simp only [List.append_assoc]

end Regex

end Foundations
