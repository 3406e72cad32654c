import Mathlib.Data.List.Nodup
import Mathlib.Data.List.Pairwise
import Mathlib.Order.Basic

set_option relaxedAutoImplicit false
set_option autoImplicit false

/-!
# Breadth-first search

A search that takes the first entry of a queue, passes it over if its place has been found already,
and else puts the entries for the next places at the end of the queue. Places are marked when they
leave the queue, so that the queue may hold a place more than once. Every entry carries a tag, which
its successor computes.

## Main definitions

* `Foundations.BreadthFirst.Walk`, `Distance` — walks of a length along a relation, and the length
  of a shortest one.
* `Foundations.BreadthFirst.Search`, `Search.round` — the queue with what has been found, and one
  round of the search.
* `Foundations.BreadthFirst.Levels` — the queue goes level by level.
* `Foundations.BreadthFirst.Traced` — a place is found by the first entry that was put into the
  queue for it.

## Main results

* `Foundations.BreadthFirst.Levels.round`, `Traced.round` — a round keeps them.
* `Foundations.BreadthFirst.Levels.distance_head` — a place that is found is as far away as its
  entry says.
* `Foundations.BreadthFirst.Levels.found_of_walk` — in the end, every place that can be reached has
  been found.
-/

namespace Foundations

namespace BreadthFirst

/-! ## Walks -/

section Walks

variable {V : Type*} (adj : V → V → Prop)

/-- A walk of `n` steps. -/
def Walk : ℕ → V → V → Prop
  | 0, u, v => u = v
  | n + 1, u, v => ∃ w, Walk n u w ∧ adj w v

/-- The length of a shortest walk. -/
structure Distance (u v : V) (n : ℕ) : Prop where
  walk : Walk adj n u v
  least : ∀ m, Walk adj m u v → n ≤ m

variable {adj}

/-- Two vertices have at most one distance. -/
lemma Distance.unique {u v : V} {m n : ℕ} (hm : Distance adj u v m) (hn : Distance adj u v n) :
    m = n :=
  Nat.le_antisymm (hm.least n hn.walk) (hn.least m hm.walk)

end Walks

/-! ## The search -/

/-- A place in the queue: how deep it is, and a tag. -/
structure Entry (V P : Type*) where
  id : V
  depth : ℕ
  tag : P

/-- The queue, and the entries with which places have been found, the last one first. -/
structure Search (V P : Type*) where
  queue : List (Entry V P)
  found : List (Entry V P)

namespace Search

variable {V P : Type*} [DecidableEq V]

/-- The search from a place. -/
def start (u : V) (tag : P) : Search V P := ⟨[⟨u, 0, tag⟩], []⟩

/-- The entry with which a place has been found. -/
def lookup (s : Search V P) (v : V) : Option (Entry V P) := s.found.find? (·.id = v)

/-- The entries that an entry puts into the queue. -/
def pushed (next : Entry V P → List (V × P)) (e : Entry V P) : List (Entry V P) :=
  (next e).map fun x => ⟨x.1, e.depth + 1, x.2⟩

/-- One round. -/
def round (next : Entry V P → List (V × P)) (s : Search V P) : Search V P :=
  match s.queue with
  | [] => s
  | e :: queue =>
    if (s.lookup e.id).isSome then { s with queue := queue }
    else { queue := queue ++ pushed next e, found := e :: s.found }

/-- After a place has been found. -/
lemma lookup_cons (queue : List (Entry V P)) (e : Entry V P) (found : List (Entry V P)) (v : V) :
    (⟨queue, e :: found⟩ : Search V P).lookup v =
      if e.id = v then some e else (⟨queue, found⟩ : Search V P).lookup v := by
  by_cases h : e.id = v
  · simp [lookup, h]
  · simp [lookup, h]

/-- An entry that is looked up is for the place. -/
lemma id_of_lookup {s : Search V P} {v : V} {e : Entry V P} (h : s.lookup v = some e) :
    e.id = v := by
  simpa using List.find?_some h

/-- An entry that is looked up has been found. -/
lemma mem_of_lookup {s : Search V P} {v : V} {e : Entry V P} (h : s.lookup v = some e) :
    e ∈ s.found :=
  List.mem_of_find?_eq_some h

/-- A place that is not looked up has not been found. -/
lemma notMem_of_lookup_eq_none {s : Search V P} {v : V} (h : s.lookup v = none) :
    v ∉ s.found.map Entry.id := by
  intro hmem
  obtain ⟨e, he, rfl⟩ := List.mem_map.mp hmem
  exact absurd (List.find?_eq_none.mp h e he) (by simp)

end Search

variable {V P : Type*} [DecidableEq V]

/-! ## Levels -/

/-- The queue goes level by level, what has been found is as far away as it should be, and every
step from there leads to something found or in the queue. -/
structure Levels (adj : V → V → Prop) (u : V) (s : Search V P) : Prop where
  queued : ∀ e ∈ s.queue, Walk adj e.depth u e.id
  sorted : s.queue.Pairwise fun e e' => e.depth ≤ e'.depth
  near : ∀ e ∈ s.queue, ∀ e' ∈ s.queue, e'.depth ≤ e.depth + 1
  found : ∀ v e, s.lookup v = some e → Distance adj u v e.depth
  closed : ∀ v e w, s.lookup v = some e → adj v w → (s.lookup w).isSome = true ∨
    ∃ e' ∈ s.queue, e'.id = w ∧ e'.depth ≤ e.depth + 1
  source : (s.lookup u).isSome = true ∨ ∃ e ∈ s.queue, e.id = u ∧ e.depth = 0

section Levels

variable {adj : V → V → Prop} {u : V} {s : Search V P} {next : Entry V P → List (V × P)}

/-- Before the first round. -/
lemma levels_start (adj : V → V → Prop) (u : V) (tag : P) : Levels adj u (Search.start u tag) := by
  refine ⟨?_, List.pairwise_singleton _ _, ?_, ?_, ?_,
    .inr ⟨_, List.mem_singleton_self _, rfl, rfl⟩⟩
  · intro e he
    obtain rfl := List.mem_singleton.mp he
    rfl
  · intro e he e' he'
    obtain rfl := List.mem_singleton.mp he
    obtain rfl := List.mem_singleton.mp he'
    exact Nat.le_succ _
  · intro v e h
    cases h
  · intro v e w h
    cases h

/-- Places that are nearer than the whole queue have been found.

**Proof sketch.** Induction on the walk. The place before the last step has been found, no farther
away than its walk is long; so the last step leads to something found, or to an entry of the queue
that is nearer than the queue is. -/
lemma Levels.found_of_lt (h : Levels adj u s) {d : ℕ} (hd : ∀ e ∈ s.queue, d ≤ e.depth) :
    ∀ {n : ℕ} {v : V}, Walk adj n u v → n < d → (s.lookup v).isSome = true
  | 0, v, hwalk, hlt => by
    obtain rfl : u = v := hwalk
    rcases h.source with hfound | ⟨e, he, -, hdepth⟩
    · exact hfound
    · have := hd e he
      omega
  | n + 1, v, ⟨w, hwalk, hstep⟩, hlt => by
    obtain ⟨e, he⟩ := Option.isSome_iff_exists.mp (h.found_of_lt hd hwalk (by omega))
    have hle := (h.found w e he).least n hwalk
    rcases h.closed w e v he hstep with hfound | ⟨e', he', -, hdepth⟩
    · exact hfound
    · have := hd e' he'
      omega

/-- **The head of the queue.** A place that has not been found is as far away as the first entry
for it says. -/
lemma Levels.distance_head (h : Levels adj u s) {e : Entry V P} {queue : List (Entry V P)}
    (hqueue : s.queue = e :: queue) (hnew : s.lookup e.id = none) :
    Distance adj u e.id e.depth := by
  refine ⟨h.queued e (hqueue ▸ List.mem_cons_self), fun m hwalk => ?_⟩
  by_contra hlt
  have hhead : ∀ e' ∈ s.queue, e.depth ≤ e'.depth := by
    have hsorted := h.sorted
    rw [hqueue, List.pairwise_cons] at hsorted
    intro e' he'
    rcases List.mem_cons.mp (hqueue ▸ he') with rfl | he'
    · exact Nat.le_refl _
    · exact hsorted.1 e' he'
  have hfound := h.found_of_lt hhead hwalk (by omega)
  rw [hnew] at hfound
  cases hfound

section Round

variable {e : Entry V P} {queue found : List (Entry V P)}

/-- An entry whose place has been found can be left out of the queue. -/
lemma Levels.pass_over (h : Levels adj u ⟨e :: queue, found⟩)
    (hfound : ((⟨e :: queue, found⟩ : Search V P).lookup e.id).isSome = true) :
    Levels adj u ⟨queue, found⟩ := by
  -- an entry that something relied on is in the rest of the queue, or its place is found
  have hrest : ∀ {w : V} {Q : Entry V P → Prop},
      (((⟨e :: queue, found⟩ : Search V P).lookup w).isSome = true ∨
        ∃ e' ∈ e :: queue, e'.id = w ∧ Q e') →
      ((⟨queue, found⟩ : Search V P).lookup w).isSome = true ∨ ∃ e' ∈ queue, e'.id = w ∧ Q e' := by
    rintro w Q (hw | ⟨e', he', rfl, hQ⟩)
    · exact .inl hw
    · rcases List.mem_cons.mp he' with rfl | he'
      · exact .inl hfound
      · exact .inr ⟨e', he', rfl, hQ⟩
  refine ⟨fun e' he' => h.queued e' (List.mem_cons_of_mem e he'),
    (List.pairwise_cons.mp h.sorted).2, ?_, h.found, ?_, hrest h.source⟩
  · intro e₁ he₁ e₂ he₂
    exact h.near e₁ (List.mem_cons_of_mem e he₁) e₂ (List.mem_cons_of_mem e he₂)
  · intro v e₁ w hv hstep
    exact hrest (h.closed v e₁ w hv hstep)

omit [DecidableEq V] in
/-- The entries that are put into the queue are one level deeper. -/
lemma pushed_spec (hnext : ∀ e w, adj e.id w ↔ ∃ tag, (w, tag) ∈ next e) {e' : Entry V P}
    (he' : e' ∈ Search.pushed next e) : e'.depth = e.depth + 1 ∧ adj e.id e'.id := by
  obtain ⟨x, hx, rfl⟩ := List.mem_map.mp he'
  exact ⟨rfl, (hnext e x.1).mpr ⟨x.2, hx⟩⟩

/-- The queue stays in order when the next level is put behind it. -/
lemma Levels.queue_of_visit (h : Levels adj u ⟨e :: queue, found⟩)
    (hnext : ∀ e w, adj e.id w ↔ ∃ tag, (w, tag) ∈ next e) :
    ((queue ++ Search.pushed next e).Pairwise fun e e' => e.depth ≤ e'.depth) ∧
      ∀ e₁ ∈ queue ++ Search.pushed next e, e.depth ≤ e₁.depth ∧ e₁.depth ≤ e.depth + 1 := by
  have hsorted := List.pairwise_cons.mp h.sorted
  have hold : ∀ e' ∈ queue, e.depth ≤ e'.depth ∧ e'.depth ≤ e.depth + 1 := fun e' he' =>
    ⟨hsorted.1 e' he', h.near e List.mem_cons_self e' (List.mem_cons_of_mem e he')⟩
  refine ⟨List.pairwise_append.mpr ⟨hsorted.2, ?_, ?_⟩, ?_⟩
  · refine List.pairwise_of_forall_mem_list fun e₁ he₁ e₂ he₂ => ?_
    exact Nat.le_of_eq ((pushed_spec hnext he₁).1.trans (pushed_spec hnext he₂).1.symm)
  · intro e₁ he₁ e₂ he₂
    rw [(pushed_spec hnext he₂).1]
    exact (hold e₁ he₁).2
  · intro e₁ he₁
    rcases List.mem_append.mp he₁ with he₁ | he₁
    · exact hold e₁ he₁
    · have := (pushed_spec hnext he₁).1
      exact ⟨by omega, by omega⟩

/-- An entry whose place has not been found is found, and its successors go into the queue.

**Proof sketch.** The entry at the head has the least depth of the queue, so its depth is the
distance of its place. Its successors are one level deeper, which is at most one more than the depth
of any other entry, so the queue stays sorted. A step from a place that was found before leads to
what was found or in the queue, and stays so; a step from the new one leads to an entry that has
just been put into the queue. -/
lemma Levels.visit (h : Levels adj u ⟨e :: queue, found⟩)
    (hnext : ∀ e w, adj e.id w ↔ ∃ tag, (w, tag) ∈ next e)
    (hnew : (⟨e :: queue, found⟩ : Search V P).lookup e.id = none) :
    Levels adj u ⟨queue ++ Search.pushed next e, e :: found⟩ := by
  have hdistance := h.distance_head rfl hnew
  obtain ⟨hsorted, hlevel⟩ := h.queue_of_visit hnext
  have hlook : ∀ v, (⟨queue ++ Search.pushed next e, e :: found⟩ : Search V P).lookup v =
      if e.id = v then some e else (⟨e :: queue, found⟩ : Search V P).lookup v := fun v =>
    Search.lookup_cons _ e found v
  -- what is found or in the queue stays so
  have hkept : ∀ {w : V} {Q : Entry V P → Prop},
      (((⟨e :: queue, found⟩ : Search V P).lookup w).isSome = true ∨
        ∃ e' ∈ e :: queue, e'.id = w ∧ Q e') →
      ((⟨queue ++ Search.pushed next e, e :: found⟩ : Search V P).lookup w).isSome = true ∨
        ∃ e' ∈ queue ++ Search.pushed next e, e'.id = w ∧ Q e' := by
    rintro w Q (hw | ⟨e', he', rfl, hQ⟩)
    · refine .inl ?_
      rw [hlook]
      split
      · rfl
      · exact hw
    · rcases List.mem_cons.mp he' with rfl | he'
      · exact .inl (by rw [hlook, if_pos rfl]; rfl)
      · exact .inr ⟨e', List.mem_append_left _ he', rfl, hQ⟩
  refine ⟨?_, hsorted, ?_, ?_, ?_, hkept h.source⟩
  · intro e' he'
    rcases List.mem_append.mp he' with he' | he'
    · exact h.queued e' (List.mem_cons_of_mem e he')
    · obtain ⟨hdepth, hadj⟩ := pushed_spec hnext he'
      rw [hdepth]
      exact ⟨e.id, hdistance.walk, hadj⟩
  · intro e₁ he₁ e₂ he₂
    have hlow := (hlevel e₁ he₁).1
    have hhigh := (hlevel e₂ he₂).2
    omega
  · intro v e₁ hv
    rw [hlook] at hv
    split at hv
    · rename_i heq
      obtain rfl := Option.some.inj hv
      exact heq ▸ hdistance
    · exact h.found v e₁ hv
  · intro v e₁ w hv hstep
    rw [hlook] at hv
    split at hv
    · -- a step from the place that has just been found: its entry has been put into the queue
      rename_i heq
      obtain rfl := Option.some.inj hv
      obtain ⟨tag, htag⟩ := (hnext e w).mp (heq ▸ hstep)
      exact .inr ⟨⟨w, e.depth + 1, tag⟩,
        List.mem_append_right _ (List.mem_map.mpr ⟨(w, tag), htag, rfl⟩), rfl, Nat.le_refl _⟩
    · exact hkept (h.closed v e₁ w hv hstep)

end Round

/-- **Levels** are kept by a round. -/
lemma Levels.round (h : Levels adj u s)
    (hnext : ∀ e w, adj e.id w ↔ ∃ tag, (w, tag) ∈ next e) : Levels adj u (s.round next) := by
  obtain ⟨queue, found⟩ := s
  unfold Search.round
  cases queue with
  | nil => exact h
  | cons e queue =>
    dsimp only
    split
    · rename_i hfound
      exact h.pass_over hfound
    · rename_i hfound
      exact h.visit hnext (by simpa using hfound)

/-- **The end of the search.** When the queue is empty, every place that can be reached has been
found. -/
lemma Levels.found_of_walk (h : Levels adj u s) (hend : s.queue = []) {n : ℕ} {v : V}
    (hwalk : Walk adj n u v) : (s.lookup v).isSome = true :=
  h.found_of_lt (d := n + 1) (by simp [hend]) hwalk (Nat.lt_succ_self n)

end Levels

/-! ## Where entries come from -/

/-- One of the entries puts a tag into the queue for a place, and before any other for this
place. -/
def PutBy (next : Entry V P → List (V × P)) (found : List (Entry V P)) (v : V) (tag : P) : Prop :=
  ∃ e ∈ found, (next e).find? (·.1 = v) = some (v, tag)

/-- A place is found once, by the first entry that was put into the queue for it: the entry the
search began with, or the first one for the place among those of an entry that has been found. -/
structure Traced (next : Entry V P → List (V × P)) (first : Entry V P) (s : Search V P) : Prop where
  origin : ∀ e ∈ s.found, e = first ∨ PutBy next s.found e.id e.tag
  queued : ∀ v e, s.lookup v = none → s.queue.find? (·.id = v) = some e → e = first ∨
    PutBy next s.found v e.tag
  nodup : (s.found.map Entry.id).Nodup

section Traced

variable {s : Search V P} {next : Entry V P → List (V × P)} {first : Entry V P}

/-- Before the first round. -/
lemma traced_start (next : Entry V P → List (V × P)) (u : V) (tag : P) :
    Traced next ⟨u, 0, tag⟩ (Search.start u tag) := by
  refine ⟨fun e he => ?_, fun v e _ hfind => .inl ?_, List.nodup_nil⟩
  · cases he
  · exact List.mem_singleton.mp (List.mem_of_find?_eq_some hfind)

/-- An entry that has been found stays so. -/
lemma PutBy.cons {found : List (Entry V P)} {v : V} {tag : P} (e : Entry V P)
    (h : PutBy next found v tag) : PutBy next (e :: found) v tag := by
  obtain ⟨e', he', hfind⟩ := h
  exact ⟨e', List.mem_cons_of_mem e he', hfind⟩

/-- What an entry puts into the queue first for a place. -/
lemma find?_pushed {e e' : Entry V P} {v : V}
    (h : (Search.pushed next e).find? (·.id = v) = some e') :
    (next e).find? (·.1 = v) = some (v, e'.tag) := by
  unfold Search.pushed at h
  rw [List.find?_map] at h
  obtain ⟨x, hx, rfl⟩ := Option.map_eq_some_iff.mp h
  have hid : x.1 = v := by simpa using List.find?_some hx
  rw [← hid] at hx ⊢
  exact hx

/-- A round keeps the trace. -/
lemma Traced.round (h : Traced next first s) : Traced next first (s.round next) := by
  obtain ⟨queue, found⟩ := s
  unfold Search.round
  cases queue with
  | nil => exact h
  | cons e queue =>
    dsimp only
    split
    · rename_i hfound
      refine ⟨h.origin, fun v e' hv hfind => h.queued v e' hv ?_, h.nodup⟩
      have hne : e.id ≠ v := by
        rintro rfl
        rw [show (⟨e :: queue, found⟩ : Search V P).lookup e.id = none from hv] at hfound
        cases hfound
      rw [List.find?_cons_of_neg (by simpa using hne)]
      exact hfind
    · rename_i hfound
      have hnew : (⟨e :: queue, found⟩ : Search V P).lookup e.id = none := by simpa using hfound
      refine ⟨fun e' he' => ?_, fun v e' hv hfind => ?_,
        List.nodup_cons.mpr ⟨Search.notMem_of_lookup_eq_none hnew, h.nodup⟩⟩
      · rcases List.mem_cons.mp he' with rfl | he'
        · -- what is found now was the first entry of the queue, for any place
          have hfirst := h.queued e'.id e' hnew (List.find?_cons_of_pos (by simp))
          exact hfirst.imp_right (PutBy.cons e')
        · exact (h.origin e' he').imp_right (PutBy.cons e)
      · rw [Search.lookup_cons] at hv
        have hne : e.id ≠ v := by
          rintro rfl
          rw [if_pos rfl] at hv
          cases hv
        rw [if_neg hne] at hv
        rw [List.find?_append] at hfind
        rcases Option.or_eq_some_iff.mp hfind with hqueue | ⟨-, hpushed⟩
        · refine (h.queued v e' hv ?_).imp_right (PutBy.cons e)
          rw [List.find?_cons_of_neg (by simpa using hne)]
          exact hqueue
        · exact .inr ⟨e, List.mem_cons_self, find?_pushed hpushed⟩

end Traced

end BreadthFirst

end Foundations
