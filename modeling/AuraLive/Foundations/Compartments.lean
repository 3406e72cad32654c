import Mathlib.Data.List.Nodup
import Mathlib.Tactic.Common

set_option relaxedAutoImplicit false
set_option autoImplicit false

/-!
# Programs local to one compartment of a state

A state is divided into compartments, indexed by keys. Each compartment has a relation of states
that look the same through it and a predicate saying that its own references stay inside it. A
program is *local* to a compartment when it is a function of what is seen through that
compartment and is not seen through any other. Local programs compose, so that the locality of a
handler is read off its text.

## Main definitions

* `Foundations.Compartments` — the family of relations and of self-containedness predicates.
* `Foundations.Compartments.LocalTo` — a program local to a compartment.

## Main results

* `Foundations.Compartments.LocalTo.comp`, `caseOn`, `foldl` — composition, depending on what is
  seen through the compartment (`read` and `lookup` are special cases), and iteration.
* `Foundations.Compartments.foldl_keys` — running one local program for each of several keys
  looks, through any one compartment, like running at most its own.
-/

namespace Foundations

variable {κ σ α : Type*}

/-- A state divided into compartments. -/
structure Compartments (κ σ : Type*) where
  /-- The states look the same through the compartment. -/
  Same : κ → σ → σ → Prop
  /-- The references held in the compartment stay inside it. -/
  Closed : κ → σ → Prop
  /-- Looking the same is reflexive. -/
  refl : ∀ k s, Same k s s
  /-- Looking the same is symmetric. -/
  symm : ∀ {k s t}, Same k s t → Same k t s
  /-- Looking the same is transitive. -/
  trans : ∀ {k s t u}, Same k s t → Same k t u → Same k s u
  /-- Self-containedness is seen through the compartment. -/
  closed_of_same : ∀ {k s t}, Same k s t → Closed k s → Closed k t

namespace Compartments

/-- A program is local to the compartment `k` when it keeps `k` self-contained, when what is seen
through `k` afterwards depends only on what was seen before, and when it is not seen through any
other compartment. -/
structure LocalTo (P : Compartments κ σ) (k : κ) (f : σ → σ) : Prop where
  /-- Self-containedness is kept. -/
  closed : ∀ {s}, P.Closed k s → P.Closed k (f s)
  /-- The result depends only on the compartment. -/
  inside : ∀ {s t}, P.Closed k s → P.Same k s t → P.Same k (f s) (f t)
  /-- The other compartments are untouched. -/
  outside : ∀ {k' s}, k' ≠ k → P.Closed k s → P.Same k' s (f s)

namespace LocalTo

variable {P : Compartments κ σ} {k : κ} {f g : σ → σ}

/-- Doing nothing is local. -/
lemma id (P : Compartments κ σ) (k : κ) : P.LocalTo k fun s => s where
  closed h := h
  inside _ h := h
  outside _ _ := P.refl _ _

/-- Local programs compose. -/
lemma comp (hf : P.LocalTo k f) (hg : P.LocalTo k g) : P.LocalTo k fun s => g (f s) where
  closed h := hg.closed (hf.closed h)
  inside h hs := hg.inside (hf.closed h) (hf.inside h hs)
  outside hk h := P.trans (hf.outside hk h) (hg.outside hk (hf.closed h))

/-- A program may inspect a value that is seen through its compartment and be a different program
for each outcome; self-containedness says what is known of the value. -/
lemma caseOn {f : σ → σ} (q : σ → α) (φ : α → Prop)
    (hq : ∀ {s t}, P.Closed k s → P.Same k s t → q s = q t) (hφ : ∀ {s}, P.Closed k s → φ (q s))
    (hf : ∀ a, φ a → ∃ g, P.LocalTo k g ∧ ∀ s, q s = a → f s = g s) : P.LocalTo k f where
  closed {s} hs := by
    obtain ⟨g, hg, hfg⟩ := hf (q s) (hφ hs)
    rw [hfg s rfl]
    exact hg.closed hs
  inside {s t} hs hst := by
    obtain ⟨g, hg, hfg⟩ := hf (q s) (hφ hs)
    rw [hfg s rfl, hfg t (hq hs hst).symm]
    exact hg.inside hs hst
  outside {k' s} hk hs := by
    obtain ⟨g, hg, hfg⟩ := hf (q s) (hφ hs)
    rw [hfg s rfl]
    exact hg.outside hk hs

/-- A program may depend on a value that is seen through its compartment. -/
lemma read {f : σ → σ} {g : α → σ → σ} (q : σ → α) (φ : α → Prop)
    (hq : ∀ {s t}, P.Closed k s → P.Same k s t → q s = q t) (hφ : ∀ {s}, P.Closed k s → φ (q s))
    (hg : ∀ a, φ a → P.LocalTo k (g a)) (hf : ∀ s, f s = g (q s) s) : P.LocalTo k f :=
  caseOn q φ hq hφ fun a ha => ⟨g a, hg a ha, fun s hs => hs ▸ hf s⟩

/-- A program may look up an optional value that is seen through its compartment. -/
lemma lookup {f n : σ → σ} {g : α → σ → σ} (q : σ → Option α) (φ : α → Prop)
    (hq : ∀ {s t}, P.Closed k s → P.Same k s t → q s = q t)
    (hφ : ∀ {s a}, P.Closed k s → q s = some a → φ a)
    (hn : P.LocalTo k n) (hg : ∀ a, φ a → P.LocalTo k (g a))
    (hnone : ∀ s, q s = none → f s = n s) (hsome : ∀ s a, q s = some a → f s = g a s) :
    P.LocalTo k f := by
  refine caseOn q (fun o => ∀ a, o = some a → φ a) hq (fun hs _ => hφ hs) fun o ho => ?_
  cases o with
  | none => exact ⟨n, hn, hnone⟩
  | some a => exact ⟨g a, hg a (ho a rfl), fun s hs => hsome s a hs⟩

/-- Iterating local programs over a list is local. -/
lemma foldl {f : α → σ → σ} {l : List α} (h : ∀ a ∈ l, P.LocalTo k (f a)) :
    P.LocalTo k fun s => l.foldl (fun s a => f a s) s := by
  induction l with
  | nil => exact id P k
  | cons a l ih =>
    exact comp (h a List.mem_cons_self) (ih fun b hb => h b (List.mem_cons_of_mem a hb))

/-- A local program keeps every other compartment self-contained. -/
lemma closed_all (hf : P.LocalTo k f) {s : σ} (h : ∀ k', P.Closed k' s) (k' : κ) :
    P.Closed k' (f s) := by
  by_cases hk : k' = k
  · exact hk ▸ hf.closed (h k)
  · exact P.closed_of_same (hf.outside hk (h k)) (h k')

end LocalTo

variable [DecidableEq κ] {P : Compartments κ σ}

/-- **One program for each of several keys.** Through the compartment `k`, running local programs
for distinct keys one after the other looks like running the program of `k` alone, or nothing if
`k` is not among the keys.

**Proof sketch.** Induction on the keys. The program of another key is not seen; the program of
`k` itself is the only one that is, and it starts from a state that looks like the first one. -/
theorem foldl_keys {f : κ → σ → σ} (hf : ∀ k, P.LocalTo k (f k)) (k : κ) :
    ∀ {ks : List κ} {s : σ}, ks.Nodup → (∀ k', P.Closed k' s) →
      (∀ k', P.Closed k' (ks.foldl (fun s k' => f k' s) s)) ∧
        P.Same k (if k ∈ ks then f k s else s) (ks.foldl (fun s k' => f k' s) s)
  | [], s, _, hc => ⟨hc, by simpa using P.refl k s⟩
  | a :: ks, s, hn, hc => by
    obtain ⟨ha, hn⟩ := List.nodup_cons.mp hn
    obtain ⟨hc', hs⟩ := foldl_keys hf k (s := f a s) hn ((hf a).closed_all hc)
    refine ⟨hc', ?_⟩
    rw [List.foldl_cons]
    by_cases hka : k = a
    · subst hka
      simpa [ha] using hs
    · have hout : P.Same k s (f a s) := (hf a).outside hka (hc a)
      refine P.trans ?_ hs
      by_cases hk : k ∈ ks
      · simpa [hk] using (hf k).inside (hc k) hout
      · simpa [hk, hka] using hout

/-- Running local programs for two lists of keys gives states that look the same through `k` if the
states before did and the lists agree on `k`. -/
theorem foldl_keys_same {f : κ → σ → σ} (hf : ∀ k, P.LocalTo k (f k)) {k : κ} {ks ks' : List κ}
    {s t : σ} (hn : ks.Nodup) (hn' : ks'.Nodup) (hk : k ∈ ks ↔ k ∈ ks')
    (hs : ∀ k', P.Closed k' s) (ht : ∀ k', P.Closed k' t) (h : P.Same k s t) :
    P.Same k (ks.foldl (fun s k' => f k' s) s) (ks'.foldl (fun s k' => f k' s) t) := by
  have h₁ := (foldl_keys hf k hn hs).2
  have h₂ := (foldl_keys hf k hn' ht).2
  refine P.trans (P.symm h₁) (P.trans ?_ h₂)
  by_cases hm : k ∈ ks
  · simpa [hm, hk.mp hm] using (hf k).inside (hs k) h
  · have hm' : k ∉ ks' := fun hm' => hm (hk.mpr hm')
    simpa [hm, hm'] using h

end Compartments

end Foundations
