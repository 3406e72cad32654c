import AuraLive.Foundations.EventSystem
import AuraLive.Foundations.Ledger

set_option relaxedAutoImplicit false
set_option autoImplicit false

/-!
# The distance of pure calls

`sendMessagePure` of `llm/llm.service.ts` keeps a minimum interval between the calls that pass on to
the model. A call reads the time of the last one, sleeps for what is missing to the interval, and
then writes the time without reading it again.

## Main definitions

* `PureCalls.LlmService` — the time of the last call that has passed on, and all calls.
* `PureCalls.pureCalls` — the service as an event system.
* `PureCalls.Spaced` — calls pass on at moments that are the interval apart.
* `PureCalls.NotOvertaken` — no other call has passed on while a call that wakes slept.

## Main results

* `PureCalls.spaced_step`, `PureCalls.overtaken_step` — a call that has not been overtaken keeps the
  distance; one that has been, and wakes on time, does not.
* `PureCalls.pure_calls_spaced` — so the calls of a run keep it if none is overtaken, and only then
  if all wake on time.
* `PureCalls.pure_calls_together` — two calls that pass on in the same millisecond.

## Design

The clock does not go back, and a sleep ends at its time or later. What a call asks is passed on
unread, and the retries of `sendMessagePureWithRetry` come after the moment that counts here.
-/

namespace PureCalls

open Foundations

/-- A call of `sendMessagePure`. -/
inductive PureCall where
  /-- It sleeps, having read the clock and the time since the last request. -/
  | sleeping (now timeSinceLastRequest : ℕ)
  /-- It has passed on to `sendMessagePureWithRetry`. -/
  | passed (moment : ℕ)
  deriving DecidableEq

/-- The state of the service. -/
structure LlmService where
  /-- The last time that `Date.now()` gave. -/
  clock : ℕ
  lastPureRequestTime : ℕ
  calls : Ledger PureCall

/-- `PURE_MIN_INTERVAL`. -/
def PURE_MIN_INTERVAL : ℕ := 300

namespace LlmService

variable (s : LlmService)

/-- `sendMessagePure`, up to its sleep if there is one. -/
def sendMessagePure (now : ℕ) : LlmService :=
  let timeSinceLastRequest := now - s.lastPureRequestTime
  if timeSinceLastRequest < PURE_MIN_INTERVAL then
    { s with clock := now, calls := s.calls.enter (.sleeping now timeSinceLastRequest) }
  else
    { clock := now, lastPureRequestTime := now, calls := s.calls.enter (.passed now) }

/-- `sendMessagePure`, after its sleep. -/
def slept (call now : ℕ) : LlmService :=
  { clock := now, lastPureRequestTime := now, calls := s.calls.amend call (.passed now) }

end LlmService

/-- What happens to the service: a call begins, or its sleep is over. -/
inductive Event where
  | sendMessagePure (now : ℕ)
  | slept (call now : ℕ)

/-- The service as an event system. -/
def pureCalls : EventSystem LlmService Event where
  init := ⟨0, 0, .empty⟩
  step s e :=
    match e with
    | .sendMessagePure now => if s.clock ≤ now then some (s.sendMessagePure now) else none
    | .slept call now =>
      match s.calls.get call with
      | some (.sleeping started timeSinceLastRequest) =>
        if s.clock ≤ now ∧ started + (PURE_MIN_INTERVAL - timeSinceLastRequest) ≤ now then
          some (s.slept call now)
        else none
      | _ => none

/-- Two calls pass on at moments that are at least the interval apart. -/
def Spaced (s : LlmService) : Prop :=
  ∀ i j a b, i ≠ j → s.calls.get i = some (.passed a) → s.calls.get j = some (.passed b) →
    a + PURE_MIN_INTERVAL ≤ b ∨ b + PURE_MIN_INTERVAL ≤ a

/-- No other call has passed on while a call that wakes slept: the time of the last request is the
one that it has read. -/
def NotOvertaken (s : LlmService) : Event → Prop
  | .sendMessagePure _ => True
  | .slept call _ => ∀ started timeSinceLastRequest,
      s.calls.get call = some (.sleeping started timeSinceLastRequest) →
        s.lastPureRequestTime + timeSinceLastRequest = started

/-- A sleep ends at its time. -/
def Punctual (s : LlmService) : Event → Prop
  | .sendMessagePure _ => True
  | .slept call now => ∀ started timeSinceLastRequest,
      s.calls.get call = some (.sleeping started timeSinceLastRequest) →
        now = started + (PURE_MIN_INTERVAL - timeSinceLastRequest)

/-! ## Steps -/

/-- What a step does. -/
inductive Moves (s : LlmService) : Event → LlmService → Prop where
  /-- A call begins and sleeps. -/
  | sleeps (now : ℕ) (hclock : s.clock ≤ now)
      (hsoon : now - s.lastPureRequestTime < PURE_MIN_INTERVAL) :
      Moves s (.sendMessagePure now)
        { s with
          clock := now
          calls := s.calls.enter (.sleeping now (now - s.lastPureRequestTime)) }
  /-- A call begins and passes on. -/
  | passes (now : ℕ) (hclock : s.clock ≤ now)
      (hlate : s.lastPureRequestTime + PURE_MIN_INTERVAL ≤ now) :
      Moves s (.sendMessagePure now)
        { clock := now, lastPureRequestTime := now, calls := s.calls.enter (.passed now) }
  /-- A call wakes and passes on. -/
  | wakes (call now started timeSinceLastRequest : ℕ) (hclock : s.clock ≤ now)
      (hcall : s.calls.get call = some (.sleeping started timeSinceLastRequest))
      (hover : started + (PURE_MIN_INTERVAL - timeSinceLastRequest) ≤ now) :
      Moves s (.slept call now) (s.slept call now)

/-- **Steps of the service.** -/
lemma moves_of_step {s s' : LlmService} {e : Event} (h : pureCalls.step s e = some s') :
    Moves s e s' := by
  cases e with
  | sendMessagePure now =>
    simp only [pureCalls, Option.ite_none_right_eq_some, Option.some.injEq] at h
    obtain ⟨hclock, rfl⟩ := h
    unfold LlmService.sendMessagePure
    dsimp only
    split
    · rename_i hsoon
      exact .sleeps now hclock hsoon
    · rename_i hlate
      simp only [PURE_MIN_INTERVAL] at hlate
      refine .passes now hclock ?_
      simp only [PURE_MIN_INTERVAL]
      omega
  | slept call now =>
    simp only [pureCalls] at h
    split at h
    · rename_i started timeSinceLastRequest hcall
      simp only [Option.ite_none_right_eq_some, Option.some.injEq] at h
      obtain ⟨⟨hclock, hover⟩, rfl⟩ := h
      exact .wakes call now started timeSinceLastRequest hclock hcall hover
    · cases h

/-- The times that have been written and read. -/
structure Stamped (s : LlmService) : Prop where
  le_clock : s.lastPureRequestTime ≤ s.clock
  /-- What a call has read was written no later than the last time. -/
  sleeping : ∀ i started timeSinceLastRequest,
    s.calls.get i = some (.sleeping started timeSinceLastRequest) →
      timeSinceLastRequest < PURE_MIN_INTERVAL ∧ timeSinceLastRequest ≤ started ∧
        started ≤ s.lastPureRequestTime + timeSinceLastRequest
  passed : ∀ i a, s.calls.get i = some (.passed a) → a ≤ s.lastPureRequestTime
  /-- The last time is that of a call, once one has passed on. -/
  last : s.lastPureRequestTime = 0 ∨
    ∃ i, s.calls.get i = some (.passed s.lastPureRequestTime)

/-- The calls after one has passed on. -/
structure PassesOn (s s' : LlmService) (i now : ℕ) : Prop where
  get : ∀ j, s'.calls.get j = if i = j then some (.passed now) else s.calls.get j
  last : s'.lastPureRequestTime = now
  clock : s'.clock = now

section Steps

variable {s s' : LlmService} {e : Event} {i now : ℕ}

/-- A call that begins passes on. -/
lemma passesOn_enter (s : LlmService) (now : ℕ) :
    PassesOn s { clock := now, lastPureRequestTime := now, calls := s.calls.enter (.passed now) }
      s.calls.next now :=
  ⟨fun j => s.calls.get_enter j _, rfl, rfl⟩

/-- A call that wakes passes on. -/
lemma passesOn_slept {started timeSinceLastRequest : ℕ}
    (hcall : s.calls.get i = some (.sleeping started timeSinceLastRequest)) (now : ℕ) :
    PassesOn s (s.slept i now) i now := by
  refine ⟨fun j => ?_, rfl, rfl⟩
  show (s.calls.amend i _).get j = _
  rw [Ledger.get_amend]
  by_cases hj : i = j
  · subst hj
    simp [hcall]
  · simp [hj]

/-- The times stay in order when a call passes on. -/
lemma Stamped.passesOn (h : Stamped s) (hpass : PassesOn s s' i now) (hclock : s.clock ≤ now) :
    Stamped s' := by
  have hle : s.lastPureRequestTime ≤ now := Nat.le_trans h.le_clock hclock
  refine ⟨Nat.le_of_eq (hpass.last.trans hpass.clock.symm), ?_, ?_, .inr ⟨i, ?_⟩⟩
  · intro j started timeSinceLastRequest hj
    rw [hpass.get] at hj
    split at hj
    · cases hj
    · obtain ⟨hsoon, hread, hlast⟩ := h.sleeping j started timeSinceLastRequest hj
      exact ⟨hsoon, hread, by rw [hpass.last]; omega⟩
  · intro j a hj
    rw [hpass.get] at hj
    rw [hpass.last]
    split at hj
    · cases hj
      exact Nat.le_refl _
    · exact Nat.le_trans (h.passed j a hj) hle
  · rw [hpass.get, if_pos rfl, hpass.last]

/-- Calls that pass on after the interval keep the distance. -/
lemma Spaced.passesOn (hs : Spaced s) (h : Stamped s) (hpass : PassesOn s s' i now)
    (hlate : s.lastPureRequestTime + PURE_MIN_INTERVAL ≤ now) : Spaced s' := by
  intro j k a b hne hj hk
  rw [hpass.get] at hj hk
  split at hj
  · rename_i hij
    cases hj
    split at hk
    · rename_i hik
      exact absurd (hij.symm.trans hik) hne
    · have := h.passed k b hk
      exact .inr (by omega)
  · split at hk
    · cases hk
      have := h.passed j a hj
      exact .inl (by omega)
    · exact hs j k a b hne hj hk

/-- The times stay in order. -/
lemma stamped_step (h : Stamped s) (hstep : pureCalls.step s e = some s') : Stamped s' := by
  cases moves_of_step hstep with
  | sleeps now hclock hsoon =>
    have hle := h.le_clock
    refine ⟨Nat.le_trans hle hclock, ?_, ?_, ?_⟩
    · intro j started timeSinceLastRequest hj
      dsimp only at hj ⊢
      rw [Ledger.get_enter] at hj
      split at hj
      · cases hj
        exact ⟨hsoon, by omega, by omega⟩
      · exact h.sleeping j started timeSinceLastRequest hj
    · intro j a hj
      dsimp only at hj
      rw [Ledger.get_enter] at hj
      split at hj
      · cases hj
      · exact h.passed j a hj
    · refine h.last.imp_right ?_
      rintro ⟨j, hj⟩
      refine ⟨j, ?_⟩
      dsimp only
      rw [Ledger.get_enter, if_neg (Nat.ne_of_gt (Ledger.lt_next_of_get hj)), hj]
  | passes now hclock hlate => exact h.passesOn (passesOn_enter s now) hclock
  | wakes call now started timeSinceLastRequest hclock hcall hover =>
    exact h.passesOn (passesOn_slept hcall now) hclock

/-- **Step lemma.** A step keeps the distance, if a call that wakes has not been overtaken. -/
lemma spaced_step (h : Stamped s) (hs : Spaced s) (hnot : NotOvertaken s e)
    (hstep : pureCalls.step s e = some s') : Spaced s' := by
  cases moves_of_step hstep with
  | sleeps now hclock hsoon =>
    intro j k a b hne hj hk
    dsimp only at hj hk
    rw [Ledger.get_enter] at hj hk
    split at hj
    · cases hj
    · split at hk
      · cases hk
      · exact hs j k a b hne hj hk
  | passes now hclock hlate => exact hs.passesOn h (passesOn_enter s now) hlate
  | wakes call now started timeSinceLastRequest hclock hcall hover =>
    -- the sleep was computed from the time of the last request
    have hread := hnot started timeSinceLastRequest hcall
    obtain ⟨hsoon, -, -⟩ := h.sleeping call started timeSinceLastRequest hcall
    exact hs.passesOn h (passesOn_slept hcall now) (by omega)

/-- A call that has been overtaken, and wakes on time, does not keep the distance: the call that has
overtaken it has passed on within the interval. -/
lemma overtaken_step (h : Stamped s) (hnot : ¬ NotOvertaken s e) (hpunctual : Punctual s e)
    (hstep : pureCalls.step s e = some s') : ¬ Spaced s' := by
  cases moves_of_step hstep with
  | sleeps now hclock hsoon => exact absurd trivial hnot
  | passes now hclock hlate => exact absurd trivial hnot
  | wakes call now started timeSinceLastRequest hclock hcall hover =>
    have hover' := hpunctual started timeSinceLastRequest hcall
    obtain ⟨hsoon, hread, hle⟩ := h.sleeping call started timeSinceLastRequest hcall
    have hlt : started < s.lastPureRequestTime + timeSinceLastRequest := by
      refine Nat.lt_of_le_of_ne hle fun heq => hnot fun started' timeSinceLastRequest' hcall' => ?_
      rw [hcall] at hcall'
      cases hcall'
      exact heq.symm
    have hpass := passesOn_slept hcall now
    intro hspaced
    rcases h.last with hzero | ⟨j, hj⟩
    · omega
    · have hne : call ≠ j := by
        rintro rfl
        rw [hcall] at hj
        cases hj
      have hmoments := hspaced call j now s.lastPureRequestTime hne
        ((hpass.get call).trans (if_pos rfl)) ((hpass.get j).trans ((if_neg hne).trans hj))
      have hclock' := h.le_clock
      simp only [PURE_MIN_INTERVAL] at hmoments hover' hsoon
      omega

/-- Nothing has been written at the start. -/
lemma stamped_init : Stamped pureCalls.init := by
  refine ⟨Nat.le_refl _, ?_, ?_, .inl rfl⟩
  · intro i started timeSinceLastRequest hi
    cases hi
  · intro i a hi
    cases hi

/-- No call has passed on at the start. -/
lemma spaced_init : Spaced pureCalls.init := by
  intro i j a b _ hi
  cases hi

end Steps

/-! ## Runs -/

/-- **The distance of pure calls.** In every run in which no call that wakes has been overtaken,
any two calls pass on at least the interval apart. If every sleep ends at its time, these are all
the runs in which they do. -/
theorem pure_calls_spaced {es : List Event} {s : LlmService}
    (h : pureCalls.exec pureCalls.init es = some s) :
    (pureCalls.AllSteps NotOvertaken pureCalls.init es →
        pureCalls.AllStates Spaced pureCalls.init es) ∧
      (pureCalls.AllSteps Punctual pureCalls.init es →
        pureCalls.AllStates Spaced pureCalls.init es →
          pureCalls.AllSteps NotOvertaken pureCalls.init es) := by
  refine ⟨fun hnot => ?_, fun hpunctual hspaced => ?_⟩
  · exact EventSystem.allStates_of_invariant (I := fun s => Stamped s ∧ Spaced s)
      (fun s e s' hI hC hstep =>
        ⟨stamped_step hI.1 hstep, spaced_step hI.1 hI.2 hC hstep⟩)
      (fun s hI => hI.2) ⟨stamped_init, spaced_init⟩ hnot
  · exact EventSystem.allSteps_of_allStates (fun s e s' hI hstep => stamped_step hI hstep)
      (fun s e s' hI hD hC hstep => overtaken_step hI hC hD hstep) stamped_init h hpunctual hspaced

/-- Three calls, each asleep after the one before has passed on. -/
def callsInTurn : List Event :=
  [.sendMessagePure 5000, .sendMessagePure 5100, .slept 1 5310, .sendMessagePure 5400,
    .slept 2 5610]

/-- The calls of that run keep the distance. -/
theorem pure_calls_spaced_in_turn :
    ∃ s, pureCalls.exec pureCalls.init callsInTurn = some s ∧
      s.calls.get 2 = some (.passed 5610) ∧
      pureCalls.AllStates Spaced pureCalls.init callsInTurn := by
  obtain ⟨s, hs, hcall⟩ := Option.map_eq_some_iff.mp (show
    (pureCalls.exec pureCalls.init callsInTurn).map (·.calls.get 2) =
      some (some (.passed 5610)) by decide +kernel)
  refine ⟨s, hs, hcall, (pure_calls_spaced hs).1 ⟨trivial, trivial, ?_, trivial, ?_, trivial⟩⟩
  · intro started timeSinceLastRequest hget
    cases hget
    rfl
  · intro started timeSinceLastRequest hget
    cases hget
    rfl

/-- Two calls within the interval. -/
def callsTogether : List Event :=
  [.sendMessagePure 5000, .sendMessagePure 5100, .sendMessagePure 5200, .slept 1 5300,
    .slept 2 5300]

/-- **Two calls at once.** Two calls read the same time, sleep until the same moment and pass on. -/
theorem pure_calls_together :
    ∃ s, pureCalls.exec pureCalls.init callsTogether = some s ∧
      s.calls.get 1 = some (.passed 5300) ∧ s.calls.get 2 = some (.passed 5300) ∧
      ¬ pureCalls.AllStates Spaced pureCalls.init callsTogether := by
  obtain ⟨s, hs, hfacts⟩ := (Option.any_eq_true _ _).mp (show
    (pureCalls.exec pureCalls.init callsTogether).any (fun s =>
      s.calls.get 1 = some (.passed 5300) ∧ s.calls.get 2 = some (.passed 5300)) = true
      by decide +kernel)
  obtain ⟨hfirst, hsecond⟩ := of_decide_eq_true hfacts
  refine ⟨s, hs, hfirst, hsecond, fun h => ?_⟩
  exact absurd (h.last hs 1 2 5300 5300 (by decide) hfirst hsecond) (by decide)

end PureCalls
