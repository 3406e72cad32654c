import AuraLive.Foundations.EventSystem
import AuraLive.Foundations.JsMap
import Mathlib.Algebra.Order.Ring.Rat

set_option relaxedAutoImplicit false
set_option autoImplicit false

/-!
# Meeting timers and their intervals

The functions of `mcp/tools/timer.tool.ts`. Every room has at most one timer; while it counts down
an interval ticks once a second. Three operations start an interval, each with its own copy of the
tick body, and every operation rewrites the state of the timer.

## Main definitions

* `Timer.Timers` — the two stores of the module and the intervals that are live.
* `Timer.timers` — the timers as an event system; a live interval may tick at any time.
* `Timer.Consistent` — intervals and timers agree.
* `Timer.Untouched` — the timer and the interval of a room are left alone.

## Main results

* `Timer.Registered.stopTimerInterval`, `Timer.Registered.setInterval` — clearing and starting an
  interval keep the registry right.
* `Timer.counting_reachable` — a room has a recorded interval exactly while its timer counts down.
* `Timer.timers_consistent` — intervals and timers agree in every reachable state, and no step
  touches another room.

## Design

Minutes and seconds are rational. `setInterval` returns a fresh handle; a cleared interval does not
tick any more. The objects of `timerStore` are mutated in place and then set again, which is one
assignment here. The callback of `setTimerNotifyCallback` is asynchronous and calls no function of
this module, so a notification is only recorded.
-/

namespace Timer

open Foundations

/-- A room. -/
abbrev RoomId := String

/-- The state of a timer. -/
inductive TimerState where
  | idle
  | running
  | paused
  | warning
  | ended
  deriving DecidableEq, Repr

/-- A timer. -/
structure TimerData where
  roomId : RoomId
  targetMinutes : ℚ
  warningMinutes : ℚ
  remainingSeconds : ℚ
  timerState : TimerState
  startedAt : Option ℕ
  endTime : Option ℚ
  deriving DecidableEq

/-- Whether the tick body goes on counting. -/
def TimerData.counting (timer : TimerData) : Bool :=
  timer.timerState = .running || timer.timerState = .warning

/-- What the callback is told of. -/
inductive Notice where
  | warning
  | ended
  deriving DecidableEq, Repr

/-- The state of the module. -/
structure Timers where
  timerStore : JsMap RoomId TimerData
  timerIntervals : JsMap RoomId ℕ
  /-- The intervals that have been started and not been cleared, with the rooms of their bodies. -/
  live : JsMap ℕ RoomId
  /-- The next handle. -/
  next : ℕ
  /-- The calls of the callback, the last one first. -/
  notices : List (RoomId × Notice × TimerData)

/-! ## The functions -/

namespace Timers

variable (s : Timers) (roomId : RoomId) (now : ℕ)

/-- `stopTimerInterval`. -/
def stopTimerInterval : Timers :=
  match s.timerIntervals.get roomId with
  | none => s
  | some interval =>
    { s with
      live := s.live.delete interval
      timerIntervals := s.timerIntervals.delete roomId }

/-- `setInterval` with the tick body of a room, and the entry in `timerIntervals`. -/
def setInterval : Timers :=
  { s with
    live := s.live.set s.next roomId
    timerIntervals := s.timerIntervals.set roomId s.next
    next := s.next + 1 }

/-- `timerStore.set`. -/
def store (timer : TimerData) : Timers := { s with timerStore := s.timerStore.set roomId timer }

/-- A call of the callback. -/
def notify (notice : Notice) (timer : TimerData) : Timers :=
  { s with notices := (roomId, notice, timer) :: s.notices }

/-- The warning of the tick body. -/
def warn (timer : TimerData) : Timers × TimerData :=
  if timer.remainingSeconds = timer.warningMinutes * 60 ∧ timer.timerState = .running then
    let timer := { timer with timerState := .warning }
    (s.notify roomId .warning timer, timer)
  else (s, timer)

/-- The end check of the tick body. -/
def finish (timer : TimerData) : Timers :=
  if timer.remainingSeconds ≤ 0 then
    let timer := { timer with remainingSeconds := 0, timerState := .ended }
    ((s.stopTimerInterval roomId).notify roomId .ended timer).store roomId timer
  else s.store roomId timer

/-- The tick body, the same in `startTimer`, `resumeTimer` and `extendTimer`. -/
def tick : Timers :=
  match s.timerStore.get roomId with
  | none => s.stopTimerInterval roomId
  | some timer =>
    if !timer.counting then s.stopTimerInterval roomId
    else
      let timer := { timer with remainingSeconds := timer.remainingSeconds - 1 }
      let (s, timer) := s.warn roomId timer
      s.finish roomId timer

/-- `startTimer`. -/
def startTimer (targetMinutes warningMinutes : ℚ) : Timers :=
  ((s.stopTimerInterval roomId).store roomId
    { roomId := roomId
      targetMinutes := targetMinutes
      warningMinutes := warningMinutes
      remainingSeconds := targetMinutes * 60
      timerState := .running
      startedAt := some now
      endTime := some (now + targetMinutes * 60 * 1000) }).setInterval roomId

/-- `pauseTimer`. -/
def pauseTimer : Timers :=
  match s.timerStore.get roomId with
  | none => s
  | some timer =>
    (s.stopTimerInterval roomId).store roomId { timer with timerState := .paused }

/-- `resumeTimer`. -/
def resumeTimer : Timers :=
  match s.timerStore.get roomId with
  | none => s
  | some timer =>
    if timer.timerState ≠ .paused then s
    else
      (s.store roomId
        { timer with
          timerState := .running
          endTime := some (now + timer.remainingSeconds * 1000) }).setInterval roomId

/-- `extendTimer`. -/
def extendTimer (minutes : ℚ) : Timers :=
  match s.timerStore.get roomId with
  | none => s
  | some timer =>
    let timer :=
      { timer with
        remainingSeconds := timer.remainingSeconds + minutes * 60
        targetMinutes := timer.targetMinutes + minutes }
    if timer.timerState = .ended ∨ timer.timerState = .warning then
      let s := s.store roomId
        { timer with
          timerState := .running
          endTime := some (now + timer.remainingSeconds * 1000) }
      if s.timerIntervals.has roomId then s else s.setInterval roomId
    else s.store roomId timer

/-- `stopTimer`. -/
def stopTimer : Timers :=
  { s.stopTimerInterval roomId with timerStore := s.timerStore.delete roomId }

end Timers

/-- What happens to the module: a call for a room, or a tick of an interval. -/
inductive Event where
  | startTimer (roomId : RoomId) (targetMinutes warningMinutes : ℚ) (now : ℕ)
  | pauseTimer (roomId : RoomId)
  | resumeTimer (roomId : RoomId) (now : ℕ)
  | extendTimer (roomId : RoomId) (minutes : ℚ) (now : ℕ)
  | stopTimer (roomId : RoomId)
  | tick (interval : ℕ)
  deriving DecidableEq

/-- The room that an event concerns; the tick of an interval that is not live cannot happen. -/
def Timers.roomOf (s : Timers) : Event → Option RoomId
  | .startTimer r _ _ _ => some r
  | .pauseTimer r => some r
  | .resumeTimer r _ => some r
  | .extendTimer r _ _ => some r
  | .stopTimer r => some r
  | .tick interval => s.live.get interval

/-- What an event does to its room. -/
def Timers.handle (s : Timers) (roomId : RoomId) : Event → Timers
  | .startTimer _ targetMinutes warningMinutes now =>
    s.startTimer roomId now targetMinutes warningMinutes
  | .pauseTimer _ => s.pauseTimer roomId
  | .resumeTimer _ now => s.resumeTimer roomId now
  | .extendTimer _ minutes now => s.extendTimer roomId now minutes
  | .stopTimer _ => s.stopTimer roomId
  | .tick _ => s.tick roomId

/-- The timers as an event system. -/
def timers : EventSystem Timers Event where
  init := ⟨∅, ∅, ∅, 0, []⟩
  step s e := (s.roomOf e).map fun roomId => s.handle roomId e

/-! ## What is to hold -/

/-- Intervals and timers agree. -/
structure Consistent (s : Timers) : Prop where
  /-- A room has a live interval exactly while its timer is running or warning. -/
  live_iff : ∀ r, (∃ interval, s.live.get interval = some r) ↔
    ∃ timer, s.timerStore.get r = some timer ∧
      (timer.timerState = .running ∨ timer.timerState = .warning)
  /-- A room never has two live intervals. -/
  single : ∀ r i j, s.live.get i = some r → s.live.get j = some r → i = j
  /-- Every live interval is the recorded one. -/
  recorded : ∀ i r, s.live.get i = some r → s.timerIntervals.get r = some i

/-- The timer and the intervals of a room are the same in both states. -/
structure Untouched (s s' : Timers) (r : RoomId) : Prop where
  timer : s'.timerStore.get r = s.timerStore.get r
  interval : s'.timerIntervals.get r = s.timerIntervals.get r
  live : ∀ i, s'.live.get i = some r ↔ s.live.get i = some r

/-! ## The registry of intervals -/

/-- The live intervals are the recorded ones, and their handles are taken. -/
structure Registered (s : Timers) : Prop where
  live_iff : ∀ i r, s.live.get i = some r ↔ s.timerIntervals.get r = some i
  fresh : ∀ i r, s.live.get i = some r → i < s.next

/-- The room counts down, by its timer. -/
def Timers.counting (s : Timers) (r : RoomId) : Bool := (s.timerStore.get r).any (·.counting)

variable {s : Timers} {roomId : RoomId}

/-- After an interval is cleared the room has none; other rooms keep theirs. -/
@[simp] lemma stopTimerInterval_timerIntervals (s : Timers) (roomId r : RoomId) :
    (s.stopTimerInterval roomId).timerIntervals.get r =
      if roomId = r then none else s.timerIntervals.get r := by
  unfold Timers.stopTimerInterval
  cases h : s.timerIntervals.get roomId with
  | none =>
    dsimp only
    split
    · rename_i hr
      rw [← hr, h]
    · rfl
  | some interval => exact JsMap.get_delete s.timerIntervals roomId r

/-- Clearing an interval does not touch the timers. -/
@[simp] lemma stopTimerInterval_timerStore (s : Timers) (roomId : RoomId) :
    (s.stopTimerInterval roomId).timerStore = s.timerStore := by
  unfold Timers.stopTimerInterval
  split <;> rfl

/-- Clearing an interval gives out no handle. -/
@[simp] lemma stopTimerInterval_next (s : Timers) (roomId : RoomId) :
    (s.stopTimerInterval roomId).next = s.next := by
  unfold Timers.stopTimerInterval
  split <;> rfl

/-- Clearing the recorded interval of a room keeps the registry right.

**Proof sketch.** The interval that is cleared was live and owned by this room alone, so without it
the live intervals are still those recorded for their owners. Numbers do not become fresh again. -/
lemma Registered.stopTimerInterval (hs : Registered s) (roomId : RoomId) :
    Registered (s.stopTimerInterval roomId) := by
  constructor
  · intro i r
    rw [stopTimerInterval_timerIntervals]
    unfold Timers.stopTimerInterval
    cases h : s.timerIntervals.get roomId with
    | none =>
      dsimp only
      rw [hs.live_iff i r]
      split
      · rename_i hr
        rw [← hr, h]
      · rfl
    | some interval =>
      dsimp only
      rw [JsMap.get_delete]
      by_cases hi : interval = i
      · -- the cleared interval was the one of this room only
        subst hi
        simp only [if_true]
        have howner := (hs.live_iff interval roomId).mpr h
        constructor
        · intro hnone
          cases hnone
        · intro hr
          split at hr
          · cases hr
          · rename_i hne
            have := (hs.live_iff interval r).mpr hr
            rw [howner, Option.some.injEq] at this
            exact absurd this hne
      · rw [if_neg hi, hs.live_iff i r]
        split
        · rename_i hr
          subst hr
          rw [h]
          simp [hi]
        · rfl
  · intro i r hlive
    unfold Timers.stopTimerInterval at hlive ⊢
    split at hlive
    · exact hs.fresh i r hlive
    · rename_i interval hi
      dsimp only at hlive
      rw [JsMap.get_delete] at hlive
      split at hlive
      · cases hlive
      · exact hs.fresh i r hlive

/-- Starting an interval for a room without one keeps the registry right. -/
lemma Registered.setInterval (hs : Registered s) (hnone : s.timerIntervals.get roomId = none) :
    Registered (s.setInterval roomId) := by
  have hnext : ∀ r, s.live.get s.next ≠ some r := by
    intro r hlive
    exact absurd (hs.fresh s.next r hlive) (lt_irrefl _)
  constructor
  · intro i r
    simp only [Timers.setInterval, JsMap.get_set]
    by_cases hi : s.next = i
    · by_cases hr : roomId = r
      · simp [hi, hr]
      · have hold := (hs.live_iff i r).not.mp (hi ▸ hnext r)
        simp [hi, hr, hold]
    · by_cases hr : roomId = r
      · have hold := (hs.live_iff i r).not.mpr (by rw [← hr, hnone]; simp)
        simp [hi, hr, hold]
      · simp [hi, hr, hs.live_iff i r]
  · intro i r hlive
    simp only [Timers.setInterval, JsMap.get_set] at hlive ⊢
    split at hlive
    · omega
    · have := hs.fresh i r hlive
      omega

/-- The registry does not depend on the timers and the notices. -/
lemma Registered.congr {s' : Timers} (hs : Registered s) (hlive : s'.live = s.live)
    (hintervals : s'.timerIntervals = s.timerIntervals) (hnext : s'.next = s.next) :
    Registered s' := by
  constructor
  · intro i r
    rw [hlive, hintervals]
    exact hs.live_iff i r
  · intro i r h
    rw [hlive] at h
    rw [hnext]
    exact hs.fresh i r h

/-- The warning changes the notices only, and the timer goes on counting. -/
lemma warn_spec (s : Timers) (roomId : RoomId) (timer : TimerData) (h : timer.counting = true) :
    (∃ notices, (s.warn roomId timer).1 = { s with notices := notices }) ∧
      (s.warn roomId timer).2.counting = true := by
  unfold Timers.warn
  split
  · exact ⟨⟨_, rfl⟩, by simp [TimerData.counting]⟩
  · exact ⟨⟨s.notices, rfl⟩, h⟩

/-! ## The invariant -/

/-- The registry is right, and a room has an interval exactly while it counts down. -/
structure Counting (s : Timers) : Prop where
  registered : Registered s
  counting : ∀ r, (s.timerIntervals.get r).isSome = s.counting r

/-- What an event does to its room: it leaves the registry right, gives the room an interval exactly
if its timer then counts down, and leaves every other room alone. -/
structure Settles (s s' : Timers) (roomId : RoomId) : Prop where
  registered : Registered s'
  counting : (s'.timerIntervals.get roomId).isSome = s'.counting roomId
  timer : ∀ r, roomId ≠ r → s'.timerStore.get r = s.timerStore.get r
  interval : ∀ r, roomId ≠ r → s'.timerIntervals.get r = s.timerIntervals.get r

section Settles

variable (hs : Counting s) (roomId : RoomId) (now : ℕ)
include hs

/-- A step that does nothing. -/
lemma Counting.settles_self : Settles s s roomId :=
  ⟨hs.registered, hs.counting roomId, fun _ _ => rfl, fun _ _ => rfl⟩

/-- Clearing the interval of a room and storing a timer that does not count. -/
lemma Counting.settles_cleared {s' : Timers}
    (hlive : s'.live = (s.stopTimerInterval roomId).live)
    (hintervals : s'.timerIntervals = (s.stopTimerInterval roomId).timerIntervals)
    (hnext : s'.next = (s.stopTimerInterval roomId).next)
    (hstore : ∀ r, roomId ≠ r → s'.timerStore.get r = s.timerStore.get r)
    (hidle : s'.counting roomId = false) : Settles s s' roomId := by
  refine ⟨(hs.registered.stopTimerInterval roomId).congr hlive hintervals hnext, ?_, hstore, ?_⟩
  · rw [hintervals, stopTimerInterval_timerIntervals, if_pos rfl, hidle]
    rfl
  · intro r hr
    rw [hintervals, stopTimerInterval_timerIntervals, if_neg hr]

/-- Keeping the intervals and storing a timer that counts as before. -/
lemma Counting.settles_stored {s' : Timers} (hlive : s'.live = s.live)
    (hintervals : s'.timerIntervals = s.timerIntervals) (hnext : s'.next = s.next)
    (hstore : ∀ r, roomId ≠ r → s'.timerStore.get r = s.timerStore.get r)
    (hsame : s'.counting roomId = s.counting roomId) : Settles s s' roomId := by
  refine ⟨hs.registered.congr hlive hintervals hnext, ?_, hstore, ?_⟩
  · rw [hintervals, hs.counting roomId, hsame]
  · intro r _
    rw [hintervals]

/-- `startTimer` settles its room. -/
lemma Counting.settles_startTimer (targetMinutes warningMinutes : ℚ) :
    Settles s (s.startTimer roomId now targetMinutes warningMinutes) roomId := by
  refine ⟨?_, ?_, ?_, ?_⟩
  · refine Registered.setInterval ((hs.registered.stopTimerInterval roomId).congr rfl rfl rfl) ?_
    show (s.stopTimerInterval roomId).timerIntervals.get roomId = none
    rw [stopTimerInterval_timerIntervals, if_pos rfl]
  · simp [Timers.startTimer, Timers.setInterval, Timers.store, Timers.counting,
      TimerData.counting]
  · intro r hr
    simp [Timers.startTimer, Timers.setInterval, Timers.store, hr]
  · intro r hr
    simp [Timers.startTimer, Timers.setInterval, Timers.store, hr]

/-- `pauseTimer` settles its room. -/
lemma Counting.settles_pauseTimer : Settles s (s.pauseTimer roomId) roomId := by
  unfold Timers.pauseTimer
  split
  · exact hs.settles_self roomId
  · refine hs.settles_cleared roomId rfl rfl rfl (fun r hr => ?_) ?_
    · simp [Timers.store, hr]
    · simp [Timers.store, Timers.counting, TimerData.counting]

/-- `resumeTimer` settles its room. -/
lemma Counting.settles_resumeTimer : Settles s (s.resumeTimer roomId now) roomId := by
  unfold Timers.resumeTimer
  split
  · exact hs.settles_self roomId
  · rename_i timer htimer
    split
    · exact hs.settles_self roomId
    · rename_i hpaused
      rw [not_not] at hpaused
      -- a paused timer does not count, so the room has no interval
      have hnone : s.timerIntervals.get roomId = none := by
        have hcount := hs.counting roomId
        simp only [Timers.counting, htimer, TimerData.counting, hpaused, Option.any_some] at hcount
        simpa using hcount
      refine ⟨Registered.setInterval (hs.registered.congr rfl rfl rfl) hnone, ?_, ?_, ?_⟩
      · simp [Timers.setInterval, Timers.store, Timers.counting, TimerData.counting]
      · intro r hr
        simp [Timers.setInterval, Timers.store, hr]
      · intro r hr
        simp [Timers.setInterval, Timers.store, hr]

/-- `extendTimer` settles its room. -/
lemma Counting.settles_extendTimer (minutes : ℚ) :
    Settles s (s.extendTimer roomId now minutes) roomId := by
  unfold Timers.extendTimer
  split
  · exact hs.settles_self roomId
  · rename_i timer htimer
    have hcount := hs.counting roomId
    dsimp only
    split
    · split
      · -- the interval that is recorded goes on
        rename_i hhas
        have hsome : (s.timerIntervals.get roomId).isSome = true := hhas
        refine hs.settles_stored roomId rfl rfl rfl (fun r hr => ?_) ?_
        · simp [Timers.store, hr]
        · rw [← hcount, hsome]
          simp [Timers.store, Timers.counting, TimerData.counting]
      · rename_i hhas
        have hnone : s.timerIntervals.get roomId = none := by
          simpa [JsMap.has, Timers.store] using hhas
        refine ⟨Registered.setInterval (hs.registered.congr rfl rfl rfl) hnone, ?_, ?_, ?_⟩
        · simp [Timers.setInterval, Timers.store, Timers.counting, TimerData.counting]
        · intro r hr
          simp [Timers.setInterval, Timers.store, hr]
        · intro r hr
          simp [Timers.setInterval, Timers.store, hr]
    · refine hs.settles_stored roomId rfl rfl rfl (fun r hr => ?_) ?_
      · simp [Timers.store, hr]
      · simp [Timers.store, Timers.counting, TimerData.counting, htimer]

/-- `stopTimer` settles its room. -/
lemma Counting.settles_stopTimer : Settles s (s.stopTimer roomId) roomId := by
  refine hs.settles_cleared roomId rfl rfl rfl (fun r hr => ?_) ?_
  · simp [Timers.stopTimer, hr]
  · simp [Timers.stopTimer, Timers.counting]

/-- The end check settles a room that counts down, whatever has been notified. -/
lemma Counting.settles_finish (notices : List (RoomId × Notice × TimerData))
    (hcount : s.counting roomId = true) {timer : TimerData} (htimer : timer.counting = true) :
    Settles s (({ s with notices := notices } : Timers).finish roomId timer) roomId := by
  unfold Timers.finish
  split
  · refine hs.settles_cleared roomId ?_ ?_ ?_ (fun r hr => ?_) ?_
    · unfold Timers.stopTimerInterval
      cases s.timerIntervals.get roomId <;> rfl
    · unfold Timers.stopTimerInterval
      cases s.timerIntervals.get roomId <;> rfl
    · unfold Timers.stopTimerInterval
      cases s.timerIntervals.get roomId <;> rfl
    · simp [Timers.store, Timers.notify, hr]
    · simp [Timers.store, Timers.notify, Timers.counting, TimerData.counting]
  · refine hs.settles_stored roomId rfl rfl rfl (fun r hr => ?_) ?_
    · simp [Timers.store, hr]
    · rw [hcount]
      simp [Timers.store, Timers.counting, htimer]

/-- The tick body settles its room. -/
lemma Counting.settles_tick : Settles s (s.tick roomId) roomId := by
  unfold Timers.tick
  split
  · rename_i htimer
    refine hs.settles_cleared roomId rfl rfl rfl (fun r _ => by simp) ?_
    simp [Timers.counting, htimer]
  · rename_i timer htimer
    split
    · rename_i hidle
      refine hs.settles_cleared roomId rfl rfl rfl (fun r _ => by simp) ?_
      simpa [Timers.counting, htimer] using hidle
    · rename_i hcounting
      have hcounting' : timer.counting = true := by simpa using hcounting
      have hcount : s.counting roomId = true := by simp [Timers.counting, htimer, hcounting']
      obtain ⟨⟨notices, hs₁⟩, htimer₁⟩ := warn_spec s roomId
        { timer with remainingSeconds := timer.remainingSeconds - 1 } hcounting'
      dsimp only
      rw [hs₁]
      exact hs.settles_finish roomId notices hcount htimer₁

end Settles

/-- Every event settles its room. -/
lemma Counting.settles (hs : Counting s) (roomId : RoomId) (e : Event) :
    Settles s (s.handle roomId e) roomId := by
  cases e with
  | startTimer _ targetMinutes warningMinutes now =>
    exact hs.settles_startTimer roomId now targetMinutes warningMinutes
  | pauseTimer _ => exact hs.settles_pauseTimer roomId
  | resumeTimer _ now => exact hs.settles_resumeTimer roomId now
  | extendTimer _ minutes now => exact hs.settles_extendTimer roomId now minutes
  | stopTimer _ => exact hs.settles_stopTimer roomId
  | tick _ => exact hs.settles_tick roomId

/-- A state in which one room is settled and the others are left alone keeps the invariant. -/
lemma Settles.counting_all {s' : Timers} (h : Settles s s' roomId) (hs : Counting s) :
    Counting s' := by
  refine ⟨h.registered, fun r => ?_⟩
  by_cases hr : roomId = r
  · exact hr ▸ h.counting
  · rw [h.interval r hr, hs.counting r, Timers.counting, Timers.counting, h.timer r hr]

/-- A state in which one room is settled leaves the others alone. -/
lemma Settles.untouched {s' : Timers} (h : Settles s s' roomId) (hs : Counting s) {r : RoomId}
    (hr : roomId ≠ r) : Untouched s s' r := by
  refine ⟨h.timer r hr, h.interval r hr, fun i => ?_⟩
  rw [h.registered.live_iff i r, hs.registered.live_iff i r, h.interval r hr]

/-! ## Runs -/

/-- **Recorded intervals.** In every reachable state the registry is right, and a room has a
recorded interval exactly while its timer counts down. -/
theorem counting_reachable (h : timers.Reachable s) : Counting s := by
  refine EventSystem.reachable_invariant ?_ ?_ h
  · exact ⟨⟨by simp [timers], by simp [timers]⟩, by simp [timers, Timers.counting]⟩
  · intro s e s' hs hstep
    obtain ⟨roomId, -, rfl⟩ := Option.map_eq_some_iff.mp hstep
    exact (hs.settles roomId e).counting_all hs

/-- The invariant says that intervals and timers agree. -/
lemma Counting.consistent (hs : Counting s) : Consistent s := by
  have hrecorded : ∀ i r, s.live.get i = some r → s.timerIntervals.get r = some i :=
    fun i r => (hs.registered.live_iff i r).mp
  constructor
  · intro r
    have hlive : (∃ interval, s.live.get interval = some r) ↔
        (s.timerIntervals.get r).isSome = true := by
      rw [Option.isSome_iff_exists]
      exact exists_congr fun i => hs.registered.live_iff i r
    rw [hlive, hs.counting r, Timers.counting, Option.any_eq_true]
    simp [TimerData.counting]
  · intro r i j hi hj
    exact Option.some.inj ((hrecorded i r hi).symm.trans (hrecorded j r hj))
  · exact hrecorded

/-- **Timers and intervals.** For every sequence of calls and ticks over any rooms, in the state
reached a room has a live interval exactly while its timer is running or warning, has no two, and
every live interval is the recorded one; and whatever happens next changes neither the timer nor
the interval of another room. -/
theorem timers_consistent (h : timers.Reachable s) :
    Consistent s ∧ ∀ e s', timers.step s e = some s' →
      ∀ r, s.roomOf e ≠ some r → Untouched s s' r := by
  have hs := counting_reachable h
  refine ⟨hs.consistent, fun e s' hstep r hr => ?_⟩
  obtain ⟨roomId, hroom, rfl⟩ := Option.map_eq_some_iff.mp hstep
  refine (hs.settles roomId e).untouched hs fun heq => hr ?_
  rw [hroom, heq]

/-- A timer of one minute that warns at half a minute is extended when it has ended. -/
theorem timers_consistent_extended : ∃ s, timers.exec timers.init
      ([.startTimer "a" 1 (1 / 2) 1000, .startTimer "b" 30 5 1000] ++
        List.replicate 60 (.tick 0) ++ [.extendTimer "a" 10 70000, .pauseTimer "b"]) = some s ∧
    s.live.entries = [(2, "a")] ∧ Consistent s := by
  obtain ⟨s, hs, hlive⟩ := Option.map_eq_some_iff.mp (show (timers.exec timers.init
      ([.startTimer "a" 1 (1 / 2) 1000, .startTimer "b" 30 5 1000] ++
        List.replicate 60 (.tick 0) ++
        [.extendTimer "a" 10 70000, .pauseTimer "b"])).map (·.live.entries) =
    some [(2, "a")] by decide +kernel)
  exact ⟨s, hs, hlive, (timers_consistent ⟨_, hs⟩).1⟩

end Timer
