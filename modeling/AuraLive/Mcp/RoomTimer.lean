import AuraLive.Mcp.Timer
import Mathlib.Algebra.Order.Ring.Rat
import Mathlib.Tactic.Linarith
import Mathlib.Tactic.NormNum

set_option relaxedAutoImplicit false
set_option autoImplicit false

/-!
# The timer of one room, and its warnings

What an event does to the timer of its room is a function of that timer alone, and so is what the
callback is told. The warning compares the remaining seconds by equality and asks for the state
`running`, while pausing, resuming and extending rewrite the state and the remaining time on their
own.

## Main definitions

* `Timer.TimerData.tick` — one second of a timer that counts down.
* `Timer.Event.next`, `Timer.Event.told` — the timer of the room after an event, and the calls of
  the callback.
* `Timer.Crosses` — a tick takes a room from one second above its threshold onto it.
* `Timer.Sound` — a timer that has warned is not above its threshold, and all times are whole.

## Main results

* `Timer.handle_get`, `Timer.handle_notices` — the module does to a room what its timer says.
* `Timer.warned_iff_crosses` — with positive whole parameters a room is warned exactly at the ticks
  that cross its threshold, once each.
-/

namespace Timer

open Foundations

/-! ## The timer of one room -/

namespace TimerData

variable (timer : TimerData)

/-- One second less. -/
def count : TimerData := { timer with remainingSeconds := timer.remainingSeconds - 1 }

/-- Whether the tick body warns, after counting. -/
def warns : Bool :=
  timer.remainingSeconds = timer.warningMinutes * 60 ∧ timer.timerState = .running

/-- The timer after the warning of the tick body. -/
def afterWarning : TimerData := if timer.warns then { timer with timerState := .warning } else timer

/-- Whether the tick body ends the countdown, after counting. -/
def ends : Bool := timer.remainingSeconds ≤ 0

/-- The timer after the end check of the tick body. -/
def afterEnd : TimerData :=
  if timer.ends then { timer with remainingSeconds := 0, timerState := .ended } else timer

/-- One second of a timer that counts down. -/
def tick : TimerData := timer.count.afterWarning.afterEnd

/-- What the callback is told of in that second, the last call first. -/
def tickTold : List (Notice × TimerData) :=
  (if timer.count.ends then [(.ended, timer.tick)] else []) ++
    if timer.count.warns then [(.warning, timer.count.afterWarning)] else []

/-- The timer after `resumeTimer`. -/
def resumed (now : ℕ) : TimerData :=
  if timer.timerState = .paused then
    { timer with timerState := .running, endTime := some (now + timer.remainingSeconds * 1000) }
  else timer

/-- The timer after `extendTimer`. -/
def extended (minutes : ℚ) (now : ℕ) : TimerData :=
  if timer.timerState = .ended ∨ timer.timerState = .warning then
    { timer with
      remainingSeconds := timer.remainingSeconds + minutes * 60
      targetMinutes := timer.targetMinutes + minutes
      timerState := .running
      endTime := some (now + (timer.remainingSeconds + minutes * 60) * 1000) }
  else
    { timer with
      remainingSeconds := timer.remainingSeconds + minutes * 60
      targetMinutes := timer.targetMinutes + minutes }

@[simp] lemma count_remainingSeconds :
    timer.count.remainingSeconds = timer.remainingSeconds - 1 := rfl

@[simp] lemma count_warningMinutes : timer.count.warningMinutes = timer.warningMinutes := rfl

@[simp] lemma count_endTime : timer.count.endTime = timer.endTime := rfl

@[simp] lemma afterWarning_remainingSeconds :
    timer.afterWarning.remainingSeconds = timer.remainingSeconds := by
  unfold afterWarning
  split <;> rfl

@[simp] lemma afterWarning_warningMinutes :
    timer.afterWarning.warningMinutes = timer.warningMinutes := by
  unfold afterWarning
  split <;> rfl

@[simp] lemma afterWarning_endTime : timer.afterWarning.endTime = timer.endTime := by
  unfold afterWarning
  split <;> rfl

/-- The warning does not decide about the end. -/
@[simp] lemma afterWarning_ends : timer.afterWarning.ends = timer.ends := by
  unfold ends
  rw [afterWarning_remainingSeconds]

@[simp] lemma afterEnd_warningMinutes : timer.afterEnd.warningMinutes = timer.warningMinutes := by
  unfold afterEnd
  split <;> rfl

/-- A second keeps the threshold. -/
@[simp] lemma tick_warningMinutes : timer.tick.warningMinutes = timer.warningMinutes := by
  rw [tick, afterEnd_warningMinutes, afterWarning_warningMinutes]
  rfl

/-- A second that ends the countdown. -/
lemma tick_of_ends (h : timer.count.ends = true) :
    timer.tick.remainingSeconds = 0 ∧ timer.tick.timerState = .ended := by
  rw [tick, afterEnd, if_pos (by rwa [afterWarning_ends])]
  exact ⟨rfl, rfl⟩

/-- A second that does not. -/
lemma tick_of_not_ends (h : timer.count.ends = false) : timer.tick = timer.count.afterWarning := by
  rw [tick, afterEnd, if_neg (by rw [afterWarning_ends, h]; exact Bool.false_ne_true)]

end TimerData

/-- The timer of the room after an event for it. -/
def Event.next (roomId : RoomId) : Event → Option TimerData → Option TimerData
  | .startTimer _ targetMinutes warningMinutes now, _ =>
    some
      { roomId := roomId
        targetMinutes := targetMinutes
        warningMinutes := warningMinutes
        remainingSeconds := targetMinutes * 60
        timerState := .running
        startedAt := some now
        endTime := some (now + targetMinutes * 60 * 1000) }
  | .pauseTimer _, timer => timer.map fun timer => { timer with timerState := .paused }
  | .resumeTimer _ now, timer => timer.map (·.resumed now)
  | .extendTimer _ minutes now, timer => timer.map (·.extended minutes now)
  | .stopTimer _, _ => none
  | .tick _, timer => timer.map fun timer => if timer.counting then timer.tick else timer

/-- What the callback is told of at an event for a room, the last call first. -/
def Event.told : Event → Option TimerData → List (Notice × TimerData)
  | .tick _, some timer => if timer.counting then timer.tickTold else []
  | _, _ => []

section Handle

variable (s : Timers) (roomId : RoomId)

/-- Clearing an interval tells nobody. -/
@[simp] lemma stopTimerInterval_notices : (s.stopTimerInterval roomId).notices = s.notices := by
  unfold Timers.stopTimerInterval
  split <;> rfl

/-- The warning of the tick body. -/
lemma warn_eq (timer : TimerData) :
    s.warn roomId timer =
      ({ s with
        notices := (if timer.warns then [(roomId, .warning, timer.afterWarning)] else []) ++
          s.notices }, timer.afterWarning) := by
  unfold Timers.warn TimerData.afterWarning TimerData.warns
  simp only [decide_eq_true_eq]
  split <;> rfl

/-- The end check of the tick body, on the timer of the room. -/
lemma finish_get (timer : TimerData) :
    (s.finish roomId timer).timerStore.get roomId = some timer.afterEnd := by
  unfold Timers.finish TimerData.afterEnd TimerData.ends
  simp only [decide_eq_true_eq]
  split <;> simp [Timers.store]

/-- The end check of the tick body, on the notices. -/
lemma finish_notices (timer : TimerData) :
    (s.finish roomId timer).notices =
      (if timer.ends then [(roomId, .ended, timer.afterEnd)] else []) ++ s.notices := by
  unfold Timers.finish TimerData.afterEnd TimerData.ends
  simp only [decide_eq_true_eq]
  split
  · simp [Timers.store, Timers.notify]
  · rfl

/-- The tick body of a room whose timer counts down. -/
lemma tick_eq {timer : TimerData} (htimer : s.timerStore.get roomId = some timer)
    (hcounting : timer.counting = true) :
    (s.tick roomId).timerStore.get roomId = some timer.tick ∧
      (s.tick roomId).notices = timer.tickTold.map (fun x => (roomId, x)) ++ s.notices := by
  have hbody : s.tick roomId =
      (s.warn roomId timer.count).1.finish roomId (s.warn roomId timer.count).2 := by
    simp [Timers.tick, htimer, hcounting, TimerData.count]
  rw [hbody, finish_get, finish_notices, warn_eq]
  refine ⟨rfl, ?_⟩
  rw [TimerData.afterWarning_ends, TimerData.tickTold, List.map_append, List.append_assoc]
  congr 1
  · split <;> rfl
  · split <;> rfl

/-- **The timer of a room.** An event does to the timer of its room what that timer says. -/
lemma handle_get (e : Event) :
    (s.handle roomId e).timerStore.get roomId = e.next roomId (s.timerStore.get roomId) := by
  cases e with
  | startTimer _ targetMinutes warningMinutes now =>
    simp [Timers.handle, Timers.startTimer, Timers.setInterval, Timers.store, Event.next]
  | pauseTimer _ =>
    simp only [Timers.handle, Timers.pauseTimer, Event.next]
    cases htimer : s.timerStore.get roomId with
    | none => exact htimer
    | some timer => simp [Timers.store]
  | resumeTimer _ now =>
    simp only [Timers.handle, Timers.resumeTimer, Event.next]
    cases htimer : s.timerStore.get roomId with
    | none => exact htimer
    | some timer =>
      by_cases hpaused : timer.timerState = .paused
      · simp [Timers.setInterval, Timers.store, TimerData.resumed, hpaused]
      · simp [TimerData.resumed, hpaused, htimer]
  | extendTimer _ minutes now =>
    simp only [Timers.handle, Timers.extendTimer, Event.next]
    cases htimer : s.timerStore.get roomId with
    | none => exact htimer
    | some timer =>
      by_cases hover : timer.timerState = .ended ∨ timer.timerState = .warning
      · simp only [TimerData.extended, hover, if_true, Option.map_some]
        split <;> simp [Timers.setInterval, Timers.store]
      · simp [Timers.store, TimerData.extended, hover]
  | stopTimer _ => simp [Timers.handle, Timers.stopTimer, Event.next]
  | tick _ =>
    simp only [Timers.handle, Event.next]
    cases htimer : s.timerStore.get roomId with
    | none => simp [Timers.tick, htimer]
    | some timer =>
      cases hcounting : timer.counting with
      | true => simpa [hcounting] using (tick_eq s roomId htimer hcounting).1
      | false => simp [Timers.tick, htimer, hcounting]

/-- **The notices of a room.** An event tells the callback what the timer of its room says. -/
lemma handle_notices (e : Event) :
    (s.handle roomId e).notices =
      (e.told (s.timerStore.get roomId)).map (fun x => (roomId, x)) ++ s.notices := by
  cases e with
  | startTimer _ targetMinutes warningMinutes now =>
    simp [Timers.handle, Timers.startTimer, Timers.setInterval, Timers.store, Event.told]
  | pauseTimer _ =>
    simp only [Timers.handle, Timers.pauseTimer, Event.told]
    split <;> simp [Timers.store]
  | resumeTimer _ now =>
    simp only [Timers.handle, Timers.resumeTimer, Event.told]
    split
    · rfl
    · split <;> rfl
  | extendTimer _ minutes now =>
    simp only [Timers.handle, Timers.extendTimer, Event.told]
    split
    · rfl
    · split
      · split <;> rfl
      · rfl
  | stopTimer _ => simp [Timers.handle, Timers.stopTimer, Event.told]
  | tick _ =>
    simp only [Timers.handle]
    cases htimer : s.timerStore.get roomId with
    | none => simp [Timers.tick, htimer, Event.told]
    | some timer =>
      cases hcounting : timer.counting with
      | true => simpa [Event.told, hcounting] using (tick_eq s roomId htimer hcounting).2
      | false => simp [Timers.tick, htimer, Event.told, hcounting]

end Handle

/-! ## Warnings -/

/-- A positive whole number of minutes. -/
def Whole (minutes : ℚ) : Prop := ∃ n : ℕ, 0 < n ∧ minutes = n

/-- The parameters of the event are positive whole numbers. -/
def Event.Positive : Event → Prop
  | .startTimer _ targetMinutes warningMinutes _ => Whole targetMinutes ∧ Whole warningMinutes
  | .extendTimer _ minutes _ => Whole minutes
  | _ => True

namespace Timers

variable (s : Timers) (r : RoomId)

/-- How often the callback has been told something about a room. -/
def notified (notice : Notice) : ℕ := s.notices.countP fun x => x.1 = r ∧ x.2.1 = notice

/-- The event is a tick of the interval of a room. -/
def ticks (e : Event) : Bool :=
  match e with
  | .tick interval => s.live.get interval = some r
  | _ => false

/-- The remaining time of a room is above its threshold. -/
def above : Bool :=
  (s.timerStore.get r).any fun timer => timer.warningMinutes * 60 < timer.remainingSeconds

/-- The remaining time of a room is some seconds above its threshold. -/
def atOffset (seconds : ℚ) : Bool :=
  (s.timerStore.get r).any fun timer =>
    timer.remainingSeconds = timer.warningMinutes * 60 + seconds

end Timers

/-- The step is a tick that takes a room from one second above its threshold onto it. -/
def Crosses (s s' : Timers) (e : Event) (r : RoomId) : Prop :=
  s.ticks r e = true ∧ s.atOffset r 1 = true ∧ s'.atOffset r 0 = true

instance decidableCrosses (s s' : Timers) (e : Event) (r : RoomId) :
    Decidable (Crosses s s' e r) :=
  inferInstanceAs (Decidable (s.ticks r e = true ∧ s.atOffset r 1 = true ∧ s'.atOffset r 0 = true))

/-- A timer that has warned is not above its threshold, and its times are whole. -/
structure Sound (timer : TimerData) : Prop where
  warned : timer.timerState = .warning → timer.remainingSeconds ≤ timer.warningMinutes * 60
  remaining : ∃ n : ℤ, timer.remainingSeconds = n
  threshold : Whole timer.warningMinutes

namespace Sound

variable {timer : TimerData}

/-- The threshold is a positive whole number of seconds. -/
lemma threshold_seconds (h : Sound timer) :
    ∃ n : ℤ, 0 < n ∧ timer.warningMinutes * 60 = n := by
  obtain ⟨n, hn, hw⟩ := h.threshold
  refine ⟨n * 60, by omega, ?_⟩
  rw [hw]
  push_cast
  rfl

lemma threshold_pos (h : Sound timer) : 0 < timer.warningMinutes * 60 := by
  obtain ⟨n, hn, hthreshold⟩ := h.threshold_seconds
  rw [hthreshold]
  exact_mod_cast hn

/-- A timer that is neither warning nor changed in its threshold. -/
lemma of_state_ne {timer' : TimerData} (h : Sound timer)
    (hstate : timer'.timerState ≠ .warning)
    (hremaining : ∃ n : ℤ, timer'.remainingSeconds = n)
    (hthreshold : timer'.warningMinutes = timer.warningMinutes) : Sound timer' :=
  ⟨fun hw => absurd hw hstate, hremaining, hthreshold ▸ h.threshold⟩

/-- Pausing. -/
lemma paused (h : Sound timer) : Sound { timer with timerState := .paused } :=
  h.of_state_ne (by simp) h.remaining rfl

/-- Resuming. -/
lemma resumed (h : Sound timer) (now : ℕ) : Sound (timer.resumed now) := by
  unfold TimerData.resumed
  split
  · exact h.of_state_ne (by simp) h.remaining rfl
  · exact h

/-- Extending: a timer that has warned runs again. -/
lemma extended (h : Sound timer) {minutes : ℚ} (hminutes : Whole minutes) (now : ℕ) :
    Sound (timer.extended minutes now) := by
  obtain ⟨n, hn⟩ := h.remaining
  obtain ⟨m, -, hm⟩ := hminutes
  have hwhole : timer.remainingSeconds + minutes * 60 = ((n + m * 60 : ℤ) : ℚ) := by
    rw [hn, hm]
    push_cast
    rfl
  unfold TimerData.extended
  split
  · exact h.of_state_ne (by simp) ⟨_, hwhole⟩ rfl
  · rename_i hstate
    exact h.of_state_ne (fun hw => hstate (.inr hw)) ⟨_, hwhole⟩ rfl

/-- One second. -/
lemma tick (h : Sound timer) : Sound timer.tick := by
  obtain ⟨n, hn⟩ := h.remaining
  cases hends : timer.count.ends with
  | true =>
    obtain ⟨hzero, hended⟩ := timer.tick_of_ends hends
    refine h.of_state_ne (by rw [hended]; simp) ⟨0, by rw [hzero]; rfl⟩ ?_
    rw [TimerData.tick_warningMinutes]
  | false =>
    rw [timer.tick_of_not_ends hends]
    have hcount : timer.count.remainingSeconds = ((n - 1 : ℤ) : ℚ) := by
      rw [TimerData.count_remainingSeconds, hn]
      push_cast
      rfl
    refine ⟨fun hw => ?_, ⟨n - 1, ?_⟩, ?_⟩
    · rw [TimerData.afterWarning_remainingSeconds, TimerData.afterWarning_warningMinutes]
      unfold TimerData.afterWarning at hw
      split at hw
      · rename_i hwarns
        unfold TimerData.warns at hwarns
        exact (of_decide_eq_true hwarns).1.le
      · have := h.warned hw
        rw [TimerData.count_remainingSeconds, TimerData.count_warningMinutes]
        linarith
    · rw [TimerData.afterWarning_remainingSeconds, hcount]
    · rw [TimerData.afterWarning_warningMinutes]
      exact h.threshold

/-- Every event with positive whole parameters keeps the timer of its room sound. -/
lemma next {e : Event} (he : e.Positive) (roomId : RoomId) {before : Option TimerData}
    (h : ∀ timer ∈ before, Sound timer) : ∀ timer ∈ e.next roomId before, Sound timer := by
  intro timer' htimer'
  cases e with
  | startTimer _ targetMinutes warningMinutes now =>
    obtain ⟨⟨n, -, hn⟩, hwarning⟩ := he
    obtain rfl := Option.some.inj htimer'
    refine ⟨fun hw => absurd hw (by simp), ⟨n * 60, ?_⟩, hwarning⟩
    rw [hn]
    push_cast
    rfl
  | pauseTimer _ =>
    obtain ⟨timer, hb, rfl⟩ := Option.map_eq_some_iff.mp htimer'
    exact (h timer hb).paused
  | resumeTimer _ now =>
    obtain ⟨timer, hb, rfl⟩ := Option.map_eq_some_iff.mp htimer'
    exact (h timer hb).resumed now
  | extendTimer _ minutes now =>
    obtain ⟨timer, hb, rfl⟩ := Option.map_eq_some_iff.mp htimer'
    exact (h timer hb).extended he now
  | stopTimer _ => cases htimer'
  | tick _ =>
    obtain ⟨timer, hb, rfl⟩ := Option.map_eq_some_iff.mp htimer'
    split
    · exact (h timer hb).tick
    · exact h timer hb

/-- A sound timer that counts down warns exactly one second above its threshold. -/
lemma warns_iff (h : Sound timer) (hcounting : timer.counting = true) :
    timer.count.warns = true ↔ timer.remainingSeconds = timer.warningMinutes * 60 + 1 := by
  have hrunning : timer.remainingSeconds = timer.warningMinutes * 60 + 1 →
      timer.timerState = .running := by
    intro hone
    simp only [TimerData.counting, Bool.or_eq_true, decide_eq_true_eq] at hcounting
    rcases hcounting with hrunning | hwarning
    · exact hrunning
    · have := h.warned hwarning
      linarith
  simp only [TimerData.warns, TimerData.count, decide_eq_true_eq, sub_eq_iff_eq_add]
  exact ⟨fun hw => hw.1, fun hone => ⟨hone, hrunning hone⟩⟩

/-- The second with a warning ends on the threshold. -/
lemma tick_remaining (h : Sound timer)
    (hone : timer.remainingSeconds = timer.warningMinutes * 60 + 1) :
    timer.tick.remainingSeconds = timer.tick.warningMinutes * 60 := by
  have hcount : timer.count.remainingSeconds = timer.warningMinutes * 60 := by
    rw [TimerData.count_remainingSeconds, hone]
    exact add_sub_cancel_right _ _
  have hends : timer.count.ends = false := by
    rw [TimerData.ends, hcount]
    exact decide_eq_false (not_le.mpr h.threshold_pos)
  rw [timer.tick_of_not_ends hends, TimerData.afterWarning_remainingSeconds, hcount,
    TimerData.afterWarning_warningMinutes, TimerData.count_warningMinutes]

/-- A second that ends at or below the threshold has begun at most one second above it. -/
lemma remaining_le (h : Sound timer)
    (hbelow : ¬ timer.tick.warningMinutes * 60 < timer.tick.remainingSeconds) :
    timer.remainingSeconds ≤ timer.warningMinutes * 60 + 1 := by
  have hpos := h.threshold_pos
  cases hends : timer.count.ends with
  | true =>
    have hzero : timer.remainingSeconds - 1 ≤ 0 := of_decide_eq_true hends
    linarith
  | false =>
    rw [timer.tick_of_not_ends hends, TimerData.afterWarning_remainingSeconds,
      TimerData.afterWarning_warningMinutes, TimerData.count_remainingSeconds,
      TimerData.count_warningMinutes] at hbelow
    linarith

/-- A timer above its threshold is at least one second above it. -/
lemma above_le (h : Sound timer) (habove : timer.warningMinutes * 60 < timer.remainingSeconds) :
    timer.warningMinutes * 60 + 1 ≤ timer.remainingSeconds := by
  obtain ⟨n, -, hthreshold⟩ := h.threshold_seconds
  obtain ⟨m, hm⟩ := h.remaining
  rw [hthreshold, hm] at habove ⊢
  have hlt : n < m := by exact_mod_cast habove
  have hle : n + 1 ≤ m := hlt
  exact_mod_cast hle

end Sound

/-! ## Runs -/

/-- The timers of all rooms are sound. -/
def AllSound (s : Timers) : Prop := ∀ r, ∀ timer ∈ s.timerStore.get r, Sound timer

/-- A step is an event for one room. -/
lemma step_eq {s s' : Timers} {e : Event} (h : timers.step s e = some s') :
    ∃ roomId, s.roomOf e = some roomId ∧ s' = s.handle roomId e := by
  obtain ⟨roomId, hroom, rfl⟩ := Option.map_eq_some_iff.mp h
  exact ⟨roomId, hroom, rfl⟩

/-- The timer of every room after a step. -/
lemma step_get {s : Timers} (hs : Counting s) (e : Event) (roomId r : RoomId) :
    (s.handle roomId e).timerStore.get r =
      if roomId = r then e.next roomId (s.timerStore.get r) else s.timerStore.get r := by
  split
  · rename_i hr
    subst hr
    exact handle_get s roomId e
  · rename_i hr
    exact (hs.settles roomId e).timer r hr

/-- **Sound timers.** In a run with positive whole parameters the timers of all rooms are sound. -/
lemma allSound_of_positive {es : List Event} {s : Timers} (hpos : ∀ e ∈ es, e.Positive)
    (hr : timers.exec timers.init es = some s) : AllSound s := by
  have hboth : Counting s ∧ AllSound s := by
    refine EventSystem.exec_invariant (M := timers) (I := fun s => Counting s ∧ AllSound s) ?_ ?_
      (EventSystem.allSteps_of_forall (C := Event.Positive) timers.init hpos) hr
    · intro s e s' hs he hstep
      obtain ⟨roomId, -, rfl⟩ := step_eq hstep
      refine ⟨(hs.1.settles roomId e).counting_all hs.1, fun r => ?_⟩
      rw [step_get hs.1]
      split
      · exact Sound.next he roomId (hs.2 r)
      · exact hs.2 r
    · exact ⟨counting_reachable ⟨[], rfl⟩, fun r timer htimer => absurd htimer (by simp [timers])⟩
  exact hboth.2

/-- The notices of a room after an event. -/
lemma handle_notified (s : Timers) (roomId r : RoomId) (notice : Notice) (e : Event) :
    (s.handle roomId e).notified r notice =
      (if roomId = r then (e.told (s.timerStore.get roomId)).countP fun x => x.1 = notice
        else 0) + s.notified r notice := by
  rw [Timers.notified, handle_notices, List.countP_append, List.countP_map, ← Timers.notified]
  congr 1
  split
  · rename_i hr
    simp [Function.comp_def, hr]
  · rename_i hr
    simp [Function.comp_def, hr]

/-- Whether one second gives a notice. -/
def TimerData.gives (timer : TimerData) : Notice → Bool
  | .warning => timer.count.warns
  | .ended => timer.count.ends

/-- How often one second gives a notice. -/
lemma countP_tickTold (timer : TimerData) (notice : Notice) :
    timer.tickTold.countP (fun x => x.1 = notice) = if timer.gives notice then 1 else 0 := by
  unfold TimerData.tickTold TimerData.gives
  rw [List.countP_append]
  cases notice <;> cases timer.count.ends <;> cases timer.count.warns <;> simp

/-- The tick of a live interval finds a timer that counts down. -/
lemma Counting.counting_of_live {s : Timers} (hs : Counting s) {i : ℕ} {r : RoomId}
    (hlive : s.live.get i = some r) :
    ∃ timer, s.timerStore.get r = some timer ∧ timer.counting = true := by
  have hcount := hs.counting r
  rw [(hs.registered.live_iff i r).mp hlive, Option.isSome_some] at hcount
  simpa [Timers.counting, Option.any_eq_true] using hcount.symm

/-- A tick of the interval of a room, on its timer and its notices. -/
lemma ticks_spec {s s' : Timers} (hs : Counting s) {e : Event} {r : RoomId}
    (hstep : timers.step s e = some s') (hticks : s.ticks r e = true) :
    ∃ timer, s.timerStore.get r = some timer ∧ timer.counting = true ∧
      s'.timerStore.get r = some timer.tick ∧
      ∀ notice, s'.notified r notice =
        (if timer.gives notice then 1 else 0) + s.notified r notice := by
  obtain ⟨roomId, hroom, rfl⟩ := step_eq hstep
  cases e with
  | tick interval =>
    have hlive : s.live.get interval = some r := of_decide_eq_true hticks
    have hr : roomId = r := by
      rw [Timers.roomOf, hlive] at hroom
      exact (Option.some.inj hroom).symm
    subst hr
    obtain ⟨timer, htimer, hcounting⟩ := hs.counting_of_live hlive
    refine ⟨timer, htimer, hcounting, ?_, fun notice => ?_⟩
    · rw [handle_get, htimer]
      simp [Event.next, hcounting]
    · rw [handle_notified, if_pos rfl, htimer, Event.told, if_pos hcounting, countP_tickTold]
  | _ => cases hticks

/-- Nothing else is told about a room. -/
lemma notified_of_not_ticks {s s' : Timers} {e : Event} {r : RoomId}
    (hstep : timers.step s e = some s') (hticks : s.ticks r e = false) (notice : Notice) :
    s'.notified r notice = s.notified r notice := by
  obtain ⟨roomId, hroom, rfl⟩ := step_eq hstep
  rw [handle_notified]
  split
  · rename_i hr
    subst hr
    cases e with
    | tick interval =>
      have hlive : s.live.get interval = some roomId := hroom
      simp [Timers.ticks, hlive] at hticks
    | _ => simp [Event.told]
  · exact Nat.zero_add _

/-- **Warnings exactly at the crossing.** In every run with positive whole parameters, whatever
has been paused, resumed and extended before, a step warns a room once if it is a tick that takes
its remaining time from one second above the threshold onto it, and not at all otherwise; these are
all the ticks that bring the remaining time from above the threshold to it or below.

**Proof sketch.** A timer in the state `warning` is not above its threshold: it enters that state on
the threshold, only loses seconds there, and every operation that adds time takes it out. So one
second above the threshold the timer is running. -/
theorem warned_iff_crosses {es : List Event} {s s' : Timers} {e : Event}
    (hpos : ∀ e ∈ es, e.Positive) (hr : timers.exec timers.init es = some s)
    (hstep : timers.step s e = some s') (r : RoomId) :
    s'.notified r .warning = s.notified r .warning + (if Crosses s s' e r then 1 else 0) ∧
    (Crosses s s' e r ↔ s.ticks r e = true ∧ s.above r = true ∧ s'.above r = false) := by
  have hs := counting_reachable ⟨es, hr⟩
  have hsound := allSound_of_positive hpos hr
  cases hticks : s.ticks r e with
  | false =>
    have hnot : ¬ Crosses s s' e r := fun h => absurd (hticks.symm.trans h.1) Bool.false_ne_true
    rw [if_neg hnot, notified_of_not_ticks hstep hticks]
    exact ⟨rfl, fun h => absurd h hnot, fun h => absurd h.1 Bool.false_ne_true⟩
  | true =>
    obtain ⟨timer, htimer, hcounting, hnext, hnotified⟩ := ticks_spec hs hstep hticks
    have hT := hsound r timer htimer
    have hcrosses : Crosses s s' e r ↔
        timer.remainingSeconds = timer.warningMinutes * 60 + 1 := by
      simp only [Crosses, hticks, Timers.atOffset, htimer, hnext, Option.any_some,
        decide_eq_true_eq, true_and, add_zero]
      exact ⟨fun h => h.1, fun h => ⟨h, hT.tick_remaining h⟩⟩
    constructor
    · rw [hnotified, Nat.add_comm]
      congr 1
      simp only [hcrosses, TimerData.gives, hT.warns_iff hcounting]
    · simp only [hcrosses, Timers.above, htimer, hnext, Option.any_some, decide_eq_true_eq,
        decide_eq_false_iff_not, true_and]
      constructor
      · intro hone
        exact ⟨by rw [hone]; exact lt_add_one _, by rw [hT.tick_remaining hone]; exact lt_irrefl _⟩
      · rintro ⟨habove, hbelow⟩
        exact le_antisymm (hT.remaining_le hbelow) (hT.above_le habove)

/-- A timer of two minutes that warns at one: it warns, is extended and paused while it does, and
warns once more when it comes down to the threshold again. -/
def warnedTwice : List Event :=
  .startTimer "a" 2 1 1000 :: List.replicate 60 (.tick 0) ++
    [.extendTimer "a" 1 61000, .pauseTimer "a", .resumeTimer "a" 70000] ++
    List.replicate 59 (.tick 1)

/-- The second crossing of that run is announced, once. -/
theorem warned_iff_crosses_twice :
    ∃ s s', timers.exec timers.init warnedTwice = some s ∧ timers.step s (.tick 1) = some s' ∧
      s.notified "a" .warning = 1 ∧ Crosses s s' (.tick 1) "a" ∧
      s'.notified "a" .warning = 2 := by
  have hpos : ∀ e ∈ warnedTwice, e.Positive := by
    have hone : Whole 1 := ⟨1, by decide, by norm_num⟩
    have htwo : Whole 2 := ⟨2, by decide, by norm_num⟩
    intro e he
    simp only [warnedTwice, List.mem_append, List.mem_cons, List.mem_replicate,
      List.not_mem_nil, or_false] at he
    rcases he with ((rfl | ⟨-, rfl⟩) | rfl | rfl | rfl) | ⟨-, rfl⟩
    · exact ⟨htwo, hone⟩
    · trivial
    · exact hone
    · trivial
    · trivial
    · trivial
  have hrun : (timers.exec timers.init warnedTwice).any (fun s =>
      (timers.step s (.tick 1)).any fun s' =>
        s.notified "a" .warning = 1 ∧ Crosses s s' (.tick 1) "a") = true := by decide +kernel
  obtain ⟨s, hs, hrest⟩ := (Option.any_eq_true _ _).mp hrun
  obtain ⟨s', hs', hfacts⟩ := (Option.any_eq_true _ _).mp hrest
  obtain ⟨hone, hcrosses⟩ := of_decide_eq_true hfacts
  have hcount := (warned_iff_crosses hpos hs hs' "a").1
  rw [if_pos hcrosses, hone] at hcount
  exact ⟨s, s', hs, hs', hone, hcrosses, hcount⟩

end Timer
