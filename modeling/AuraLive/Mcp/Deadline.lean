import AuraLive.Mcp.RoomTimer

set_option relaxedAutoImplicit false
set_option autoImplicit false

/-!
# The deadline of a timer

A timer keeps its deadline twice: as the seconds that remain and as `endTime`. The first is counted
down by the ticks, the second is written by the operations, and one operation updates only one of
them in some states.

## Main definitions

* `Timer.Clocked`, `Timer.clocked` — the timers with a clock: an interval ticks every 1000 ms after
  its creation, and the calls for a room fall on the ticks of its interval.
* `Timer.DeadlineAgrees` — `endTime` is the current time plus the seconds that remain.
* `Timer.ExtendsNoRunning` — no running timer is extended.

## Main results

* `Timer.next_due_iff` — which operations keep the two deadlines together.
* `Timer.endTime_agrees_iff` — they agree throughout a run exactly when no running timer is
  extended.
* `Timer.running_timer_extended` — a running timer that is extended keeps its old `endTime`.

## Design

Of an interval the clock remembers the last tick, or the creation. A call for a room happens when
the tick of that moment has been handled; between two ticks the seconds that remain are those of the
last one, so the two deadlines are compared on the ticks. Intervals of other rooms may be at any
phase.
-/

namespace Timer

open Foundations

/-! ## Timers with a clock -/

/-- The timers, the current time, and the last tick or the creation of every interval. -/
structure Clocked where
  timers : Timers
  clock : ℕ
  beat : ℕ → ℕ

/-- An event at a time. -/
structure Stamped where
  time : ℕ
  event : Event

/-- The time that an operation reads is the current one. -/
def Event.reads (time : ℕ) : Event → Bool
  | .startTimer _ _ _ now => now = time
  | .resumeTimer _ now => now = time
  | .extendTimer _ _ now => now = time
  | _ => true

/-- The period of the intervals. -/
def period : ℕ := 1000

namespace Clocked

variable (c : Clocked) (x : Stamped)

/-- No live interval has a tick that should have come before a time. -/
def inTime (time : ℕ) : Bool :=
  c.timers.live.entries.all fun interval => time ≤ c.beat interval.1 + period

/-- The interval of a room, if it has one, ticks or starts at a time. -/
def onBeat (roomId : RoomId) (time : ℕ) : Bool :=
  (c.timers.timerIntervals.get roomId).all fun interval => c.beat interval = time

/-- The event comes at its time: a tick a period after the last one, an operation on a tick of the
interval of its room. -/
def timely : Bool :=
  match x.event with
  | .tick interval => x.time = c.beat interval + period
  | e => e.reads x.time && (c.timers.roomOf e).all fun roomId => c.onBeat roomId x.time

/-- The ticks after an event: its own, and the creation of a new interval. -/
def beatsAfter (next : ℕ) (interval : ℕ) : ℕ :=
  if x.event = .tick interval ∨ c.timers.next ≤ interval ∧ interval < next then x.time
  else c.beat interval

end Clocked

/-- The timers with a clock that does not go back, as an event system. -/
def clocked : EventSystem Clocked Stamped where
  init := ⟨timers.init, 0, fun _ => 0⟩
  step c x :=
    if c.clock ≤ x.time ∧ c.inTime x.time = true ∧ c.timely x = true then
      (timers.step c.timers x.event).map fun s' => ⟨s', x.time, c.beatsAfter x s'.next⟩
    else none

/-- A timer ends when its remaining seconds are over, counted from a time. -/
def TimerData.dueFrom (timer : TimerData) (time : ℕ) : Prop :=
  timer.endTime = some (time + timer.remainingSeconds * 1000)

/-- On a tick of its interval, the timer of a room that is running or warning has the current time
plus its remaining seconds as `endTime`. -/
def DeadlineAgrees (c : Clocked) : Prop :=
  ∀ r timer interval, c.timers.timerStore.get r = some timer →
    (timer.timerState = .running ∨ timer.timerState = .warning) →
    c.timers.timerIntervals.get r = some interval → c.beat interval = c.clock →
    timer.dueFrom c.clock

/-- The operation does not extend a running timer, or by nothing. -/
def Event.KeepsDeadline (before : Option TimerData) : Event → Prop
  | .extendTimer _ minutes _ => ∀ timer ∈ before, timer.timerState = .running → minutes = 0
  | _ => True

/-- The event does not extend a running timer, or by nothing. -/
def ExtendsNoRunning (c : Clocked) (x : Stamped) : Prop :=
  ∀ r ∈ c.timers.roomOf x.event, x.event.KeepsDeadline (c.timers.timerStore.get r)

/-! ## One timer -/

/-- A timer that counts down is due from a time. -/
def DueFrom (time : ℕ) (timer : Option TimerData) : Prop :=
  ∀ t ∈ timer, t.counting = true → t.dueFrom time

/-- Resuming sets the deadline anew. -/
lemma TimerData.resumed_due (timer : TimerData) {time : ℕ}
    (h : timer.counting = true → timer.dueFrom time)
    (hcounting : (timer.resumed time).counting = true) : (timer.resumed time).dueFrom time := by
  unfold TimerData.resumed at hcounting ⊢
  split
  · rfl
  · rename_i hpaused
    rw [if_neg hpaused] at hcounting
    exact h hcounting

/-- Extending sets the deadline anew, but not of a running timer. -/
lemma TimerData.extended_due_iff (timer : TimerData) {time : ℕ} (minutes : ℚ)
    (h : timer.counting = true → timer.dueFrom time) :
    ((timer.extended minutes time).counting = true → (timer.extended minutes time).dueFrom time) ↔
      (timer.timerState = .running → minutes = 0) := by
  unfold TimerData.extended
  split
  · rename_i hstate
    refine ⟨fun _ hrunning => ?_, fun _ _ => rfl⟩
    rcases hstate with hstate | hstate
    · rw [hrunning] at hstate
      cases hstate
    · rw [hrunning] at hstate
      cases hstate
  · rename_i hstate
    have hcounting : timer.counting = true ↔ timer.timerState = .running := by
      simp only [TimerData.counting, Bool.or_eq_true, decide_eq_true_eq]
      exact or_iff_left fun hwarning => hstate (.inr hwarning)
    show (timer.counting = true → _) ↔ _
    rw [hcounting]
    refine imp_congr_right fun hrunning => ?_
    have hdue : timer.endTime = some (time + timer.remainingSeconds * 1000) :=
      h (hcounting.mpr hrunning)
    simp only [TimerData.dueFrom, hdue, Option.some.injEq]
    constructor
    · intro heq
      linarith
    · rintro rfl
      linarith

/-- **The operations and the deadline.** An operation at a time leaves the timer of its room due
from then exactly when it does not extend a running timer. -/
lemma next_due_iff (roomId : RoomId) {e : Event} {time : ℕ} {before : Option TimerData}
    (htick : ∀ interval, e ≠ .tick interval) (hreads : e.reads time = true)
    (h : DueFrom time before) :
    DueFrom time (e.next roomId before) ↔ e.KeepsDeadline before := by
  cases e with
  | startTimer _ targetMinutes warningMinutes now =>
    obtain rfl : now = time := of_decide_eq_true hreads
    refine ⟨fun _ => trivial, fun _ t ht _ => ?_⟩
    obtain rfl := Option.some.inj ht
    rfl
  | pauseTimer _ =>
    refine ⟨fun _ => trivial, fun _ t ht hcounting => ?_⟩
    obtain ⟨timer, -, rfl⟩ := Option.map_eq_some_iff.mp ht
    simp [TimerData.counting] at hcounting
  | resumeTimer _ now =>
    obtain rfl : now = time := of_decide_eq_true hreads
    refine ⟨fun _ => trivial, fun _ t ht hcounting => ?_⟩
    obtain ⟨timer, htimer, rfl⟩ := Option.map_eq_some_iff.mp ht
    exact timer.resumed_due (h timer htimer) hcounting
  | extendTimer _ minutes now =>
    obtain rfl : now = time := of_decide_eq_true hreads
    cases before with
    | none => simp [DueFrom, Event.next, Event.KeepsDeadline]
    | some timer =>
      simpa [DueFrom, Event.next, Event.KeepsDeadline] using
        timer.extended_due_iff minutes (h timer rfl)
  | stopTimer _ => exact ⟨fun _ => trivial, fun _ t ht => absurd ht (by simp [Event.next])⟩
  | tick interval => exact absurd rfl (htick interval)

/-- A second brings a timer a second closer to its end. -/
lemma TimerData.tick_due (timer : TimerData) {time : ℕ} (h : timer.dueFrom time)
    (hcounting : timer.tick.counting = true) : timer.tick.dueFrom (time + period) := by
  cases hends : timer.count.ends with
  | true => simp [TimerData.counting, (timer.tick_of_ends hends).2] at hcounting
  | false =>
    rw [timer.tick_of_not_ends hends, TimerData.dueFrom, TimerData.afterWarning_endTime,
      TimerData.afterWarning_remainingSeconds, TimerData.count_endTime,
      TimerData.count_remainingSeconds]
    rw [TimerData.dueFrom] at h
    rw [h, Option.some.injEq, period]
    push_cast
    linarith

/-! ## The intervals -/

/-- The end check leaves a room its interval, or none. -/
lemma finish_interval {s : Timers} {roomId : RoomId} {timer : TimerData} {interval : ℕ}
    (h : (s.finish roomId timer).timerIntervals.get roomId = some interval) :
    s.timerIntervals.get roomId = some interval := by
  unfold Timers.finish at h
  split at h
  · exact absurd h (by simp [Timers.store, Timers.notify])
  · exact h

/-- An operation leaves a room the interval it had, or gives it a new one.

**Proof sketch.** One case for each operation. Those that set an interval take the next number;
those that stop it leave the room without one, and the others do nothing to it. -/
lemma handle_interval (s : Timers) (roomId : RoomId) (e : Event) {interval : ℕ}
    (h : (s.handle roomId e).timerIntervals.get roomId = some interval) :
    s.timerIntervals.get roomId = some interval ∨ s.next ≤ interval := by
  have hnew : ∀ t : Timers, t.next = s.next →
      (t.setInterval roomId).timerIntervals.get roomId = some interval → s.next ≤ interval := by
    intro t ht hset
    simp only [Timers.setInterval, JsMap.get_set, if_true, Option.some.injEq] at hset
    omega
  have hstop : (s.stopTimerInterval roomId).timerIntervals.get roomId ≠ some interval := by
    simp
  cases e with
  | startTimer _ targetMinutes warningMinutes now =>
    exact .inr (hnew _ (stopTimerInterval_next s roomId) h)
  | pauseTimer _ =>
    simp only [Timers.handle, Timers.pauseTimer] at h
    split at h
    · exact .inl h
    · exact absurd h hstop
  | resumeTimer _ now =>
    simp only [Timers.handle, Timers.resumeTimer] at h
    split at h
    · exact .inl h
    · split at h
      · exact .inl h
      · exact .inr (hnew _ rfl h)
  | extendTimer _ minutes now =>
    simp only [Timers.handle, Timers.extendTimer] at h
    split at h
    · exact .inl h
    · split at h
      · split at h
        · exact .inl h
        · exact .inr (hnew _ rfl h)
      · exact .inl h
  | stopTimer _ => exact absurd h hstop
  | tick _ =>
    simp only [Timers.handle, Timers.tick] at h
    split at h
    · exact absurd h hstop
    · split at h
      · exact absurd h hstop
      · rw [warn_eq] at h
        have hsame := finish_interval h
        exact .inl hsame

/-- The registry is right, and every timer that counts down is due from the last tick of its
interval. -/
structure OnSchedule (c : Clocked) : Prop where
  counting : Counting c.timers
  due : ∀ r interval, c.timers.timerIntervals.get r = some interval →
    DueFrom (c.beat interval) (c.timers.timerStore.get r)

/-- A step with a clock is a step, at its time. -/
lemma clocked_step {c c' : Clocked} {x : Stamped} (h : clocked.step c x = some c') :
    c.timely x = true ∧ ∃ roomId, c.timers.roomOf x.event = some roomId ∧
      c' = ⟨c.timers.handle roomId x.event, x.time,
        c.beatsAfter x (c.timers.handle roomId x.event).next⟩ := by
  simp only [clocked, Option.ite_none_right_eq_some] at h
  obtain ⟨⟨-, -, htimely⟩, hstep⟩ := h
  obtain ⟨s', hs', rfl⟩ := Option.map_eq_some_iff.mp hstep
  obtain ⟨roomId, hroom, rfl⟩ := step_eq hs'
  exact ⟨htimely, roomId, hroom, rfl⟩

/-- A room without an interval is due from any time. -/
lemma Counting.dueFrom_of_none {s : Timers} (hs : Counting s) {r : RoomId} (time : ℕ)
    (h : s.timerIntervals.get r = none) : DueFrom time (s.timerStore.get r) := by
  intro timer htimer hcounting
  have hcount := hs.counting r
  rw [Option.mem_def] at htimer
  rw [h, Timers.counting, htimer, Option.any_some, hcounting] at hcount
  cases hcount

/-- The deadlines agree in a room that is due from the current time on its ticks. -/
lemma OnSchedule.agrees {c : Clocked} (hc : OnSchedule c) : DeadlineAgrees c := by
  intro r timer interval htimer hstate hinterval hbeat
  rw [← hbeat]
  exact hc.due r interval hinterval timer htimer (by simpa [TimerData.counting] using hstate)

section Operation

variable {c c' : Clocked} {x : Stamped} {roomId : RoomId}

/-- Before an operation its room is due from the time of the operation. -/
lemma OnSchedule.due_of_onBeat (hc : OnSchedule c) (hbeat : c.onBeat roomId x.time = true) :
    DueFrom x.time (c.timers.timerStore.get roomId) := by
  cases hinterval : c.timers.timerIntervals.get roomId with
  | none => exact hc.counting.dueFrom_of_none x.time hinterval
  | some interval =>
    have htime : c.beat interval = x.time := by
      rw [Clocked.onBeat, hinterval] at hbeat
      exact of_decide_eq_true hbeat
    rw [← htime]
    exact hc.due roomId interval hinterval

/-- After an operation the interval of its room starts or ticks at that time. -/
lemma OnSchedule.beatsAfter_of_onBeat (hc : OnSchedule c)
    (hbeat : c.onBeat roomId x.time = true) {interval : ℕ}
    (hinterval : (c.timers.handle roomId x.event).timerIntervals.get roomId = some interval) :
    c.beatsAfter x (c.timers.handle roomId x.event).next interval = x.time := by
  unfold Clocked.beatsAfter
  split
  · rfl
  · rename_i hold
    have hafter := (hc.counting.settles roomId x.event).registered
    have hlt := hafter.fresh interval roomId ((hafter.live_iff interval roomId).mpr hinterval)
    rcases handle_interval c.timers roomId x.event hinterval with hsame | hnew
    · rw [Clocked.onBeat, hsame] at hbeat
      exact of_decide_eq_true hbeat
    · exact absurd (.inr ⟨hnew, hlt⟩) hold

/-- An event does not move the ticks of the intervals of other rooms. -/
lemma OnSchedule.beatsAfter_of_ne (hc : OnSchedule c)
    (hroom : c.timers.roomOf x.event = some roomId)
    {r : RoomId} (hr : roomId ≠ r) {interval : ℕ}
    (hinterval : c.timers.timerIntervals.get r = some interval) (next : ℕ) :
    c.beatsAfter x next interval = c.beat interval := by
  unfold Clocked.beatsAfter
  have hlive := (hc.counting.registered.live_iff interval r).mpr hinterval
  split
  · rename_i hnew
    rcases hnew with htick | ⟨hle, -⟩
    · rw [htick, Timers.roomOf, hlive] at hroom
      exact absurd (Option.some.inj hroom).symm hr
    · have := hc.counting.registered.fresh interval r hlive
      omega
  · rfl

/-- An event keeps the schedule if its own room stays on it. -/
lemma OnSchedule.of_room (hc : OnSchedule c) (hroom : c.timers.roomOf x.event = some roomId)
    (hdue : ∀ interval,
      (c.timers.handle roomId x.event).timerIntervals.get roomId = some interval →
      DueFrom (c.beatsAfter x (c.timers.handle roomId x.event).next interval)
        (x.event.next roomId (c.timers.timerStore.get roomId))) :
    OnSchedule ⟨c.timers.handle roomId x.event, x.time,
      c.beatsAfter x (c.timers.handle roomId x.event).next⟩ := by
  have hsettles := hc.counting.settles roomId x.event
  refine ⟨hsettles.counting_all hc.counting, fun r interval hinterval => ?_⟩
  dsimp only at hinterval ⊢
  rw [step_get hc.counting]
  split
  · rename_i hr
    subst hr
    exact hdue interval hinterval
  · rename_i hr
    rw [hsettles.interval r hr] at hinterval
    rw [hc.beatsAfter_of_ne hroom hr hinterval]
    exact hc.due r interval hinterval

end Operation

/-- A tick keeps the schedule. -/
lemma OnSchedule.tick {c : Clocked} (hc : OnSchedule c) {time interval : ℕ} {roomId : RoomId}
    (hroom : c.timers.live.get interval = some roomId) (htime : time = c.beat interval + period) :
    OnSchedule ⟨c.timers.handle roomId (.tick interval), time,
      c.beatsAfter ⟨time, .tick interval⟩ (c.timers.handle roomId (.tick interval)).next⟩ := by
  refine hc.of_room (x := ⟨time, .tick interval⟩) hroom fun i hi => ?_
  obtain ⟨timer, htimer, hcounting⟩ := hc.counting.counting_of_live hroom
  have hown := (hc.counting.registered.live_iff interval roomId).mp hroom
  rw [htimer]
  intro t ht hcounts
  have htick : t = timer.tick := by
    simpa [Event.next, hcounting] using ht.symm
  subst htick
  have hbeat : c.beatsAfter ⟨time, .tick interval⟩
      (c.timers.handle roomId (.tick interval)).next i = c.beat interval + period := by
    unfold Clocked.beatsAfter
    rcases handle_interval c.timers roomId (.tick interval) hi with hsame | hnew
    · obtain rfl := Option.some.inj (hown.symm.trans hsame)
      rw [if_pos (.inl rfl)]
      exact htime
    · have hafter := (hc.counting.settles roomId (.tick interval)).registered
      have hlt := hafter.fresh i roomId ((hafter.live_iff i roomId).mpr hi)
      rw [if_pos (.inr ⟨hnew, hlt⟩)]
      exact htime
  rw [hbeat]
  exact timer.tick_due (hc.due roomId interval hown timer htimer hcounting) hcounts

/-- The time of an operation: it is the one it reads, and its room has a tick then. -/
lemma timely_operation {c : Clocked} {x : Stamped} {roomId : RoomId}
    (htick : ∀ interval, x.event ≠ .tick interval) (htimely : c.timely x = true)
    (hroom : c.timers.roomOf x.event = some roomId) :
    x.event.reads x.time = true ∧ c.onBeat roomId x.time = true := by
  obtain ⟨time, e⟩ := x
  cases e with
  | tick interval => exact absurd rfl (htick interval)
  | _ =>
    simp only [Clocked.timely, Bool.and_eq_true] at htimely
    rw [hroom, Option.all_some] at htimely
    exact htimely

/-- An operation on a tick of its room keeps the schedule if it does not extend a running timer, and
leaves deadlines that do not agree if it does. -/
lemma OnSchedule.operation {c c' : Clocked} {x : Stamped} (hc : OnSchedule c)
    (htick : ∀ interval, x.event ≠ .tick interval) (h : clocked.step c x = some c') :
    (ExtendsNoRunning c x → OnSchedule c') ∧ (¬ ExtendsNoRunning c x → ¬ DeadlineAgrees c') := by
  obtain ⟨htimely, roomId, hroom, rfl⟩ := clocked_step h
  obtain ⟨hreads, hbeat⟩ := timely_operation htick htimely hroom
  have hextends : ExtendsNoRunning c x ↔
      DueFrom x.time (x.event.next roomId (c.timers.timerStore.get roomId)) := by
    rw [next_due_iff roomId htick hreads (hc.due_of_onBeat hbeat)]
    simp [ExtendsNoRunning, hroom]
  have hbeats : ∀ interval,
      (c.timers.handle roomId x.event).timerIntervals.get roomId = some interval →
        c.beatsAfter x (c.timers.handle roomId x.event).next interval = x.time :=
    fun interval hinterval => hc.beatsAfter_of_onBeat hbeat hinterval
  rw [hextends]
  constructor
  · intro hdue
    refine hc.of_room hroom fun interval hinterval => ?_
    rw [hbeats interval hinterval]
    exact hdue
  · intro hlate hagrees
    refine hlate fun timer htimer hcounting => ?_
    have hsettles := hc.counting.settles roomId x.event
    have hget : (c.timers.handle roomId x.event).timerStore.get roomId = some timer := by
      rw [handle_get]
      exact htimer
    have hsome := hsettles.counting
    rw [Timers.counting, hget, Option.any_some, hcounting] at hsome
    obtain ⟨interval, hinterval⟩ := Option.isSome_iff_exists.mp hsome
    exact hagrees roomId timer interval hget (by simpa [TimerData.counting] using hcounting)
      hinterval (hbeats interval hinterval)

/-- **The two deadlines.** In every run in which the ticks come every 1000 ms after the creation of
their interval and the calls fall on the ticks of their room, `endTime` is the current time plus the
remaining seconds in every state in which a timer is running or warning, exactly when no running
timer is extended.

**Proof sketch.** The strong form, that every timer that counts down is due from the last tick of
its interval, is kept by the ticks, and by every operation that does not extend a running timer;
such an extension adds to the remaining seconds only. -/
theorem endTime_agrees_iff {xs : List Stamped} {c : Clocked}
    (hr : clocked.exec clocked.init xs = some c) :
    clocked.AllStates DeadlineAgrees clocked.init xs ↔
      clocked.AllSteps ExtendsNoRunning clocked.init xs := by
  have hstep : ∀ c x c', OnSchedule c → clocked.step c x = some c' →
      (ExtendsNoRunning c x → OnSchedule c') ∧
        (¬ ExtendsNoRunning c x → ¬ DeadlineAgrees c') := by
    intro c x c' hc h
    obtain ⟨time, e⟩ := x
    cases e with
    | tick interval =>
      obtain ⟨htimely, roomId, hroom, rfl⟩ := clocked_step h
      have hkeeps : ExtendsNoRunning c ⟨time, .tick interval⟩ := fun _ _ => trivial
      exact ⟨fun _ => hc.tick hroom (of_decide_eq_true htimely), fun hnot => absurd hkeeps hnot⟩
    | _ => exact hc.operation (fun interval he => by cases he) h
  refine EventSystem.allStates_iff_allSteps (I := OnSchedule) (fun c hc => hc.agrees)
    (fun c x c' hc hC h => (hstep c x c' hc h).1 hC)
    (fun c x c' hc hC h => (hstep c x c' hc h).2 hC) ?_ hr
  refine ⟨counting_reachable ⟨[], rfl⟩, fun r interval hinterval => ?_⟩
  simp [clocked, timers] at hinterval

instance decidableKeepsDeadline (e : Event) (before : Option TimerData) :
    Decidable (e.KeepsDeadline before) := by
  cases e with
  | extendTimer _ minutes _ =>
    exact inferInstanceAs
      (Decidable (∀ timer ∈ before, timer.timerState = .running → minutes = 0))
  | startTimer _ _ _ _ => exact inferInstanceAs (Decidable True)
  | pauseTimer _ => exact inferInstanceAs (Decidable True)
  | resumeTimer _ _ => exact inferInstanceAs (Decidable True)
  | stopTimer _ => exact inferInstanceAs (Decidable True)
  | tick _ => exact inferInstanceAs (Decidable True)

instance decidableExtendsNoRunning (c : Clocked) (x : Stamped) :
    Decidable (ExtendsNoRunning c x) :=
  inferInstanceAs (Decidable (∀ r ∈ c.timers.roomOf x.event,
    x.event.KeepsDeadline (c.timers.timerStore.get r)))

/-- A timer that is extended while it warns and while it is paused. -/
def extendedInTime : List Stamped :=
  ⟨0, .startTimer "a" 2 1 0⟩ ::
    (List.range 60).map (fun k => ⟨(k + 1) * 1000, .tick 0⟩) ++
    [⟨60000, .extendTimer "a" 1 60000⟩, ⟨61000, .tick 0⟩, ⟨61000, .pauseTimer "a"⟩,
      ⟨61500, .extendTimer "a" 5 61500⟩, ⟨65000, .resumeTimer "a" 65000⟩, ⟨66000, .tick 1⟩]

/-- The deadlines agree throughout that run. -/
theorem endTime_agrees_iff_extended :
    ∃ c, clocked.exec clocked.init extendedInTime = some c ∧
      (c.timers.timerStore.get "a").bind (·.endTime) = some 484000 ∧
      clocked.AllStates DeadlineAgrees clocked.init extendedInTime := by
  obtain ⟨c, hc, hend⟩ := Option.map_eq_some_iff.mp (show
    (clocked.exec clocked.init extendedInTime).map
      (fun c => (c.timers.timerStore.get "a").bind (·.endTime)) = some (some 484000) by
        decide +kernel)
  exact ⟨c, hc, hend, (endTime_agrees_iff hc).mpr (by decide +kernel)⟩

/-- A running timer is extended by a minute. -/
def extendedRunning : List Stamped :=
  [⟨0, .startTimer "a" 2 1 0⟩, ⟨1000, .tick 0⟩, ⟨1000, .extendTimer "a" 1 1000⟩]

/-- **A running timer is extended.** It has 179 seconds left at the time 1000, and its `endTime` is
still 120000. -/
theorem running_timer_extended :
    (clocked.exec clocked.init extendedRunning).isSome = true ∧
    ¬ clocked.AllStates DeadlineAgrees clocked.init extendedRunning := by
  refine ⟨by decide +kernel, fun h => ?_⟩
  obtain ⟨c, hc, hfacts⟩ := (Option.any_eq_true _ _).mp (show
    (clocked.exec clocked.init extendedRunning).any (fun c =>
      (c.timers.timerStore.get "a").any fun timer =>
        timer.timerState = .running ∧ timer.remainingSeconds = 179 ∧ timer.endTime = some 120000 ∧
          c.timers.timerIntervals.get "a" = some 0 ∧ c.beat 0 = 1000 ∧ c.clock = 1000) = true by
            decide +kernel)
  obtain ⟨timer, htimer, hfacts⟩ := (Option.any_eq_true _ _).mp hfacts
  obtain ⟨hstate, hremaining, hend, hinterval, hbeat, hclock⟩ := of_decide_eq_true hfacts
  have hdue := h.last hc "a" timer 0 htimer (.inl hstate) hinterval (by rw [hbeat, hclock])
  rw [TimerData.dueFrom, hend, hremaining, hclock, Option.some.injEq] at hdue
  norm_num at hdue

end Timer
