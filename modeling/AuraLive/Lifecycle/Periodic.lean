import AuraLive.Foundations.Extension
import AuraLive.Lifecycle.Moves
import Mathlib.Data.List.Nodup
import Mathlib.Order.Nat

set_option relaxedAutoImplicit false
set_option autoImplicit false

/-!
# Periodic tasks

`startBot` starts an interval for the armed-timeout check, the silent-participant check and the
speaking statistics; `addScreenContext` starts one for the proactive analysis. The checkers look the
context up by the room id and stop themselves when there is none, so they go on with the context of
a later session. The analysis holds its own context and is stopped by `clearScreenContext` only;
`enterStandbyMode` clears its timer and leaves it enabled.

## Main definitions

* `Lifecycle.Task`, `Lifecycle.Interval` — the periodic tasks and their scheduled intervals.
* `Lifecycle.Periodic` — the intervals of the room and the fields of the contexts that hold them.
* `Lifecycle.periodic` — the sessions of a room with their periodic tasks.
* `Lifecycle.NoOrphans` — one instance of every task acts on the registered context, none is left
  for a removed context after a period, and an enabled analysis has its timer.
* `Lifecycle.StopsFirst` — what a step must find for that to stay so.

## Main results

* `Lifecycle.Scheduled.step` — the invariant behind it.
* `Lifecycle.no_orphans` — a run whose steps stop the periodic tasks first has no orphans.
* `Lifecycle.periodic_orphans` — a quick restart, a lost connection and a standby leave orphans.

## Design

`setInterval` calls its function on time: nothing happens later than a tick that is due. The tasks
themselves do not touch the intervals. The single run of the analysis 3 s after its start and the
topic-summary interval are not among the periodic tasks here.
-/

namespace Lifecycle

open Foundations EventSystem

/-- A periodic task. -/
inductive Task where
  | armedTimeout
  | silentParticipant
  | speakingStats
  | proactiveAnalysis
  deriving DecidableEq, Repr

/-- The period of a task, in milliseconds. -/
def Task.period : Task → ℕ
  | .armedTimeout => 5000
  | .silentParticipant => 15000
  | .speakingStats => 10000
  | .proactiveAnalysis => 8000

/-- A scheduled interval. -/
structure Interval where
  id : ℕ
  task : Task
  /-- The session that has started it; the analysis holds the context of this session. -/
  session : ℕ
  /-- The next tick. -/
  due : ℕ
  deriving DecidableEq, Repr

/-- The intervals of the room and the fields of the contexts that hold them. -/
structure Periodic where
  clock : ℕ
  intervals : List Interval
  /-- The next handle of `setInterval`. -/
  next : ℕ
  /-- `proactiveAnalysis.enabled`. -/
  enabled : ℕ → Bool
  /-- `proactiveAnalysis.analysisTimer`. -/
  analysisTimer : ℕ → Option ℕ
  statsUpdateInterval : ℕ → Option ℕ
  /-- The interval that the silent-participant check clears when its `Room` is disconnected. -/
  silentInterval : ℕ → Option ℕ
  standbyMode : ℕ → Bool
  /-- When the context of a session was removed or replaced. -/
  removedAt : ℕ → Option ℕ

/-- What can happen to the periodic tasks. -/
inductive PeriodicAct where
  | addScreenContext
  | clearScreenContext
  | enterStandbyMode
  /-- An interval ticks. -/
  | tick (interval : Interval)
  deriving DecidableEq, Repr

/-- Something happens to the periodic tasks at a time. -/
structure PeriodicEvent where
  now : ℕ
  act : PeriodicAct
  deriving DecidableEq, Repr

namespace Periodic

variable (x : Periodic)

/-- `setInterval` for a task of a session. -/
def setInterval (task : Task) (n : ℕ) : Periodic :=
  { x with
    intervals := x.intervals ++ [⟨x.next, task, n, x.clock + task.period⟩]
    next := x.next + 1 }

/-- `clearInterval`, if the handle is set. -/
def clearInterval (handle : Option ℕ) : Periodic :=
  { x with intervals := x.intervals.filter fun i => handle ≠ some i.id }

/-- `startArmedTimeoutChecker`, `startSilentParticipantChecker` and `startSpeakingStatsChecker`. -/
def startCheckers (n : ℕ) : Periodic :=
  let x := x.setInterval .armedTimeout n
  let x := { x.setInterval .silentParticipant n with
    silentInterval := Function.update x.silentInterval n (some x.next) }
  { x.setInterval .speakingStats n with
    statsUpdateInterval := Function.update x.statsUpdateInterval n (some x.next) }

/-- `startProactiveAnalysis`. -/
def startProactiveAnalysis (c : ℕ) : Periodic :=
  if x.enabled c then x
  else
    { x.setInterval .proactiveAnalysis c with
      enabled := Function.update x.enabled c true
      analysisTimer := Function.update x.analysisTimer c (some x.next) }

/-- `stopProactiveAnalysis`. -/
def stopProactiveAnalysis (c : ℕ) : Periodic :=
  if x.enabled c then
    { x.clearInterval (x.analysisTimer c) with
      enabled := Function.update x.enabled c false
      analysisTimer := Function.update x.analysisTimer c none }
  else x

/-- `enterStandbyMode` for a context. -/
def enterStandbyMode (c : ℕ) : Periodic :=
  if x.standbyMode c then x
  else
    { (x.clearInterval (x.statsUpdateInterval c)).clearInterval (x.analysisTimer c) with
      standbyMode := Function.update x.standbyMode c true
      statsUpdateInterval := Function.update x.statsUpdateInterval c none
      analysisTimer := Function.update x.analysisTimer c none }

/-- A tick: a checker that finds no context clears itself, the other intervals go on. -/
def tick (context : Option ℕ) (i : Interval) : Periodic :=
  if i.task ≠ .proactiveAnalysis ∧ context = none then
    { x with intervals := x.intervals.erase i }
  else
    { x with intervals := x.intervals.erase i ++ [{ i with due := i.due + i.task.period }] }

/-- Nothing happens later than a tick that is due. -/
def Timely (now : ℕ) : Prop := x.clock ≤ now ∧ ∀ i ∈ x.intervals, now ≤ i.due

instance (now : ℕ) : Decidable (x.Timely now) := by
  delta Timely
  infer_instance

/-- The context of a session is removed or replaced. -/
def remove (s s' : Server) : Periodic :=
  match s.active with
  | none => x
  | some c =>
    if s'.active = some c then x
    else { x with removedAt := Function.update x.removedAt c (some x.clock) }

/-- What an act of the sessions does to the intervals: a registration starts the checkers, and the
silent-participant check of a session is cleared by its `Disconnected` event. -/
def react : Act → Periodic
  | .published n true => x.startCheckers n
  | .disconnected n => x.clearInterval (x.silentInterval n)
  | _ => x

/-- A step of the sessions. -/
def follow (s : Server) (e : Event) (s' : Server) : Option Periodic :=
  if x.Timely e.now then some ((({ x with clock := e.now }).remove s s').react e.act) else none

/-- A call of one of the functions, for the registered context if there is one. -/
def call (context : Option ℕ) (f : Periodic → ℕ → Periodic) : Periodic :=
  match context with
  | none => x
  | some c => f x c

/-- The tasks after an event, if it can happen. -/
def handle (s : Server) (e : PeriodicEvent) : Option Periodic :=
  if x.Timely e.now then
    let x := { x with clock := e.now }
    match e.act with
    | .addScreenContext => some (x.call s.active startProactiveAnalysis)
    | .clearScreenContext => some (x.call s.active stopProactiveAnalysis)
    | .enterStandbyMode => some (x.call s.active enterStandbyMode)
    | .tick i => if i ∈ x.intervals ∧ i.due ≤ x.clock then some (x.tick s.active i) else none
  else none

end Periodic

/-- The sessions of a room with their periodic tasks. -/
def periodic : EventSystem (Server × Periodic) (Event ⊕ PeriodicEvent) :=
  lifecycle.extendWith (fun s e s' x => x.follow s e s') (fun s x e => x.handle s e)
    ⟨0, [], 0, fun _ => false, fun _ => none, fun _ => none, fun _ => none, fun _ => false,
      fun _ => none⟩

/-- The interval acts on the context of session `c` when that is registered. -/
def Interval.actsOn (i : Interval) (c : ℕ) : Bool :=
  i.task ≠ .proactiveAnalysis || i.session = c

/-- There is no orphaned periodic work. -/
structure NoOrphans (p : Server × Periodic) : Prop where
  /-- At most one instance of every task acts on the registered context. -/
  single : ∀ c ∈ p.1.active, ((p.2.intervals.filter (·.actsOn c)).map (·.task)).Nodup
  /-- No task is left for a context that was removed more than a period ago. -/
  ended : ∀ i ∈ p.2.intervals, ∀ r ∈ p.2.removedAt i.session, p.2.clock ≤ r + i.task.period
  /-- While the analysis of a context is enabled, its timer is set. -/
  timer : ∀ n < p.1.count, p.2.enabled n = true → (p.2.analysisTimer n).isSome

instance : DecidablePred NoOrphans := fun p =>
  decidable_of_iff
    ((∀ c ∈ p.1.active, ((p.2.intervals.filter (·.actsOn c)).map (·.task)).Nodup) ∧
      (∀ i ∈ p.2.intervals, ∀ r ∈ p.2.removedAt i.session, p.2.clock ≤ r + i.task.period) ∧
      ∀ n < p.1.count, p.2.enabled n = true → (p.2.analysisTimer n).isSome)
    ⟨fun h => ⟨h.1, h.2.1, h.2.2⟩, fun h => ⟨h.single, h.ended, h.timer⟩⟩

/-- What a step must find. A session is registered when no context is and no checker is scheduled.
The context is removed when the timer of its analysis is not set. A context goes into standby when
its analysis is not enabled. -/
def StopsFirst (p : Server × Periodic) : Event ⊕ PeriodicEvent → Prop
  | .inl ⟨_, .published _ true⟩ =>
    p.1.active = none ∧ ∀ i ∈ p.2.intervals, i.task = .proactiveAnalysis
  | .inl ⟨_, .disconnected _⟩ => ∀ c ∈ p.1.active, p.2.analysisTimer c = none
  | .inl ⟨_, .resume (.roomDisconnect _ _) true⟩ => ∀ c ∈ p.1.active, p.2.analysisTimer c = none
  | .inr ⟨_, .enterStandbyMode⟩ =>
    ∀ c ∈ p.1.active, p.2.standbyMode c = false → p.2.enabled c = false
  | _ => True

instance (p : Server × Periodic) (e : Event ⊕ PeriodicEvent) : Decidable (StopsFirst p e) := by
  delta StopsFirst
  split <;> infer_instance

/-! ## The invariant -/

/-- What a run that stops its tasks first keeps. -/
structure Scheduled (s : Server) (x : Periodic) : Prop where
  /-- No tick is overdue. -/
  due : ∀ i ∈ x.intervals, x.clock ≤ i.due
  /-- While a context is registered, all intervals are its own. -/
  own : ∀ c, s.active = some c → x.removedAt c = none ∧
    ∀ i ∈ x.intervals, i.session = c ∧ i.due ≤ x.clock + i.task.period
  /-- While none is, the intervals are checkers that find this out within a period. -/
  left : s.active = none → ∀ i ∈ x.intervals, i.task ≠ .proactiveAnalysis ∧
    ∃ r ∈ x.removedAt i.session, i.due ≤ r + i.task.period
  /-- No task has two intervals. -/
  tasks : (x.intervals.map (·.task)).Nodup
  /-- The interval of an analysis is the timer of an enabled context. -/
  analysis : ∀ i ∈ x.intervals, i.task = .proactiveAnalysis →
    x.enabled i.session = true ∧ x.analysisTimer i.session = some i.id
  /-- An enabled analysis has its timer. -/
  timer : ∀ n, x.enabled n = true → (x.analysisTimer n).isSome
  /-- Only the context of a session that has been registered is removed. -/
  removed : ∀ n, x.removedAt n ≠ none → n < s.count ∧ (s.stage n).2 = .finished

namespace Scheduled

variable {s s' : Server} {x : Periodic}

/-- **The invariant has no orphans.** -/
lemma noOrphans (h : Scheduled s x) : NoOrphans (s, x) := by
  refine ⟨fun c _ => ?_, fun i hi r hr => ?_, fun n _ => h.timer n⟩
  · exact h.tasks.sublist (List.filter_sublist.map _)
  · cases hact : s.active with
    | none =>
      obtain ⟨-, r', hr', hdue⟩ := h.left hact i hi
      obtain rfl : r = r' := Option.some.inj (hr.symm.trans hr')
      exact (h.due i hi).trans hdue
    | some c =>
      obtain ⟨hnone, hown⟩ := h.own c hact
      rw [(hown i hi).1, hnone] at hr
      simp at hr

/-- Fewer intervals. -/
lemma sub (h : Scheduled s x) {intervals : List Interval} (hsub : intervals.Sublist x.intervals) :
    Scheduled s { x with intervals := intervals } where
  due i hi := h.due i (hsub.subset hi)
  own c hc := ⟨(h.own c hc).1, fun i hi => (h.own c hc).2 i (hsub.subset hi)⟩
  left hc i hi := h.left hc i (hsub.subset hi)
  tasks := h.tasks.sublist (hsub.map _)
  analysis i hi := h.analysis i (hsub.subset hi)
  timer := h.timer
  removed := h.removed

/-- Time passes, up to the next tick. -/
lemma wait (h : Scheduled s x) {now : ℕ} (ht : x.Timely now) :
    Scheduled s { x with clock := now } where
  due := ht.2
  own c hc := by
    refine ⟨(h.own c hc).1, fun i hi => ?_⟩
    obtain ⟨hs, hd⟩ := (h.own c hc).2 i hi
    exact ⟨hs, hd.trans (Nat.add_le_add_right ht.1 _)⟩
  left := h.left
  tasks := h.tasks
  analysis := h.analysis
  timer := h.timer
  removed := h.removed

/-- The sessions change, and not the registered context. -/
lemma keep (h : Scheduled s x) (hact : s'.active = s.active)
    (hf : ∀ n, n < s.count → (s.stage n).2 = .finished →
      n < s'.count ∧ (s'.stage n).2 = .finished) : Scheduled s' x where
  due := h.due
  own := hact ▸ h.own
  left := hact ▸ h.left
  tasks := h.tasks
  analysis := h.analysis
  timer := h.timer
  removed n hn := hf n (h.removed n hn).1 (h.removed n hn).2

/-- **The registered context is removed**, its analysis having been stopped. -/
lemma drop (h : Scheduled s x) (hact : s'.active = none) (hs : Sound s)
    (hf : ∀ n, n < s.count → (s.stage n).2 = .finished →
      n < s'.count ∧ (s'.stage n).2 = .finished)
    (hC : ∀ c ∈ s.active, x.analysisTimer c = none) : Scheduled s' (x.remove s s') := by
  unfold Periodic.remove
  cases hc : s.active with
  | none => exact h.keep (hact.trans hc.symm) hf
  | some c =>
    obtain ⟨hnone, hown⟩ := h.own c hc
    simp only [hact, reduceCtorEq, if_false]
    refine ⟨h.due, by simp [hact], fun _ i hi => ?_, h.tasks, h.analysis, h.timer, fun n hn => ?_⟩
    · obtain ⟨hi', hdue⟩ := hown i hi
      refine ⟨fun htask => ?_, x.clock, ?_, hdue⟩
      · have := (h.analysis i hi htask).2
        simp [hi', hC c hc] at this
      · simp [hi']
    · by_cases hnc : n = c
      · subst hnc
        exact hf n (hs.active n hc).1 (hs.active n hc).2
      · have hn' : x.removedAt n ≠ none := by simpa [hnc] using hn
        exact hf n (h.removed n hn').1 (h.removed n hn').2

/-- **A session is registered** and starts its checkers, when there are no others. -/
lemma register (h : Scheduled s x) {n : ℕ} (hnone : s.active = none) (hact : s'.active = some n)
    (hf : ∀ n, n < s.count → (s.stage n).2 = .finished →
      n < s'.count ∧ (s'.stage n).2 = .finished)
    (hp : (s.stage n).2 = .publishing)
    (hC : ∀ i ∈ x.intervals, i.task = .proactiveAnalysis) :
    Scheduled s' (x.startCheckers n) := by
  have hnil : x.intervals = [] := by
    refine List.eq_nil_iff_forall_not_mem.mpr fun i hi => ?_
    exact (h.left hnone i hi).1 (hC i hi)
  have hfresh : x.removedAt n = none := by
    by_contra hne
    have := (h.removed n hne).2
    simp [hp] at this
  have hint : (x.startCheckers n).intervals =
      [⟨x.next, .armedTimeout, n, x.clock + 5000⟩,
        ⟨x.next + 1, .silentParticipant, n, x.clock + 15000⟩,
        ⟨x.next + 2, .speakingStats, n, x.clock + 10000⟩] := by
    simp [Periodic.startCheckers, Periodic.setInterval, hnil, Task.period]
  refine ⟨?_, fun c hc => ⟨?_, ?_⟩, by simp [hact], ?_, ?_, h.timer, fun m hm => ?_⟩
  · rw [hint]
    simp [Periodic.startCheckers, Periodic.setInterval]
  · obtain rfl : n = c := Option.some.inj (hact.symm.trans hc)
    exact hfresh
  · obtain rfl : n = c := Option.some.inj (hact.symm.trans hc)
    rw [hint]
    simp [Periodic.startCheckers, Periodic.setInterval, Task.period]
  · rw [hint]
    simp
  · rw [hint]
    simp
  · exact hf m (h.removed m hm).1 (h.removed m hm).2

/-- **The analysis is started** for the registered context. -/
lemma startProactiveAnalysis (h : Scheduled s x) {c : ℕ} (hc : s.active = some c) :
    Scheduled s (x.startProactiveAnalysis c) := by
  unfold Periodic.startProactiveAnalysis
  split
  · exact h
  rename_i hoff
  obtain ⟨hnone, hown⟩ := h.own c hc
  -- an analysis that is scheduled would be enabled
  have hfree : ∀ i ∈ x.intervals, i.task ≠ .proactiveAnalysis := by
    intro i hi htask
    have := (h.analysis i hi htask).1
    rw [(hown i hi).1] at this
    exact hoff this
  have hmem : ∀ i ∈ (x.setInterval .proactiveAnalysis c).intervals, i ∈ x.intervals ∨
      i = ⟨x.next, .proactiveAnalysis, c, x.clock + Task.period .proactiveAnalysis⟩ := by
    intro i hi
    simpa [Periodic.setInterval] using hi
  refine ⟨fun i hi => ?_, fun d hd => ⟨(h.own d hd).1, fun i hi => ?_⟩, by simp [hc], ?_,
    fun i hi htask => ?_, fun n hn => ?_, h.removed⟩
  · rcases hmem i hi with hi | rfl
    · exact h.due i hi
    · exact Nat.le_add_right _ _
  · obtain rfl : c = d := Option.some.inj (hc.symm.trans hd)
    rcases hmem i hi with hi | rfl
    · exact hown i hi
    · exact ⟨rfl, le_rfl⟩
  · have hnot : Task.proactiveAnalysis ∉ x.intervals.map (·.task) := by
      intro hmem
      obtain ⟨i, hi, htask⟩ := List.mem_map.mp hmem
      exact hfree i hi htask
    simpa [Periodic.setInterval, List.concat_eq_append] using List.Nodup.concat hnot h.tasks
  · rcases hmem i hi with hi | rfl
    · exact absurd htask (hfree i hi)
    · simp
  · by_cases hnc : n = c
    · simp [hnc]
    · simp only [Function.update_of_ne hnc] at hn ⊢
      exact h.timer n hn

/-- **The analysis is stopped.** -/
lemma stopProactiveAnalysis (h : Scheduled s x) {c : ℕ} (hc : s.active = some c) :
    Scheduled s (x.stopProactiveAnalysis c) := by
  unfold Periodic.stopProactiveAnalysis
  split
  swap
  · exact h
  have hsub := h.sub (x.intervals.filter_sublist (p := fun i => x.analysisTimer c ≠ some i.id))
  refine ⟨hsub.due, hsub.own, hsub.left, hsub.tasks, fun i hi htask => ?_, fun n hn => ?_,
    h.removed⟩
  · -- the interval of the analysis has been cleared
    obtain ⟨hi, hne⟩ := List.mem_filter.mp hi
    have hid := (h.analysis i hi htask).2
    rw [((h.own c hc).2 i hi).1] at hid
    simp [hid] at hne
  · by_cases hnc : n = c
    · simp [hnc] at hn
    · simp only [Function.update_of_ne hnc] at hn ⊢
      exact h.timer n hn

/-- **The registered context goes into standby**, its analysis not being enabled. -/
lemma enterStandbyMode (h : Scheduled s x) {c : ℕ} (hc : s.active = some c)
    (hC : x.standbyMode c = false → x.enabled c = false) : Scheduled s (x.enterStandbyMode c) := by
  unfold Periodic.enterStandbyMode
  split
  · exact h
  rename_i hstandby
  have hoff : x.enabled c = false := hC (by simpa using hstandby)
  have hlist : ((x.clearInterval (x.statsUpdateInterval c)).clearInterval
      (x.analysisTimer c)).intervals.Sublist x.intervals :=
    List.filter_sublist.trans List.filter_sublist
  have hsub := h.sub hlist
  refine ⟨hsub.due, hsub.own, hsub.left, hsub.tasks, fun i hi htask => ?_, fun n hn => ?_,
    h.removed⟩
  · have hen := (hsub.analysis i hi htask).1
    rw [((hsub.own c hc).2 i hi).1] at hen
    simp [hoff] at hen
  · have hen : x.enabled n = true := hn
    have hnc : n ≠ c := by
      rintro rfl
      simp [hoff] at hen
    simp only [Function.update_of_ne hnc]
    exact h.timer n hen

/-- **An interval ticks.** -/
lemma tick (h : Scheduled s x) {i : Interval} (hi : i ∈ x.intervals) (hdue : i.due ≤ x.clock) :
    Scheduled s (x.tick s.active i) := by
  unfold Periodic.tick
  split
  · exact h.sub List.erase_sublist
  rename_i hgo
  have hmem : ∀ j ∈ x.intervals.erase i ++ [{ i with due := i.due + i.task.period }],
      j ∈ x.intervals ∨ j = { i with due := i.due + i.task.period } := by
    intro j hj
    rcases List.mem_append.mp hj with hj | hj
    · exact .inl (List.mem_of_mem_erase hj)
    · exact .inr (List.mem_singleton.mp hj)
  -- the interval goes on, so a context is registered
  obtain ⟨c, hc⟩ : ∃ c, s.active = some c := by
    cases hact : s.active with
    | none => exact absurd ⟨(h.left hact i hi).1, hact⟩ hgo
    | some c => exact ⟨c, rfl⟩
  obtain ⟨hnone, hown⟩ := h.own c hc
  refine ⟨fun j hj => ?_, fun d hd => ⟨(h.own d hd).1, fun j hj => ?_⟩, by simp [hc], ?_,
    fun j hj htask => ?_, h.timer, h.removed⟩
  · rcases hmem j hj with hj | rfl
    · exact h.due j hj
    · exact (h.due i hi).trans (Nat.le_add_right _ _)
  · obtain rfl : c = d := Option.some.inj (hc.symm.trans hd)
    rcases hmem j hj with hj | rfl
    · exact hown j hj
    · exact ⟨(hown i hi).1, Nat.add_le_add_right hdue _⟩
  · -- the same tasks in another order
    have hperm : (x.intervals.erase i ++ [i]).Perm x.intervals :=
      List.perm_append_comm.trans (List.perm_cons_erase hi).symm
    have htasks := (hperm.map Interval.task).nodup_iff.mpr h.tasks
    simpa using htasks
  · rcases hmem j hj with hj | rfl
    · exact h.analysis j hj htask
    · exact h.analysis i hi htask

end Scheduled

/-! ## Steps and runs -/

variable {p p' : Server × Periodic} {e : Event ⊕ PeriodicEvent}

/-- The other acts leave the intervals alone. -/
lemma react_of_ne {x : Periodic} {a : Act} (hp : ∀ n, a ≠ .published n true)
    (hd : ∀ n, a ≠ .disconnected n) : x.react a = x := by
  unfold Periodic.react
  split
  · exact absurd rfl (hp _)
  · exact absurd rfl (hd _)
  · rfl

/-- Nothing is removed while the registered context is the same. -/
lemma remove_of_eq {s s' : Server} {x : Periodic} (hact : s'.active = s.active) :
    x.remove s s' = x := by
  unfold Periodic.remove
  split
  · rfl
  · rw [if_pos (hact.trans ‹_›)]

/-- **A step of the sessions** that finds the tasks stopped keeps the invariant. -/
lemma Scheduled.follow {s s' : Server} {x x' : Periodic} {e : Event} (h : Scheduled s x)
    (hs : Sound s) (hC : StopsFirst (s, x) (.inl e)) (hstep : lifecycle.step s e = some s')
    (hx : x.follow s e s' = some x') : Scheduled s' x' := by
  simp only [Periodic.follow, Option.ite_none_right_eq_some, Option.some.injEq] at hx
  obtain ⟨ht, rfl⟩ := hx
  have hw := h.wait ht
  have hf : ∀ n, n < s.count → (s.stage n).2 = .finished →
      n < s'.count ∧ (s'.stage n).2 = .finished := fun n hn hfin => finished_step hn hstep hfin
  obtain ⟨now, act⟩ := e
  -- the registered context is kept and no interval is touched
  have hkeep : s'.active = s.active → (∀ n, act ≠ .published n true) →
      (∀ n, act ≠ .disconnected n) →
      Scheduled s' ((({ x with clock := now }).remove s s').react act) := by
    intro hact hp hd
    rw [remove_of_eq hact, react_of_ne hp hd]
    exact hw.keep hact hf
  cases shift hstep with
  | keeps ha hst hk =>
    refine hkeep hk.active (fun n hn => ?_) fun n hn => ?_
    · simp [hn, Act.target] at ha
    · simp [hn, Act.target] at ha
  | creates ha hn hst hc hact =>
    refine hkeep (hact.trans hn.symm) (fun n hn => ?_) fun n hn => ?_
    · simp [hn, Act.starts] at ha
    · simp [hn, Act.starts] at ha
  | connects ha hn hp hst hc hact => exact hkeep hact (by simp_all) (by simp_all)
  | refused ha hn hp hst hc hact => exact hkeep hact (by simp_all) (by simp_all)
  | unpublished ha hn hp hst hc hact => exact hkeep hact (by simp_all) (by simp_all)
  | @registers n ha hn hp hst hc hact =>
    obtain rfl : act = .published n true := ha
    obtain ⟨hnone, hall⟩ : s.active = none ∧ ∀ i ∈ x.intervals, i.task = .proactiveAnalysis := hC
    have hrem : ({ x with clock := now }).remove s s' = { x with clock := now } := by
      simp only [Periodic.remove, hnone]
    rw [hrem]
    exact hw.register hnone hact hf hp hall
  | @drops n ha hst hc hact =>
    rcases ha with rfl | ⟨after, rfl⟩
    · exact (hw.drop hact hs hf hC).sub List.filter_sublist
    · exact hw.drop hact hs hf hC

/-- **An event of the tasks** that finds the analysis stopped keeps the invariant. -/
lemma Scheduled.handle {s : Server} {x x' : Periodic} {e : PeriodicEvent} (h : Scheduled s x)
    (hC : StopsFirst (s, x) (.inr e)) (hx : x.handle s e = some x') : Scheduled s x' := by
  unfold Periodic.handle at hx
  split at hx
  swap
  · simp at hx
  rename_i ht
  have hw := h.wait ht
  obtain ⟨now, act⟩ := e
  have hcall : ∀ {f : Periodic → ℕ → Periodic},
      (∀ c, s.active = some c → Scheduled s (f { x with clock := now } c)) →
      Scheduled s (({ x with clock := now }).call s.active f) := by
    intro f hf
    unfold Periodic.call
    split
    · exact hw
    · exact hf _ ‹_›
  cases act with
  | addScreenContext =>
    obtain rfl := Option.some.inj hx
    exact hcall fun c hc => hw.startProactiveAnalysis hc
  | clearScreenContext =>
    obtain rfl := Option.some.inj hx
    exact hcall fun c hc => hw.stopProactiveAnalysis hc
  | enterStandbyMode =>
    obtain rfl := Option.some.inj hx
    exact hcall fun c hc => hw.enterStandbyMode hc (hC c hc)
  | tick i =>
    simp only [Option.ite_none_right_eq_some, Option.some.injEq] at hx
    obtain ⟨⟨hi, hdue⟩, rfl⟩ := hx
    exact hw.tick hi hdue

/-- **No orphaned periodic work.** In a run in which every session is registered when no context and
no checker is left, every context is removed when the timer of its analysis is not set, and every
context goes into standby when its analysis is not enabled, there are no orphans in any state. -/
theorem no_orphans {es : List (Event ⊕ PeriodicEvent)}
    (hC : periodic.AllSteps StopsFirst periodic.init es) :
    periodic.AllStates NoOrphans periodic.init es := by
  refine allStates_of_invariant (M := periodic)
    (I := fun p => Sound p.1 ∧ Scheduled p.1 p.2) (fun p e p' hI hC h => ?_)
    (fun p hI => hI.2.noOrphans) ⟨sound_init, ?_⟩ hC
  · refine ⟨extendWith_base (I := Sound) (fun _ _ _ hs h => hs.step h) hI.1 h, ?_⟩
    cases e with
    | inl e =>
      obtain ⟨hstep, hx⟩ := extendWith_step_inl.mp h
      exact hI.2.follow hI.1 hC hstep hx
    | inr e =>
      obtain ⟨hbase, hx⟩ := extendWith_step_inr.mp h
      rw [hbase]
      exact hI.2.handle hC hx
  · constructor <;> simp [periodic, lifecycle]


/-- A bot is started and registered. -/
def onDuty : List (Event ⊕ PeriodicEvent) :=
  [.inl ⟨0, .startBot⟩, .inl ⟨1, .connected 0 true⟩, .inl ⟨2, .published 0 true⟩]

/-- The analysis is stopped before the connection is lost, and the checkers end themselves. -/
def offDuty : List (Event ⊕ PeriodicEvent) :=
  onDuty ++ [.inr ⟨3, .addScreenContext⟩, .inr ⟨4, .clearScreenContext⟩, .inl ⟨5, .disconnected 0⟩,
    .inr ⟨5002, .tick ⟨0, .armedTimeout, 0, 5002⟩⟩,
    .inr ⟨10002, .tick ⟨2, .speakingStats, 0, 10002⟩⟩,
    .inl ⟨20000, .startBot⟩, .inl ⟨20001, .connected 1 true⟩, .inl ⟨20002, .published 1 true⟩]

/-- A restart with no orphans. -/
theorem no_orphans_off_duty : (periodic.exec periodic.init offDuty).isSome ∧
    periodic.AllStates NoOrphans periodic.init offDuty :=
  ⟨by decide +kernel, no_orphans (by decide +kernel)⟩

/-- A restart within 5 s leaves two armed-timeout checks on the new context; a lost connection
leaves the analysis of the removed context; a standby leaves an enabled analysis without its
timer. -/
theorem periodic_orphans :
    ¬ periodic.AllStates NoOrphans periodic.init
        (onDuty ++ [.inl ⟨3, .disconnected 0⟩, .inl ⟨4, .startBot⟩, .inl ⟨5, .connected 1 true⟩,
          .inl ⟨6, .published 1 true⟩]) ∧
      ¬ periodic.AllStates NoOrphans periodic.init
        (onDuty ++ [.inr ⟨3, .addScreenContext⟩, .inl ⟨4, .disconnected 0⟩,
          .inr ⟨5002, .tick ⟨0, .armedTimeout, 0, 5002⟩⟩,
          .inr ⟨8003, .tick ⟨3, .proactiveAnalysis, 0, 8003⟩⟩,
          .inr ⟨10002, .tick ⟨2, .speakingStats, 0, 10002⟩⟩]) ∧
      ¬ periodic.AllStates NoOrphans periodic.init
        (onDuty ++ [.inr ⟨3, .addScreenContext⟩, .inr ⟨4, .enterStandbyMode⟩]) := by
  decide +kernel

end Lifecycle
