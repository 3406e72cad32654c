import AuraLive.Foundations.JsValue
import AuraLive.Mcp.RoomTimer

set_option relaxedAutoImplicit false
set_option autoImplicit false

/-!
# The callers of the timers, and the end of a countdown

The tool of `mcp/tools/timer.tool.ts` and `handleTimerCommand` of the voice bot. Both choose a
function of the timer module by the name of an action and forward the numbers of the caller, with
defaults for a missing number and for zero.

## Main definitions

* `Timer.Timers.execute`, `Timer.Timers.handleTimerCommand` — the two callers.
* `Timer.Command`, `Timer.commands` — their calls and the ticks, as an event system.
* `Timer.NonNegative`, `Timer.EndsOnce` — what a countdown is to do.
* `Timer.KeepsNonneg`, `Timer.Revives` — the calls that decide about it.

## Main results

* `Timer.execute_state`, `Timer.handleTimerCommand_state` — a call is at most one operation.
* `Timer.countdown_ends_once` — the remaining time stays nonnegative exactly when no call makes it
  negative, and a countdown ends once if it is not resumed after its end.
* `Timer.ended_countdown_resumed` — a countdown that is paused after its end and resumed ends twice.

## Design

Numbers are rational; `||` replaces a missing number and zero. Texts with numbers are lists of
pieces, so that they do not depend on how numbers are printed. The dynamic import of
`handleTimerCommand` is resolved when the call goes on, and nothing that it has read before is used
after it.
-/

namespace Timer

open Foundations

/-! ## Inputs and outputs -/

/-- The actions of the timer tool. -/
inductive TimerAction where
  | start
  | pause
  | resume
  | extend
  | stop
  | status
  deriving DecidableEq, Repr

/-- The action with a name. -/
def TimerAction.ofString (name : String) : Option TimerAction :=
  if name = "start" then some .start
  else if name = "pause" then some .pause
  else if name = "resume" then some .resume
  else if name = "extend" then some .extend
  else if name = "stop" then some .stop
  else if name = "status" then some .status
  else none

/-- `ToolContext`. -/
structure ToolContext where
  roomId : Option String := none
  channelId : Option String := none
  participants : Option (List String) := none
  topic : Option String := none
  keywords : Option (List String) := none
  useFocusedContext : Option Bool := none
  deriving DecidableEq

/-- The options of a tool: those that the timer tool reads, and the others. -/
structure ToolOptions where
  action : Option String := none
  targetMinutes : Option ℚ := none
  warningMinutes : Option ℚ := none
  minutes : Option ℚ := none
  others : List (String × JsVal) := []

/-- `ToolInput`. -/
structure ToolInput where
  transcript : String
  context : Option ToolContext := none
  options : Option ToolOptions := none

/-- A piece of a template literal. -/
inductive Piece where
  | text (text : String)
  | number (value : ℚ)
  | state (state : TimerState)
  deriving DecidableEq

/-- `ToolOutput` of the timer tool. -/
structure ToolOutput where
  type : String
  data : Option TimerData
  markdown : List Piece
  generatedAt : ℕ
  toolName : String
  editable : Bool
  deriving DecidableEq

/-- `x || d` for a number that may be missing. -/
def orDefault (x : Option ℚ) (d : ℚ) : ℚ :=
  match x with
  | none => d
  | some q => if q = 0 then d else q

/-- The remainder of ECMAScript, with the sign of the dividend. -/
def remainder (a b : ℚ) : ℚ := a - b * (if 0 ≤ a / b then (a / b).floor else (a / b).ceil)

/-- The output of the timer tool. -/
def timerOutput (now : ℕ) (result : Option TimerData) (message : List Piece) : ToolOutput :=
  { type := "timer"
    data := result
    markdown := message
    generatedAt := now
    toolName := "timer"
    editable := false }

/-! ## The callers -/

namespace Timers

variable (s : Timers)

/-- The timer that `resumeTimer` returns. -/
def resumeResult (roomId : RoomId) (now : ℕ) : Option TimerData :=
  if (s.timerStore.get roomId).any (·.timerState = .paused) then
    (s.resumeTimer roomId now).timerStore.get roomId
  else none

/-- `timerTool.execute`, from its action on. -/
def executeAction (roomId : RoomId) (options : ToolOptions) (now : ℕ) :
    TimerAction → Timers × ToolOutput
  | .start =>
    let targetMinutes := orDefault options.targetMinutes 30
    let warningMinutes := orDefault options.warningMinutes 5
    let s := s.startTimer roomId now targetMinutes warningMinutes
    (s, timerOutput now (s.timerStore.get roomId)
      [.number targetMinutes, .text "분 타이머가 시작되었습니다. ", .number warningMinutes,
        .text "분 전에 알림을 드릴게요."])
  | .pause =>
    let s := s.pauseTimer roomId
    let result := s.timerStore.get roomId
    (s, timerOutput now result
      [.text (if result.isSome then "타이머가 일시정지되었습니다." else "실행 중인 타이머가 없습니다.")])
  | .resume =>
    let result := s.resumeResult roomId now
    (s.resumeTimer roomId now, timerOutput now result
      [.text (if result.isSome then "타이머가 재개되었습니다." else "일시정지된 타이머가 없습니다.")])
  | .extend =>
    let minutes := orDefault options.minutes 10
    let s := s.extendTimer roomId now minutes
    let result := s.timerStore.get roomId
    (s, timerOutput now result
      (if result.isSome then [.number minutes, .text "분 연장되었습니다."]
        else [.text "타이머가 없습니다."]))
  | .stop =>
    let result := s.timerStore.get roomId
    (s.stopTimer roomId, timerOutput now result
      [.text (if result.isSome then "타이머가 중지되었습니다." else "타이머가 없습니다.")])
  | .status =>
    (s, timerOutput now (s.timerStore.get roomId)
      (match s.timerStore.get roomId with
        | some result =>
          [.text "현재 ", .number (result.remainingSeconds / 60).floor, .text "분 ",
            .number (remainder result.remainingSeconds 60), .text "초 남았습니다. 상태: ",
            .state result.timerState]
        | none => [.text "설정된 타이머가 없습니다."]))

/-- `timerTool.execute`. -/
def execute (input : ToolInput) (now : ℕ) : Timers × Except String ToolOutput :=
  match input.context.bind (·.roomId) with
  | none => (s, .error "roomId가 필요합니다")
  | some roomId =>
    if roomId = "" then (s, .error "roomId가 필요합니다")
    else
      let options := input.options.getD {}
      match options.action.bind TimerAction.ofString with
      | none => (s, .error ("알 수 없는 액션: " ++ options.action.getD "undefined"))
      | some action =>
        let (s, output) := s.executeAction roomId options now action
        (s, .ok output)

end Timers

/-- The message of `handleTimerCommand`. -/
structure TimerMessage where
  action : String
  minutes : Option ℚ := none
  warningMinutes : Option ℚ := none
  deriving DecidableEq

/-- The message that `handleTimerCommand` broadcasts. -/
structure TimerUpdate where
  action : TimerAction
  targetMinutes : Option ℚ
  warningMinutes : Option ℚ
  remainingSeconds : Option ℚ
  timerState : Option TimerState
  deriving DecidableEq

/-- The broadcast of the timer that a function returned. -/
def timerUpdate (action : TimerAction) (result : Option TimerData) : TimerUpdate :=
  { action := action
    targetMinutes := result.map (·.targetMinutes)
    warningMinutes := result.map (·.warningMinutes)
    remainingSeconds := result.map (·.remainingSeconds)
    timerState := result.map (·.timerState) }

namespace Timers

variable (s : Timers)

/-- `handleTimerCommand`, from its action on. -/
def commandAction (roomId : RoomId) (message : TimerMessage) (now : ℕ) :
    TimerAction → Timers × Option TimerData
  | .start =>
    let targetMins := orDefault message.minutes 30
    let warnMins := orDefault message.warningMinutes (max 1 (targetMins * (15 / 100)).floor)
    let s := s.startTimer roomId now targetMins warnMins
    (s, s.timerStore.get roomId)
  | .pause =>
    let s := s.pauseTimer roomId
    (s, s.timerStore.get roomId)
  | .resume => (s.resumeTimer roomId now, s.resumeResult roomId now)
  | .extend =>
    let extendMins := orDefault message.minutes 10
    let s := s.extendTimer roomId now extendMins
    (s, s.timerStore.get roomId)
  | .stop => (s.stopTimer roomId, s.timerStore.get roomId)
  | .status => (s, s.timerStore.get roomId)

/-- `handleTimerCommand`, for a room that is in `activeRooms` or not; nothing is broadcast for an
action that it does not know. -/
def handleTimerCommand (roomId : RoomId) (active : Bool) (message : TimerMessage) (now : ℕ) :
    Timers × Option TimerUpdate :=
  if !active then (s, none)
  else
    match TimerAction.ofString message.action with
    | none => (s, none)
    | some action =>
      let (s, result) := s.commandAction roomId message now action
      (s, some (timerUpdate action result))

end Timers

/-! ## Calls are operations -/

/-- What can happen through the two callers: a call, or a tick of an interval. -/
inductive Command where
  | execute (input : ToolInput) (now : ℕ)
  | handleTimerCommand (roomId : RoomId) (active : Bool) (message : TimerMessage) (now : ℕ)
  | tick (interval : ℕ)

/-- The operation that an action stands for, with the numbers that are forwarded. -/
def TimerAction.event (roomId : RoomId) (targetMinutes warningMinutes minutes : ℚ) (now : ℕ) :
    TimerAction → Option Event
  | .start => some (.startTimer roomId targetMinutes warningMinutes now)
  | .pause => some (.pauseTimer roomId)
  | .resume => some (.resumeTimer roomId now)
  | .extend => some (.extendTimer roomId minutes now)
  | .stop => some (.stopTimer roomId)
  | .status => none

/-- The operation of a call of `timerTool.execute`, if there is one. -/
def ToolInput.event (input : ToolInput) (now : ℕ) : Option Event :=
  match input.context.bind (·.roomId) with
  | none => none
  | some roomId =>
    if roomId = "" then none
    else
      let options := input.options.getD {}
      (options.action.bind TimerAction.ofString).bind <|
        TimerAction.event roomId (orDefault options.targetMinutes 30)
          (orDefault options.warningMinutes 5) (orDefault options.minutes 10) now

/-- The operation of a call of `handleTimerCommand`, if there is one. -/
def TimerMessage.event (message : TimerMessage) (roomId : RoomId) (active : Bool) (now : ℕ) :
    Option Event :=
  if !active then none
  else
    let targetMins := orDefault message.minutes 30
    (TimerAction.ofString message.action).bind <|
      TimerAction.event roomId targetMins
        (orDefault message.warningMinutes (max 1 (targetMins * (15 / 100)).floor))
        (orDefault message.minutes 10) now

/-- The operation that a command comes down to. -/
def Command.event : Command → Option Event
  | .execute input now => input.event now
  | .handleTimerCommand roomId active message now => message.event roomId active now
  | .tick interval => some (.tick interval)

/-- The timers after an operation, or unchanged if there is none. -/
def Timers.perform (s : Timers) (e : Option Event) : Timers :=
  match e.bind (timers.step s) with
  | none => s
  | some s' => s'

/-- An operation of an action takes place in its room. -/
lemma perform_event (s : Timers) (roomId : RoomId) (targetMinutes warningMinutes minutes : ℚ)
    (now : ℕ) (action : TimerAction) :
    s.perform (action.event roomId targetMinutes warningMinutes minutes now) =
      match action with
      | .start => s.startTimer roomId now targetMinutes warningMinutes
      | .pause => s.pauseTimer roomId
      | .resume => s.resumeTimer roomId now
      | .extend => s.extendTimer roomId now minutes
      | .stop => s.stopTimer roomId
      | .status => s := by
  cases action <;> rfl

/-- **A call of the tool is at most one operation.** -/
lemma execute_state (s : Timers) (input : ToolInput) (now : ℕ) :
    (s.execute input now).1 = s.perform (input.event now) := by
  unfold Timers.execute ToolInput.event
  cases input.context.bind (·.roomId) with
  | none => rfl
  | some roomId =>
    by_cases hroom : roomId = ""
    · simp only [hroom, if_true]
      rfl
    · simp only [hroom, if_false]
      cases (input.options.getD {}).action.bind TimerAction.ofString with
      | none => rfl
      | some action =>
        rw [Option.bind_some, perform_event]
        cases action <;> rfl

/-- **A timer command is at most one operation.** -/
lemma handleTimerCommand_state (s : Timers) (roomId : RoomId) (active : Bool)
    (message : TimerMessage) (now : ℕ) :
    (s.handleTimerCommand roomId active message now).1 =
      s.perform (message.event roomId active now) := by
  unfold Timers.handleTimerCommand TimerMessage.event
  cases active with
  | false => rfl
  | true =>
    simp only [Bool.not_true, Bool.false_eq_true, if_false]
    cases TimerAction.ofString message.action with
    | none => rfl
    | some action =>
      rw [Option.bind_some, perform_event]
      cases action <;> rfl

/-- The timers under the two callers, as an event system. -/
def commands : EventSystem Timers Command where
  init := timers.init
  step s c :=
    match c with
    | .execute input now => some (s.execute input now).1
    | .handleTimerCommand roomId active message now =>
      some (s.handleTimerCommand roomId active message now).1
    | .tick interval => timers.step s (.tick interval)

/-- The operation of an action is possible in every state. -/
lemma roomOf_event (s : Timers) {roomId : RoomId} {targetMinutes warningMinutes minutes : ℚ}
    {now : ℕ} {action : TimerAction} {e : Event}
    (h : action.event roomId targetMinutes warningMinutes minutes now = some e) :
    s.roomOf e = some roomId := by
  cases action with
  | status => cases h
  | _ => exact Option.some.inj h ▸ rfl

/-- Performing an operation that is possible is a step. -/
lemma step_perform {s : Timers} {e : Event} {roomId : RoomId} (h : s.roomOf e = some roomId) :
    timers.step s e = some (s.perform (some e)) := by
  have hstep : timers.step s e = some (s.handle roomId e) := by simp [timers, h]
  rw [hstep, Timers.perform, Option.bind_some, hstep]

/-- The operation of a call is possible. -/
lemma roomOf_toolInput (s : Timers) {input : ToolInput} {now : ℕ} {e : Event}
    (h : input.event now = some e) : ∃ roomId, s.roomOf e = some roomId := by
  unfold ToolInput.event at h
  split at h
  · cases h
  · rename_i roomId _
    split at h
    · cases h
    · obtain ⟨action, -, haction⟩ := Option.bind_eq_some_iff.mp h
      exact ⟨roomId, roomOf_event s haction⟩

/-- The operation of a timer command is possible. -/
lemma roomOf_timerMessage (s : Timers) {message : TimerMessage} {roomId : RoomId} {active : Bool}
    {now : ℕ} {e : Event} (h : message.event roomId active now = some e) :
    s.roomOf e = some roomId := by
  unfold TimerMessage.event at h
  split at h
  · cases h
  · obtain ⟨action, -, haction⟩ := Option.bind_eq_some_iff.mp h
    exact roomOf_event s haction

/-- **Steps of the callers.** A command does nothing, or it is one step of the timers. -/
lemma commands_step {s s' : Timers} {c : Command} (h : commands.step s c = some s') :
    (c.event = none ∧ s' = s) ∨ ∃ e, c.event = some e ∧ timers.step s e = some s' := by
  cases c with
  | execute input now =>
    have hs' : s' = s.perform (input.event now) := by
      rw [← execute_state]
      exact (Option.some.inj h).symm
    subst hs'
    cases he : input.event now with
    | none => exact .inl ⟨he, rfl⟩
    | some e =>
      obtain ⟨roomId, hroom⟩ := roomOf_toolInput s he
      exact .inr ⟨e, he, step_perform hroom⟩
  | handleTimerCommand roomId active message now =>
    have hs' : s' = s.perform (message.event roomId active now) := by
      rw [← handleTimerCommand_state]
      exact (Option.some.inj h).symm
    subst hs'
    cases he : message.event roomId active now with
    | none => exact .inl ⟨he, rfl⟩
    | some e => exact .inr ⟨e, he, step_perform (roomOf_timerMessage s he)⟩
  | tick interval => exact .inr ⟨_, rfl, h⟩

/-- A property of the timers that every operation keeps is kept by the callers. -/
lemma commands_keeps {P : Timers → Prop}
    (hP : ∀ s e s', P s → timers.step s e = some s' → P s') :
    ∀ s c s', P s → commands.step s c = some s' → P s' := by
  intro s c s' hs h
  rcases commands_step h with ⟨-, rfl⟩ | ⟨e, -, hstep⟩
  · exact hs
  · exact hP s e s' hs hstep

/-- Every operation keeps the registry of intervals right. -/
lemma counting_step (s : Timers) (e : Event) (s' : Timers) (hs : Counting s)
    (h : timers.step s e = some s') : Counting s' := by
  obtain ⟨roomId, -, rfl⟩ := step_eq h
  exact (hs.settles roomId e).counting_all hs

/-! ## The remaining time -/

/-- No timer has a negative remaining time. -/
def NonNegative (s : Timers) : Prop :=
  ∀ r, ∀ timer ∈ s.timerStore.get r, 0 ≤ timer.remainingSeconds

/-- An operation on a timer does not ask for a negative time: a timer starts with a target that is
not negative, and an extension leaves the remaining time nonnegative. -/
def Event.KeepsNonneg (before : Option TimerData) : Event → Prop
  | .startTimer _ targetMinutes _ _ => 0 ≤ targetMinutes
  | .extendTimer _ minutes _ => ∀ timer ∈ before, 0 ≤ timer.remainingSeconds + minutes * 60
  | _ => True

/-- The operation of a command, if there is one, does not ask for a negative time. -/
def KeepsNonneg (s : Timers) (c : Command) : Prop :=
  ∀ e ∈ c.event, ∀ r ∈ s.roomOf e, e.KeepsNonneg (s.timerStore.get r)

/-- One second leaves the remaining time nonnegative. -/
lemma TimerData.tick_nonneg (timer : TimerData) : 0 ≤ timer.tick.remainingSeconds := by
  cases hends : timer.count.ends with
  | true => exact (timer.tick_of_ends hends).1.ge
  | false =>
    rw [timer.tick_of_not_ends hends, TimerData.afterWarning_remainingSeconds]
    exact (not_le.mp (of_decide_eq_false hends)).le

@[simp] lemma TimerData.resumed_remainingSeconds (timer : TimerData) (now : ℕ) :
    (timer.resumed now).remainingSeconds = timer.remainingSeconds := by
  unfold TimerData.resumed
  split <;> rfl

@[simp] lemma TimerData.extended_remainingSeconds (timer : TimerData) (minutes : ℚ) (now : ℕ) :
    (timer.extended minutes now).remainingSeconds = timer.remainingSeconds + minutes * 60 := by
  unfold TimerData.extended
  split <;> rfl

/-- The remaining time of a room stays nonnegative exactly when the operation does not ask for a
negative time. -/
lemma next_nonneg_iff (roomId : RoomId) (e : Event) {before : Option TimerData}
    (h : ∀ timer ∈ before, 0 ≤ timer.remainingSeconds) :
    (∀ timer ∈ e.next roomId before, 0 ≤ timer.remainingSeconds) ↔ e.KeepsNonneg before := by
  cases e with
  | startTimer _ targetMinutes warningMinutes now =>
    simp only [Event.next, Option.mem_def, Option.some.injEq, forall_eq', Event.KeepsNonneg]
    constructor
    · intro hpos
      linarith
    · intro hpos
      linarith
  | pauseTimer _ =>
    cases before with
    | none => simp [Event.next, Event.KeepsNonneg]
    | some timer => simpa [Event.next, Event.KeepsNonneg] using h timer rfl
  | resumeTimer _ now =>
    cases before with
    | none => simp [Event.next, Event.KeepsNonneg]
    | some timer => simpa [Event.next, Event.KeepsNonneg] using h timer rfl
  | extendTimer _ minutes now =>
    cases before with
    | none => simp [Event.next, Event.KeepsNonneg]
    | some timer => simp [Event.next, Event.KeepsNonneg]
  | stopTimer _ => simp [Event.next, Event.KeepsNonneg]
  | tick _ =>
    cases before with
    | none => simp [Event.next, Event.KeepsNonneg]
    | some timer =>
      simp only [Event.next, Option.map_some, Option.mem_def, Option.some.injEq, forall_eq',
        Event.KeepsNonneg, iff_true]
      split
      · exact timer.tick_nonneg
      · exact h timer rfl

/-- A command keeps the remaining times nonnegative exactly when it does not ask for a negative
time. -/
lemma nonNegative_step_iff (s : Timers) (c : Command) (s' : Timers) (hs : Counting s)
    (hn : NonNegative s) (h : commands.step s c = some s') : NonNegative s' ↔ KeepsNonneg s c := by
  rcases commands_step h with ⟨hnone, rfl⟩ | ⟨e, he, hstep⟩
  · simp [KeepsNonneg, hnone, hn]
  · obtain ⟨roomId, hroom, rfl⟩ := step_eq hstep
    have hkeeps : KeepsNonneg s c ↔ e.KeepsNonneg (s.timerStore.get roomId) := by
      simp [KeepsNonneg, he, hroom]
    rw [hkeeps, ← next_nonneg_iff roomId e (hn roomId)]
    constructor
    · intro hn'
      have hroom' := hn' roomId
      rwa [step_get hs, if_pos rfl] at hroom'
    · intro hroom' r
      rw [step_get hs]
      split
      · rename_i hr
        subst hr
        exact hroom'
      · exact hn r

/-! ## The end of a countdown -/

/-- The command tells the callback that the countdown of a room has ended. -/
def Ends (r : RoomId) (s : Timers) (c : Command) : Prop :=
  ∃ s', commands.step s c = some s' ∧ s.notified r .ended < s'.notified r .ended

/-- The command calls `startTimer` or `extendTimer` for a room. -/
def Restarts (r : RoomId) (c : Command) : Prop :=
  (∃ targetMinutes warningMinutes now,
      c.event = some (.startTimer r targetMinutes warningMinutes now)) ∨
    ∃ minutes now, c.event = some (.extendTimer r minutes now)

/-- The command calls `resumeTimer` for a room whose timer is paused. -/
def Revives (r : RoomId) (s : Timers) (c : Command) : Prop :=
  (∃ now, c.event = some (.resumeTimer r now)) ∧
    ∃ timer, s.timerStore.get r = some timer ∧ timer.timerState = .paused

/-- Every countdown ends once: no command announces two ends of a room, and between two of its ends
the room is started or extended. -/
def EndsOnce (cs : List Command) : Prop :=
  ∀ r, commands.AllSteps (fun s c => ∀ s', commands.step s c = some s' →
      s'.notified r .ended ≤ s.notified r .ended + 1) commands.init cs ∧
    commands.Separated (Ends r) (Ends r) (Restarts r) commands.init cs

/-- What one step tells about the end of a room: at most one end, and an end only at a tick that
leaves the timer of the room ended. -/
lemma notified_step {s s' : Timers} {e : Event} (hs : Counting s) (r : RoomId)
    (h : timers.step s e = some s') :
    s'.notified r .ended = s.notified r .ended ∨
      s'.notified r .ended = s.notified r .ended + 1 ∧ s.counting r = true ∧
        s'.counting r = false := by
  cases hticks : s.ticks r e with
  | false => exact .inl (notified_of_not_ticks h hticks .ended)
  | true =>
    obtain ⟨timer, htimer, hcounting, hnext, hnotified⟩ := ticks_spec hs h hticks
    rw [hnotified .ended]
    cases hends : timer.count.ends with
    | false => exact .inl (by simp [TimerData.gives, hends])
    | true =>
      refine .inr ⟨by simp [TimerData.gives, hends, Nat.add_comm], ?_, ?_⟩
      · simp [Timers.counting, htimer, hcounting]
      · simp [Timers.counting, hnext, TimerData.counting, (timer.tick_of_ends hends).2]

/-- A command says that a timer has ended at most once, and only if it was counting before. -/
lemma notified_command {s s' : Timers} {c : Command} (hs : Counting s) (r : RoomId)
    (h : commands.step s c = some s') :
    s'.notified r .ended = s.notified r .ended ∨
      s'.notified r .ended = s.notified r .ended + 1 ∧ s.counting r = true ∧
        s'.counting r = false := by
  rcases commands_step h with ⟨-, rfl⟩ | ⟨e, -, hstep⟩
  · exact .inl rfl
  · exact notified_step hs r hstep

/-- A room that does not count down goes on not to, unless it is started, extended or resumed. -/
lemma not_counting_step {s s' : Timers} {c : Command} (hs : Counting s) {r : RoomId}
    (hidle : s.counting r = false) (hstart : ¬ Restarts r c) (hrevive : ¬ Revives r s c)
    (h : commands.step s c = some s') : s'.counting r = false := by
  rcases commands_step h with ⟨-, rfl⟩ | ⟨e, he, hstep⟩
  · exact hidle
  obtain ⟨roomId, hroom, rfl⟩ := step_eq hstep
  rw [Timers.counting, step_get hs]
  split
  · rename_i hr
    subst hr
    rw [Timers.counting] at hidle
    cases e with
    | startTimer r targetMinutes warningMinutes now =>
      obtain rfl : r = roomId := Option.some.inj hroom
      exact absurd (.inl ⟨_, _, _, he⟩) hstart
    | extendTimer r minutes now =>
      obtain rfl : r = roomId := Option.some.inj hroom
      exact absurd (.inr ⟨_, _, he⟩) hstart
    | pauseTimer _ =>
      cases s.timerStore.get roomId with
      | none => rfl
      | some timer => simp [Event.next, TimerData.counting]
    | resumeTimer r now =>
      obtain rfl : r = roomId := Option.some.inj hroom
      cases htimer : s.timerStore.get r with
      | none => rfl
      | some timer =>
        have hpaused : timer.timerState ≠ .paused :=
          fun hp => hrevive ⟨⟨now, he⟩, timer, htimer, hp⟩
        rw [htimer] at hidle
        simpa [Event.next, TimerData.resumed, hpaused] using hidle
    | stopTimer _ => rfl
    | tick interval =>
      cases htimer : s.timerStore.get roomId with
      | none => rfl
      | some timer =>
        rw [htimer, Option.any_some] at hidle
        simp [Event.next, hidle]
  · exact hidle

/-- **A countdown ends once.** In a run through the two callers the remaining times stay nonnegative
exactly when no call starts a timer with a negative target or extends one below zero. If no call
resumes a paused timer whose countdown has ended since it was last started or extended, then every
countdown ends once.

**Proof sketch.** An end is announced by a tick of a timer that counts down, and leaves a timer that
does not. Starting, extending and resuming are the only ways to make it count again. -/
theorem countdown_ends_once {cs : List Command} {s : Timers}
    (hr : commands.exec commands.init cs = some s) :
    (commands.AllStates NonNegative commands.init cs ↔
      commands.AllSteps KeepsNonneg commands.init cs) ∧
    ((∀ r, commands.Separated (Ends r) (Revives r) (Restarts r) commands.init cs) →
      EndsOnce cs) := by
  have hinit : Counting commands.init := counting_reachable ⟨[], rfl⟩
  have hkeeps := commands_keeps counting_step
  constructor
  · refine EventSystem.allStates_iff_of_step_iff (B := Counting) hkeeps nonNegative_step_iff hinit
      ?_ hr
    intro r timer htimer
    simp [commands, timers] at htimer
  · intro hsep r
    constructor
    · refine EventSystem.allSteps_of_invariant (I := Counting) (C := fun _ _ => True)
        (fun s c s' hs _ => hkeeps s c s' hs) ?_ hinit (EventSystem.allSteps_true _ _)
      intro s c hs _ s' h
      rcases notified_command hs r h with heq | ⟨heq, -⟩
      · omega
      · omega
    · refine EventSystem.Separated.of_kept (I := Counting)
        (J := fun s => s.counting r = false) hkeeps ?_ ?_ ?_ hinit (hsep r)
      · rintro s c s' hs ⟨t, ht, hlt⟩ h
        obtain rfl := Option.some.inj (ht.symm.trans h)
        rcases notified_command hs r h with heq | ⟨-, -, hidle⟩
        · omega
        · exact hidle
      · intro s c s' hs hidle hstart hrevive h
        exact not_counting_step hs hidle hstart hrevive h
      · rintro s c hs hidle ⟨s', h, hlt⟩
        rcases notified_command hs r h with heq | ⟨-, hcounting, -⟩
        · omega
        · exact Bool.false_ne_true (hidle.symm.trans hcounting)

/-- A call of the tool for room `a`. -/
def toolCall (options : ToolOptions) (now : ℕ) : Command :=
  .execute ⟨"", some { roomId := some "a" }, some options⟩ now

/-- A countdown of one minute, up to its last second. -/
def lastSecond : List Command :=
  toolCall { action := some "start", targetMinutes := some 1 } 1000 ::
    List.replicate 59 (.tick 0)

/-- A timer that has ended is extended by a minute and ends once more. -/
def extendedOnce : List Command :=
  lastSecond ++ [.tick 0, .handleTimerCommand "a" true { action := "extend", minutes := some 1 }
    62000] ++ List.replicate 60 (.tick 1)

instance decidableEventKeepsNonneg (e : Event) (before : Option TimerData) :
    Decidable (e.KeepsNonneg before) :=
  match e with
  | .startTimer _ targetMinutes _ _ => inferInstanceAs (Decidable (0 ≤ targetMinutes))
  | .extendTimer _ minutes _ => inferInstanceAs
      (Decidable (∀ timer ∈ before, 0 ≤ timer.remainingSeconds + minutes * 60))
  | .pauseTimer _ => inferInstanceAs (Decidable True)
  | .resumeTimer _ _ => inferInstanceAs (Decidable True)
  | .stopTimer _ => inferInstanceAs (Decidable True)
  | .tick _ => inferInstanceAs (Decidable True)

instance decidableKeepsNonneg (s : Timers) (c : Command) : Decidable (KeepsNonneg s c) :=
  inferInstanceAs
    (Decidable (∀ e ∈ c.event, ∀ r ∈ s.roomOf e, e.KeepsNonneg (s.timerStore.get r)))

/-- The run with an extension ends twice, and nothing is wrong with it. -/
theorem countdown_ends_once_extended :
    ∃ s, commands.exec commands.init extendedOnce = some s ∧ s.notified "a" .ended = 2 ∧
      commands.AllStates NonNegative commands.init extendedOnce ∧ EndsOnce extendedOnce := by
  obtain ⟨s, hs, hended⟩ := Option.map_eq_some_iff.mp (show
    (commands.exec commands.init extendedOnce).map (·.notified "a" .ended) = some 2 by
      decide +kernel)
  obtain ⟨hnonneg, honce⟩ := countdown_ends_once hs
  refine ⟨s, hs, hended, hnonneg.mpr (by decide +kernel), honce ?_⟩
  -- no call of this run resumes
  intro r es₁ e₁ es₂ e₂ es₃ s₁ s₂ hes _ _ _ hrevives
  have hmem : e₂ ∈ extendedOnce := by simp [hes]
  have hnone : ∀ c ∈ extendedOnce, (c.event.any fun e => e matches .resumeTimer _ _) = false := by
    decide +kernel
  obtain ⟨⟨now, hresume⟩, -⟩ := hrevives
  have hcontra := hnone e₂ hmem
  simp [hresume] at hcontra

/-- A countdown that has ended is paused and resumed; the next tick announces its end again. -/
def resumedAfterEnd : List Command :=
  lastSecond ++ .tick 0 ::
    ([toolCall { action := some "pause" } 62000, toolCall { action := some "resume" } 63000] ++
      [.tick 1])

/-- A countdown of one minute is extended by minus two. -/
def extendedBelowZero : List Command :=
  [toolCall { action := some "start", targetMinutes := some 1 } 1000,
    toolCall { action := some "extend", minutes := some (-2) } 2000]

/-- **A countdown that ends twice.** The countdown that is resumed after its end ends twice with
neither a start nor an extension in between, and a negative extension leaves a negative remaining
time. -/
theorem ended_countdown_resumed :
    ¬ EndsOnce resumedAfterEnd ∧
    ¬ commands.AllStates NonNegative commands.init extendedBelowZero := by
  constructor
  · intro h
    have hfirst : (commands.exec commands.init lastSecond).any (fun s =>
        (commands.step s (.tick 0)).any fun s' =>
          s.notified "a" .ended < s'.notified "a" .ended) = true := by decide +kernel
    have hsecond : (commands.exec commands.init (lastSecond ++ .tick 0 ::
        [toolCall { action := some "pause" } 62000,
          toolCall { action := some "resume" } 63000])).any (fun s =>
        (commands.step s (.tick 1)).any fun s' =>
          s.notified "a" .ended < s'.notified "a" .ended) = true := by decide +kernel
    obtain ⟨s₁, hs₁, hstep₁⟩ := (Option.any_eq_true _ _).mp hfirst
    obtain ⟨s₁', hs₁', hends₁⟩ := (Option.any_eq_true _ _).mp hstep₁
    obtain ⟨s₂, hs₂, hstep₂⟩ := (Option.any_eq_true _ _).mp hsecond
    obtain ⟨s₂', hs₂', hends₂⟩ := (Option.any_eq_true _ _).mp hstep₂
    obtain ⟨c, hc, hrestarts⟩ := (h "a").2 lastSecond (.tick 0) _ (.tick 1) [] s₁ s₂ rfl hs₁
      ⟨s₁', hs₁', of_decide_eq_true hends₁⟩ hs₂ ⟨s₂', hs₂', of_decide_eq_true hends₂⟩
    have hnone : ∀ c ∈ [toolCall { action := some "pause" } 62000,
        toolCall { action := some "resume" } 63000],
        (c.event.any fun e => e matches .startTimer _ _ _ _ | .extendTimer _ _ _) = false := by
      decide +kernel
    have hcontra := hnone c hc
    rcases hrestarts with ⟨_, _, _, he⟩ | ⟨_, _, he⟩
    · simp [he] at hcontra
    · simp [he] at hcontra
  · intro h
    obtain ⟨s, hs, hnegative⟩ := (Option.any_eq_true _ _).mp (show
      (commands.exec commands.init extendedBelowZero).any (fun s =>
        (s.timerStore.get "a").any fun timer => timer.remainingSeconds < 0) = true by
          decide +kernel)
    obtain ⟨timer, htimer, hlt⟩ := (Option.any_eq_true _ _).mp hnegative
    exact absurd (h.last hs "a" timer htimer) (not_le.mpr (of_decide_eq_true hlt))

end Timer
