import AuraLive.Foundations.Ledger
import AuraLive.Foundations.Unicode
import AuraLive.Mcp.TimerTool

set_option relaxedAutoImplicit false
set_option autoImplicit false

/-!
# The cache of diagrams

`generateDiagram` of `mcp/mcp.service.ts` keeps the results of all tools for five minutes, under a
key of the name of the tool, the first 100 code units of the transcript and its length. One of the
tools is the timer.

## Main definitions

* `Diagram.Tool`, `Diagram.toolMap` — the tools.
* `Diagram.cacheKey` — the key of a call.
* `Diagram.McpService.generateDiagram`, `executed`, `cleanupCache` — a call up to its `await`, the
  code after it, and the periodic cleanup.
* `Diagram.diagrams` — the service as an event system, with the calls that have been completed.
* `Diagram.Transparent` — what is answered from the cache is the result of the same call, and the
  tool would not have changed anything.
* `Diagram.SameCall` — the last call like it, if it is recent, was for the same input, and the timer
  tool has nothing to do.

## Main results

* `Diagram.cacheKey_eq_iff` — two calls share a key exactly if they agree in the tool, the first 100
  code units and the length.
* `Diagram.execute_eq_self_iff` — when the timer tool changes nothing.
* `Diagram.mirrors_step` — the cache holds the results of the last calls.
* `Diagram.cache_transparent_iff` — the cache is transparent in a run exactly when every call is
  like the last one with its key.
* `Diagram.cache_seen` — another transcript, another context and a timer that is not started.

## Design

What the tools that ask the model make of its reply is given by the event that ends their call; the
only thing that such a tool changes is when the model was asked last. The timer tool awaits nothing,
so its outcome is known when the call starts. Keys are lists of UTF-16 code units, since a prefix
may end within a surrogate pair. The `data` of a timer output is the timer object itself, which
later operations go on changing also where the cache holds it; here it is a snapshot, taken when the
tool was executed. No statement reads it.
-/

namespace Diagram

open Foundations Timer

/-! ## Tools -/

/-- The tools of `allTools`. -/
inductive Tool where
  | flowchart
  | sequence
  | erd
  | architecture
  | kanban
  | timer
  deriving DecidableEq

/-- The name of a tool. -/
def Tool.name : Tool → String
  | .flowchart => "flowchart"
  | .sequence => "sequence"
  | .erd => "erd"
  | .architecture => "architecture"
  | .kanban => "kanban"
  | .timer => "timer"

/-- `allTools`. -/
def allTools : List Tool := [.flowchart, .sequence, .erd, .architecture, .kanban, .timer]

/-- `toolMap.get`. -/
def toolMap (toolName : String) : Option Tool := allTools.find? (·.name = toolName)

/-- The output of a tool that asks the model. -/
structure DiagramOutput where
  type : String
  data : JsVal
  markdown : Option String
  generatedAt : ℕ
  toolName : String
  editable : Bool

/-- The output of a tool. -/
inductive Output where
  | diagram (output : DiagramOutput)
  | timer (output : ToolOutput)

/-- `InternalToolResult`. -/
structure InternalToolResult where
  success : Bool
  output : Option Output := none
  error : Option String := none

/-! ## The service -/

/-- `DiagramCacheEntry`. -/
structure DiagramCacheEntry where
  result : InternalToolResult
  timestamp : ℕ
  transcriptHash : List ℕ

/-- A tool that is being executed, with its outcome if that does not depend on the model. -/
structure Execution where
  tool : Tool
  input : ToolInput
  outcome : Option (Except String ToolOutput)

/-- The state of the service and of the timers. -/
structure McpService where
  diagramCache : JsMap (List ℕ) DiagramCacheEntry
  timers : Timers
  calls : Ledger Execution

/-- `CACHE_TTL`. -/
def CACHE_TTL : ℕ := 5 * 60 * 1000

/-- `hashTranscript`. -/
def hashTranscript (transcript : String) : List ℕ :=
  (utf16 transcript).take 100 ++ 95 :: utf16 (toString (utf16 transcript).length)

/-- The key of a call. -/
def cacheKey (toolName transcript : String) : List ℕ :=
  utf16 toolName ++ 95 :: hashTranscript transcript

/-- The timers after a tool has been executed, and its outcome if that is known. -/
def Tool.execute (tool : Tool) (s : Timers) (input : ToolInput) (now : ℕ) :
    Timers × Option (Except String ToolOutput) :=
  match tool with
  | .timer => ((s.execute input now).1, some (s.execute input now).2)
  | _ => (s, none)

/-- The result of a tool. -/
def resultOf : Except String Output → InternalToolResult
  | .ok output => { success := true, output := some output }
  | .error message => { success := false, error := some message }

/-- The outcome of an execution, of which the model may have decided. -/
def Execution.outcomeWith (execution : Execution) (reply : Except String DiagramOutput) :
    Except String Output :=
  match execution.outcome with
  | some outcome => outcome.map .timer
  | none => reply.map .diagram

namespace McpService

variable (s : McpService)

/-- The entry from which a call is answered. -/
def cached (toolName : String) (input : ToolInput) (now : ℕ) : Option DiagramCacheEntry :=
  (s.diagramCache.get (cacheKey toolName input.transcript)).filter fun entry =>
    now < entry.timestamp + CACHE_TTL

/-- `generateDiagram`, up to its `await`, with the result if it returns. -/
def generateDiagram (toolName : String) (input : ToolInput) (now : ℕ) :
    McpService × Option InternalToolResult :=
  match toolMap toolName with
  | none =>
    (s, some { success := false, error := some ("다이어그램 도구를 찾을 수 없습니다: " ++ toolName) })
  | some tool =>
    match s.cached toolName input now with
    | some entry => (s, some entry.result)
    | none =>
      let (timers, outcome) := tool.execute s.timers input now
      ({ s with timers := timers, calls := s.calls.enter ⟨tool, input, outcome⟩ }, none)

/-- `generateDiagram`, from its `await` on. What it puts into the cache for a timer is a
snapshot. -/
def executed (call : ℕ) (execution : Execution) (reply : Except String DiagramOutput) (now : ℕ) :
    McpService × InternalToolResult :=
  let s := { s with calls := s.calls.remove call }
  match execution.outcomeWith reply with
  | .ok output =>
    let result := resultOf (.ok output)
    ({ s with
        diagramCache := s.diagramCache.set
          (cacheKey execution.tool.name execution.input.transcript)
          ⟨result, now, hashTranscript execution.input.transcript⟩ },
      result)
  | .error message => (s, resultOf (.error message))

/-- `cleanupCache`. -/
def cleanupCache (now : ℕ) : McpService :=
  { s with
    diagramCache := s.diagramCache.restrict fun key =>
      !(s.diagramCache.get key).any fun entry => entry.timestamp + CACHE_TTL < now }

end McpService

/-- What happens to the service: a call, the end of the execution of a tool, the cleanup, and what
else happens to the timers. -/
inductive Event where
  | generateDiagram (toolName : String) (input : ToolInput) (now : ℕ)
  | executed (call : ℕ) (reply : Except String DiagramOutput) (now : ℕ)
  | cleanupCache (now : ℕ)
  | timers (e : Timer.Event)

/-- The state after an event. -/
def McpService.step (s : McpService) : Event → Option McpService
  | .generateDiagram toolName input now => some (s.generateDiagram toolName input now).1
  | .executed call reply now =>
    (s.calls.get call).map fun execution => (s.executed call execution reply now).1
  | .cleanupCache now => some (s.cleanupCache now)
  | .timers e => (Timer.timers.step s.timers e).map fun timers => { s with timers := timers }

/-! ## Completed calls -/

/-- A call whose result went to the cache. -/
structure Completed where
  tool : Tool
  input : ToolInput
  result : InternalToolResult
  time : ℕ

/-- The key under which the result went to the cache. -/
def Completed.key (p : Completed) : List ℕ := cacheKey p.tool.name p.input.transcript

/-- The calls that have been completed, the last one first, and the last reading of the clock. -/
structure Log where
  completed : List Completed
  clock : ℕ

/-- The call that an event completes. -/
def McpService.completing (s : McpService) : Event → Option Completed
  | .executed call reply now =>
    (s.calls.get call).bind fun execution =>
      match execution.outcomeWith reply with
      | .ok output => some ⟨execution.tool, execution.input, resultOf (.ok output), now⟩
      | .error _ => none
  | _ => none

/-- The reading of the clock at an event. -/
def Event.time (clock : ℕ) : Event → ℕ
  | .generateDiagram _ _ now => now
  | .executed _ _ now => now
  | .cleanupCache now => now
  | .timers _ => clock

/-- The log after an event. -/
def Log.after (log : Log) (s : McpService) (e : Event) : Log :=
  ⟨(s.completing e).toList ++ log.completed, e.time log.clock⟩

/-- The service with its log and a clock that does not go back. -/
def diagrams : EventSystem (McpService × Log) Event where
  init := (⟨∅, Timer.timers.init, .empty⟩, ⟨[], 0⟩)
  step x e :=
    if x.2.clock ≤ e.time x.2.clock then (x.1.step e).map fun s' => (s', x.2.after x.1 e) else none

/-- The call whose result is under a key: the last one with that key. -/
def Log.writer (log : Log) (key : List ℕ) : Option Completed :=
  log.completed.find? fun p => p.key = key

/-- The last call with the same tool, the same first 100 code units and the same length. -/
def Log.like (log : Log) (tool : Tool) (transcript : String) : Option Completed :=
  log.completed.find? fun p =>
    p.tool = tool ∧ (utf16 p.input.transcript).take 100 = (utf16 transcript).take 100 ∧
      (utf16 p.input.transcript).length = (utf16 transcript).length

/-! ## Transparency -/

/-- An answer from the cache is the result of a call with the same tool and the same input, and the
tool that is skipped would have left the timers alone. -/
def Transparent (x : McpService × Log) (e : Event) : Prop :=
  match e with
  | .generateDiagram toolName input now =>
    ∀ tool entry, toolMap toolName = some tool → x.1.cached toolName input now = some entry →
      ∃ p, x.2.writer (cacheKey toolName input.transcript) = some p ∧ p.result = entry.result ∧
        p.time = entry.timestamp ∧ p.tool = tool ∧ p.input = input ∧
        (tool.execute x.1.timers input now).1 = x.1.timers
  | _ => True

/-- The timers have nothing to do for an operation: a timer that is to be paused is paused, one that
is to be resumed is not, and there is none to be extended or stopped. -/
def Idle (s : Timers) : Option Timer.Event → Prop
  | none => True
  | some (.startTimer _ _ _ _) => False
  | some (.pauseTimer roomId) => ∀ timer, s.timerStore.get roomId = some timer →
    timer.timerState = .paused ∧ s.timerIntervals.get roomId = none
  | some (.resumeTimer roomId _) => ∀ timer, s.timerStore.get roomId = some timer →
    timer.timerState ≠ .paused
  | some (.extendTimer roomId _ _) => s.timerStore.get roomId = none
  | some (.stopTimer roomId) => s.timerStore.get roomId = none ∧ s.timerIntervals.get roomId = none
  | some (.tick _) => True

/-- The last call with the same tool, the same first 100 code units and the same length, if it was
completed less than `CACHE_TTL` ago, was for the same input, and the timer tool is called only where
the timers have nothing to do. -/
def SameCall (x : McpService × Log) (e : Event) : Prop :=
  match e with
  | .generateDiagram toolName input now =>
    ∀ tool p, toolMap toolName = some tool → x.2.like tool input.transcript = some p →
      now < p.time + CACHE_TTL →
      p.input = input ∧ (tool = .timer → Idle x.1.timers (input.event now))
  | _ => True

/-! ## Keys -/

/-- The name of a tool has no underscore. -/
lemma underscore_notMem_name (tool : Tool) : 95 ∉ utf16 tool.name := by
  cases tool <;> decide

/-- Tools have different names. -/
lemma utf16_name_inj {tool tool' : Tool} : utf16 tool.name = utf16 tool'.name ↔ tool = tool' := by
  cases tool <;> cases tool' <;> decide

/-- Two transcripts have the same hash if they agree in the first 100 code units and the length. -/
lemma hashTranscript_eq_iff {transcript transcript' : String} :
    hashTranscript transcript = hashTranscript transcript' ↔
      (utf16 transcript).take 100 = (utf16 transcript').take 100 ∧
        (utf16 transcript).length = (utf16 transcript').length := by
  unfold hashTranscript
  have hunderscore : ∀ n : ℕ, 95 ∉ utf16 (toString n) := notMem_utf16_toString (c := '_') rfl
  rw [append_separator_right_inj (hunderscore _) (hunderscore _), utf16_toString_inj]

/-- **Keys.** Two calls share a key exactly if they agree in the tool, the first 100 code units and
the length of the transcript. -/
lemma cacheKey_eq_iff {tool tool' : Tool} {transcript transcript' : String} :
    cacheKey tool.name transcript = cacheKey tool'.name transcript' ↔
      tool = tool' ∧ (utf16 transcript).take 100 = (utf16 transcript').take 100 ∧
        (utf16 transcript).length = (utf16 transcript').length := by
  unfold cacheKey
  rw [append_separator_left_inj (underscore_notMem_name tool) (underscore_notMem_name tool'),
    utf16_name_inj, hashTranscript_eq_iff]

/-- A tool is found under its name. -/
lemma name_of_toolMap {toolName : String} {tool : Tool} (h : toolMap toolName = some tool) :
    tool.name = toolName := by
  have hfound := List.find?_some h
  exact of_decide_eq_true hfound

/-- The last call like another one is the one with its key. -/
lemma like_eq_writer (log : Log) (tool : Tool) (transcript : String) :
    log.like tool transcript = log.writer (cacheKey tool.name transcript) := by
  unfold Log.like Log.writer
  congr 1
  funext p
  exact decide_eq_decide.mpr cacheKey_eq_iff.symm

/-- A call like another one is of the same tool. -/
lemma tool_of_like {log : Log} {tool : Tool} {transcript : String} {p : Completed}
    (h : log.like tool transcript = some p) : p.tool = tool := by
  have hfound := List.find?_some h
  exact (of_decide_eq_true hfound).1

/-! ## Timers that have nothing to do -/

section Idle

variable {s : Timers} {roomId : RoomId} {now : ℕ}

/-- Without an interval there is none to clear. -/
lemma stopTimerInterval_eq_self (h : s.timerIntervals.get roomId = none) :
    s.stopTimerInterval roomId = s := by
  unfold Timers.stopTimerInterval
  rw [h]

/-- Starting a timer is always something to do. -/
lemma startTimer_ne_self (targetMinutes warningMinutes : ℚ) :
    s.startTimer roomId now targetMinutes warningMinutes ≠ s := by
  intro h
  have hnext : (s.stopTimerInterval roomId).next + 1 = s.next := congrArg Timers.next h
  rw [stopTimerInterval_next] at hnext
  omega

/-- A timer that is paused already, without an interval, or is not there. -/
lemma pauseTimer_eq_self_iff : s.pauseTimer roomId = s ↔ Idle s (some (.pauseTimer roomId)) := by
  simp only [Timers.pauseTimer, Idle]
  cases htimer : s.timerStore.get roomId with
  | none => simp
  | some timer =>
    simp only [Option.some.injEq, forall_eq']
    constructor
    · intro h
      have hstore := congrArg (fun s : Timers => s.timerStore.get roomId) h
      have hinterval := congrArg (fun s : Timers => s.timerIntervals.get roomId) h
      simp only [Timers.store, JsMap.get_set_self, htimer, Option.some.injEq] at hstore
      simp only [Timers.store, stopTimerInterval_timerIntervals, if_true] at hinterval
      exact ⟨(congrArg TimerData.timerState hstore).symm, hinterval.symm⟩
    · rintro ⟨hpaused, hinterval⟩
      have hself : { timer with timerState := .paused } = timer := by rw [← hpaused]
      rw [stopTimerInterval_eq_self hinterval, hself, Timers.store, JsMap.set_eq_self _ htimer]

/-- A timer that is not paused, or is not there. -/
lemma resumeTimer_eq_self_iff :
    s.resumeTimer roomId now = s ↔ Idle s (some (.resumeTimer roomId now)) := by
  simp only [Timers.resumeTimer, Idle]
  cases htimer : s.timerStore.get roomId with
  | none => simp
  | some timer =>
    simp only [Option.some.injEq, forall_eq']
    by_cases hpaused : timer.timerState = .paused
    · rw [if_neg (not_not_intro hpaused)]
      refine iff_of_false (fun h => ?_) (not_not_intro hpaused)
      have hnext : s.next + 1 = s.next := congrArg Timers.next h
      omega
    · rw [if_pos hpaused]
      exact iff_of_true rfl hpaused

/-- A timer that is not there. -/
lemma extendTimer_eq_self_iff {minutes : ℚ} (hminutes : minutes ≠ 0) :
    s.extendTimer roomId now minutes = s ↔ Idle s (some (.extendTimer roomId minutes now)) := by
  simp only [Timers.extendTimer, Idle]
  cases htimer : s.timerStore.get roomId with
  | none => simp
  | some timer =>
    refine iff_of_false (fun h => ?_) (by simp)
    -- the remaining time is another one in every branch
    have hremaining := congrArg
      (fun s : Timers => (s.timerStore.get roomId).map (·.remainingSeconds)) h
    have hchanged : timer.remainingSeconds + minutes * 60 = timer.remainingSeconds := by
      dsimp only at hremaining
      split at hremaining
      · split at hremaining
        · simpa [Timers.store, htimer] using hremaining
        · simpa [Timers.store, Timers.setInterval, htimer] using hremaining
      · simpa [Timers.store, htimer] using hremaining
    have hzero : minutes * 60 = 0 := by linarith
    exact hminutes ((mul_eq_zero.mp hzero).resolve_right (by norm_num))

/-- A timer that is not there, without an interval. -/
lemma stopTimer_eq_self_iff : s.stopTimer roomId = s ↔ Idle s (some (.stopTimer roomId)) := by
  simp only [Timers.stopTimer, Idle]
  constructor
  · intro h
    have hstore := congrArg (fun s : Timers => s.timerStore.get roomId) h
    have hinterval := congrArg (fun s : Timers => s.timerIntervals.get roomId) h
    simp only [JsMap.get_delete_self] at hstore
    simp only [stopTimerInterval_timerIntervals, if_true] at hinterval
    exact ⟨hstore.symm, hinterval.symm⟩
  · rintro ⟨hstore, hinterval⟩
    rw [stopTimerInterval_eq_self hinterval, JsMap.delete_eq_self _ hstore]

/-- A default is used for zero. -/
lemma orDefault_ne_zero {x : Option ℚ} {d : ℚ} (hd : d ≠ 0) : orDefault x d ≠ 0 := by
  unfold orDefault
  split
  · exact hd
  · split
    · exact hd
    · assumption

/-- **When the timer tool changes nothing.** -/
lemma execute_eq_self_iff (input : ToolInput) :
    (s.execute input now).1 = s ↔ Idle s (input.event now) := by
  rw [execute_state]
  unfold ToolInput.event
  cases input.context.bind (·.roomId) with
  | none => exact iff_of_true rfl trivial
  | some roomId =>
    by_cases hroom : roomId = ""
    · simp only [hroom, if_true]
      exact iff_of_true rfl trivial
    · simp only [hroom, if_false]
      cases (input.options.getD {}).action.bind TimerAction.ofString with
      | none => exact iff_of_true rfl trivial
      | some action =>
        rw [Option.bind_some, perform_event]
        cases action with
        | start => exact iff_of_false (startTimer_ne_self _ _) id
        | pause => exact pauseTimer_eq_self_iff
        | resume => exact resumeTimer_eq_self_iff
        | extend => exact extendTimer_eq_self_iff (orDefault_ne_zero (by norm_num))
        | stop => exact stopTimer_eq_self_iff
        | status => exact iff_of_true rfl trivial

end Idle

/-! ## The cache holds the last results -/

/-- The entries of the cache are the results of the last calls, and only results that are no longer
used are missing. -/
structure Mirrors (x : McpService × Log) : Prop where
  written : ∀ key entry, x.1.diagramCache.get key = some entry →
    ∃ p, x.2.writer key = some p ∧ p.result = entry.result ∧ p.time = entry.timestamp
  kept : ∀ key p, x.2.writer key = some p →
    (x.1.diagramCache.get key).isSome = true ∨ p.time + CACHE_TTL < x.2.clock

section Steps

variable {s s' : McpService} {log : Log} {e : Event}

/-- A step of the service with its log. -/
lemma diagrams_step {x' : McpService × Log} :
    diagrams.step (s, log) e = some x' ↔
      log.clock ≤ e.time log.clock ∧ s.step e = some x'.1 ∧ x'.2 = log.after s e :=
  EventSystem.guarded_pair_eq_some

/-- An event that leaves the cache alone. -/
lemma Mirrors.of_same {clock : ℕ} (h : Mirrors (s, log)) (hcache : s'.diagramCache = s.diagramCache)
    (hclock : log.clock ≤ clock) : Mirrors (s', ⟨log.completed, clock⟩) := by
  constructor
  · intro key entry hentry
    exact h.written key entry (hcache ▸ hentry)
  · intro key p hp
    rcases h.kept key p hp with hsome | hold
    · exact .inl (by rw [← hcache] at hsome; exact hsome)
    · exact .inr (hold.trans_le hclock)

/-- A call leaves the cache alone until it is completed. -/
lemma generateDiagram_diagramCache (toolName : String) (input : ToolInput) (now : ℕ) :
    (s.generateDiagram toolName input now).1.diagramCache = s.diagramCache := by
  unfold McpService.generateDiagram
  split
  · rfl
  · split <;> rfl

/-- The last call with a key, after one has been completed. -/
lemma writer_cons (p : Completed) (completed : List Completed) (clock : ℕ) (key : List ℕ) :
    (⟨p :: completed, clock⟩ : Log).writer key =
      if p.key = key then some p else (⟨completed, clock⟩ : Log).writer key := by
  unfold Log.writer
  rw [List.find?_cons]
  by_cases h : p.key = key
  · simp [h]
  · simp [h]

/-- A result that goes to the cache. -/
lemma Mirrors.executed {p : Completed} (h : Mirrors (s, log)) (entry : DiagramCacheEntry)
    (hcache : s'.diagramCache = s.diagramCache.set p.key entry) (hresult : p.result = entry.result)
    (htime : p.time = entry.timestamp) (hclock : log.clock ≤ p.time) :
    Mirrors (s', ⟨p :: log.completed, p.time⟩) := by
  constructor
  · intro key other hother
    dsimp only at hother ⊢
    rw [hcache, JsMap.get_set] at hother
    rw [writer_cons]
    split at hother
    · rename_i hkey
      cases hother
      exact ⟨p, if_pos hkey, hresult, htime⟩
    · rename_i hkey
      rw [if_neg hkey]
      exact h.written key other hother
  · intro key q hq
    rw [writer_cons] at hq
    dsimp only
    rw [hcache, JsMap.get_set]
    split at hq
    · rename_i hkey
      exact .inl (by rw [if_pos hkey]; rfl)
    · rename_i hkey
      rw [if_neg hkey]
      rcases h.kept key q hq with hsome | hold
      · exact .inl hsome
      · exact .inr (hold.trans_le hclock)

/-- The cleanup removes only results that are no longer used. -/
lemma Mirrors.cleanupCache (h : Mirrors (s, log)) {now : ℕ} (hclock : log.clock ≤ now) :
    Mirrors (s.cleanupCache now, ⟨log.completed, now⟩) := by
  have hget : ∀ key, (s.cleanupCache now).diagramCache.get key =
      if !(s.diagramCache.get key).any fun entry => entry.timestamp + CACHE_TTL < now then
        s.diagramCache.get key
      else none := fun key => JsMap.get_restrict _ _ key
  constructor
  · intro key entry hentry
    dsimp only at hentry
    rw [hget] at hentry
    split at hentry
    · exact h.written key entry hentry
    · cases hentry
  · intro key p hp
    dsimp only
    rw [hget]
    rcases h.kept key p hp with hsome | hold
    · obtain ⟨entry, hentry⟩ := Option.isSome_iff_exists.mp hsome
      dsimp only at hentry
      obtain ⟨q, hq, -, htime⟩ := h.written key entry hentry
      obtain rfl := Option.some.inj (hq.symm.trans hp)
      by_cases hexpired : entry.timestamp + CACHE_TTL < now
      · right
        rw [htime]
        exact hexpired
      · left
        rw [hentry, if_pos]
        · rfl
        · rw [Option.any_some, decide_eq_false hexpired]
          rfl
    · exact .inr (hold.trans_le hclock)

/-- **The cache mirrors the completed calls** after every step. -/
lemma mirrors_step {x x' : McpService × Log} (h : Mirrors x)
    (hstep : diagrams.step x e = some x') : Mirrors x' := by
  obtain ⟨s, log⟩ := x
  obtain ⟨s', log'⟩ := x'
  obtain ⟨hclock, hs, hlog⟩ := diagrams_step.mp hstep
  dsimp only at hs hlog
  subst hlog
  cases e with
  | generateDiagram toolName input now =>
    obtain rfl := Option.some.inj hs
    exact h.of_same (generateDiagram_diagramCache toolName input now) hclock
  | executed call reply now =>
    obtain ⟨execution, hcall, rfl⟩ := Option.map_eq_some_iff.mp hs
    cases houtcome : execution.outcomeWith reply with
    | ok output =>
      have hafter : log.after s (.executed call reply now) =
          ⟨⟨execution.tool, execution.input, resultOf (.ok output), now⟩ :: log.completed,
            now⟩ := by
        simp [Log.after, McpService.completing, hcall, houtcome, Event.time]
      rw [hafter]
      refine h.executed ⟨_, now, hashTranscript execution.input.transcript⟩ ?_ rfl rfl hclock
      simp [McpService.executed, houtcome, Completed.key]
    | error message =>
      have hafter : log.after s (.executed call reply now) = ⟨log.completed, now⟩ := by
        simp [Log.after, McpService.completing, hcall, houtcome, Event.time]
      rw [hafter]
      refine h.of_same ?_ hclock
      simp [McpService.executed, houtcome]
  | cleanupCache now =>
    obtain rfl := Option.some.inj hs
    exact h.cleanupCache hclock
  | timers e =>
    obtain ⟨timers, -, rfl⟩ := Option.map_eq_some_iff.mp hs
    exact h.of_same rfl hclock

/-- The cache is empty at the start. -/
lemma mirrors_init : Mirrors diagrams.init := by
  constructor
  · intro key entry hentry
    cases hentry
  · intro key p hp
    cases hp

/-- A call is answered from the cache exactly if the last call with its key is recent. -/
lemma Mirrors.cached_iff (h : Mirrors (s, log)) {toolName : String} {input : ToolInput} {now : ℕ}
    (hclock : log.clock ≤ now) (p : Completed) :
    (∃ entry, s.cached toolName input now = some entry ∧ p.result = entry.result ∧
      p.time = entry.timestamp ∧ log.writer (cacheKey toolName input.transcript) = some p) ↔
    log.writer (cacheKey toolName input.transcript) = some p ∧ now < p.time + CACHE_TTL := by
  constructor
  · rintro ⟨entry, hentry, -, htime, hp⟩
    have hfresh := of_decide_eq_true (Option.filter_eq_some_iff.mp hentry).2
    exact ⟨hp, htime ▸ hfresh⟩
  · rintro ⟨hp, hfresh⟩
    have hsome : (s.diagramCache.get (cacheKey toolName input.transcript)).isSome = true := by
      refine (h.kept _ p hp).resolve_right fun hold => ?_
      dsimp only at hold
      omega
    obtain ⟨entry, hentry⟩ := Option.isSome_iff_exists.mp hsome
    obtain ⟨q, hq, hresult, htime⟩ := h.written _ entry hentry
    obtain rfl := Option.some.inj (hq.symm.trans hp)
    refine ⟨entry, Option.filter_eq_some_iff.mpr ⟨hentry, decide_eq_true ?_⟩, hresult, htime, hp⟩
    exact htime ▸ hfresh

/-- A tool leaves the timers alone, unless it is the timer tool with something to do. -/
lemma execute_fst_eq_iff (tool : Tool) (timers : Timers) (input : ToolInput) (now : ℕ) :
    (tool.execute timers input now).1 = timers ↔
      (tool = .timer → Idle timers (input.event now)) := by
  cases tool with
  | timer =>
    have hiff : (timers.execute input now).1 = timers ↔ Idle timers (input.event now) :=
      execute_eq_self_iff input
    exact ⟨fun h _ => hiff.mp h, fun h => hiff.mpr (h rfl)⟩
  | _ => simp [Tool.execute]

/-- What a call needs for its answer to be transparent. -/
lemma transparent_iff_sameCall {x x' : McpService × Log} (h : Mirrors x)
    (hstep : diagrams.step x e = some x') : Transparent x e ↔ SameCall x e := by
  obtain ⟨s, log⟩ := x
  obtain ⟨hclock, -⟩ := diagrams_step.mp hstep
  cases e with
  | generateDiagram toolName input now =>
    constructor
    · intro htransparent tool p htool hlike hfresh
      rw [like_eq_writer, name_of_toolMap htool] at hlike
      obtain ⟨entry, hentry, -⟩ := (h.cached_iff hclock p).mpr ⟨hlike, hfresh⟩
      obtain ⟨q, hq, -, -, -, hinput, hexecute⟩ := htransparent tool entry htool hentry
      obtain rfl := Option.some.inj (hq.symm.trans hlike)
      exact ⟨hinput, (execute_fst_eq_iff tool s.timers input now).mp hexecute⟩
    · intro hsame tool entry htool hentry
      obtain ⟨hget, hfresh⟩ := Option.filter_eq_some_iff.mp hentry
      obtain ⟨p, hp, hresult, htime⟩ := h.written _ entry hget
      have hlike : log.like tool input.transcript = some p := by
        rw [like_eq_writer, name_of_toolMap htool]
        exact hp
      obtain ⟨hinput, hidle⟩ := hsame tool p htool hlike (htime ▸ of_decide_eq_true hfresh)
      exact ⟨p, hp, hresult, htime, tool_of_like hlike, hinput,
        (execute_fst_eq_iff tool s.timers input now).mpr hidle⟩
  | _ => exact Iff.rfl

end Steps

/-- **Transparency of the cache.** In every run, all answers from the cache are transparent if and
only if every call that is like an earlier one — the same tool, the same first 100 code units and
the same length — and comes within `CACHE_TTL` of it has the same input, and does not ask the timer
tool for something it has to do.

The result of a call of the timer tool is what it was when the tool was executed: the object in the
code goes on changing with the timer, in the cache and in the hands of the earlier caller alike. -/
theorem cache_transparent_iff {es : List Event} {x : McpService × Log}
    (hr : diagrams.exec diagrams.init es = some x) :
    diagrams.AllSteps Transparent diagrams.init es ↔ diagrams.AllSteps SameCall diagrams.init es :=
  EventSystem.allSteps_congr_of_invariant (I := Mirrors) (fun _ _ _ => mirrors_step)
    (fun _ _ _ => transparent_iff_sameCall) mirrors_init hr

/-- A call of a tool that asks the model. -/
def ofTranscript (transcript : String) (keywords : List String) : ToolInput :=
  { transcript := transcript
    context := some
      { roomId := some "a", keywords := some keywords, useFocusedContext := some true } }

/-- A call of the timer tool for a room. -/
def ofAction (action : String) : ToolInput :=
  { transcript := ""
    context := some { roomId := some "a" }
    options := some { action := some action } }

/-- What a tool makes of the reply of the model. -/
def drawn (toolName : String) (now : ℕ) : DiagramOutput :=
  ⟨toolName, .null, none, now, toolName, true⟩

/-- The same diagram is asked for twice, and again when the result is too old; the state of a timer
is asked for twice. -/
def repeated : List Event :=
  [.generateDiagram "erd" (ofTranscript "tables" ["user"]) 0,
    .executed 0 (.ok (drawn "erd" 900)) 1000,
    .generateDiagram "erd" (ofTranscript "tables" ["user"]) 2000,
    .generateDiagram "timer" (ofAction "status") 3000, .executed 1 (.error "") 3000,
    .generateDiagram "timer" (ofAction "status") 4000, .cleanupCache 600000,
    .generateDiagram "erd" (ofTranscript "tables" ["order"]) 700000]

/-- The cache is transparent in that run. -/
theorem cache_transparent_iff_repeated :
    ∃ x, diagrams.exec diagrams.init repeated = some x ∧ x.2.completed.length = 2 ∧
      diagrams.AllSteps Transparent diagrams.init repeated := by
  obtain ⟨x, hx, hlength⟩ := Option.map_eq_some_iff.mp (show
    (diagrams.exec diagrams.init repeated).map (·.2.completed.length) = some 2 by decide +kernel)
  refine ⟨x, hx, hlength, (cache_transparent_iff hx).mpr ?_⟩
  refine ⟨?_, trivial, ?_, ?_, trivial, ?_, trivial, ?_, trivial⟩
  · intro tool p _ hlike
    cases hlike
  · intro tool p htool hlike _
    obtain rfl : Tool.erd = tool := Option.some.inj htool
    obtain rfl := Option.some.inj hlike
    exact ⟨rfl, fun htimer => by cases htimer⟩
  · intro tool p htool hlike
    obtain rfl : Tool.timer = tool := Option.some.inj htool
    cases hlike
  · -- asking for the state is nothing to do
    intro tool p htool hlike _
    obtain rfl : Tool.timer = tool := Option.some.inj htool
    obtain rfl := Option.some.inj hlike
    exact ⟨rfl, fun _ => trivial⟩
  · -- the keywords are others, and the result is too old
    intro tool p htool hlike hfresh
    obtain rfl : Tool.erd = tool := Option.some.inj htool
    obtain rfl := Option.some.inj hlike
    exact absurd hfresh (by decide)

/-- A diagram has been drawn. -/
def drawnOnce (tool : Tool) (input : ToolInput) : List Event :=
  [.generateDiagram tool.name input 0, .executed 0 (.ok (drawn tool.name 900)) 1000]

/-- A timer has been started through the tool, and stopped. -/
def startedAndStopped : List Event :=
  [.generateDiagram "timer" (ofAction "start") 0, .executed 0 (.error "") 0,
    .timers (.stopTimer "a")]

/-- What a transparent cache says of the last call of a run, if that is answered from it. -/
lemma exists_writer_of_transparent {es : List Event} {x : McpService × Log} {toolName : String}
    {input : ToolInput} {now : ℕ} (tool : Tool)
    (h : diagrams.AllSteps Transparent diagrams.init (es ++ [.generateDiagram toolName input now]))
    (hx : diagrams.exec diagrams.init es = some x) (htool : toolMap toolName = some tool)
    (hhit : (x.1.cached toolName input now).isSome = true) :
    ∃ p, x.2.writer (cacheKey toolName input.transcript) = some p ∧ p.input = input ∧
      (tool.execute x.1.timers input now).1 = x.1.timers := by
  obtain ⟨entry, hentry⟩ := Option.isSome_iff_exists.mp hhit
  obtain ⟨p, hp, -, -, -, hinput, hexecute⟩ := h.last hx tool entry htool hentry
  exact ⟨p, hp, hinput, hexecute⟩

/-- A diagram that has been drawn is in the cache. -/
lemma exists_drawnOnce {tool : Tool} (htool : tool ≠ .timer) (input : ToolInput) :
    ∃ x entry, diagrams.exec diagrams.init (drawnOnce tool input) = some x ∧
      x.1.diagramCache.get (cacheKey tool.name input.transcript) = some entry ∧
      (x.2.writer (cacheKey tool.name input.transcript)).map (·.input) = some input := by
  cases tool with
  | timer => exact absurd rfl htool
  | _ =>
    refine ⟨_, _, rfl, JsMap.get_set_self _ _ _, ?_⟩
    exact congrArg (Option.map _) ((writer_cons _ _ _ _).trans (if_pos rfl))

/-- A second call with the same key is answered with the diagram of the first one. -/
lemma eq_of_transparent (tool : Tool) (htool : tool ≠ .timer) {input input' : ToolInput}
    (hkey : cacheKey tool.name input'.transcript = cacheKey tool.name input.transcript)
    (h : diagrams.AllSteps Transparent diagrams.init
      (drawnOnce tool input ++ [.generateDiagram tool.name input' 2000])) : input = input' := by
  obtain ⟨x, entry, hx, hentry, hwriter⟩ := exists_drawnOnce htool input
  have hname : toolMap tool.name = some tool := by cases tool <;> rfl
  have hhit : (x.1.cached tool.name input' 2000).isSome = true := by
    simp [McpService.cached, hkey, hentry, CACHE_TTL]
  obtain ⟨p, hp, hinput, -⟩ := exists_writer_of_transparent tool h hx hname hhit
  rw [← hkey, hp] at hwriter
  exact (Option.some.inj hwriter).symm.trans hinput

/-- A transcript of which only the last of 101 characters varies. -/
def longTranscript (last : Char) : String := String.ofList (List.replicate 100 'a' ++ [last])

/-- The code units of the long transcript. -/
lemma utf16_longTranscript (last : Char) :
    utf16 (longTranscript last) = List.replicate 100 (Char.toNat 'a') ++ utf16Units last := by
  have ha : utf16Units 'a' = [Char.toNat 'a'] := rfl
  rw [utf16, longTranscript, String.toList_ofList, List.flatMap_append, List.flatMap_replicate, ha,
    List.flatten_replicate_singleton, List.flatMap_singleton]

/-- **The cache is seen.** A diagram is answered with that of another transcript, and with that of
other keywords; and a timer is said to be started which is not. -/
theorem cache_seen :
    (¬ diagrams.AllSteps Transparent diagrams.init
      (drawnOnce .flowchart (ofTranscript (longTranscript 'b') []) ++
        [.generateDiagram "flowchart" (ofTranscript (longTranscript 'c') []) 2000])) ∧
    (¬ diagrams.AllSteps Transparent diagrams.init
      (drawnOnce .architecture (ofTranscript "servers" ["cache"]) ++
        [.generateDiagram "architecture" (ofTranscript "servers" ["queue"]) 2000])) ∧
    (¬ diagrams.AllSteps Transparent diagrams.init
      (startedAndStopped ++ [.generateDiagram "timer" (ofAction "start") 60000])) ∧
    ((diagrams.exec diagrams.init startedAndStopped).any fun x =>
      (x.1.generateDiagram "timer" (ofAction "start") 60000).2.any (·.success) ∧
        (x.1.generateDiagram "timer" (ofAction "start") 60000).1.timers.timerStore.get "a" = none) =
      true := by
  refine ⟨fun h => ?_, fun h => ?_, fun h => ?_, by decide +kernel⟩
  · have hkey : cacheKey (Tool.name .flowchart) (longTranscript 'c') =
        cacheKey (Tool.name .flowchart) (longTranscript 'b') := by
      rw [cacheKey_eq_iff, utf16_longTranscript, utf16_longTranscript,
        List.take_left' List.length_replicate, List.take_left' List.length_replicate]
      refine ⟨rfl, rfl, ?_⟩
      rw [List.length_append, List.length_append]
      rfl
    have hinput : ofTranscript (longTranscript 'b') [] = ofTranscript (longTranscript 'c') [] :=
      eq_of_transparent .flowchart (by decide) hkey h
    have hlast : List.replicate 100 'a' ++ ['b'] = List.replicate 100 'a' ++ ['c'] :=
      String.ofList_injective (congrArg ToolInput.transcript hinput)
    exact absurd (List.append_cancel_left hlast) (by decide)
  · have hinput : ofTranscript "servers" ["cache"] = ofTranscript "servers" ["queue"] :=
      eq_of_transparent .architecture (by decide) rfl h
    exact absurd (congrArg ToolInput.context hinput) (by decide)
  · obtain ⟨x, hx, hfacts⟩ := (Option.any_eq_true _ _).mp (show
      (diagrams.exec diagrams.init startedAndStopped).any (fun x =>
        (x.1.cached "timer" (ofAction "start") 60000).isSome = true ∧
          (x.1.timers.execute (ofAction "start") 60000).1.next ≠ x.1.timers.next) = true by
            decide +kernel)
    obtain ⟨hhit, hstarted⟩ := of_decide_eq_true hfacts
    obtain ⟨p, -, -, hexecute⟩ := exists_writer_of_transparent .timer h hx rfl hhit
    exact hstarted (congrArg Timers.next hexecute)

end Diagram
