import AuraLive.Perplexity.Service

set_option relaxedAutoImplicit false
set_option autoImplicit false

/-!
# The steps of the Perplexity service

What one call of the service can do, said once for all properties of its runs.

## Main definitions

* `Perplexity.Takes` — all that a call can do before it tries to propagate.
* `Perplexity.TouchesOnly`, `Perplexity.Kept` — what it leaves alone, of the service and of the
  session of its room.
* `Perplexity.PerplexityService.evaluated` — the session whose constraints a call evaluates.

## Main results

* `Perplexity.takes_receive` — every call does one of the things listed in `Takes`.
* `Perplexity.Takes.touchesOnly`, `Perplexity.Takes.carries` — a call touches only the entry of its
  room and, unless it starts a session, carries the session object over.
* `Perplexity.step_cases` — a step either only takes a call in or also evaluates the constraints.
* `Perplexity.step_session` — where the sessions after a step come from.
-/

namespace Perplexity

open Foundations

variable [Rounding] {s s' t : PerplexityService} {e : Event} {handed : Option PerplexitySession}

/-! ## Taking a call in -/

/-- The session of a `STATE_UPDATE` with its observation applied. -/
def StateUpdatePayload.apply (payload : StateUpdatePayload) (session : PerplexitySession)
    (cell : ParticipantCell) (now : ℕ) : PerplexitySession :=
  match payload.state with
  | none => session
  | some state => session.observe payload.participantId cell state payload.confidence now

/-- The session after a report. -/
def PerplexitySession.applyReports (session : PerplexitySession) (now : ℕ)
    (updates : List StateReport) : PerplexitySession :=
  updates.foldl (fun session u => session.applyReport now u) session

/-- All that a call can do before it tries to propagate: the service after it, and the session that
is handed to `tryPropagate`. -/
inductive Takes (s : PerplexityService) (e : Event) :
    PerplexityService → Option PerplexitySession → Prop
  /-- Nothing happens: a message of no concern, or no active session or participant. -/
  | nothing : Takes s e s none
  /-- A session is started. -/
  | start (hcall : e.call = .startSession ∨ e.call = .handleMessage .perplexityStart) :
      Takes s e (s.startSession e.roomId e.now) none
  /-- The session is ended. -/
  | stop (hcall : e.call = .endSession ∨ e.call = .handleMessage .perplexityEnd) :
      Takes s e (s.endSession e.roomId) none
  /-- A participant gets a cell. -/
  | join {session : PerplexitySession} {p name : String} (hcall : e.call = .addParticipant p name)
      (hsession : s.sessions.get e.roomId = some session)
      (hnew : session.participants.get p = none) :
      Takes s e (s.put e.roomId { session with
        participants := session.participants.set p (createParticipantCell p name e.now) }) none
  /-- A participant loses its cell. -/
  | leave {session : PerplexitySession} {p : String} (hcall : e.call = .removeParticipant p)
      (hsession : s.sessions.get e.roomId = some session) :
      Takes s e (s.put e.roomId { session with participants := session.participants.delete p })
        none
  /-- A state update without a state. -/
  | empty {session : PerplexitySession} {cell : ParticipantCell} {payload : StateUpdatePayload}
      (hcall : e.call = .handleMessage (.stateUpdate payload))
      (hsession : s.sessions.get e.roomId = some session) (hactive : session.isActive = true)
      (hcell : session.participants.get payload.participantId = some cell)
      (hstate : payload.state = none) :
      Takes s e s (some session)
  /-- A state update. -/
  | update {session : PerplexitySession} {cell : ParticipantCell} {payload : StateUpdatePayload}
      {state : CognitiveState} (hcall : e.call = .handleMessage (.stateUpdate payload))
      (hsession : s.sessions.get e.roomId = some session) (hactive : session.isActive = true)
      (hcell : session.participants.get payload.participantId = some cell)
      (hstate : payload.state = some state) :
      Takes s e
        (s.put e.roomId
          (session.observe payload.participantId cell state payload.confidence e.now))
        (some (session.observe payload.participantId cell state payload.confidence e.now))
  /-- An entropy report. -/
  | report {session : PerplexitySession} {updates : List StateReport}
      (hcall : e.call = .handleMessage (.entropyReport updates))
      (hsession : s.sessions.get e.roomId = some session) (hactive : session.isActive = true) :
      Takes s e (s.put e.roomId (updateSessionEntropy (session.applyReports e.now updates)))
        (some (updateSessionEntropy (session.applyReports e.now updates)))
  /-- A text of which no state is inferred. -/
  | hear {session : PerplexitySession} {p text : String}
      (hcall : e.call = .handleMessage (.transcript p text))
      (hsession : s.sessions.get e.roomId = some session) :
      Takes s e (s.put e.roomId (session.record ⟨p, text, e.now⟩)) none
  /-- A text of which a state is inferred. -/
  | infer {session : PerplexitySession} {p text : String} {state : CognitiveState}
      (hcall : e.call = .handleMessage (.transcript p text))
      (hsession : s.sessions.get e.roomId = some session) :
      Takes s e
        { s.put e.roomId (updateSessionEntropy
            ((session.record ⟨p, text, e.now⟩).applyText p state e.now)) with
          inferences := ⟨e.roomId, session.serial, p, e.now⟩ :: s.inferences }
        (some (updateSessionEntropy
          ((session.record ⟨p, text, e.now⟩).applyText p state e.now)))

/-- A message is taken in.

**Proof sketch.** One case for each kind of message, and for each of the tests that the code makes
before it changes something. -/
lemma takes_handleMessage {message : PerplexityMessage}
    (hcall : e.call = .handleMessage message) :
    Takes s e (s.handleMessage e.roomId e.now message).1
      (s.handleMessage e.roomId e.now message).2 := by
  cases message with
  | perplexityStart => exact .start (.inr hcall)
  | perplexityEnd => exact .stop (.inr hcall)
  | stateUpdate payload =>
    simp only [PerplexityService.handleMessage, PerplexityService.handleStateUpdate]
    split
    · exact .nothing
    · rename_i session hsession
      split
      · exact .nothing
      · rename_i hactive
        split
        · exact .nothing
        · rename_i cell hcell
          have hactive' : session.isActive = true := by simpa using hactive
          split
          · rename_i hstate
            exact .empty hcall hsession hactive' hcell hstate
          · rename_i state hstate
            exact .update hcall hsession hactive' hcell hstate
  | entropyReport updates =>
    simp only [PerplexityService.handleMessage, PerplexityService.handleEntropyReport]
    split
    · exact .nothing
    · rename_i session hsession
      split
      · exact .nothing
      · rename_i hactive
        exact .report hcall hsession (by simpa using hactive)
  | transcript p text =>
    simp only [PerplexityService.handleMessage, PerplexityService.handleTranscript,
      PerplexityService.addTranscript]
    cases hsession : s.sessions.get e.roomId with
    | none => exact .nothing
    | some session =>
      by_cases hactive : session.isActive = true
      · cases inferStateFromTranscript text with
        | none =>
          simp only [hactive, Bool.not_true, Bool.false_eq_true, if_false]
          exact .hear hcall hsession
        | some state =>
          simp only [hactive, Bool.not_true, Bool.false_eq_true, if_false, PerplexityService.put,
            JsMap.get_set_self, JsMap.set_set]
          exact .infer hcall hsession
      · simp only [hactive, Bool.not_false, if_true]
        exact .nothing
  | observation => exact .nothing
  | propagation => exact .nothing
  | action => exact .nothing

/-- **Taking a call in.** Every call does one of the things listed. -/
theorem takes_receive (s : PerplexityService) (e : Event) :
    Takes s e (s.receive e).1 (s.receive e).2 := by
  unfold PerplexityService.receive
  split
  · rename_i hcall
    exact .start (.inl hcall)
  · rename_i hcall
    exact .stop (.inl hcall)
  · rename_i p name hcall
    simp only [PerplexityService.addParticipant]
    split
    · exact .nothing
    · rename_i session hsession
      split
      · exact .nothing
      · rename_i hhas
        exact .join hcall hsession (by simpa [JsMap.has] using hhas)
  · rename_i p hcall
    simp only [PerplexityService.removeParticipant]
    split
    · exact .nothing
    · rename_i session hsession
      exact .leave hcall hsession
  · rename_i message hcall
    exact takes_handleMessage hcall

/-! ## What a call touches -/

/-- What a call for a room may touch before it propagates is the session of the room, its count,
and the recorded inferences. -/
structure TouchesOnly (s s' : PerplexityService) (roomId : RoomId) : Prop where
  wfcEngine : s'.wfcEngine = s.wfcEngine
  clock : s'.clock = s.clock
  propagations : s'.propagations = s.propagations
  sessions : ∀ r, r ≠ roomId → s'.sessions.get r = s.sessions.get r
  started : ∀ r, r ≠ roomId → s'.started r = s.started r

omit [Rounding] in
/-- Writing to the session of a room touches nothing else. -/
lemma put_touchesOnly (s : PerplexityService) (roomId : RoomId) (session : PerplexitySession) :
    TouchesOnly s (s.put roomId session) roomId :=
  ⟨rfl, rfl, rfl, fun _ h => JsMap.get_set_of_ne _ h.symm _, fun _ _ => rfl⟩

/-- A call touches only its room. -/
lemma Takes.touchesOnly (h : Takes s e s' handed) : TouchesOnly s s' e.roomId := by
  cases h with
  | nothing => exact ⟨rfl, rfl, rfl, fun _ _ => rfl, fun _ _ => rfl⟩
  | start =>
    exact ⟨rfl, rfl, rfl, fun _ h => JsMap.get_set_of_ne _ h.symm _,
      fun _ h => Function.update_of_ne h _ _⟩
  | stop => exact ⟨rfl, rfl, rfl, fun _ h => JsMap.get_delete_of_ne _ h.symm, fun _ _ => rfl⟩
  | join => exact put_touchesOnly s e.roomId _
  | leave => exact put_touchesOnly s e.roomId _
  | empty => exact ⟨rfl, rfl, rfl, fun _ _ => rfl, fun _ _ => rfl⟩
  | update => exact put_touchesOnly s e.roomId _
  | report => exact put_touchesOnly s e.roomId _
  | hear => exact put_touchesOnly s e.roomId _
  | infer => exact { put_touchesOnly s e.roomId _ with }

/-- The session a handler passes to `tryPropagate` is the one held for the room. -/
lemma Takes.handed_get {session : PerplexitySession} (h : Takes s e s' (some session)) :
    s'.sessions.get e.roomId = some session := by
  cases h with
  | empty _ hsession _ _ _ => exact hsession
  | update => exact JsMap.get_set_self _ _ _
  | report => exact JsMap.get_set_self _ _ _
  | infer => exact JsMap.get_set_self _ _ _

/-! ## What a call keeps of the session -/

/-- What handlers keep of a session object before they propagate. -/
structure Kept (session session' : PerplexitySession) : Prop where
  serial : session'.serial = session.serial
  lastPropagation : session'.lastPropagation = session.lastPropagation

omit [Rounding] in
/-- Two changes in a row. -/
lemma Kept.trans {a b c : PerplexitySession} (h : Kept a b) (h' : Kept b c) : Kept a c :=
  ⟨h'.serial.trans h.serial, h'.lastPropagation.trans h.lastPropagation⟩

omit [Rounding] in
/-- Other cells and other transcripts. -/
lemma Kept.cells (session : PerplexitySession) (participants : JsMap String ParticipantCell)
    (recent : List Transcript) :
    Kept session { session with participants := participants, recentTranscripts := recent } :=
  ⟨rfl, rfl⟩

/-- A refreshed entropy. -/
lemma Kept.updateSessionEntropy (session : PerplexitySession) :
    Kept session (updateSessionEntropy session) := ⟨rfl, rfl⟩

/-- A text of which a state is inferred. -/
lemma Kept.applyText (session : PerplexitySession) (t : Transcript) (p : String)
    (state : CognitiveState) (now : ℕ) :
    Kept session ((session.record t).applyText p state now) := by
  unfold PerplexitySession.applyText
  split
  · exact .cells session _ _
  · exact .cells session _ _

/-- A report. -/
lemma Kept.applyReports (now : ℕ) (updates : List StateReport) (session : PerplexitySession) :
    Kept session (session.applyReports now updates) := by
  unfold PerplexitySession.applyReports
  induction updates generalizing session with
  | nil => exact .cells session _ _
  | cons u updates ih =>
    refine Kept.trans ?_ (ih _)
    show Kept session (session.applyReport now u)
    unfold PerplexitySession.applyReport
    repeat' split
    all_goals exact .cells session _ _

/-- **The session object of the room.** A call starts a new session, or its room has afterwards, if
any, the session object it had before. -/
theorem Takes.carries (h : Takes s e s' handed) :
    (s' = s.startSession e.roomId e.now ∧ handed = none) ∨
      s'.started e.roomId = s.started e.roomId ∧
        ∀ session', s'.sessions.get e.roomId = some session' →
          ∃ session, s.sessions.get e.roomId = some session ∧ Kept session session' := by
  have hput : ∀ session session', s.sessions.get e.roomId = some session →
      Kept session session' → ∀ session'', (s.put e.roomId session').sessions.get e.roomId =
        some session'' → ∃ session, s.sessions.get e.roomId = some session ∧
          Kept session session'' := by
    intro session session' hsession hk session'' h''
    simp only [PerplexityService.put, JsMap.get_set_self, Option.some.injEq] at h''
    exact ⟨session, hsession, h'' ▸ hk⟩
  cases h with
  | nothing => exact .inr ⟨rfl, fun session' h' => ⟨session', h', .cells session' _ _⟩⟩
  | start => exact .inl ⟨rfl, rfl⟩
  | stop => exact .inr ⟨rfl, fun session' h' => by simp [PerplexityService.endSession] at h'⟩
  | join _ hsession _ => exact .inr ⟨rfl, hput _ _ hsession (.cells _ _ _)⟩
  | leave _ hsession => exact .inr ⟨rfl, hput _ _ hsession (.cells _ _ _)⟩
  | empty => exact .inr ⟨rfl, fun session' h' => ⟨session', h', .cells session' _ _⟩⟩
  | update _ hsession _ _ _ => exact .inr ⟨rfl, hput _ _ hsession (.cells _ _ _)⟩
  | report _ hsession _ =>
    exact .inr ⟨rfl, hput _ _ hsession ((Kept.applyReports _ _ _).trans (.updateSessionEntropy _))⟩
  | hear _ hsession => exact .inr ⟨rfl, hput _ _ hsession (.cells _ _ _)⟩
  | infer _ hsession =>
    exact .inr ⟨rfl, hput _ _ hsession
      ((Kept.applyText _ _ _ _ _).trans (.updateSessionEntropy _))⟩

/-! ## Steps -/

/-- The session whose constraints a call evaluates, as the conditions see it. -/
def PerplexityService.evaluated (s : PerplexityService) (e : Event) : Option PerplexitySession :=
  ((s.receive e).2.filter fun session => PerplexityService.due session e.now).map fun session =>
    { session with lastPropagation := e.now }

/-- The session after its constraints have been evaluated. -/
def PerplexityService.concluded (s : PerplexityService) (e : Event) (session : PerplexitySession) :
    PerplexitySession :=
  { session with
    actionHistory := session.actionHistory ++
      (propagate s.wfcEngine session e.now).2.actions.map (·, e.now) }

/-- A step that evaluates no constraints. -/
structure Quiet (s : PerplexityService) (e : Event) (s' : PerplexityService) : Prop where
  evaluated : s.evaluated e = none
  wfcEngine : s'.wfcEngine = s.wfcEngine
  propagations : s'.propagations = s.propagations
  session : s'.sessions.get e.roomId = (s.receive e).1.sessions.get e.roomId

/-- A step that evaluates the constraints of a session. -/
structure Evaluates (s : PerplexityService) (e : Event) (s' : PerplexityService)
    (session : PerplexitySession) : Prop where
  evaluated : s.evaluated e = some session
  wfcEngine : s'.wfcEngine = (propagate s.wfcEngine session e.now).1
  propagations : s'.propagations =
    ⟨e.roomId, session, e.now, (propagate s.wfcEngine session e.now).2⟩ :: s.propagations
  session : s'.sessions.get e.roomId = some (s.concluded e session)

/-- What every step does. -/
structure Steps (s : PerplexityService) (e : Event) (s' : PerplexityService) : Prop where
  clock : s.clock ≤ e.now
  clock' : s'.clock = e.now
  started : s'.started = (s.receive e).1.started
  inferences : s'.inferences = (s.receive e).1.inferences
  others : ∀ r, r ≠ e.roomId → s'.sessions.get r = s.sessions.get r

/-- A step is a call, and the clock is set. -/
lemma step_eq (h : perplexity.step s e = some s') :
    s.clock ≤ e.now ∧ s' = { s.handle e with clock := e.now } := by
  by_cases hlt : e.now < s.clock
  · simp [perplexity, hlt] at h
  · simp only [perplexity, if_neg hlt, Option.some.injEq] at h
    exact ⟨not_lt.mp hlt, h.symm⟩

/-- **Steps.** A step takes a call in, and either evaluates no constraints or those of one
session.

**Proof sketch.** What taking the call in touches is known (`Takes.touchesOnly`). If no session is
handed on, or it is not due, nothing else happens. Otherwise its constraints are evaluated, and the
entry of the room, the stamps and the log are those of `evaluate`. -/
theorem step_cases (h : perplexity.step s e = some s') :
    Steps s e s' ∧ (Quiet s e s' ∨ ∃ session, Evaluates s e s' session) := by
  obtain ⟨hclock, rfl⟩ := step_eq h
  have htouch := (takes_receive s e).touchesOnly
  cases hhanded : (s.receive e).2 with
  | none =>
    have hhandle : s.handle e = (s.receive e).1 := by
      unfold PerplexityService.handle
      split <;> simp_all
    refine ⟨⟨hclock, rfl, by rw [hhandle], by rw [hhandle], fun r hr => ?_⟩, .inl ⟨?_, ?_, ?_, ?_⟩⟩
    · simp only [hhandle, htouch.sessions r hr]
    · simp [PerplexityService.evaluated, hhanded]
    · simp only [hhandle, htouch.wfcEngine]
    · simp only [hhandle, htouch.propagations]
    · simp only [hhandle]
  | some session =>
    have hhandle : s.handle e = (s.receive e).1.tryPropagate e.roomId e.now session := by
      unfold PerplexityService.handle
      split <;> simp_all
    cases hdue : PerplexityService.due session e.now with
    | false =>
      have htry : s.handle e = (s.receive e).1 := by
        simp [hhandle, PerplexityService.tryPropagate, hdue]
      refine ⟨⟨hclock, rfl, by rw [htry], by rw [htry], fun r hr => ?_⟩, .inl ⟨?_, ?_, ?_, ?_⟩⟩
      · simp only [htry, htouch.sessions r hr]
      · simp [PerplexityService.evaluated, hhanded, hdue]
      · simp only [htry, htouch.wfcEngine]
      · simp only [htry, htouch.propagations]
      · simp only [htry]
    | true =>
      have htry : s.handle e = (s.receive e).1.evaluate e.roomId e.now session := by
        simp [hhandle, PerplexityService.tryPropagate, hdue]
      refine ⟨⟨hclock, rfl, by rw [htry]; rfl, by rw [htry]; rfl, fun r hr => ?_⟩,
        .inr ⟨{ session with lastPropagation := e.now }, ⟨?_, ?_, ?_, ?_⟩⟩⟩
      · simp only [htry, PerplexityService.evaluate, JsMap.get_set_of_ne _ hr.symm,
          htouch.sessions r hr]
      · simp [PerplexityService.evaluated, hhanded, hdue]
      · simp only [htry, PerplexityService.evaluate, htouch.wfcEngine]
      · simp only [htry, PerplexityService.evaluate, htouch.wfcEngine, htouch.propagations]
      · simp only [htry, PerplexityService.evaluate, htouch.wfcEngine, JsMap.get_set_self,
          PerplexityService.concluded]

/-- The session that is evaluated is the one of the room, due, with the time of the evaluation
noted. -/
lemma evaluated_eq_some {session : PerplexitySession} (h : s.evaluated e = some session) :
    ∃ handed, (s.receive e).2 = some handed ∧ PerplexityService.due handed e.now = true ∧
      session = { handed with lastPropagation := e.now } := by
  obtain ⟨handed, hhanded, rfl⟩ := Option.map_eq_some_iff.mp h
  obtain ⟨h₁, h₂⟩ := Option.filter_eq_some_iff.mp hhanded
  exact ⟨handed, h₁, h₂, rfl⟩

/-- A session whose constraints are evaluated is the present session of the room. -/
lemma evaluated_origin {session : PerplexitySession} (h : s.evaluated e = some session) :
    ∃ old handed, s.sessions.get e.roomId = some old ∧ Kept old handed ∧
      PerplexityService.due handed e.now = true ∧
      session = { handed with lastPropagation := e.now } ∧
      (s.receive e).1.started e.roomId = s.started e.roomId := by
  obtain ⟨handed, hhanded, hdue, heq⟩ := evaluated_eq_some h
  have htakes := takes_receive s e
  rw [hhanded] at htakes
  rcases htakes.carries with ⟨-, hnone⟩ | ⟨hstarted, hc⟩
  · cases hnone
  · obtain ⟨old, hold, hk⟩ := hc handed htakes.handed_get
    exact ⟨old, handed, hold, hk, hdue, heq, hstarted⟩

/-- The sessions after a step: a session is an earlier one, or the call has started it. -/
lemma step_session (h : perplexity.step s e = some s') {r : RoomId}
    {session' : PerplexitySession} (hr : s'.sessions.get r = some session') :
    (∃ session, s.sessions.get r = some session ∧ session'.serial = session.serial ∧
        (session'.lastPropagation = session.lastPropagation ∨
          session'.lastPropagation = e.now)) ∨
      (session'.serial = s.started r ∧ s'.started r = s.started r + 1) := by
  obtain ⟨hsteps, hcases⟩ := step_cases h
  by_cases hroom : r = e.roomId
  · subst hroom
    rcases hcases with hq | ⟨session, hev⟩
    · rw [hq.session] at hr
      rcases (takes_receive s e).carries with ⟨hstart, -⟩ | ⟨-, hc⟩
      · rw [hstart] at hr
        simp only [PerplexityService.startSession, JsMap.get_set_self, Option.some.injEq] at hr
        refine .inr ⟨by rw [← hr], ?_⟩
        simp [hsteps.started, hstart, PerplexityService.startSession]
      · obtain ⟨old, hold, hk⟩ := hc session' hr
        exact .inl ⟨old, hold, hk.serial, .inl hk.lastPropagation⟩
    · obtain ⟨old, handed, hold, hk, -, rfl, -⟩ := evaluated_origin hev.evaluated
      have hs' := hev.session.symm.trans hr
      simp only [Option.some.injEq, PerplexityService.concluded] at hs'
      subst hs'
      exact .inl ⟨old, hold, hk.serial, .inr rfl⟩
  · rw [hsteps.others r hroom] at hr
    exact .inl ⟨session', hr, rfl, .inl rfl⟩

/-- The number of sessions of a room does not decrease. -/
lemma step_started (h : perplexity.step s e = some s') (r : RoomId) :
    s.started r ≤ s'.started r := by
  rw [(step_cases h).1.started]
  by_cases hroom : r = e.roomId
  · subst hroom
    rcases (takes_receive s e).carries with ⟨hstart, -⟩ | ⟨hstarted, -⟩
    · simp [hstart, PerplexityService.startSession]
    · exact Nat.le_of_eq hstarted.symm
  · rw [(takes_receive s e).touchesOnly.started r hroom]

end Perplexity
