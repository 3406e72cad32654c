import AuraLive.Rag.Statements

set_option relaxedAutoImplicit false
set_option autoImplicit false

/-!
# The transcript of a room

`getFormattedTranscript` renders the statement buffer, so the buffer should hold what was said last
in the room. The flush of the same buffer after an `open` empties it and refills it one statement
at a time, `injectMockStatements` ignores its size limit, and `disconnect` without a registered
connection leaves it alone. Here the runs that keep the transcript complete are characterised.

## Main definitions

* `Rag.givenAfter`, `Rag.transcriptRuns` — the statements given since the transcript was last reset,
  as a history variable of the client.
* `Rag.TranscriptComplete` — the buffer holds the last hundred of them.
* `Rag.KeepsTranscript` — the condition on a step.

## Main results

* `Rag.transcript_complete_iff` — the transcript is complete throughout a run exactly when every
  step meets the condition.
* `Rag.flush_loses_transcript` — a run in which it is not.
-/

namespace Rag

open Foundations

/-! ## What should be in the buffer -/

/-- The statements given to the room since the last `clearBuffer` or `disconnect`, by
`sendStatement` or by `injectMockStatements`. -/
def givenAfter (r : RoomId) (s : RagState) (e : Event) (given : List Statement) : List Statement :=
  if e.act.concerns r then
    match e.act with
    | .sendStatement _ text speaker startTime endTime _ =>
      given ++ [givenStatement s r text speaker startTime endTime]
    | .injectMockStatements _ utterances =>
      given ++ RagState.stmts (mockStatements s r utterances e.now)
    | .clearBuffer _ => []
    | .disconnect _ => []
    | .onModuleDestroy => []
    | _ => given
  else given

/-- The client with the statements given to a room as a history variable. -/
def transcriptRuns (r : RoomId) : EventSystem (RagState × List Statement) Event :=
  client.withHistory (givenAfter r) []

/-- The text `getFormattedTranscript` makes of statements. -/
def formatTranscript (l : List Statement) : String :=
  "\n".intercalate (l.map fun st => st.speaker ++ ": " ++ st.text)

/-- The buffer of the room holds exactly the last hundred statements given, in the order in which
they were given, and the transcript renders these. -/
structure TranscriptComplete (r : RoomId) (s : RagState) (given : List Statement) : Prop where
  size : (s.bufferOf r).length ≤ statementBufferMaxSize
  entries : RagState.stmts (s.bufferOf r) = Outbox.recent statementBufferMaxSize given
  transcript : s.getFormattedTranscript r =
    formatTranscript (Outbox.recent statementBufferMaxSize given)

/-- The entries determine the rest. -/
lemma transcriptComplete_iff {r : RoomId} {s : RagState} {given : List Statement} :
    TranscriptComplete r s given ↔
      RagState.stmts (s.bufferOf r) = Outbox.recent statementBufferMaxSize given := by
  refine ⟨TranscriptComplete.entries, fun h => ⟨?_, h, ?_⟩⟩
  · have hlen := congrArg List.length h
    rw [Outbox.length_recent, RagState.stmts, List.length_map] at hlen
    omega
  · rw [← h, RagState.getFormattedTranscript, formatTranscript, RagState.stmts, List.map_map]
    rfl

instance (r : RoomId) (s : RagState) (given : List Statement) :
    Decidable (TranscriptComplete r s given) :=
  decidable_of_iff _ transcriptComplete_iff.symm

/-! ## The condition -/

/-- The room and the utterances of a call of `injectMockStatements`. -/
def Act.injects : Act → Option (RoomId × List (String × String))
  | .injectMockStatements r utterances => some (r, utterances)
  | _ => none

/-- The condition for a step to keep the transcript of the room: a socket opens only with an empty
buffer or with a single entry that has not expired, utterances are injected only if they fit, and
`disconnect` is called only with a registered connection or an empty buffer. -/
def KeepsTranscript (r : RoomId) (s : RagState) (e : Event) : Prop :=
  (∀ w ∈ e.act.opens, w.room = r →
    RagState.validStatements (s.bufferOf r) e.now = s.bufferOf r ∧ (s.bufferOf r).length ≤ 1) ∧
  (∀ u ∈ e.act.injects, u.1 = r →
    (s.bufferOf r).length + u.2.length ≤ statementBufferMaxSize) ∧
  (e.act.disconnects = some r → (s.connections.get r).isSome = true ∨ s.bufferOf r = [])

instance (r : RoomId) (s : RagState) (e : Event) : Decidable (KeepsTranscript r s e) :=
  inferInstanceAs (Decidable ((∀ w ∈ e.act.opens, w.room = r →
    RagState.validStatements (s.bufferOf r) e.now = s.bufferOf r ∧ (s.bufferOf r).length ≤ 1) ∧
    (∀ u ∈ e.act.injects, u.1 = r →
      (s.bufferOf r).length + u.2.length ≤ statementBufferMaxSize) ∧
    (e.act.disconnects = some r → (s.connections.get r).isSome = true ∨ s.bufferOf r = [])))

/-- Injecting utterances concerns the room. -/
lemma Act.concerns_of_injects {a : Act} {u : RoomId × List (String × String)}
    (h : a.injects = some u) : a.concerns u.1 = true := by
  cases a <;> simp_all [Act.injects, Act.concerns, Act.room]
  rw [← h]

section Step

variable {r : RoomId} {s s' : RagState} {e : Event} {given : List Statement}

/-- A filtered buffer has the same statements exactly when nothing was filtered out. -/
lemma stmts_validStatements_eq (b : List PendingStatement) (now : ℕ) :
    RagState.stmts (RagState.validStatements b now) = RagState.stmts b ↔
      RagState.validStatements b now = b := by
  refine ⟨fun h => ?_, fun h => by rw [h]⟩
  have hlen := congrArg List.length h
  rw [RagState.stmts, RagState.stmts, List.length_map, List.length_map] at hlen
  exact List.filter_sublist.eq_of_length hlen

/-- Apart from a `disconnect` without a connection, the outbox records what is given. -/
lemma givenAfter_eq (hd : ¬ (e.act.disconnects = some r ∧ s.connections.get r = none)) :
    givenAfter r s e given = (outboxLabel r s e).record given := by
  by_cases hr : e.act.concerns r = true
  swap
  · rw [givenAfter, outboxLabel, if_neg hr, if_neg hr]
    rfl
  rw [givenAfter, outboxLabel, if_pos hr, if_pos hr]
  obtain ⟨now, act⟩ := e
  cases act with
  | disconnect r' =>
    obtain rfl : r' = r := by simpa [Act.concerns, Act.room] using hr
    have hsome : (s.connections.get r').isSome = true := by
      rw [Option.isSome_iff_ne_none]
      exact fun hn => hd ⟨rfl, hn⟩
    simp [hsome, Outbox.Label.record]
  | timer t ext =>
    dsimp only
    split <;> rfl
  | _ => rfl

/-- Apart from a `disconnect` without a connection, the condition is that of the outbox. -/
lemma keepsTranscript_iff (hd : ¬ (e.act.disconnects = some r ∧ s.connections.get r = none)) :
    KeepsTranscript r s e ↔
      Outbox.RecordGuard statementBufferMaxSize (s.outbox r) (outboxLabel r s e) := by
  have hbuf : (s.outbox r).buffer = RagState.stmts (s.bufferOf r) := rfl
  have hlen : (s.outbox r).buffer.length = (s.bufferOf r).length := List.length_map ..
  by_cases hr : e.act.concerns r = true
  swap
  · rw [outboxLabel, if_neg hr]
    refine ⟨fun _ => trivial, fun _ => ⟨fun w hw hwr => ?_, fun u hu hur => ?_, fun h => ?_⟩⟩
    · exact absurd (hwr ▸ Act.concerns_of_opens hw) hr
    · exact absurd (hur ▸ Act.concerns_of_injects hu) hr
    · exact absurd (Act.concerns_of_disconnects h) hr
  rw [outboxLabel, if_pos hr]
  obtain ⟨now, act⟩ := e
  cases act with
  | disconnect r' =>
    obtain rfl : r' = r := by simpa [Act.concerns, Act.room] using hr
    have hsome : (s.connections.get r').isSome = true := by
      rw [Option.isSome_iff_ne_none]
      exact fun hn => hd ⟨rfl, hn⟩
    simp [hsome, KeepsTranscript, Act.opens, Act.injects, Outbox.RecordGuard]
  | wsOpen w send =>
    obtain rfl : w.room = r := by simpa [Act.concerns, Act.room] using hr
    rw [Outbox.RecordGuard, hlen, hbuf, stmts_validStatements_eq]
    simp [KeepsTranscript, Act.opens, Act.injects, Act.disconnects]
  | injectMockStatements r' utterances =>
    obtain rfl : r' = r := by simpa [Act.concerns, Act.room] using hr
    simp [KeepsTranscript, Act.opens, Act.injects, Act.disconnects, Outbox.RecordGuard, hlen,
      RagState.stmts, mockStatements]
  | timer t ext =>
    dsimp only
    split <;> simp [KeepsTranscript, Act.opens, Act.injects, Act.disconnects, Outbox.RecordGuard]
  | _ => simp [KeepsTranscript, Act.opens, Act.injects, Act.disconnects, Outbox.RecordGuard]

/-- A `disconnect` without a connection leaves the outbox alone. -/
lemma outboxLabel_disconnect (given : List Statement) (h : e.act.disconnects = some r)
    (hn : s.connections.get r = none) :
    outboxLabel r s e = .quiet ∧ givenAfter r s e given = [] := by
  have hr := Act.concerns_of_disconnects h
  rw [outboxLabel, givenAfter, if_pos hr, if_pos hr]
  obtain ⟨now, act⟩ := e
  cases act <;> simp_all [Act.disconnects]

/-- A step that meets the condition keeps the record. -/
lemma recorded_step (h : StatementsOk s)
    (hrec : Outbox.Recorded statementBufferMaxSize given (s.outbox r))
    (hc : KeepsTranscript r s e) (hs : step s e = some s') :
    Outbox.Recorded statementBufferMaxSize (givenAfter r s e given) (s'.outbox r) := by
  have hstep := (step_outbox h.closed (h.counts r) hs).outbox
  by_cases hd : e.act.disconnects = some r ∧ s.connections.get r = none
  · obtain ⟨hl, hg⟩ := outboxLabel_disconnect given hd.1 hd.2
    have hempty : (s.outbox r).buffer = [] := by
      have := (hc.2.2 hd.1).resolve_left (by simp [hd.2])
      simp [RagState.outbox, this, RagState.stmts]
    rw [hl] at hstep
    cases hstep with
    | quiet hq =>
      rw [hg]
      exact ⟨hq.buffer.trans (hempty.trans (by simp [Outbox.recent])),
        fun b hb => hrec.idle b (hq.batches.subset hb)⟩
  · rw [givenAfter_eq hd]
    exact hrec.step (by decide) ((keepsTranscript_iff hd).mp hc) hstep

/-- A step that does not meet the condition loses the transcript. -/
lemma not_recorded_step (h : StatementsOk s)
    (hrec : Outbox.Recorded statementBufferMaxSize given (s.outbox r))
    (hc : ¬ KeepsTranscript r s e) (hs : step s e = some s') :
    ¬ TranscriptComplete r s' (givenAfter r s e given) := by
  have hstep := (step_outbox h.closed (h.counts r) hs).outbox
  rw [transcriptComplete_iff]
  by_cases hd : e.act.disconnects = some r ∧ s.connections.get r = none
  · obtain ⟨hl, hg⟩ := outboxLabel_disconnect given hd.1 hd.2
    rw [hl] at hstep
    cases hstep with
    | quiet hq =>
      rw [hg]
      intro he
      have hempty : (s.outbox r).buffer = [] :=
        hq.buffer.symm.trans (he.trans (by simp [Outbox.recent]))
      refine hc ⟨fun w hw => ?_, fun u hu => ?_, fun _ => .inr (List.map_eq_nil_iff.mp hempty)⟩
      · exact absurd hd.1 (by cases ha : e.act <;> simp_all [Act.opens, Act.disconnects])
      · exact absurd hd.1 (by cases ha : e.act <;> simp_all [Act.injects, Act.disconnects])
  · rw [givenAfter_eq hd]
    exact hrec.not_step (by decide) (fun hg => hc ((keepsTranscript_iff hd).mpr hg)) hstep

end Step

/-- **When the transcript is complete.** Throughout a run the buffer of the room holds exactly the
last hundred statements given, in order, if and only if every step of the run meets
`KeepsTranscript`.

**Proof sketch.** The invariant is `Foundations.Outbox.Recorded` of the outbox of the room. A step
keeps it when it meets the condition and makes the transcript incomplete when it does not. -/
theorem transcript_complete_iff (r : RoomId) {es : List Event} {t : RagState}
    (hr : client.exec client.init es = some t) :
    (transcriptRuns r).AllStates (fun p => TranscriptComplete r p.1 p.2) (transcriptRuns r).init
        es ↔
      client.AllSteps (KeepsTranscript r) client.init es := by
  have hsteps : (transcriptRuns r).AllSteps (fun p e => KeepsTranscript r p.1 e)
      (transcriptRuns r).init es ↔ client.AllSteps (KeepsTranscript r) client.init es :=
    EventSystem.withHistory_allSteps
  obtain ⟨given, hr'⟩ : ∃ given, (transcriptRuns r).exec (transcriptRuns r).init es =
      some (t, given) := EventSystem.withHistory_exec [] hr
  rw [← hsteps]
  refine EventSystem.allStates_iff_allSteps
    (I := fun p => StatementsOk p.1 ∧
      Outbox.Recorded statementBufferMaxSize p.2 (p.1.outbox r)) ?_ ?_ ?_ ?_ hr'
  · rintro ⟨s, given⟩ ⟨-, hrec⟩
    exact transcriptComplete_iff.mpr hrec.buffer
  · rintro ⟨s, given⟩ e p' ⟨hok, hrec⟩ hc hs
    obtain ⟨hs, hg⟩ := EventSystem.withHistory_step.mp hs
    exact ⟨step_statementsOk hok hs, hg ▸ recorded_step hok hrec hc hs⟩
  · rintro ⟨s, given⟩ e p' ⟨hok, hrec⟩ hc hs
    obtain ⟨hs, hg⟩ := EventSystem.withHistory_step.mp hs
    exact hg ▸ not_recorded_step hok hrec hc hs
  · exact ⟨init_statementsOk, rfl, by simp [transcriptRuns, EventSystem.withHistory, client,
      RagState.init, RagState.outbox, RagState.jobs]⟩

/-- A statement is given, the socket opens with it alone in the buffer, and a second one is given:
the transcript is complete throughout. -/
theorem transcript_complete_iff_single :
    (transcriptRuns "r").AllStates (fun p => TranscriptComplete "r" p.1 p.2)
      (transcriptRuns "r").init
      [⟨0, .connect "r" .ok⟩, ⟨10, .sendStatement "r" "a" "kim" none none .ok⟩,
        ⟨100, .wsOpen ⟨"r", 1⟩ .ok⟩, ⟨200, .sendStatement "r" "b" "lee" none none .ok⟩] := by
  have hrun : (client.exec client.init
      [⟨0, .connect "r" .ok⟩, ⟨10, .sendStatement "r" "a" "kim" none none .ok⟩,
        ⟨100, .wsOpen ⟨"r", 1⟩ .ok⟩, ⟨200, .sendStatement "r" "b" "lee" none none .ok⟩]).isSome =
      true := by decide
  obtain ⟨t, ht⟩ := Option.isSome_iff_exists.mp hrun
  exact (transcript_complete_iff "r" ht).mpr (by decide)

/-- Two statements are buffered while the room is connecting, and the socket opens. -/
def twoBuffered : List Event :=
  [⟨0, .connect "r" .ok⟩, ⟨10, .sendStatement "r" "a" "kim" none none .ok⟩,
    ⟨20, .sendStatement "r" "b" "lee" none none .ok⟩, ⟨100, .wsOpen ⟨"r", 1⟩ .ok⟩]

/-- **A flush loses the transcript.** It empties the buffer, and puts back only the first statement
before it pauses. -/
theorem flush_loses_transcript :
    Timely twoBuffered ∧
      ¬ (transcriptRuns "r").AllStates (fun p => TranscriptComplete "r" p.1 p.2)
        (transcriptRuns "r").init twoBuffered :=
  ⟨by decide, by decide⟩

end Rag
