import AuraLive.Rag.Statements

set_option relaxedAutoImplicit false
set_option autoImplicit false

/-!
# Delivery of statements

What reaches the server of the statements given to `sendStatement`: how often, and in which order.
The buffer of a room keeps statements also after they were sent, because it doubles as the
transcript of the room, and every `open` flushes it; a flush pauses after each statement. Both
guarantees therefore depend on what is buffered and what is still to be flushed when a socket opens.

## Main definitions

* `Rag.RagState.framesOf` — the number of frames sent for a `sendStatement` call.
* `Rag.FlushesNew` — a socket opens without a delivered statement of the call in the buffer.
* `Rag.InCallOrder` — statements are first sent in the order of the calls.
* `Rag.FlushesAlone` — nothing overtakes a suspended flush.

## Main results

* `Rag.statement_sent_at_most_once`, `Rag.statements_sent_in_call_order` — the two guarantees for
  the runs that meet these conditions.
* `Rag.statement_resent_after_reconnect`, `Rag.statement_overtakes_flush` — runs that do not, in
  which the guarantees fail.
-/

namespace Rag

open Foundations

/-- Whether a statement was given by the call `c` of `sendStatement`. -/
def Statement.isFrom (c : Oid) (st : Statement) : Bool := st.origin = .call c

/-- Whether a frame was sent for the call `c` of `sendStatement`. -/
def SentFrame.carries (c : Oid) (f : SentFrame) : Bool := f.origin.stmt.any (Statement.isFrom c)

/-- The number of frames sent for the call `c` of `sendStatement`, on whatever socket. -/
def RagState.framesOf (s : RagState) (c : Oid) : ℕ := s.frames.countP (SentFrame.carries c)

/-- Whether the timer will retry the statement of the call `c`. -/
def TimerKind.retries (c : Oid) (k : TimerKind) : Bool := k.retried.any (Statement.isFrom c)

/-! ## At most once -/

/-- When a socket of the room opens and the statement of the call `c` is among the buffered ones
that have not expired, it has not been sent and no retry of it is pending. -/
def FlushesNew (c : Oid) (s : RagState) (e : Event) : Prop :=
  ∀ w ∈ e.act.opens,
    (RagState.validStatements (s.bufferOf w.room) e.now).any (fun p => p.isFrom c) = true →
      s.framesOf c = 0 ∧ s.timers.any (fun tm => tm.kind.retries c) = false

instance (c : Oid) (s : RagState) (e : Event) : Decidable (FlushesNew c s e) :=
  inferInstanceAs (Decidable (∀ w ∈ e.act.opens,
    (RagState.validStatements (s.bufferOf w.room) e.now).any (fun p => p.isFrom c) = true →
      s.framesOf c = 0 ∧ s.timers.any (fun tm => tm.kind.retries c) = false))

/-- The frames of a call are found on the sockets of its room. -/
lemma framesOf_eq {s : RagState} (h : StatementsOk s) (c : Oid) :
    s.framesOf c = (s.outbox c.room).sent.countP (Statement.isFrom c) := by
  simp only [RagState.framesOf, RagState.outbox, RagState.sentStatements, List.countP_filterMap,
    List.countP_filter]
  refine List.countP_congr fun f hf => ?_
  cases ho : f.origin.stmt with
  | none => simp [SentFrame.carries, ho]
  | some st =>
    have hmem : st ∈ (s.outbox f.sock.room).items := by
      refine Outbox.mem_items.mpr (.inr (.inr (.inr ?_)))
      refine List.mem_filterMap.mpr ⟨f, ?_, ho⟩
      simpa using hf
    have hroom := (h.named f.sock.room st hmem).1
    simp only [SentFrame.carries, ho, Option.any_some, Option.map_some, Option.getD_some,
      Bool.and_eq_true, decide_eq_true_eq]
    refine ⟨fun hc => ⟨hc, ?_⟩, And.left⟩
    have horigin : st.origin = .call c := by simpa [Statement.isFrom] using hc
    rw [← hroom, horigin]
    rfl

/-- A statement of the room that is just given is the first one from its call. -/
lemma fresh_not_in_outbox {s s' : RagState} {r : RoomId} {l : Outbox.Label Statement}
    (h : StatementsOk s) (hstep : StatementStep r s l s') {x y : Statement} (hx : x ∈ l.given)
    (hy : y ∈ (s.outbox r).items) : y.origin.id.idx < x.origin.id.idx :=
  (h.named r y hy).2.trans_le (hstep.given x hx).2.1

/-- A step that meets `FlushesNew` meets the condition of the outbox. -/
lemma onceGuard_of_flushesNew {c : Oid} {s s' : RagState} {e : Event} (h : StatementsOk s)
    (hs : step s e = some s') (hc : FlushesNew c s e) :
    Outbox.OnceGuard (Statement.isFrom c) (s.outbox c.room) (outboxLabel c.room s e) := by
  have hstep := step_outbox h.closed (h.counts c.room) hs
  cases hl : outboxLabel c.room s e with
  | give x a =>
    intro hx
    refine Outbox.routes_copies_eq_zero fun y hy hy' => ?_
    have hlt := fresh_not_in_outbox h hstep (x := x) (by simp [hl, Outbox.Label.given]) hy
    simp only [Statement.isFrom, decide_eq_true_eq] at hx hy'
    rw [hx, hy'] at hlt
    exact lt_irrefl _ hlt
  | stock xs =>
    obtain ⟨utterances, rfl⟩ := outboxLabel_stock hl
    refine List.countP_eq_zero.mpr fun x hx => ?_
    obtain ⟨p, hp, rfl⟩ := List.mem_map.mp hx
    obtain ⟨-, i, -, ho⟩ := mockStatements_origin hp
    simp [Statement.isFrom, ho]
  | flush kept a =>
    obtain ⟨w, send, hact, hw, -, rfl⟩ := outboxLabel_flush hl
    intro hpos
    obtain ⟨x, hx, hxc⟩ := List.countP_pos_iff.mp hpos
    obtain ⟨p, hp, rfl⟩ := List.mem_map.mp hx
    obtain ⟨hsent, hretry⟩ := hc w (by simp [hact, Act.opens])
      (List.any_eq_true.mpr ⟨p, hw ▸ hp, hxc⟩)
    refine ⟨framesOf_eq h c ▸ hsent, List.countP_eq_zero.mpr fun y hy hyc => ?_⟩
    obtain ⟨tm, htm, hy⟩ := List.mem_filterMap.mp hy
    have := List.any_eq_false.mp hretry tm (List.mem_of_mem_filter htm)
    simp [TimerKind.retries, hy, hyc] at this
  | quiet | clear | resume | retry => trivial

/-- **At most one frame for each statement call.** In a run in which every `open` meets
`FlushesNew` for the call `c`, at most one frame is sent for `c`, in every state of the run.

**Proof sketch.** The invariant is `Foundations.Outbox.AtMostOnce` of the outbox of the room of the
call: at most one item of the call is sent, to be retried or to be flushed, and at most one copy of
it is stored. -/
theorem statement_sent_at_most_once (c : Oid) {es : List Event}
    (h : client.AllSteps (FlushesNew c) client.init es) :
    client.AllStates (fun s => s.framesOf c ≤ 1) client.init es := by
  refine EventSystem.allStates_of_invariant
    (I := fun s => StatementsOk s ∧ Outbox.AtMostOnce (Statement.isFrom c) (s.outbox c.room))
    ?_ ?_ ⟨init_statementsOk, ?_⟩ h
  · rintro s e s' ⟨hok, hinv⟩ hc hs
    have hstep := step_outbox hok.closed (hok.counts c.room) hs
    exact ⟨step_statementsOk hok hs, hinv.step (onceGuard_of_flushesNew hok hs hc) hstep.outbox⟩
  · rintro s ⟨hok, hinv⟩
    have := hinv.routes_le
    rw [framesOf_eq hok]
    simp only [Outbox.routes] at this
    omega
  · have h0 := Outbox.routes_copies_eq_zero (p := Statement.isFrom c)
      (o := client.init.outbox c.room) (by
        intro x hx
        exact absurd (init_statementsOk.named c.room x hx).2 (Nat.not_lt_zero _))
    exact ⟨by omega, by omega⟩

/-- A statement given while the room is connecting is sent by the flush, once. -/
theorem statement_sent_at_most_once_buffered :
    client.AllStates (fun s => s.framesOf ⟨"r", 3⟩ ≤ 1) client.init
        [⟨0, .connect "r" .ok⟩, ⟨100, .sendStatement "r" "hi" "kim" none none .ok⟩,
          ⟨200, .wsOpen ⟨"r", 1⟩ .ok⟩, ⟨300, .timer ⟨"r", 4⟩ .ok⟩] ∧
      (client.exec client.init [⟨0, .connect "r" .ok⟩,
        ⟨100, .sendStatement "r" "hi" "kim" none none .ok⟩, ⟨200, .wsOpen ⟨"r", 1⟩ .ok⟩,
        ⟨300, .timer ⟨"r", 4⟩ .ok⟩]).map (fun s => s.framesOf ⟨"r", 3⟩) = some 1 :=
  ⟨statement_sent_at_most_once ⟨"r", 3⟩ (by decide), by decide⟩

/-- A statement is sent on an open connection, which is lost then; the reconnect timer fires, and
the new socket opens. -/
def reconnecting : List Event :=
  [⟨0, .connect "r" .ok⟩, ⟨100, .wsOpen ⟨"r", 1⟩ .ok⟩,
    ⟨200, .sendStatement "r" "hi" "kim" none none .ok⟩, ⟨300, .wsClose ⟨"r", 1⟩ 1006⟩,
    ⟨10300, .timer ⟨"r", 4⟩ .ok⟩, ⟨10400, .wsOpen ⟨"r", 6⟩ .ok⟩]

/-- **A delivered statement is sent again after a reconnect.** It stays in the buffer, which the new
socket flushes. -/
theorem statement_resent_after_reconnect :
    Timely reconnecting ∧
      ¬ client.AllStates (fun s => s.framesOf ⟨"r", 3⟩ ≤ 1) client.init reconnecting :=
  ⟨by decide, by decide⟩

/-! ## In the order of the calls -/

/-- The outcome of the `ws.send` an event makes, or would make on an open connection. -/
def sendResult (s : RagState) (e : Event) : Option CallResult :=
  match e.act with
  | .sendStatement _ _ _ _ _ send => some send
  | .sendQuestion _ _ send => some send
  | .sendQuestionWithSources _ _ send => some send
  | .wsOpen _ send => some send
  | .timer t ext =>
    match (s.findTimer t).map Timer.kind with
    | some (.flushNext _) => some ext
    | some (.statementRetry _ _) => some ext
    | _ => none
  | _ => none

/-- No `ws.send` throws. -/
def SendsSucceed (s : RagState) (e : Event) : Prop := ∀ res ∈ sendResult s e, res = .ok

instance (s : RagState) (e : Event) : Decidable (SendsSucceed s e) :=
  inferInstanceAs (Decidable (∀ res ∈ sendResult s e, res = .ok))

/-- Whether a statement was given by a call of `sendStatement`. -/
def Statement.isCall (st : Statement) : Bool :=
  match st.origin with
  | .call _ => true
  | .mock _ => false

/-- The number of the call a statement came from. -/
def Statement.number (st : Statement) : ℕ := st.origin.id.idx

/-- The statements of a list that come from calls and have not been sent on a socket of the room. -/
def RagState.undelivered (s : RagState) (r : RoomId) (l : List Statement) : List Statement :=
  Outbox.waiting Statement.isCall (s.sentStatements r) l

/-- What the suspended flushes of a room have still to send. -/
def RagState.flushing (s : RagState) (r : RoomId) : List Statement := (s.outbox r).batches.flatten

/-- The room a client's `sendStatement` is called for. -/
def Act.gives : Act → Option RoomId
  | .sendStatement r _ _ _ _ _ => some r
  | _ => none

/-- Nothing overtakes a suspended flush of the room: a client calls `sendStatement` only when
everything the suspended flushes have still to send has been delivered before, and a socket opens
only in that case or when all but the first of the statements it will flush have been. -/
def FlushesAlone (r : RoomId) (s : RagState) (e : Event) : Prop :=
  (e.act.gives = some r → s.undelivered r (s.flushing r) = []) ∧
    ∀ w ∈ e.act.opens, w.room = r → s.undelivered r (s.flushing r) = [] ∨
      s.undelivered r
        (RagState.stmts (RagState.validStatements (s.bufferOf r) e.now)).tail = []

instance (r : RoomId) (s : RagState) (e : Event) : Decidable (FlushesAlone r s e) :=
  inferInstanceAs (Decidable ((e.act.gives = some r → s.undelivered r (s.flushing r) = []) ∧
    ∀ w ∈ e.act.opens, w.room = r → s.undelivered r (s.flushing r) = [] ∨
      s.undelivered r
        (RagState.stmts (RagState.validStatements (s.bufferOf r) e.now)).tail = []))

/-- The statements sent on the sockets of a room appear there first in the order of their calls:
of two calls of the room the one with the smaller number is the earlier one. -/
def InCallOrder (r : RoomId) (s : RagState) : Prop :=
  ∀ m n i j, m < n → (s.sentStatements r).findIdx? (Statement.isFrom ⟨r, m⟩) = some i →
    (s.sentStatements r).findIdx? (Statement.isFrom ⟨r, n⟩) = some j → i < j

/-- A step that meets the conditions meets the condition of the outbox. -/
lemma orderGuard_of_flushesAlone {r : RoomId} {s s' : RagState} {e : Event} (h : StatementsOk s)
    (hs : step s e = some s') (hsend : SendsSucceed s e) (hc : FlushesAlone r s e) :
    Outbox.OrderGuard Statement.isCall Statement.number (s.outbox r) (outboxLabel r s e) := by
  have hstep := step_outbox h.closed (h.counts r) hs
  cases hl : outboxLabel r s e with
  | give x a =>
    obtain ⟨text, speaker, startTime, endTime, send, hact, rfl, -⟩ := outboxLabel_give hl
    obtain rfl : send = .ok := hsend send (by simp [sendResult, hact])
    refine ⟨rfl, hc.1 (by simp [hact, Act.gives]), fun y hy _ => ?_⟩
    refine fresh_not_in_outbox h hstep (x := x) (by simp [hl, Outbox.Label.given]) ?_
    rcases List.mem_append.mp hy with hy | hy
    · exact Outbox.mem_items.mpr (.inl hy)
    · exact Outbox.mem_items.mpr (.inr (.inr (.inr hy)))
  | stock xs =>
    obtain ⟨utterances, rfl⟩ := outboxLabel_stock hl
    intro x hx
    obtain ⟨p, hp, rfl⟩ := List.mem_map.mp hx
    obtain ⟨-, i, -, ho⟩ := mockStatements_origin hp
    simp [Statement.isCall, ho]
  | flush kept a =>
    obtain ⟨w, send, hact, hw, rfl, rfl⟩ := outboxLabel_flush hl
    obtain rfl : send = .ok := hsend send (by simp [sendResult, hact])
    exact ⟨rfl, hc.2 w (by simp [hact, Act.opens]) hw⟩
  | resume batch a =>
    obtain ⟨t, ext, rest, hact, hk, rfl, -⟩ := outboxLabel_resume hl
    obtain rfl : ext = .ok := hsend ext (by simp [sendResult, hact, hk])
    rfl
  | quiet | clear | retry => trivial

/-- **Statements are sent in the order of the calls.** In a run in which no `ws.send` throws and
every step meets `FlushesAlone` for the room, the statements of the room are first sent in the order
in which `sendStatement` was called, in every state of the run.

**Proof sketch.** The invariant is `Foundations.Outbox.Ordered` of the outbox of the room: what
waits to be sent lies in the order of the calls in the buffer and in one flush, behind everything
that was sent. -/
theorem statements_sent_in_call_order (r : RoomId) {es : List Event}
    (h : client.AllSteps (fun s e => SendsSucceed s e ∧ FlushesAlone r s e) client.init es) :
    client.AllStates (InCallOrder r) client.init es := by
  refine EventSystem.allStates_of_invariant
    (I := fun s => StatementsOk s ∧
      Outbox.Ordered Statement.isCall Statement.number (s.outbox r)) ?_ ?_
    ⟨init_statementsOk, ?_⟩ h
  · rintro s e s' ⟨hok, hinv⟩ ⟨hsend, hc⟩ hs
    have hstep := step_outbox hok.closed (hok.counts r) hs
    exact ⟨step_statementsOk hok hs,
      hinv.step (orderGuard_of_flushesAlone hok hs hsend hc) hstep.outbox⟩
  · rintro s ⟨-, hinv⟩ m n i j hlt hi hj
    refine hinv.firsts.findIdx_lt (fun x hx => ?_) (fun y hy => ?_) (fun x y hx hy => ?_) hi hj
    · simp only [Statement.isFrom, decide_eq_true_eq] at hx
      simp [Statement.isCall, hx]
    · simp only [Statement.isFrom, decide_eq_true_eq] at hy
      simp [Statement.isCall, hy]
    · simp only [Statement.isFrom, decide_eq_true_eq] at hx hy
      simpa [Statement.number, hx, hy, StatementOrigin.id] using hlt
  · have hempty : client.init.outbox r = ⟨[], [], [], [], false⟩ := rfl
    rw [hempty]
    exact ⟨rfl, .nil, .nil, fun _ => rfl, by simp, fun l₁ x l₂ he => by simp at he⟩

/-- Two buffered statements are flushed before a third one is given. -/
theorem statements_sent_in_call_order_flushed :
    client.AllStates (InCallOrder "r") client.init
        [⟨0, .connect "r" .ok⟩, ⟨10, .sendStatement "r" "a" "kim" none none .ok⟩,
          ⟨20, .sendStatement "r" "b" "lee" none none .ok⟩, ⟨100, .wsOpen ⟨"r", 1⟩ .ok⟩,
          ⟨200, .timer ⟨"r", 5⟩ .ok⟩, ⟨300, .sendStatement "r" "c" "kim" none none .ok⟩] ∧
      (client.exec client.init
        [⟨0, .connect "r" .ok⟩, ⟨10, .sendStatement "r" "a" "kim" none none .ok⟩,
          ⟨20, .sendStatement "r" "b" "lee" none none .ok⟩, ⟨100, .wsOpen ⟨"r", 1⟩ .ok⟩,
          ⟨200, .timer ⟨"r", 5⟩ .ok⟩, ⟨300, .sendStatement "r" "c" "kim" none none .ok⟩]).map
        (fun s => (s.sentStatements "r").map Statement.number) = some [3, 4, 7] :=
  ⟨statements_sent_in_call_order "r" (by decide), by decide⟩

/-- Two statements are buffered while the room is connecting, and a third one is given while the
flush pauses. -/
def overtaking : List Event :=
  [⟨0, .connect "r" .ok⟩, ⟨10, .sendStatement "r" "a" "kim" none none .ok⟩,
    ⟨20, .sendStatement "r" "b" "lee" none none .ok⟩, ⟨100, .wsOpen ⟨"r", 1⟩ .ok⟩,
    ⟨150, .sendStatement "r" "c" "kim" none none .ok⟩, ⟨200, .timer ⟨"r", 5⟩ .ok⟩]

/-- **A statement overtakes a flush.** The flush sends the first one and pauses; the third one is
sent before the second. -/
theorem statement_overtakes_flush :
    Timely overtaking ∧ client.AllSteps SendsSucceed client.init overtaking ∧
      ¬ client.AllStates (InCallOrder "r") client.init overtaking := by
  refine ⟨by decide, by decide, fun h => ?_⟩
  have hrun : (client.exec client.init overtaking).map
      (fun s => ((s.sentStatements "r").findIdx? (Statement.isFrom ⟨"r", 4⟩),
        (s.sentStatements "r").findIdx? (Statement.isFrom ⟨"r", 6⟩))) = some (some 2, some 1) := by
    decide
  obtain ⟨t, ht, hidx⟩ := Option.map_eq_some_iff.mp hrun
  obtain ⟨hb, hc⟩ := Prod.mk.inj hidx
  exact absurd (h.last ht 4 6 2 1 (by decide) hb hc) (by decide)

end Rag
