import AuraLive.Rag.Effects

set_option relaxedAutoImplicit false
set_option autoImplicit false

/-!
# Which promises are settled by whom

Every promise is settled by the code of the call that returned it: the promise a socket captured
belongs to a `connect` call, that of a report call to `requestReport`, that of a request timer to a
question. So the code of connections and reports leaves the promises of questions alone.

## Main definitions

* `Rag.PromisesOk` — names are not reused, and the captured promises are of the right kind.
* `Rag.RagState.questionAt` — the promise with a given name, if a question call returned it.
* `Rag.Spares` — code that keeps the invariant and leaves the promises of questions alone.

## Main results

* `Rag.connect_spares`, `Rag.requestReport_spares`, `Rag.httpResponse_spares`, `Rag.fire_spares` and
  so on — the handlers that leave questions alone.
* `Rag.reachable_promisesOk` — the invariant holds in every reachable state.
-/

namespace Rag

open Foundations

namespace RagState

/-- The call that returned a promise. -/
def promiseKind (s : RagState) (q : Oid) : Option PromiseKind :=
  (s.promises.get q).map Promise.kind

end RagState

/-- Names of promises and sockets are drawn from the counters; the promise of a socket was returned
by `connect`, that of a report call by `requestReport`, and that of a request timer by a question on
a socket that is no longer connecting. -/
structure PromisesOk (s : RagState) : Prop where
  promiseNames : ∀ q p, s.promises.get q = some p → q.idx < s.fresh q.room
  socketNames : ∀ w k, s.sockets.get w = some k → w.idx < s.fresh w.room
  sockets : ∀ w k, s.sockets.get w = some k → s.promiseKind k.promise = some .connect
  reports : ∀ q c, s.reportCalls.get q = some c → s.promiseKind q = some .report
  timers : ∀ tm ∈ s.timers, ∀ kind w text q, tm.kind = .request kind w text q →
    s.promiseKind q = some (.question kind text) ∧
      ∃ k, s.sockets.get w = some k ∧ k.readyState ≠ .CONNECTING

section PromisesOk

variable {s s' : RagState} {r : RoomId}

/-- The next name of a room names no promise. -/
lemma PromisesOk.freshId_promises (h : PromisesOk s) (r : RoomId) :
    s.promises.get (s.freshId r) = none := by
  by_contra hsome
  obtain ⟨p, hp⟩ := Option.ne_none_iff_exists'.mp hsome
  exact lt_irrefl _ (h.promiseNames _ p hp)

/-- The next name of a room names no socket. -/
lemma PromisesOk.freshId_sockets (h : PromisesOk s) (r : RoomId) :
    s.sockets.get (s.freshId r) = none := by
  by_contra hsome
  obtain ⟨k, hk⟩ := Option.ne_none_iff_exists'.mp hsome
  exact lt_irrefl _ (h.socketNames _ k hk)

/-- Settling a promise does not change which call returned it. -/
lemma settle_promiseKind (s : RagState) (q q' : Oid) (v : Settlement) :
    (s.settle q v).promiseKind q' = s.promiseKind q' := by
  simp only [RagState.promiseKind, RagState.settle_promises, JsMap.get_update]
  split
  · rw [Option.map_map]
    rfl
  · rfl

/-- A new promise does not change which call returned another one. -/
lemma newPromise_promiseKind (h : PromisesOk s) (r : RoomId) (kind : PromiseKind) {q : Oid}
    {k : PromiseKind} (hq : s.promiseKind q = some k) :
    (s.newPromise r kind).promiseKind q = some k := by
  have hne : s.freshId r ≠ q := by
    rintro rfl
    simp [RagState.promiseKind, h.freshId_promises r] at hq
  rw [← hq]
  simp only [RagState.promiseKind, RagState.newPromise_promises, JsMap.get_set_of_ne _ hne]

/-- The call that returned a new promise. -/
lemma newPromise_promiseKind_self (s : RagState) (r : RoomId) (kind : PromiseKind) :
    (s.newPromise r kind).promiseKind (s.freshId r) = some kind := by
  simp [RagState.promiseKind]

/-- Names that were drawn stay drawn. -/
lemma lt_fresh_of_effect (a : Effect) {q : Oid} (h : q.idx < s.fresh q.room) :
    q.idx < (a.apply s).fresh q.room :=
  h.trans_le ((Effects.one (T := [a.tag]) s a (by simp)).fresh_le q.room)

/-- What an operation has to observe: a socket captures a promise of `connect`, a request timer one
of a question on a socket that is not connecting, and a report call is named by its promise. -/
def Effect.Observes (a : Effect) (s : RagState) : Prop :=
  match a with
  | .newSocket _ promise _ => s.promiseKind promise = some .connect
  | .setReportCall call _ => s.promiseKind call = some .report
  | .setTimeout _ kind _ => ∀ k w text q, kind = .request k w text q →
      s.promiseKind q = some (.question k text) ∧
        ∃ c, s.sockets.get w = some c ∧ c.readyState ≠ .CONNECTING
  | _ => True

/-- Changing the state of a socket, except back to `CONNECTING`. -/
lemma PromisesOk.updateSocket (h : PromisesOk s) (w : Oid) {f : Socket → Socket}
    (hp : ∀ k, (f k).promise = k.promise)
    (hf : ∀ k, k.readyState ≠ .CONNECTING → (f k).readyState ≠ .CONNECTING) :
    PromisesOk { s with sockets := s.sockets.update w f } := by
  have key : ∀ w' k', (s.sockets.update w f).get w' = some k' →
      ∃ k, s.sockets.get w' = some k ∧ k'.promise = k.promise := by
    intro w' k' hk'
    rw [JsMap.get_update] at hk'
    split at hk'
    · obtain ⟨k, hk, rfl⟩ := Option.map_eq_some_iff.mp hk'
      exact ⟨k, hk, hp k⟩
    · exact ⟨k', hk', rfl⟩
  refine ⟨h.promiseNames, fun w' k' hk' => ?_, fun w' k' hk' => ?_, h.reports,
    fun tm htm kind w' text q hk => ?_⟩
  · obtain ⟨k, hk, -⟩ := key w' k' hk'
    exact h.socketNames w' k hk
  · obtain ⟨k, hk, hpr⟩ := key w' k' hk'
    rw [hpr]
    exact h.sockets w' k hk
  · obtain ⟨hq, k, hw, hc⟩ := h.timers tm htm kind w' text q hk
    refine ⟨hq, ?_⟩
    simp only [JsMap.get_update]
    split
    · exact ⟨f k, by rw [hw]; rfl, hf k hc⟩
    · exact ⟨k, hw, hc⟩

/-- Making a promise under the next name. -/
lemma PromisesOk.newPromise (h : PromisesOk s) (r : RoomId) (kind : PromiseKind) :
    PromisesOk (s.newPromise r kind) := by
  have hlt : ∀ q : Oid, q.idx < s.fresh q.room → q.idx < (s.newPromise r kind).fresh q.room :=
    fun q => lt_fresh_of_effect (.newPromise r kind)
  refine ⟨fun q p hq => ?_, fun w k hk => hlt w (h.socketNames w k hk),
    fun w k hk => newPromise_promiseKind h r kind (h.sockets w k hk),
    fun q c hq => newPromise_promiseKind h r kind (h.reports q c hq),
    fun tm htm k w text q hk => ?_⟩
  · by_cases hne : s.freshId r = q
    · subst hne
      simp [RagState.freshId]
    · rw [RagState.newPromise_promises, JsMap.get_set_of_ne _ hne] at hq
      exact hlt q (h.promiseNames q p hq)
  · obtain ⟨hq, hw⟩ := h.timers tm htm k w text q hk
    exact ⟨newPromise_promiseKind h r kind hq, hw⟩

/-- Settling a promise. -/
lemma PromisesOk.settle (h : PromisesOk s) (q : Oid) (v : Settlement) :
    PromisesOk (s.settle q v) := by
  refine ⟨fun q' p hq => ?_, h.socketNames,
    fun w k hk => (settle_promiseKind s q _ v).trans (h.sockets w k hk),
    fun q' c hq => (settle_promiseKind s q _ v).trans (h.reports q' c hq),
    fun tm htm k w text q' hk => ?_⟩
  · rw [RagState.settle_promises, JsMap.get_update] at hq
    split at hq
    · obtain ⟨p₀, hp₀, -⟩ := Option.map_eq_some_iff.mp hq
      exact h.promiseNames q' p₀ hp₀
    · exact h.promiseNames q' p hq
  · obtain ⟨hq, hw⟩ := h.timers tm htm k w text q' hk
    exact ⟨(settle_promiseKind s q _ v).trans hq, hw⟩

/-- Creating a socket under the next name, with a promise of `connect`. -/
lemma PromisesOk.newSocket (h : PromisesOk s) (r : RoomId) {promise : Oid}
    (hp : s.promiseKind promise = some .connect) (due : ℕ) :
    PromisesOk (s.newSocket r promise due) := by
  have hlt : ∀ q : Oid, q.idx < s.fresh q.room →
      q.idx < (s.newSocket r promise due).fresh q.room :=
    fun q => lt_fresh_of_effect (.newSocket r promise due)
  refine ⟨fun q p hq => hlt q (h.promiseNames q p hq), fun w k hk => ?_, fun w k hk => ?_,
    h.reports, fun tm htm kind w text q hk => ?_⟩
  · by_cases hne : s.freshId r = w
    · subst hne
      simp [RagState.freshId]
    · rw [RagState.newSocket_sockets, JsMap.get_set_of_ne _ hne] at hk
      exact hlt w (h.socketNames w k hk)
  · by_cases hne : s.freshId r = w
    · subst hne
      rw [RagState.newSocket_sockets, JsMap.get_set_self] at hk
      obtain rfl := Option.some.inj hk
      exact hp
    · rw [RagState.newSocket_sockets, JsMap.get_set_of_ne _ hne] at hk
      exact h.sockets w k hk
  · rcases List.mem_append.mp htm with htm | htm
    · obtain ⟨hq, k, hw, hc⟩ := h.timers tm htm kind w text q hk
      have hne : s.freshId r ≠ w := by
        rintro rfl
        rw [h.freshId_sockets r] at hw
        cases hw
      exact ⟨hq, k, (JsMap.get_set_of_ne _ hne _).trans hw, hc⟩
    · rw [List.mem_singleton.mp htm] at hk
      cases hk

/-- An operation that observes its part keeps the invariant. -/
lemma PromisesOk.effect (h : PromisesOk s) {a : Effect} (ha : a.Observes s) :
    PromisesOk (a.apply s) := by
  have hlt : ∀ q : Oid, q.idx < s.fresh q.room → q.idx < (a.apply s).fresh q.room :=
    fun q => lt_fresh_of_effect a
  cases a with
  | bump r n =>
    exact ⟨fun q p hq => hlt q (h.promiseNames q p hq), fun w k hk => hlt w (h.socketNames w k hk),
      h.sockets, h.reports, h.timers⟩
  | setTimeout r kind due =>
    refine ⟨fun q p hq => hlt q (h.promiseNames q p hq), fun w k hk => hlt w (h.socketNames w k hk),
      h.sockets, h.reports, fun tm htm k w text q hk => ?_⟩
    rcases List.mem_append.mp htm with htm | htm
    · exact h.timers tm htm k w text q hk
    · rw [List.mem_singleton.mp htm] at hk
      exact ha k w text q hk
  | clearTimeout t =>
    exact ⟨h.promiseNames, h.socketNames, h.sockets, h.reports,
      fun tm htm => h.timers tm (List.mem_of_mem_filter htm)⟩
  | newPromise r kind => exact h.newPromise r kind
  | settle q v => exact h.settle q v
  | newSocket r promise due => exact h.newSocket r ha due
  | markOpen w => exact h.updateSocket w (fun _ => rfl) fun _ _ => nofun
  | markClosed w => exact h.updateSocket w (fun _ => rfl) fun _ _ => nofun
  | closeSocket w =>
    refine h.updateSocket w (fun k => ?_) fun k _ => k.close_readyState
    unfold Socket.close
    cases k.readyState <;> rfl
  | setReportCall call c =>
    refine ⟨h.promiseNames, h.socketNames, h.sockets, fun q c' hq => ?_, h.timers⟩
    by_cases hne : call = q
    · subst hne
      exact ha
    · rw [Effect.apply, RagState.setReportCall_reportCalls, JsMap.get_set_of_ne _ hne] at hq
      exact h.reports q c' hq
  | _ => exact ⟨h.promiseNames, h.socketNames, h.sockets, h.reports, h.timers⟩

/-- The kinds of operations that capture a promise. -/
def captureTags : List Tag := [.newSocket, .setReportCall, .armRequest]

/-- A program that captures no promise keeps the invariant. -/
lemma PromisesOk.effects {T : List Tag} (h : PromisesOk s) (heff : Effects T s s')
    (hT : Tag.avoid T captureTags = true) : PromisesOk s' := by
  refine Footprint.invariant (fun a s ha h => h.effect ?_) heff h
  have := Effects.avoids hT ha
  cases a with
  | newSocket | setReportCall => cases this
  | setTimeout r' kind due =>
    intro k w text q hk
    subst hk
    cases this
  | _ => trivial

end PromisesOk

/-! ## Code that leaves questions alone -/

/-- Whether a question call returned the promise. -/
def PromiseKind.isQuestion : PromiseKind → Bool
  | .question _ _ => true
  | _ => false

/-- The promise with a given name, if a question call returned it. -/
def RagState.questionAt (s : RagState) (q : Oid) : Option Promise :=
  (s.promises.get q).filter fun p => p.kind.isQuestion

/-- What settling a promise makes of the questions. -/
lemma settle_questionAt (s : RagState) (q q' : Oid) (v : Settlement) :
    (s.settle q v).questionAt q' =
      if q = q' then
        (s.questionAt q').map fun p => { p with settled := p.settled.or (some v) }
      else s.questionAt q' := by
  simp only [RagState.questionAt, RagState.settle_promises, JsMap.get_update]
  split
  · cases s.promises.get q' with
    | none => rfl
    | some p => cases hk : p.kind.isQuestion <;> simp [Option.filter, hk]
  · rfl

/-- The invariant holds after the code, and the promises of questions are as before. -/
structure Spares (s s' : RagState) : Prop where
  ok : PromisesOk s'
  questions : ∀ q, s'.questionAt q = s.questionAt q

section Spares

variable {s s' s'' : RagState} {r : RoomId}

/-- Doing nothing. -/
lemma Spares.refl (h : PromisesOk s) : Spares s s := ⟨h, fun _ => rfl⟩

/-- One program after another. -/
lemma Spares.trans (h : Spares s s') (h' : Spares s' s'') : Spares s s'' :=
  ⟨h'.ok, fun q => (h'.questions q).trans (h.questions q)⟩

/-- An operation that does not touch promises. -/
lemma Spares.effect (h : Spares s s') {a : Effect} (ha : a.Observes s')
    (hp : (a.apply s').promises = s'.promises) : Spares s (a.apply s') :=
  ⟨h.ok.effect ha, fun q => by rw [← h.questions q, RagState.questionAt, hp]; rfl⟩

/-- The kinds of operations that capture, make or settle a promise. -/
def promiseTags : List Tag := captureTags ++ [.newPromise, .settle]

/-- A program that neither captures nor makes nor settles a promise. -/
lemma Spares.effects {T : List Tag} (h : Spares s s') (heff : Effects T s' s'')
    (hT : Tag.avoid T promiseTags = true) :
    Spares s s'' := by
  refine ⟨h.ok.effects heff (Effects.avoids_subset hT rfl), fun q => ?_⟩
  rw [← h.questions q, RagState.questionAt, heff.promises_eq (Effects.avoids_subset hT rfl)]
  rfl

/-- Settling a promise that no question call returned. -/
lemma Spares.settle (h : Spares s s') {q : Oid} {k : PromiseKind}
    (hq : s'.promiseKind q = some k) (hk : k.isQuestion = false) (v : Settlement) :
    Spares s (s'.settle q v) := by
  refine ⟨h.ok.effect (a := .settle q v) trivial, fun q' => ?_⟩
  rw [← h.questions q', settle_questionAt]
  split
  · rename_i heq
    subst heq
    obtain ⟨p, hp, rfl⟩ := Option.map_eq_some_iff.mp hq
    simp [RagState.questionAt, Option.filter, hp, hk]
  · rfl

/-- Making a promise that no question call returns. -/
lemma Spares.newPromise (h : Spares s s') (r : RoomId) {k : PromiseKind}
    (hk : k.isQuestion = false) : Spares s (s'.newPromise r k) := by
  refine ⟨h.ok.effect (a := .newPromise r k) trivial, fun q => ?_⟩
  rw [← h.questions q, RagState.questionAt, RagState.questionAt, RagState.newPromise_promises]
  by_cases hne : s'.freshId r = q
  · subst hne
    simp [h.ok.freshId_promises r, hk]
  · rw [JsMap.get_set_of_ne _ hne]

/-- `connect` settles its own promise or hands it to a socket. -/
lemma connect_spares (h : PromisesOk s) (ctor : CallResult) (now : ℕ) :
    Spares s (s.connect r ctor now) := by
  have h₁ := (Spares.refl h).newPromise r (k := .connect) rfl
  have hkind := newPromise_promiseKind_self s r .connect
  unfold RagState.connect
  dsimp only
  split
  · exact h₁.settle hkind rfl _
  · cases ctor with
    | threw message => exact h₁.settle hkind rfl _
    | ok => exact h₁.effect (a := .newSocket r (s.freshId r) _) hkind rfl

/-- The connection timer settles the promise of `connect`. -/
lemma onConnectionTimeout_spares (h : PromisesOk s) (w : Oid) :
    Spares s (s.onConnectionTimeout w) := by
  unfold RagState.onConnectionTimeout
  split
  · exact .refl h
  · rename_i k hk
    split
    · exact .refl h
    · exact ((Spares.refl h).effect (a := .closeSocket w) trivial rfl).settle
        (k := .connect) (h.sockets w k hk) rfl _

/-- `requestReport` settles its own promise or records its call. -/
lemma requestReport_spares (h : PromisesOk s) (now : ℕ) : Spares s (s.requestReport r now) := by
  have h₁ := (Spares.refl h).newPromise r (k := .report) rfl
  have hkind := newPromise_promiseKind_self s r .report
  unfold RagState.requestReport
  dsimp only
  split
  · exact h₁.settle hkind rfl _
  · split
    · exact h₁.settle hkind rfl _
    · exact ((h₁.effect (a := .setTimeout r (.report (s.freshId r)) _)
        (fun _ _ _ _ h => by cases h) rfl).effect
        (a := .setReport r _) trivial rfl).effect (a := .setReportCall (s.freshId r) _) hkind rfl

/-- A report call that returns settles its own promise. -/
lemma finishReport_spares (h : PromisesOk s) {call : Oid}
    (hcall : s.promiseKind call = some .report) (result : Except String ReportResult) :
    Spares s (s.finishReport call result) := by
  have h₁ := (Spares.refl h).effect (a := .setReportCall call ⟨.finished, some result⟩) hcall rfl
  unfold RagState.finishReport
  cases result with
  | ok v => exact h₁.settle (k := .report) hcall rfl _
  | error message =>
    exact (h₁.effect (a := .deleteReport call.room) trivial rfl).settle (k := .report) hcall rfl _

/-- Settling the result of a report call settles at most the promise of the call. -/
lemma settleResult_spares (h : PromisesOk s) (call : Oid) (result : Except String ReportResult) :
    Spares s (s.settleResult call result) := by
  unfold RagState.settleResult
  split
  · exact .refl h
  · rename_i c hc
    have hcall := h.reports call c hc
    split
    · exact .refl h
    · split
      · exact finishReport_spares h hcall result
      · exact (Spares.refl h).effect (a := .setReportCall call _) hcall rfl

/-- The end of an HTTP request settles at most the promise of its call. -/
lemma httpResponse_spares (h : PromisesOk s) {call : Oid} {c : ReportCall}
    (hc : s.reportCalls.get call = some c) (response : CallResult) :
    Spares s (s.httpResponse call c response) := by
  have hcall := h.reports call c hc
  unfold RagState.httpResponse
  cases response with
  | ok =>
    cases c.result with
    | none => exact (Spares.refl h).effect (a := .setReportCall call _) hcall rfl
    | some result => exact finishReport_spares h hcall result
  | threw message =>
    exact (((Spares.refl h).effect (a := .setReportCall call _) hcall rfl).effect
      (a := .deleteReport call.room) trivial rfl).settle (k := .report) hcall rfl _

/-- The timer of a report call settles at most the promise of the call. -/
lemma onReportTimeout_spares (h : PromisesOk s) (call : Oid) :
    Spares s (s.onReportTimeout call) := by
  have h₁ := (Spares.refl h).effect (a := .deleteReport call.room) trivial rfl
  exact h₁.trans (settleResult_spares h₁.ok call _)

/-- The two places that take the entry of the room and settle the result of its call. -/
lemma takeReport_spares (h : PromisesOk s) (r : RoomId) (p : PendingRequest)
    (result : Except String ReportResult) :
    Spares s (((s.clearTimeout p.timer).deleteReport r).settleResult p.promise result) := by
  have h₁ := ((Spares.refl h).effect (a := .clearTimeout p.timer) trivial rfl).effect
    (a := .deleteReport r) trivial rfl
  exact h₁.trans (settleResult_spares h₁.ok p.promise result)

/-- A `meeting_report` settles at most the promise of the report call. -/
lemma handleMeetingReport_spares (h : PromisesOk s) (message : JsVal) :
    Spares s (s.handleMeetingReport r message) := by
  unfold RagState.handleMeetingReport
  split
  · exact .refl h
  · exact takeReport_spares h r _ _

/-- Rejecting the report request settles at most the promise of the report call. -/
lemma rejectReport_spares (h : PromisesOk s) : Spares s (s.rejectReport r) := by
  unfold RagState.rejectReport
  split
  · exact .refl h
  · exact takeReport_spares h r _ _

/-- The callback of a timer that is not the one of a request. -/
lemma fire_spares (h : PromisesOk s) (tm : Timer) (hk : tm.kind.tag ≠ .armRequest)
    (ext : CallResult) (now : ℕ) : Spares s (s.fire tm ext now) := by
  have heff := fire_effects s tm ext now
  obtain ⟨id, kind, due⟩ := tm
  cases kind with
  | connection w => exact onConnectionTimeout_spares h w
  | reconnect =>
    have h₁ := (Spares.refl h).effect (a := .deleteReconnectTimer id.room) trivial rfl
    exact h₁.trans (connect_spares h₁.ok ext now)
  | report call => exact onReportTimeout_spares h call
  | request => exact absurd rfl hk
  | statementRetry | flushNext => exact (Spares.refl h).effects heff rfl

end Spares

/-! ## The invariant in every reachable state -/

section Reachable

variable {s s' : RagState} {r : RoomId}

/-- A question is asked on an open socket, and its timer captures its own promise. -/
lemma ask_promisesOk (h : PromisesOk s) (kind : QuestionKind) (text : String) (send : CallResult)
    (now : ℕ) : PromisesOk (s.ask kind r text send now) := by
  have h₁ : PromisesOk (s.newPromise r (.question kind text)) :=
    h.effect (a := .newPromise r (.question kind text)) trivial
  unfold RagState.ask
  dsimp only
  cases hw : s.openSocket r with
  | none => exact h₁.effect (a := .settle _ _) trivial
  | some w =>
    obtain ⟨-, ho⟩ := RagState.openSocket_eq_some.mp hw
    obtain ⟨k, hk, ho⟩ := Option.map_eq_some_iff.mp ho
    have h₂ : PromisesOk ((s.newPromise r (.question kind text)).setTimeout r
        (.request kind w text (s.freshId r)) (now + requestTimeout)) := by
      refine h₁.effect (a := .setTimeout r _ _) ?_
      rintro _ _ _ _ ⟨⟩
      exact ⟨newPromise_promiseKind_self s r _, k, hk, by simp [ho]⟩
    cases send with
    | ok => exact (h₂.effect (a := .setContext w _) trivial).effect (a := .transmit w _ _) trivial
    | threw message =>
      exact (h₂.effect (a := .setContext w _) trivial).effect (a := .settle _ _) trivial

/-- A message keeps the invariant. -/
lemma handleMessage_promisesOk (h : PromisesOk s) (data : Option JsVal) :
    PromisesOk (s.handleMessage r data) := by
  unfold RagState.handleMessage
  cases data with
  | none => exact h
  | some message =>
    dsimp only
    split
    · exact h
    · cases s.connections.get r with
      | none => exact h
      | some w =>
        dsimp only
        split
        · exact h.effects (handleAnswer_effects s w message) rfl
        · split
          · exact (handleMeetingReport_spares h message).ok
          · exact h

/-- `disconnect` keeps the invariant. -/
lemma disconnect_promisesOk (h : PromisesOk s) : PromisesOk (s.disconnect r) := by
  have h₁ := h.effects (cancelReconnect_effects s r) rfl
  rw [disconnect_eq]
  cases s.connections.get r with
  | none => exact h₁
  | some w =>
    have h₂ := (rejectReport_spares (r := r) (h₁.effects (rejectPending_effects _ w) rfl)).ok
    have h₃ := (h₂.effect (a := .closeSocket w) trivial).effect (a := .deleteConnection r) trivial
    unfold RagState.dropConnection
    dsimp only
    split
    · exact h₃
    · exact h₃.effect (a := .deleteBuffer r) trivial

/-- `onModuleDestroy` keeps the invariant. -/
lemma onModuleDestroy_promisesOk (h : PromisesOk s) : PromisesOk s.onModuleDestroy := by
  have h₁ : PromisesOk
      (s.reconnectTimers.entries.foldl (fun s e => s.clearTimeout e.2) s).clearTables :=
    h.effects (T := [.clearTimeout, .clearTables])
      ((Effects.foldl (fun s _ => .one s (.clearTimeout _) rfl) _ s).next .clearTables rfl) rfl
  have hfold : ∀ (l : List RoomId) (u : RagState), PromisesOk u →
      PromisesOk (l.foldl (fun s r => s.disconnect r) u) := by
    intro l
    induction l with
    | nil => exact fun _ hu => hu
    | cons r l ih => exact fun u hu => ih _ (disconnect_promisesOk hu)
  exact hfold _ _ h₁

/-- The callback of a timer keeps the invariant. -/
lemma fire_promisesOk (h : PromisesOk s) (tm : Timer) (ext : CallResult) (now : ℕ) :
    PromisesOk (s.fire tm ext now) := by
  have heff := fire_effects s tm ext now
  by_cases hk : tm.kind.tag = .armRequest
  · obtain ⟨id, kind, due⟩ := tm
    cases kind with
    | request => exact h.effects heff rfl
    | _ => cases hk
  · exact (fire_spares h tm hk ext now).ok

/-- Nothing is named in the initial state. -/
lemma init_promisesOk : PromisesOk client.init where
  promiseNames := by simp [client, RagState.init]
  socketNames := by simp [client, RagState.init]
  sockets := by simp [client, RagState.init]
  reports := by simp [client, RagState.init]
  timers := by simp [client, RagState.init]

/-- A step keeps the invariant. -/
lemma step_promisesOk {e : Event} (h : PromisesOk s) (hs : step s e = some s') : PromisesOk s' := by
  have heff := step_effects hs
  obtain ⟨now, act⟩ := e
  cases act with
  | connect r ctor =>
    obtain rfl := Option.some.inj hs
    exact (connect_spares h ctor now).ok
  | disconnect r =>
    obtain rfl := Option.some.inj hs
    exact disconnect_promisesOk h
  | sendQuestion r text send =>
    obtain rfl := Option.some.inj hs
    exact ask_promisesOk h .plain text send now
  | sendQuestionWithSources r text send =>
    obtain rfl := Option.some.inj hs
    exact ask_promisesOk h .withSources text send now
  | requestReport r =>
    obtain rfl := Option.some.inj hs
    exact (requestReport_spares h now).ok
  | onModuleDestroy =>
    obtain rfl := Option.some.inj hs
    exact onModuleDestroy_promisesOk h
  | wsMessage w data =>
    obtain ⟨k, -, -, -, rfl⟩ := step_wsMessage hs
    exact handleMessage_promisesOk h data
  | timer t ext =>
    obtain ⟨tm, -, rfl⟩ := step_timer hs
    exact fire_promisesOk (h.effect (a := .clearTimeout t) trivial) tm ext now
  | httpResponse call response =>
    obtain ⟨c, hc, -, rfl⟩ := step_httpResponse hs
    exact (httpResponse_spares h hc response).ok
  | _ => exact h.effects heff rfl

/-- **The invariant holds in every reachable state.** -/
theorem reachable_promisesOk (h : client.Reachable s) : PromisesOk s :=
  EventSystem.reachable_invariant init_promisesOk (fun _ _ _ h hs => step_promisesOk h hs) h

end Reachable

end Rag
