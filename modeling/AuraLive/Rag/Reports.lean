import AuraLive.Rag.Effects
import AuraLive.Rag.Isolation

set_option relaxedAutoImplicit false
set_option autoImplicit false

/-!
# Report requests

`requestReport` refuses a second request while one is registered for the room, but its timer, its
failure path and the result message all remove the entry of the room, whoever registered it. A call
whose entry is gone can therefore still have a timer armed or an HTTP request under way, and remove
the entry of a later call.

## Main definitions

* `Rag.RemovalsOwn` — the entry of a call is removed only by an event of that call, by a
  `meeting_report` message or by disconnecting the room.
* `Rag.RegistersAlone` — a call registers only when no earlier call of the room has anything left.
* `Rag.ReportsOk` — the invariant of the runs that meet this condition.

## Main results

* `Rag.report_removals_own` — in these runs report requests do not interfere.
* `Rag.late_failure_removes_report` — a run in which they do.
-/

namespace Rag

open Foundations

/-! ## Who removes an entry -/

/-- Whether the data of a message is a `meeting_report`. -/
def isMeetingReport : Option JsVal → Bool
  | none => false
  | some message => JsVal.isStr (message.field "type") "meeting_report"

/-- Whether an event may remove the entry `p` of the room: the arrival of a `meeting_report`, the
timer of the call, the failure of its HTTP request, or disconnecting the room. -/
def ownRemoval (r : RoomId) (p : PendingRequest) (e : Event) : Bool :=
  match e.act with
  | .wsMessage w data => w.room = r && isMeetingReport data
  | .timer t _ => t = p.timer
  | .httpResponse call (.threw _) => call = p.promise
  | .disconnect r' => r' = r
  | .onModuleDestroy => true
  | _ => false

/-- If the event removes the entry of the room, it is one that may. -/
def RemovalsOwn (r : RoomId) (s : RagState) (e : Event) : Prop :=
  ∀ s' ∈ step s e, ∀ p ∈ s.pendingReportRequests.get r,
    s'.pendingReportRequests.get r = some p ∨ ownRemoval r p e = true

instance (r : RoomId) (s : RagState) (e : Event) : Decidable (RemovalsOwn r s e) :=
  inferInstanceAs (Decidable (∀ s' ∈ step s e, ∀ p ∈ s.pendingReportRequests.get r,
    s'.pendingReportRequests.get r = some p ∨ ownRemoval r p e = true))

/-! ## The condition -/

/-- Whether a timer is that of a report call. -/
def TimerKind.isReport : TimerKind → Bool
  | .report _ => true
  | _ => false

/-- The room a report is requested for. -/
def Act.reports : Act → Option RoomId
  | .requestReport r => some r
  | _ => none

/-- No timer of a report call of the room is armed, and no HTTP request of one is under way. -/
def ReportsIdle (r : RoomId) (s : RagState) : Prop :=
  s.timers.all (fun tm => !(tm.id.room = r && tm.kind.isReport)) = true ∧
    s.reportCalls.entries.all (fun c => !(c.1.room = r && c.2.stage = .posting)) = true

instance (r : RoomId) (s : RagState) : Decidable (ReportsIdle r s) :=
  inferInstanceAs (Decidable (s.timers.all _ = true ∧ s.reportCalls.entries.all _ = true))

/-- When `requestReport` registers a request of the room, nothing is left of the earlier calls of
the room. -/
def RegistersAlone (r : RoomId) (s : RagState) (e : Event) : Prop :=
  e.act.reports = some r → s.isConnected r = true → s.pendingReportRequests.has r = false →
    ReportsIdle r s

instance (r : RoomId) (s : RagState) (e : Event) : Decidable (RegistersAlone r s e) :=
  inferInstanceAs (Decidable (e.act.reports = some r → s.isConnected r = true →
    s.pendingReportRequests.has r = false → ReportsIdle r s))

/-! ## The invariant -/

/-- Every call of the room has returned, or has its result and waits for its HTTP request. -/
def CallsSettled (r : RoomId) (s : RagState) : Prop :=
  ∀ q c, q.room = r → s.reportCalls.get q = some c → c.stage ≠ .finished →
    c.stage = .posting ∧ c.result ≠ none

/-- The call of the entry `p` is the only one of the room that has not returned. It has no result
yet, and its timer is the only one of a report call that can be armed. -/
structure OnlyCall (r : RoomId) (p : PendingRequest) (s : RagState) : Prop where
  room : p.promise.room = r
  call : ∃ c, s.reportCalls.get p.promise = some c ∧ c.stage ≠ .finished ∧ c.result = none
  others : ∀ q c, q.room = r → q ≠ p.promise → s.reportCalls.get q = some c → c.stage = .finished
  timers : ∀ tm ∈ s.timers, tm.id.room = r → ∀ q, tm.kind = .report q →
    tm.id = p.timer ∧ q = p.promise

/-- The report requests of a room in the runs that meet the condition. -/
structure ReportsOk (r : RoomId) (s : RagState) : Prop where
  vacant : s.pendingReportRequests.get r = none → CallsSettled r s
  taken : ∀ p, s.pendingReportRequests.get r = some p → OnlyCall r p s

section ReportsOk

variable {r : RoomId} {s s' : RagState} {p : PendingRequest}

/-- Without an entry, the calls are all there is to the invariant. -/
lemma reportsOk_of_none (hn : s.pendingReportRequests.get r = none) (h : CallsSettled r s) :
    ReportsOk r s where
  vacant _ := h
  taken p hp := by
    rw [hn] at hp
    cases hp

/-- With an entry, its call is all there is to the invariant. -/
lemma reportsOk_of_some (hp : s.pendingReportRequests.get r = some p) (h : OnlyCall r p s) :
    ReportsOk r s where
  vacant hn := by
    rw [hp] at hn
    cases hn
  taken p' hp' := by
    obtain rfl : p = p' := Option.some.inj (hp.symm.trans hp')
    exact h

/-- The invariant is about the entry, the calls and the timers of the room. -/
lemma ReportsOk.of_parts (h : ReportsOk r s)
    (hp : s'.pendingReportRequests.get r = s.pendingReportRequests.get r)
    (hc : ∀ q, q.room = r → s'.reportCalls.get q = s.reportCalls.get q)
    (ht : ∀ tm ∈ s'.timers, tm.id.room = r → tm.kind.isReport = true → tm ∈ s.timers) :
    ReportsOk r s' where
  vacant hn q c hq hget := h.vacant (hp ▸ hn) q c hq (hc q hq ▸ hget)
  taken p hget := by
    rw [hp] at hget
    obtain ⟨hroom, hcall, hothers, htimers⟩ := h.taken p hget
    refine ⟨hroom, ?_, fun q c hq hne hcq => hothers q c hq hne (hc q hq ▸ hcq),
      fun tm htm hr q hk => ?_⟩
    · rw [hc p.promise hroom]
      exact hcall
    · exact htimers tm (ht tm htm hr (by rw [hk]; rfl)) hr q hk

/-- The invariant is seen in what belongs to the room. -/
lemma ReportsOk.of_same (h : ReportsOk r s) (hs : rooms.Same r s s') : ReportsOk r s' := by
  refine h.of_parts (congrArg RoomView.report hs).symm
    (fun q hq => (reportCalls_get_of_same hs hq).symm) fun tm htm hr _ => ?_
  have hmem : tm ∈ s'.timers.filter (·.id.room = r) := by simp [htm, hr]
  have hview : s.timers.filter (·.id.room = r) = s'.timers.filter (·.id.room = r) :=
    congrArg RoomView.timers hs
  exact List.mem_of_mem_filter (hview ▸ hmem)

/-- A report timer is armed by an operation of its own kind. -/
lemma TimerKind.tag_of_isReport {kind : TimerKind} (h : kind.isReport = true) :
    kind.tag = .armReport := by
  cases kind with
  | report call => rfl
  | _ => cases h

/-- The kinds of operations that concern report requests. -/
def reportTags : List Tag := [.setReport, .deleteReport, .setReportCall, .armReport]

/-- A program that does not concern report requests keeps the invariant. -/
lemma ReportsOk.effects {T : List Tag} (h : ReportsOk r s) (heff : Effects T s s')
    (hT : Tag.avoid T reportTags = true) : ReportsOk r s' :=
  h.of_parts (by rw [heff.reports_eq (Effects.avoids_subset hT rfl)])
    (fun q _ => by rw [heff.reportCalls_eq (Effects.avoids_subset hT rfl)])
    fun tm htm _ hk => heff.timers_of_tag (x := .armReport) (by decide)
      (Effects.avoids_subset hT rfl) tm htm (TimerKind.tag_of_isReport hk)

/-! ## Settling a result -/

/-- What settling its result makes of a call. -/
def ReportCall.resolve (c : ReportCall) (result : Except String ReportResult) : ReportCall :=
  if c.result.isSome then c
  else if c.stage = .awaitingResult then ⟨.finished, some result⟩
  else { c with result := some result }

/-- Settling a result changes the call it belongs to. -/
lemma settleResult_reportCalls (s : RagState) (call q : Oid) (result : Except String ReportResult) :
    (s.settleResult call result).reportCalls.get q =
      if call = q then (s.reportCalls.get q).map fun c => c.resolve result
      else s.reportCalls.get q := by
  have hfinish : (s.finishReport call result).reportCalls =
      s.reportCalls.set call ⟨.finished, some result⟩ := by
    cases result <;> rfl
  unfold RagState.settleResult
  cases hc : s.reportCalls.get call with
  | none =>
    by_cases hq : call = q
    · subst hq
      simp [hc]
    · simp [hq]
  | some c =>
    by_cases hq : call = q
    · subst hq
      cases hres : c.result with
      | some v => simp [hc, hres, ReportCall.resolve]
      | none =>
        by_cases hst : c.stage = .awaitingResult
        · simp [hc, hres, hst, hfinish, ReportCall.resolve]
        · simp [hc, hres, hst, ReportCall.resolve]
    · dsimp only
      rw [if_neg hq]
      split
      · rfl
      · split
        · simp [hq, hfinish]
        · simp [hq]

/-- **Vacating the room.** The entry has been removed and the result of a call is settled. If this
call awaited its result only while it had none, and all others were settled, then all are. -/
lemma settleResult_reportsOk {call : Oid} (hn : s.pendingReportRequests.get r = none)
    (hcall : ∀ c, call.room = r → s.reportCalls.get call = some c → c.stage = .awaitingResult →
      c.result = none)
    (hothers : ∀ q c, q.room = r → q ≠ call → s.reportCalls.get q = some c → c.stage ≠ .finished →
      c.stage = .posting ∧ c.result ≠ none) (result : Except String ReportResult) :
    ReportsOk r (s.settleResult call result) := by
  refine reportsOk_of_none ((settleResult_effects s call result).reports_none rfl hn) ?_
  intro q c hq hget hst
  rw [settleResult_reportCalls] at hget
  split at hget
  · rename_i he
    subst he
    obtain ⟨c₀, hc₀, rfl⟩ := Option.map_eq_some_iff.mp hget
    have h₀ := hcall c₀ hq hc₀
    cases hres : c₀.result with
    | none => cases hs : c₀.stage <;> simp_all [ReportCall.resolve]
    | some v => cases hs : c₀.stage <;> simp_all [ReportCall.resolve]
  · rename_i hne
    exact hothers q c hq (Ne.symm hne) hget hst

/-- Nothing is registered for a room whose entry has just been removed. -/
lemma deleteReport_get (s : RagState) (r : RoomId) :
    (s.deleteReport r).pendingReportRequests.get r = none := JsMap.get_delete_self _ _

/-- The entry of the room is removed and the result of its call is settled. Without an entry, the
result of any call may be settled. -/
lemma ReportsOk.settleResult (h : ReportsOk r s) {call : Oid}
    (hown : ∀ p, s.pendingReportRequests.get r = some p → p.promise = call)
    (hn : s'.pendingReportRequests.get r = none) (hcalls : s'.reportCalls = s.reportCalls)
    (result : Except String ReportResult) : ReportsOk r (s'.settleResult call result) := by
  cases hp : s.pendingReportRequests.get r with
  | none =>
    refine settleResult_reportsOk hn (fun c hroom hc hst => ?_)
      (fun q c hq _ hget hst => h.vacant hp q c hq (hcalls ▸ hget) hst) result
    have hpost := (h.vacant hp call c hroom (hcalls ▸ hc) (by simp [hst])).1
    simp [hst] at hpost
  | some p =>
    obtain rfl := hown p hp
    obtain ⟨-, ⟨c, hc, hst, hres⟩, hothers, -⟩ := h.taken p hp
    rw [← hcalls] at hc
    refine settleResult_reportsOk hn (fun c' _ hc' _ => ?_)
      (fun q c' hq hne hget hst' => absurd (hothers q c' hq hne (hcalls ▸ hget)) hst') result
    obtain rfl : c = c' := Option.some.inj (hc.symm.trans hc')
    exact hres

/-- The two places that take the entry of the room and settle the result of its call. -/
lemma ReportsOk.take (h : ReportsOk r s) (hp : s.pendingReportRequests.get r = some p)
    (result : Except String ReportResult) :
    ReportsOk r (((s.clearTimeout p.timer).deleteReport r).settleResult p.promise result) := by
  refine h.settleResult (fun p' hp' => ?_) (deleteReport_get (s.clearTimeout p.timer) r) rfl result
  rw [Option.some.inj (hp'.symm.trans hp)]

/-- A call of the room returns, and the entry, if there is one, is that of this call and removed. -/
lemma ReportsOk.finish (h : ReportsOk r s) {call : Oid} {c : ReportCall}
    (hown : ∀ p, s.pendingReportRequests.get r = some p → p.promise = call)
    (hn : s'.pendingReportRequests.get r = none)
    (hcalls : s'.reportCalls = s.reportCalls.set call c) (hst : c.stage = .finished) :
    ReportsOk r s' := by
  refine reportsOk_of_none hn fun q c' hq hget hne => ?_
  rw [hcalls, JsMap.get_set] at hget
  split at hget
  · obtain rfl := Option.some.inj hget
    exact absurd hst hne
  · rename_i hcq
    cases hp : s.pendingReportRequests.get r with
    | none => exact h.vacant hp q c' hq hget hne
    | some p =>
      obtain rfl := hown p hp
      exact absurd ((h.taken p hp).others q c' hq (Ne.symm hcq) hget) hne

/-! ## Steps -/

/-- The invariant holds after a step, and the entry of the room is still there or `own` allows its
removal. -/
def KeepsReports (r : RoomId) (own : PendingRequest → Prop) (s s' : RagState) : Prop :=
  ReportsOk r s' ∧
    ∀ p, s.pendingReportRequests.get r = some p → s'.pendingReportRequests.get r = some p ∨ own p

/-- A program that does not concern report requests. -/
lemma ReportsOk.keeps {T : List Tag} {own : PendingRequest → Prop} (h : ReportsOk r s)
    (heff : Effects T s s') (hT : Tag.avoid T reportTags = true) :
    KeepsReports r own s s' :=
  ⟨h.effects heff hT, fun p hp => .inl (by
    rw [heff.reports_eq (Effects.avoids_subset hT rfl), hp])⟩

/-- `requestReport` registers the only call that has not returned. -/
lemma requestReport_keeps {own : PendingRequest → Prop} (h : ReportsOk r s) (now : ℕ)
    (halone : s.isConnected r = true → s.pendingReportRequests.has r = false → ReportsIdle r s) :
    KeepsReports r own s (s.requestReport r now) := by
  have hrefuse : ∀ v, KeepsReports r own s ((s.newPromise r .report).settle (s.freshId r) v) :=
    fun v => h.keeps (T := [.newPromise, .settle])
      ((Effects.one s (.newPromise r .report) rfl).next (.settle _ v) rfl) rfl
  unfold RagState.requestReport
  dsimp only
  split
  · exact hrefuse _
  · rename_i hconn
    split
    · exact hrefuse _
    · rename_i hhas
      have hnone : s.pendingReportRequests.get r = none := by
        simpa [JsMap.has] using hhas
      obtain ⟨htimers, hcalls⟩ := halone (by simpa using hconn) (by simpa using hhas)
      refine ⟨reportsOk_of_some (JsMap.get_set_self _ _ _) ⟨rfl, ?_, ?_, ?_⟩, fun p hp => ?_⟩
      · exact ⟨_, JsMap.get_set_self _ _ _, by simp, rfl⟩
      · intro q c hq hne hget
        rw [RagState.setReportCall_reportCalls, JsMap.get_set_of_ne _ (Ne.symm hne)] at hget
        by_contra hst
        have hpost := (h.vacant hnone q c hq hget hst).1
        have := List.all_eq_true.mp hcalls (q, c) (JsMap.mem_entries_of_get _ hget)
        simp [hq, hpost] at this
      · intro tm htm hr q hk
        rcases List.mem_append.mp htm with htm | htm
        · have := List.all_eq_true.mp htimers tm htm
          simp [hr, hk, TimerKind.isReport] at this
        · obtain rfl := List.mem_singleton.mp htm
          cases hk
          exact ⟨rfl, rfl⟩
      · rw [hnone] at hp
        cases hp

/-- While its HTTP request is under way, a call is the registered one or none is registered. -/
lemma ReportsOk.posting_owns (h : ReportsOk r s) {call : Oid} {c : ReportCall}
    (hroom : call.room = r) (hc : s.reportCalls.get call = some c) (hst : c.stage = .posting)
    (hp : s.pendingReportRequests.get r = some p) : p.promise = call := by
  by_contra hne
  have hfin := (h.taken p hp).others call c hroom (Ne.symm hne) hc
  rw [hst] at hfin
  cases hfin

/-- The end of an HTTP request removes the entry of its own call, and only if the request failed.

**Proof sketch.** A call that posts owns the entry of its room, if there is one. If the request has
failed, its entry is removed. If the result has come before, the entry was removed then. Otherwise
the call waits for its result, and the entry stays. -/
lemma httpResponse_keeps (h : ReportsOk r s) {call : Oid} {c : ReportCall} (hroom : call.room = r)
    (hc : s.reportCalls.get call = some c) (hst : c.stage = .posting) (response : CallResult) :
    KeepsReports r (fun p => (∃ message, response = .threw message) ∧ call = p.promise) s
      (s.httpResponse call c response) := by
  have hown := fun p => h.posting_owns (p := p) hroom hc hst
  unfold RagState.httpResponse
  cases response with
  | threw message =>
    have hn : ((s.setReportCall call { c with stage := .finished }).failReport call
        message).pendingReportRequests.get r = none := hroom ▸ deleteReport_get _ call.room
    exact ⟨h.finish hown hn rfl rfl, fun p hp => .inr ⟨⟨message, rfl⟩, (hown p hp).symm⟩⟩
  | ok =>
    cases hres : c.result with
    | some result =>
      -- a registered call has no result yet
      have hnone : s.pendingReportRequests.get r = none := by
        by_contra hsome
        obtain ⟨p, hp⟩ := Option.ne_none_iff_exists'.mp hsome
        obtain ⟨c', hc', -, hres'⟩ := (h.taken p hp).call
        rw [hown p hp, hc] at hc'
        obtain rfl := Option.some.inj hc'
        rw [hres] at hres'
        cases hres'
      have hn : (s.finishReport call result).pendingReportRequests.get r = none :=
        (finishReport_effects s call result).reports_none rfl hnone
      refine ⟨h.finish (c := ⟨.finished, some result⟩) hown hn (by cases result <;> rfl) rfl,
        fun p hp => ?_⟩
      rw [hnone] at hp
      cases hp
    | none =>
      cases hp : s.pendingReportRequests.get r with
      | none => exact absurd hres (h.vacant hp call c hroom hc (by simp [hst])).2
      | some p =>
        refine ⟨reportsOk_of_some hp ?_, fun p' hp' => .inl ?_⟩
        · obtain ⟨-, -, hothers, htimers⟩ := h.taken p hp
          refine ⟨hown p hp ▸ hroom, ⟨⟨.awaitingResult, none⟩, ?_, by simp, rfl⟩, ?_,
            htimers⟩
          · rw [hown p hp, RagState.setReportCall_reportCalls, JsMap.get_set_self]
          · intro q c' hq hne hget
            rw [RagState.setReportCall_reportCalls,
              JsMap.get_set_of_ne _ (hown p hp ▸ Ne.symm hne)] at hget
            exact hothers q c' hq hne hget
        · exact hp.trans (hp.symm.trans hp')

/-- The timer of a report call removes the entry of its own call. -/
lemma onReportTimeout_keeps (h : ReportsOk r s) {tm : Timer} {call : Oid} (hmem : tm ∈ s.timers)
    (hr : tm.id.room = r) (hk : tm.kind = .report call) (hroom : call.room = r) :
    KeepsReports r (fun p => tm.id = p.timer) s ((s.clearTimeout tm.id).onReportTimeout call) := by
  have hown := fun p (hp : s.pendingReportRequests.get r = some p) =>
    (h.taken p hp).timers tm hmem hr call hk
  refine ⟨?_, fun p hp => .inr (hown p hp).1⟩
  have hn : ((s.clearTimeout tm.id).deleteReport call.room).pendingReportRequests.get r = none :=
    hroom ▸ deleteReport_get _ call.room
  exact h.settleResult (fun p hp => (hown p hp).2.symm) hn rfl _

/-- A message that takes the entry of the room is a `meeting_report`. -/
lemma handleMessage_keeps (h : ReportsOk r s) (data : Option JsVal) :
    KeepsReports r (fun _ => isMeetingReport data = true) s (s.handleMessage r data) := by
  have hskip : KeepsReports r (fun _ => isMeetingReport data = true) s s :=
    h.keeps (.refl [] s) rfl
  unfold RagState.handleMessage
  cases data with
  | none => exact hskip
  | some message =>
    dsimp only
    split
    · exact hskip
    · cases s.connections.get r with
      | none => exact hskip
      | some w =>
        dsimp only
        split
        · exact h.keeps (handleAnswer_effects s w message) rfl
        · split
          · rename_i hreport
            refine ⟨?_, fun _ _ => .inr hreport⟩
            unfold RagState.handleMeetingReport
            cases hp : s.pendingReportRequests.get r with
            | none => exact h
            | some p => exact h.take hp _
          · exact hskip

/-- Rejecting the report request of the room keeps the invariant. -/
lemma rejectReport_reportsOk (h : ReportsOk r s) : ReportsOk r (s.rejectReport r) := by
  unfold RagState.rejectReport
  cases hp : s.pendingReportRequests.get r with
  | none => exact h
  | some p => exact h.take hp _

/-- Disconnecting the room keeps the invariant. -/
lemma disconnect_reportsOk (h : ReportsOk r s) : ReportsOk r (s.disconnect r) := by
  have h₁ := h.effects (cancelReconnect_effects s r) rfl
  rw [disconnect_eq]
  cases s.connections.get r with
  | none => exact h₁
  | some w =>
    have h₂ := rejectReport_reportsOk (h₁.effects (rejectPending_effects _ w) rfl)
    have heff : Effects [.closeSocket, .deleteConnection, .deleteBuffer]
        (((s.cancelReconnect r).rejectPending w).rejectReport r)
        ((s.cancelReconnect r).dropConnection r w) := by
      have hclose := (Effects.one (T := [.closeSocket, .deleteConnection, .deleteBuffer])
        (((s.cancelReconnect r).rejectPending w).rejectReport r) (.closeSocket w) rfl).next
        (.deleteConnection r) rfl
      unfold RagState.dropConnection
      dsimp only
      split
      · exact hclose
      · exact hclose.next (.deleteBuffer r) rfl
    exact h₂.effects heff rfl

/-- Destroying the module keeps the invariant: the room is disconnected if it is connected. -/
lemma onModuleDestroy_reportsOk (hc : ∀ r, rooms.Closed r s) (h : ReportsOk r s) :
    ReportsOk r s.onModuleDestroy := by
  have h₁ : ReportsOk r (clearAll s) := h.effects (T := [.clearTimeout, .clearTables])
    ((Effects.foldl (fun s _ => .one s (.clearTimeout _) rfl) _ s).next .clearTables rfl) rfl
  have hsame := (Compartments.foldl_keys (fun r => disconnect_local (r := r)) r
    (clearAll s).connections.nodup (clearAll_closed hc)).2
  refine ReportsOk.of_same ?_ hsame
  split
  · exact disconnect_reportsOk h₁
  · exact h₁

/-- **A step under the condition.** The invariant is kept, and the entry of the room is removed only
by an event that may.

**Proof sketch.** An event of another room is not seen. An event of the room that does not concern
report requests is read off its footprint. That leaves the report calls, their timers, messages and
disconnecting. -/
theorem step_keeps {e : Event} (hc : ∀ r, rooms.Closed r s) (h : ReportsOk r s)
    (halone : RegistersAlone r s e) (hs : step s e = some s') :
    KeepsReports r (fun p => ownRemoval r p e = true) s s' := by
  cases hr : e.act.concerns r with
  | false =>
    have hsame : rooms.Same r s s' := step_outside hr hc hs
    exact ⟨h.of_same hsame, fun p hp => .inl ((congrArg RoomView.report hsame).symm.trans hp)⟩
  | true =>
    have heff := step_effects hs
    obtain ⟨now, act⟩ := e
    cases act with
    | requestReport r' =>
      obtain rfl : r' = r := by simpa [Act.concerns, Act.room] using hr
      obtain rfl := Option.some.inj hs
      exact requestReport_keeps h now (halone rfl)
    | httpResponse call response =>
      obtain rfl : call.room = r := by simpa [Act.concerns, Act.room] using hr
      obtain ⟨c, hcall, hst, rfl⟩ := step_httpResponse hs
      obtain ⟨hok, hrem⟩ := httpResponse_keeps h rfl hcall hst response
      refine ⟨hok, fun p hp => (hrem p hp).imp_right ?_⟩
      rintro ⟨⟨message, rfl⟩, hcp⟩
      simpa [ownRemoval] using hcp
    | wsMessage w data =>
      obtain rfl : w.room = r := by simpa [Act.concerns, Act.room] using hr
      obtain ⟨k, -, -, -, rfl⟩ := step_wsMessage hs
      obtain ⟨hok, hrem⟩ := handleMessage_keeps h data
      exact ⟨hok, fun p hp => (hrem p hp).imp_right fun hm => by simp [ownRemoval, hm]⟩
    | disconnect r' =>
      obtain rfl : r' = r := by simpa [Act.concerns, Act.room] using hr
      obtain rfl := Option.some.inj hs
      exact ⟨disconnect_reportsOk h, fun p _ => .inr (by simp [ownRemoval])⟩
    | onModuleDestroy =>
      obtain rfl := Option.some.inj hs
      exact ⟨onModuleDestroy_reportsOk hc h, fun _ _ => .inr rfl⟩
    | timer t ext =>
      obtain rfl : t.room = r := by simpa [Act.concerns, Act.room] using hr
      obtain ⟨tm, htm, rfl⟩ := step_timer hs
      obtain ⟨hmem, rfl⟩ := findTimer_mem htm
      simp only [footprint, htm, Option.map_some, Option.getD_some] at heff
      cases hk : tm.kind with
      | report call =>
        have hwithin : tm.kind.Within tm.id.room :=
          RoomView.Closed.timers (hc tm.id.room) tm (by simp [RagState.roomView, hmem])
        rw [hk] at hwithin
        have hfire : (s.clearTimeout tm.id).fire tm ext now =
            (s.clearTimeout tm.id).onReportTimeout call := by
          simp only [RagState.fire, hk]
        obtain ⟨hok, hrem⟩ := onReportTimeout_keeps h hmem rfl hk hwithin
        rw [hfire]
        exact ⟨hok, fun p hp => (hrem p hp).imp_right fun ht => by simp [ownRemoval, ht]⟩
      | connection w | reconnect | statementRetry st n | flushNext rest | request kind w text q =>
        rw [hk] at heff
        exact h.keeps heff rfl
    | _ => exact h.keeps heff rfl

end ReportsOk

/-- Nothing is registered in the initial state. -/
lemma init_reportsOk (r : RoomId) : ReportsOk r client.init :=
  reportsOk_of_none rfl fun q c _ hget => by simp [client, RagState.init] at hget

/-- **Report requests do not interfere** in a run in which every call that registers finds nothing
left of the earlier calls of the room: the entry of a call is removed only by a `meeting_report`, by
the timer or the HTTP failure of that call, or by disconnecting the room. -/
theorem report_removals_own (r : RoomId) {es : List Event}
    (h : client.AllSteps (RegistersAlone r) client.init es) :
    client.AllSteps (RemovalsOwn r) client.init es := by
  refine EventSystem.allSteps_of_invariant
    (I := fun s => (∀ r, rooms.Closed r s) ∧ ReportsOk r s) ?_ ?_
    ⟨init_closed, init_reportsOk r⟩ h
  · rintro s e s' ⟨hc, hok⟩ halone hs
    exact ⟨step_closed hc hs, (step_keeps hc hok halone hs).1⟩
  · rintro s e ⟨hc, hok⟩ halone s' hs p hp
    exact (step_keeps hc hok halone hs).2 p hp

/-- Two report requests of a room, the second one after the first one has got its report. -/
theorem report_removals_own_sequential :
    client.AllSteps (RemovalsOwn "r") client.init
      [⟨0, .connect "r" .ok⟩, ⟨10, .wsOpen ⟨"r", 1⟩ .ok⟩, ⟨20, .requestReport "r"⟩,
        ⟨30, .httpResponse ⟨"r", 3⟩ .ok⟩,
        ⟨40, .wsMessage ⟨"r", 1⟩ (some (.obj [("type", .str "meeting_report"),
          ("status", .str "success")]))⟩,
        ⟨50, .requestReport "r"⟩, ⟨60, .httpResponse ⟨"r", 5⟩ (.threw "timeout")⟩] :=
  report_removals_own "r" (by decide)

/-- A report arrives while the HTTP request of its call is under way. A second call registers, then
the request of the first one fails. -/
def failingLate : List Event :=
  [⟨0, .connect "r" .ok⟩, ⟨10, .wsOpen ⟨"r", 1⟩ .ok⟩, ⟨20, .requestReport "r"⟩,
    ⟨30, .wsMessage ⟨"r", 1⟩ (some (.obj [("type", .str "meeting_report"),
      ("status", .str "success")]))⟩,
    ⟨40, .requestReport "r"⟩, ⟨50, .httpResponse ⟨"r", 3⟩ (.threw "timeout")⟩]

/-- **A late failure removes the entry of the next call.** -/
theorem late_failure_removes_report :
    Timely failingLate ∧ ¬ client.AllSteps (RemovalsOwn "r") client.init failingLate :=
  ⟨by decide, by decide⟩

end Rag
