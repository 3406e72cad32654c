import AuraLive.Mcp.Responses

set_option relaxedAutoImplicit false
set_option autoImplicit false

/-!
# What a call of `connect` establishes

`connect` registers the connection before its handshake, and nothing but `disconnect` and
`onModuleDestroy` ever removes it. A later call returns at once as soon as a connection is
registered under the name, whatever has become of it.

## Main definitions

* `McpClient.Established` — what must hold of the calls of `connect`, those that begin and those
  that return.
* `McpClient.Careful` — what a step must find for that.
* `McpClient.Sound` — the invariant.

## Main results

* `McpClient.established_of_careful` — in every run of such steps every call of `connect` that
  returns has established a connection, and a new handshake is attempted after an old one.
* `McpClient.connect_after_failure` — after a handshake that has failed, `connect` returns.

## Design

* **Abandoned calls.** A call of `connect` whose connection is not registered any more may go on, by
  the name of the server. This is harmless as long as no other connection gets the name before the
  call fails.
* **Statuses.** The invariant sees a connection through its name, its state, its handshake and
  whether its process was closed after that.
-/

namespace McpClient

open Foundations

/-! ## The property -/

/-- The tools are listed. -/
def Phase.isListing : Phase → Bool
  | .listing _ => true
  | _ => false

namespace Service

/-- The connection that is registered under a name. -/
def registered (s : Service) (name : String) : Option Connection :=
  (s.connections.get name).bind s.conns.get

/-- The call returns normally when it goes on. -/
def returns (s : Service) (call : ConnectCall) : Bool :=
  match call.phase with
  | .listing r =>
    match s.outcome r with
    | some (.resolved result) => (toolsOf result).any hasLength
    | _ => false
  | _ => false

/-- The call has an answer to `initialize`, and has not asked for the tools. -/
def answered (s : Service) (call : ConnectCall) : Bool :=
  match call.phase with
  | .initializing r => s.resolved r
  | .notifying => true
  | .listing _ => false

/-- `connect` starts a process and writes `initialize` to it. -/
def Attempts (s : Service) (config : ServerConfig) : Prop :=
  ∃ r, (s.connect config).calls.get s.calls.next =
    some ⟨s.conns.next, config.name, .initializing r⟩

end Service

/-- **What the calls of `connect` establish.** A call that returns, at once or later, finds the
state `connected`, unless the process was closed after the handshake. A call attempts a handshake if
there is no connection, if its process has exited or its handshake has failed. -/
def Established (s : Service) : Event → Prop
  | .connect config =>
    (∀ conn ∈ s.registered config.name,
      s.getConnectionState config.name = .connected ∨ conn.exitedSince = true) ∧
    ((∀ conn ∈ s.registered config.name, conn.exited = true ∨ conn.handshake = .failed) →
      s.Attempts config)
  | .resumed k => ∀ call ∈ s.calls.get k, s.returns call = true →
      s.getConnectionState call.name = .connected ∨
        ∃ conn ∈ s.conns.get call.conn, conn.exitedSince = true
  | _ => True

/-- **What a step must find.** A connection that is registered when `connect` is called is connected
and its process has not exited. If none is registered, no call under that name goes on with its
handshake. A connection is not removed when its call is about to return, and its process has no
error while the tools are listed. -/
def Careful (s : Service) : Event → Prop
  | .connect config =>
    (∀ conn ∈ s.registered config.name, conn.state = .connected ∧ conn.exited = false) ∧
    (s.connections.has config.name = false →
      s.calls.count (fun call => call.name = config.name && s.answered call) = 0)
  | .disconnect name => s.calls.count (fun call => call.name = name && s.returns call) = 0
  | .onModuleDestroy => s.calls.count s.returns = 0
  | .processError p => s.calls.count (fun call => call.conn = p && call.phase.isListing) = 0
  | _ => True

instance (s : Service) : (e : Event) → Decidable (Careful s e)
  | .connect _ => inferInstanceAs (Decidable ((∀ _ ∈ _, _) ∧ (_ → _)))
  | .disconnect _ | .onModuleDestroy | .processError _ => inferInstanceAs (Decidable (_ = 0))
  | .call _ _ | .stdout _ _ | .writeFailed _ | .timeout _ | .closed _ | .resumed _
  | .notified _ _ => .isTrue trivial

/-! ## Statuses -/

/-- What the invariant sees of a connection. -/
structure Status where
  name : String
  state : ConnectionState
  handshake : Handshake
  exitedSince : Bool

/-- The status of a connection. -/
def Connection.status (conn : Connection) : Status :=
  ⟨conn.config.name, conn.state, conn.handshake, conn.exitedSince⟩

/-- The status of the connection with a number. -/
def Service.status (s : Service) (i : ℕ) : Option Status := (s.conns.get i).map Connection.status

section Statuses

variable {parse : String → Option JsVal} {s s' : Service} {r : ℕ}

/-- A connection changes. -/
lemma status_modifyConn (s : Service) (i j : ℕ) {f : Connection → Connection} {g : Status → Status}
    (h : ∀ conn, (f conn).status = g conn.status) :
    (s.modifyConn i f).status j = if i = j then (s.status j).map g else s.status j := by
  unfold Service.status Service.modifyConn
  dsimp only
  rw [Ledger.get_modify]
  split
  · rw [Option.map_map, Option.map_map]
    exact congrArg (fun f => (s.conns.get j).map f) (funext h)
  · rfl

/-- Nothing of it is seen. -/
lemma status_modifyConn_of_eq (s : Service) (i : ℕ) {f : Connection → Connection}
    (h : ∀ conn, (f conn).status = conn.status) : (s.modifyConn i f).status = s.status := by
  funext j
  rw [status_modifyConn s i j (g := id) h, Option.map_id]
  split <;> rfl

lemma status_sendRequest {name method : String} (h : s.sendRequest name method = some (s', r)) :
    s'.status = s.status := by
  obtain ⟨i, conn, -, -, rfl, rfl⟩ := sendRequest_eq_some.mp h
  exact status_modifyConn_of_eq s i fun _ => rfl

lemma status_handleResponse (i : ℕ) (s : Service) (response : JsVal) :
    (Service.handleResponse i s response).status = s.status := by
  unfold Service.handleResponse
  split
  · rfl
  split
  · rfl
  · exact status_modifyConn_of_eq s i fun _ => rfl

lemma status_foldl (i : ℕ) : ∀ (responses : List JsVal) (s : Service),
    (responses.foldl (Service.handleResponse i) s).status = s.status
  | [], _ => rfl
  | response :: responses, s =>
    (status_foldl i responses _).trans (status_handleResponse i s response)

lemma status_handleStdout (s : Service) (name : String) (data : List UInt8) :
    (s.handleStdout parse name data).status = s.status := by
  unfold Service.handleStdout
  split
  · rfl
  split
  · rfl
  · rename_i i _ _ conn _
    refine (status_foldl i _ _).trans ?_
    exact status_modifyConn_of_eq s i fun _ => rfl

lemma connections_foldl (i : ℕ) : ∀ (responses : List JsVal) (s : Service),
    (responses.foldl (Service.handleResponse i) s).connections = s.connections ∧
      (responses.foldl (Service.handleResponse i) s).calls = s.calls
  | [], _ => ⟨rfl, rfl⟩
  | response :: responses, s => by
    have hone : (Service.handleResponse i s response).connections = s.connections ∧
        (Service.handleResponse i s response).calls = s.calls := by
      unfold Service.handleResponse
      split
      · exact ⟨rfl, rfl⟩
      split
      · exact ⟨rfl, rfl⟩
      · exact ⟨rfl, rfl⟩
    obtain ⟨hreg, hcalls⟩ := connections_foldl i responses (Service.handleResponse i s response)
    exact ⟨hreg.trans hone.1, hcalls.trans hone.2⟩

/-- The output of a process concerns neither names nor calls. -/
lemma connections_handleStdout (s : Service) (name : String) (data : List UInt8) :
    (s.handleStdout parse name data).connections = s.connections ∧
      (s.handleStdout parse name data).calls = s.calls := by
  unfold Service.handleStdout
  split
  · exact ⟨rfl, rfl⟩
  split
  · exact ⟨rfl, rfl⟩
  · exact connections_foldl _ _ _

end Statuses

/-! ## The invariant -/

/-- The request a call waits for. -/
def Phase.request : Phase → Option ℕ
  | .initializing r => some r
  | .notifying => none
  | .listing r => some r

/-- The status of the connection of a call. -/
def Suits (status : Status) : Phase → Prop
  | .listing _ => status.handshake = .done ∧
      (status.state = .connected ∨ status.exitedSince = true)
  | _ => status.handshake = .pending

/-- A call whose connection is not registered any more: it fails, or its request is never
answered. -/
structure Abandoned (s : Service) (call : ConnectCall) : Prop where
  lost : s.connections.get call.name ≠ some call.conn
  stuck : s.returns call = false
  unanswered : s.connections.get call.name = none ∨ s.answered call = false

/-- A call of `connect` in progress. -/
structure InProgress (s : Service) (call : ConnectCall) : Prop where
  status : ∃ status, s.status call.conn = some status ∧ status.name = call.name ∧
    Suits status call.phase
  request : ∀ r, call.phase.request = some r →
    ∃ q, s.requests.get r = some q ∧ q.conn = call.conn
  owner : s.connections.get call.name = some call.conn ∨ Abandoned s call

/-- The state of the connections and the calls. -/
structure Sound (s : Service) : Prop where
  /-- Connections are registered under their names. -/
  named : ∀ n i, s.connections.get n = some i → ∃ status, s.status i = some status ∧
    status.name = n
  filed : Filed s
  /-- A handshake that has failed is not connected later. -/
  failed : ∀ i status, s.status i = some status → status.handshake = .failed →
    status.state ≠ .connected
  calls : ∀ k call, s.calls.get k = some call → InProgress s call
  /-- Every connection has one call. -/
  apart : ∀ k k' call call', s.calls.get k = some call → s.calls.get k' = some call' →
    call.conn = call'.conn → k = k'

section Invariant

variable {parse : String → Option JsVal} {s s' : Service} {i k r : ℕ} {call : ConnectCall}

/-- If no call is of a kind, a call is not. -/
lemma eq_false_of_count {p : ConnectCall → Bool} (h : s.calls.count p = 0)
    (hcall : s.calls.get k = some call) : p call = false := by
  by_contra hp
  have hpos := Ledger.count_pos_iff.mpr ⟨k, call, hcall, Bool.not_eq_false _ ▸ hp⟩
  omega

/-- A request that is not resolved for a call that does not return, or has no answer. -/
lemma returns_eq_false (h : s.returns call = false)
    (hout : ∀ r, call.phase.request = some r →
      s'.outcome r = s.outcome r ∨ s'.outcome r = some .rejected) : s'.returns call = false := by
  unfold Service.returns at h ⊢
  cases hphase : call.phase with
  | initializing r => rfl
  | notifying => rfl
  | listing r =>
    rw [hphase] at h hout
    rcases hout r rfl with heq | heq
    · dsimp only at h ⊢
      rwa [heq]
    · dsimp only
      rw [heq]

lemma answered_eq_false (h : s.answered call = false)
    (hout : ∀ r, call.phase.request = some r →
      s'.outcome r = s.outcome r ∨ s'.outcome r = some .rejected) : s'.answered call = false := by
  unfold Service.answered Service.resolved at h ⊢
  cases hphase : call.phase with
  | initializing r =>
    rw [hphase] at h hout
    rcases hout r rfl with heq | heq
    · dsimp only at h ⊢
      rwa [heq]
    · dsimp only
      rw [heq]
  | notifying =>
    rw [hphase] at h
    cases h
  | listing r => rfl

/-- Requests to connections that are not registered get no answer. -/
def Undisturbed (s s' : Service) : Prop :=
  ∀ r q, s.requests.get r = some q → (∀ n, s.connections.get n ≠ some q.conn) →
    s'.outcome r = s.outcome r ∨ s'.outcome r = some .rejected

/-- A request stays as it is. -/
lemma outcome_of_get {q : Request} (h : s.requests.get r = some q)
    (h' : s'.requests.get r = some q) : s'.outcome r = s.outcome r := by
  unfold Service.outcome
  rw [h, h']

lemma undisturbed_sendRequest {name method : String}
    (h : s.sendRequest name method = some (s', r)) : Undisturbed s s' := by
  obtain ⟨i, conn, -, -, rfl, rfl⟩ := sendRequest_eq_some.mp h
  intro r q hq _
  have hlt := Ledger.lt_next_of_get hq
  refine .inl (outcome_of_get hq ?_)
  dsimp only
  rw [Ledger.get_enter, if_neg (by omega)]
  exact hq

lemma undisturbed_reject (s : Service) (i id r : ℕ) :
    Undisturbed s ((s.forget i id).settle r .rejected) := by
  intro r' q hq _
  unfold Service.outcome Service.settle
  simp only [Service.forget, Service.modifyConn, Ledger.get_modify, hq]
  by_cases hr : r = r'
  · rw [if_pos hr]
    cases ho : q.outcome with
    | none => simp [ho]
    | some o => simp [ho]
  · rw [if_neg hr]
    exact .inl rfl

/-- A response concerns a request of its connection. -/
lemma request_handleResponse {q : Request} (hfiled : Filed s) (hq : s.requests.get r = some q)
    (hi : q.conn ≠ i) (response : JsVal) :
    (Service.handleResponse i s response).requests.get r = some q := by
  unfold Service.handleResponse
  split
  · exact hq
  rename_i id _
  split
  · exact hq
  rename_i r' hr'
  obtain ⟨conn, hconn, hpending⟩ := Option.bind_eq_some_iff.mp hr'
  obtain ⟨q', hq', hconn', -⟩ := hfiled i conn id r' hconn hpending
  have hne : r' ≠ r := by
    rintro rfl
    obtain rfl := Option.some.inj (hq.symm.trans hq')
    exact hi hconn'
  simp only [Service.settle, Service.forget, Service.modifyConn, Ledger.get_modify]
  rw [if_neg hne]
  exact hq

lemma request_foldl {q : Request} (hi : q.conn ≠ i) : ∀ (responses : List JsVal) {s : Service},
    Filed s → s.requests.get r = some q →
    (responses.foldl (Service.handleResponse i) s).requests.get r = some q
  | [], _, _, hq => hq
  | response :: responses, s, hfiled, hq =>
    request_foldl hi responses (hfiled.of_files (files_handleResponse i s response))
      (request_handleResponse hfiled hq hi response)

lemma undisturbed_handleStdout (hfiled : Filed s) (name : String) (data : List UInt8) :
    Undisturbed s (s.handleStdout parse name data) := by
  intro r q hq hlost
  refine .inl (outcome_of_get hq ?_)
  unfold Service.handleStdout
  split
  · exact hq
  rename_i i hi
  split
  · exact hq
  have hne : q.conn ≠ i := fun heq => hlost name (hi.trans (congrArg some heq.symm))
  refine request_foldl hne _ (hfiled.of_files ?_) hq
  exact .modifyConn s i fun _ _ _ => id

/-! ### Calls -/

/-- The connection of an abandoned call is registered nowhere, since its name is the one of the
call. -/
lemma Sound.unregistered (h : Sound s) (hcall : InProgress s call) (hlost : Abandoned s call)
    (n : String) : s.connections.get n ≠ some call.conn := by
  intro hn
  obtain ⟨status, hstatus, hname⟩ := h.named n call.conn hn
  obtain ⟨status', hstatus', hname', -⟩ := hcall.status
  obtain rfl := Option.some.inj (hstatus.symm.trans hstatus')
  rw [← hname, hname'] at hn
  exact hlost.lost hn

/-- An abandoned call stays so. -/
lemma Abandoned.of_outcome (h : Abandoned s call)
    (hreg : ∀ i, s'.connections.get call.name = some i → s.connections.get call.name = some i)
    (hout : ∀ r, call.phase.request = some r →
      s'.outcome r = s.outcome r ∨ s'.outcome r = some .rejected) : Abandoned s' call where
  lost hn := h.lost (hreg _ hn)
  stuck := returns_eq_false h.stuck hout
  unanswered := by
    refine h.unanswered.imp (fun hnone => ?_) fun hanswer => answered_eq_false hanswer hout
    cases hn : s'.connections.get call.name with
    | none => rfl
    | some i =>
      rw [hreg i hn] at hnone
      cases hnone

/-- A call goes on as it was. -/
lemma InProgress.of_status (h : InProgress s call)
    (hstatus : ∀ status, s.status call.conn = some status → Suits status call.phase →
      ∃ status', s'.status call.conn = some status' ∧ status'.name = status.name ∧
        Suits status' call.phase)
    (hkeeps : Keeps s s')
    (howner : s'.connections.get call.name = some call.conn ∨ Abandoned s' call) :
    InProgress s' call where
  status := by
    obtain ⟨status, hst, hname, hsuits⟩ := h.status
    obtain ⟨status', hst', hname', hsuits'⟩ := hstatus status hst hsuits
    exact ⟨status', hst', hname'.trans hname, hsuits'⟩
  request r hr := by
    obtain ⟨q, hq, hconn⟩ := h.request r hr
    obtain ⟨q', hq', hconn', -⟩ := hkeeps r q hq
    exact ⟨q', hq', hconn'.trans hconn⟩
  owner := howner

/-- Only other calls change. -/
lemma InProgress.of_eq (h : InProgress s call) (hconns : s'.conns = s.conns)
    (hreg : s'.connections = s.connections) (hrequests : s'.requests = s.requests) :
    InProgress s' call := by
  have hstatus : s'.status = s.status := by
    unfold Service.status
    rw [hconns]
  have hout : ∀ r, s'.outcome r = s.outcome r := by
    intro r
    unfold Service.outcome
    rw [hrequests]
  refine h.of_status (fun status hst hsuits => ⟨status, hstatus ▸ hst, rfl, hsuits⟩)
    (.of_eq hrequests) ?_
  rw [hreg]
  exact h.owner.imp_right fun hlost =>
    hlost.of_outcome (fun _ hn => hreg ▸ hn) fun r _ => .inl (hout r)

/-- Whatever leaves the statuses, the names and the calls, and answers no abandoned call. -/
lemma Sound.of_status (h : Sound s) (hstatus : s'.status = s.status)
    (hreg : s'.connections = s.connections) (hcalls : s'.calls = s.calls) (hfiles : Files s s')
    (hout : Undisturbed s s') : Sound s' where
  named n i hn := by
    rw [hreg] at hn
    rw [hstatus]
    exact h.named n i hn
  filed := h.filed.of_files hfiles
  failed i status := by
    rw [hstatus]
    exact h.failed i status
  calls k call hcall := by
    rw [hcalls] at hcall
    have hin := h.calls k call hcall
    refine hin.of_status (fun status hst hsuits => ⟨status, hstatus ▸ hst, rfl, hsuits⟩)
      hfiles.keeps ?_
    rw [hreg]
    refine hin.owner.imp_right fun hlost => hlost.of_outcome (by simp [hreg]) fun r hr => ?_
    obtain ⟨q, hq, hconn⟩ := hin.request r hr
    exact hout r q hq fun n => hconn ▸ h.unregistered hin hlost n
  apart := hcalls ▸ h.apart

/-! ### Steps -/

/-- Connections leave the map, but none whose call is about to return. -/
lemma Sound.unregister (h : Sound s) (m : JsMap String ℕ)
    (hm : ∀ n i, m.get n = some i → s.connections.get n = some i)
    (hcareful : ∀ k call, s.calls.get k = some call →
      m.get call.name = s.connections.get call.name ∨
        m.get call.name = none ∧ s.returns call = false) :
    Sound { s with connections := m } where
  named n i hn := h.named n i (hm n i hn)
  filed := h.filed
  failed := h.failed
  calls k call hcall := by
    have hin := h.calls k call hcall
    refine hin.of_status (fun status hst hsuits => ⟨status, hst, rfl, hsuits⟩) (.of_eq rfl) ?_
    rcases hin.owner with hown | hlost
    · rcases hcareful k call hcall with heq | ⟨hnone, hstuck⟩
      · exact .inl (heq.trans hown)
      · exact .inr ⟨by simp [hnone], hstuck, .inl hnone⟩
    · exact .inr (hlost.of_outcome (fun i => hm call.name i) fun r _ => .inl rfl)
  apart := h.apart

/-- A connection changes in a way that suits its call. -/
lemma Sound.modifyConn (h : Sound s) (i : ℕ) {f : Connection → Connection} {g : Status → Status}
    (hg : ∀ conn, (f conn).status = g conn.status)
    (hpending : ∀ conn id r, (f conn).pendingRequests.get id = some r →
      conn.pendingRequests.get id = some r)
    (hname : ∀ status, (g status).name = status.name)
    (hfailed : ∀ status, s.status i = some status → (g status).handshake = .failed →
      (g status).state ≠ .connected)
    (hcalls : ∀ k call, s.calls.get k = some call → call.conn = i → ∀ status,
      Suits status call.phase → Suits (g status) call.phase) :
    Sound (s.modifyConn i f) where
  named n j hn := by
    obtain ⟨status, hst, hstname⟩ := h.named n j hn
    rw [status_modifyConn s i j hg, hst]
    split
    · exact ⟨g status, rfl, (hname status).trans hstname⟩
    · exact ⟨status, rfl, hstname⟩
  filed := h.filed.of_files (.modifyConn s i hpending)
  failed j status hst := by
    rw [status_modifyConn s i j hg] at hst
    split at hst
    · rename_i hj
      obtain ⟨status₀, hst₀, rfl⟩ := Option.map_eq_some_iff.mp hst
      exact hfailed status₀ (hj ▸ hst₀)
    · exact h.failed j status hst
  calls k call hcall := by
    have hin := h.calls k call hcall
    refine hin.of_status (fun status hst hsuits => ?_) (.of_eq rfl)
      (hin.owner.imp_right fun hlost => hlost.of_outcome (fun _ => id) fun r _ => .inl rfl)
    rw [status_modifyConn s i call.conn hg, hst]
    split
    · rename_i hi
      exact ⟨g status, rfl, hname status, hcalls k call hcall hi.symm status hsuits⟩
    · exact ⟨status, rfl, rfl, hsuits⟩
  apart := h.apart

/-- A call ends. -/
lemma Sound.remove (h : Sound s) (k : ℕ) : Sound { s with calls := s.calls.remove k } where
  named := h.named
  filed := h.filed
  failed := h.failed
  calls k' call hcall := by
    have hin := h.calls k' call (Ledger.get_of_get_remove _ hcall).2
    exact hin.of_eq rfl rfl rfl
  apart k₁ k₂ call₁ call₂ h₁ h₂ :=
    h.apart k₁ k₂ call₁ call₂ (Ledger.get_of_get_remove _ h₁).2 (Ledger.get_of_get_remove _ h₂).2

/-- One call is added to the others, with a connection of its own. -/
lemma Sound.join {calls : Ledger ConnectCall} (h : Sound s)
    (hin : InProgress s call)
    (hother : ∀ k' call', s.calls.get k' = some call' → call'.conn ≠ call.conn)
    (hget : ∀ k' call', calls.get k' = some call' →
      k' = k ∧ call' = call ∨ s.calls.get k' = some call') :
    Sound { s with calls := calls } := by
  refine ⟨h.named, h.filed, h.failed, fun k' call' hcall' => ?_,
    fun k₁ k₂ call₁ call₂ h₁ h₂ hconn => ?_⟩
  · rcases hget k' call' hcall' with ⟨-, rfl⟩ | hcall'
    · exact hin.of_eq rfl rfl rfl
    · exact (h.calls k' call' hcall').of_eq rfl rfl rfl
  · rcases hget k₁ call₁ h₁ with ⟨hk₁, hc₁⟩ | h₁'
    · rcases hget k₂ call₂ h₂ with ⟨hk₂, -⟩ | h₂'
      · exact hk₁.trans hk₂.symm
      · exact absurd (hconn.symm.trans (congrArg _ hc₁)) (hother k₂ call₂ h₂')
    · rcases hget k₂ call₂ h₂ with ⟨-, hc₂⟩ | h₂'
      · exact absurd (hconn.trans (congrArg _ hc₂)) (hother k₁ call₁ h₁')
      · exact h.apart k₁ k₂ call₁ call₂ h₁' h₂' hconn

/-- A request is written. -/
lemma Sound.sendRequest (h : Sound s) {name method : String}
    (hsend : s.sendRequest name method = some (s', r)) : Sound s' := by
  obtain ⟨i, conn, -, -, -, hs'⟩ := sendRequest_eq_some.mp hsend
  exact h.of_status (status_sendRequest hsend) (by rw [hs']) (by rw [hs'])
    (files_sendRequest hsend) (undisturbed_sendRequest hsend)

/-- Everything is sound but a call that goes on, and no other call has its connection. -/
structure SoundBut (s : Service) (k : ℕ) (call : ConnectCall) : Prop where
  sound : Sound { s with calls := s.calls.remove k }
  alone : ∀ k' call', s.calls.get k' = some call' → call'.conn = call.conn → k' = k

lemma Sound.but (h : Sound s) (hcall : s.calls.get k = some call) : SoundBut s k call where
  sound := h.remove k
  alone k' call' hcall' hconn := h.apart k' k call' call hcall' hcall hconn

namespace SoundBut

/-- The connection of the call changes. -/
lemma modifyConn (h : SoundBut s k call) {f : Connection → Connection} {g : Status → Status}
    (hg : ∀ conn, (f conn).status = g conn.status)
    (hpending : ∀ conn id r, (f conn).pendingRequests.get id = some r →
      conn.pendingRequests.get id = some r)
    (hname : ∀ status, (g status).name = status.name)
    (hfailed : ∀ status, s.status call.conn = some status → (g status).handshake = .failed →
      (g status).state ≠ .connected) : SoundBut (s.modifyConn call.conn f) k call where
  sound := by
    refine h.sound.modifyConn call.conn hg hpending hname hfailed fun k' call' hcall' hconn => ?_
    obtain ⟨hne, hcall'⟩ := Ledger.get_of_get_remove _ hcall'
    exact absurd (h.alone k' call' hcall' hconn).symm hne
  alone := h.alone

/-- The call writes a request. -/
lemma sendRequest (h : SoundBut s k call) {name method : String}
    (hsend : s.sendRequest name method = some (s', r)) : SoundBut s' k call := by
  obtain ⟨i, conn, hi, hconn, rfl, rfl⟩ := sendRequest_eq_some.mp hsend
  have hsend' : { s with calls := s.calls.remove k }.sendRequest name method = _ :=
    sendRequest_eq_some.mpr ⟨i, conn, hi, hconn, rfl, rfl⟩
  exact ⟨h.sound.sendRequest hsend', h.alone⟩

/-- The call fails. -/
lemma fail (h : SoundBut s k call) : Sound (s.failConnect k call) := by
  have hfail := h.modifyConn (f := fun c => { c with state := .error, handshake := .failed })
    (g := fun status => { status with state := .error, handshake := .failed })
    (fun _ => rfl) (fun _ _ _ => id) (fun _ => rfl) fun _ _ _ hstate => by cases hstate
  exact hfail.sound

/-- The call waits for something else. -/
lemma awaiting (h : SoundBut s k call) {phase : Phase}
    (hin : InProgress s { call with phase := phase }) : Sound (s.awaiting k call phase) := by
  have hin' : InProgress { s with calls := s.calls.remove k } { call with phase := phase } :=
    hin.of_eq rfl rfl rfl
  refine h.sound.join (k := k) hin' ?_ ?_
  · intro k' call' hcall' hconn
    obtain ⟨hne, hcall'⟩ := Ledger.get_of_get_remove _ hcall'
    exact hne (h.alone k' call' hcall' hconn).symm
  · intro k' call' hcall'
    rw [Ledger.get_amend] at hcall'
    split at hcall'
    · rename_i hk
      obtain ⟨_, -, rfl⟩ := Option.map_eq_some_iff.mp hcall'
      exact .inl ⟨hk.symm, rfl⟩
    · rename_i hk
      dsimp only
      rw [Ledger.get_remove, if_neg hk]
      exact .inr hcall'

end SoundBut

/-- The statuses after a process was started. -/
lemma status_spawned (s : Service) (config : ServerConfig) (j : ℕ) :
    Service.status { s with
      conns := s.conns.enter (.spawned config)
      connections := s.connections.set config.name s.conns.next } j =
    if s.conns.next = j then some ⟨config.name, .connecting, .pending, false⟩ else s.status j := by
  unfold Service.status
  dsimp only
  rw [Ledger.get_enter]
  split <;> rfl

/-- A connection with a status has a number in use. -/
lemma lt_next_of_status {status : Status} (h : s.status i = some status) : i < s.conns.next := by
  obtain ⟨conn, hconn, -⟩ := Option.map_eq_some_iff.mp h
  exact Ledger.lt_next_of_get hconn

/-- A process is started under a name that is free, and no call goes on under that name.

**Proof sketch.** A call in progress that has its connection has another name. An abandoned call
under the name of the new connection has no answer, so it is still stuck. -/
lemma Sound.spawned (h : Sound s) {config : ServerConfig}
    (hfree : s.connections.get config.name = none)
    (hquiet : s.calls.count (fun call => call.name = config.name && s.answered call) = 0) :
    Sound { s with
      conns := s.conns.enter (.spawned config)
      connections := s.connections.set config.name s.conns.next } := by
  have hold : ∀ {i status}, s.status i = some status → Service.status { s with
      conns := s.conns.enter (.spawned config)
      connections := s.connections.set config.name s.conns.next } i = some status := by
    intro i status hst
    have hlt := lt_next_of_status hst
    rw [status_spawned, if_neg (by omega)]
    exact hst
  refine ⟨JsMap.forall_get_set ?_ fun n i _ hn => ?_, h.filed.of_files (files_spawned s config),
    fun i status hst => ?_, fun k call hcall => ?_, h.apart⟩
  · exact ⟨_, by rw [status_spawned, if_pos rfl], rfl⟩
  · obtain ⟨status, hst, hname⟩ := h.named n i hn
    exact ⟨status, hold hst, hname⟩
  · rw [status_spawned] at hst
    split at hst
    · obtain rfl := Option.some.inj hst
      exact fun hfailed => by cases hfailed
    · exact h.failed i status hst
  · have hin := h.calls k call hcall
    refine hin.of_status (fun status hst hsuits => ⟨status, hold hst, rfl, hsuits⟩) (.of_eq rfl) ?_
    rw [JsMap.get_set]
    by_cases hname : config.name = call.name
    · have hanswer : s.answered call = false := by
        have hcount := eq_false_of_count hquiet hcall
        rw [hname] at hcount
        simpa using hcount
      obtain ⟨status, hst, -⟩ := hin.status
      have hlt := lt_next_of_status hst
      rcases hin.owner with hown | hlost
      · rw [← hname, hfree] at hown
        cases hown
      · refine .inr ⟨?_, hlost.stuck, .inr hanswer⟩
        rw [JsMap.get_set, if_pos hname]
        exact fun heq => by
          have := Option.some.inj heq
          omega
    · rw [if_neg hname]
      refine hin.owner.imp_right fun hlost => hlost.of_outcome (fun i hi => ?_) fun r _ => .inl rfl
      rwa [JsMap.get_set, if_neg hname] at hi

/-- A call begins, with a connection of its own. -/
lemma Sound.enter (h : Sound s) (hin : InProgress s call)
    (halone : ∀ k call', s.calls.get k = some call' → call'.conn ≠ call.conn) :
    Sound { s with calls := s.calls.enter call } := by
  refine h.join hin halone (k := s.calls.next) fun k call' hcall' => ?_
  rw [Ledger.get_enter] at hcall'
  split at hcall'
  · rename_i hk
    exact .inl ⟨hk.symm, (Option.some.inj hcall').symm⟩
  · exact .inr hcall'

/-- `connect`.

**Proof sketch.** The request is written to the connection that was just registered, which no call
in progress has. -/
lemma Sound.connect (h : Sound s) {config : ServerConfig} (hcareful : Careful s (.connect config)) :
    Sound (s.connect config) := by
  unfold Service.connect
  split
  · exact h
  rename_i hhas
  have hhas : s.connections.has config.name = false := Bool.eq_false_iff.mpr hhas
  have hfree : s.connections.get config.name = none :=
    Option.isNone_iff_eq_none.mp (by rw [← Option.not_isSome, ← JsMap.has, hhas]; rfl)
  have hnew := h.spawned hfree (hcareful.2 hhas)
  dsimp only
  split
  · exact hnew
  rename_i s' r hsend
  have hsound := hnew.sendRequest hsend
  have hstatus := status_sendRequest hsend
  obtain ⟨i, conn, hi, -, rfl, rfl⟩ := sendRequest_eq_some.mp hsend
  obtain rfl : s.conns.next = i := by simpa using hi
  refine hsound.enter ⟨⟨⟨config.name, .connecting, .pending, false⟩, ?_, rfl, rfl⟩,
    fun r hr => ?_, .inl hi⟩ fun k call hcall => ?_
  · rw [hstatus, status_spawned, if_pos rfl]
  · obtain rfl := Option.some.inj hr
    exact ⟨_, by rw [Ledger.get_enter, if_pos rfl], rfl⟩
  · obtain ⟨status, hst, -⟩ := (h.calls k call hcall).status
    have hlt := lt_next_of_status hst
    exact hlt.ne

/-- A call that is not stuck has its connection. -/
lemma InProgress.own_of_returns (h : InProgress s call) (hreturns : s.returns call = true) :
    s.connections.get call.name = some call.conn := by
  rcases h.owner with hown | hlost
  · exact hown
  · rw [hlost.stuck] at hreturns
    cases hreturns

lemma InProgress.own_of_answered (h : InProgress s call) (hanswered : s.answered call = true)
    (hhas : (s.connections.get call.name).isSome = true) :
    s.connections.get call.name = some call.conn := by
  rcases h.owner with hown | hlost
  · exact hown
  · rcases hlost.unanswered with hnone | hfalse
    · rw [hnone] at hhas
      cases hhas
    · rw [hfalse] at hanswered
      cases hanswered

/-- `connect` goes on. -/
lemma Sound.resumes (h : Sound s) (hcall : s.calls.get k = some call)
    (hs : s.Resumes k call s') : Sound s' := by
  have hbut := h.but hcall
  have htools : ∀ tools,
      SoundBut (s.modifyConn call.conn fun c => { c with tools := tools }) k call := fun tools =>
    hbut.modifyConn (g := id) (fun _ => rfl) (fun _ _ _ => id) (fun _ => rfl)
      (h.failed call.conn)
  cases hs with
  | fail => exact hbut.fail
  | notify r hphase hr hname =>
    have hin := h.calls k call hcall
    have hanswered : s.answered call = true := by
      rw [Service.answered, hphase]
      exact hr
    obtain ⟨status, hst, hstname, hsuits⟩ := hin.status
    refine hbut.awaiting ⟨⟨status, hst, hstname, ?_⟩, fun r hr => ?_,
      .inl (hin.own_of_answered hanswered hname)⟩
    · rw [hphase] at hsuits
      exact hsuits
    · cases hr
  | done r tools => exact (htools tools).sound
  | unlisted tools => exact (htools tools).fail

/-- `connect` goes on after the notification. -/
lemma Sound.afterNotification (h : Sound s) (hcall : s.calls.get k = some call)
    (hphase : call.phase = .notifying) : Sound (s.afterNotification k call) := by
  have hdone := (h.but hcall).modifyConn
    (f := fun c => { c with state := .connected, handshake := .done })
    (g := fun status => { status with state := .connected, handshake := .done })
    (fun _ => rfl) (fun _ _ _ => id) (fun _ => rfl) fun _ _ hfailed => by cases hfailed
  have hin := h.calls k call hcall
  unfold Service.afterNotification
  dsimp only
  split
  · exact hdone.fail
  rename_i s' r hsend
  have hbut := hdone.sendRequest hsend
  have hstatus := status_sendRequest hsend
  obtain ⟨i, conn, hi, -, rfl, rfl⟩ := sendRequest_eq_some.mp hsend
  have hanswered : s.answered call = true := by
    rw [Service.answered, hphase]
  have hi' : s.connections.get call.name = some i := hi
  have hown := hin.own_of_answered hanswered (by rw [hi']; rfl)
  obtain rfl := Option.some.inj (hown.symm.trans hi')
  obtain ⟨status, hst, hstname, -⟩ := hin.status
  refine hbut.awaiting ⟨⟨{ status with state := .connected, handshake := .done }, ?_, hstname, rfl,
    .inl rfl⟩, fun r hr => ?_, .inl hi⟩
  · rw [hstatus, status_modifyConn s call.conn call.conn
      (g := fun status => { status with state := .connected, handshake := .done }) fun _ => rfl,
      if_pos rfl, hst]
    rfl
  · obtain rfl := Option.some.inj hr
    exact ⟨_, by rw [Ledger.get_enter, if_pos rfl], rfl⟩

/-- Every careful step.

**Proof sketch.** One case for each kind of step. What is settled or written leaves the statuses of
the connections as they are. When a connection is removed or its process fails, no call that lists
the tools is waiting for it, as the step is careful; calls that are still in the handshake do not
look at the state. The steps of the calls themselves have lemmas of their own. -/
lemma Sound.step {e : Event} (h : Sound s) (hcareful : Careful s e) (hs : s.Steps parse e s') :
    Sound s' := by
  cases hs with
  | connect config => exact h.connect hcareful
  | disconnect name =>
    refine h.unregister _ (fun n i hn => (JsMap.get_of_get_delete hn).2) fun k call hcall => ?_
    rw [JsMap.get_delete]
    by_cases hname : name = call.name
    · have hcount := eq_false_of_count hcareful hcall
      rw [if_pos hname]
      exact .inr ⟨rfl, by simpa [hname] using hcount⟩
    · rw [if_neg hname]
      exact .inl rfl
  | onModuleDestroy =>
    exact h.unregister ∅ (fun n i hn => by cases hn) fun k call hcall =>
      .inr ⟨rfl, eq_false_of_count hcareful hcall⟩
  | call _ _ _ _ hsend => exact h.sendRequest hsend
  | unknown | inTime => exact h
  | stdout p data conn =>
    have houtput := h.modifyConn p (f := fun c => { c with output := c.output ++ data }) (g := id)
      (fun _ => rfl) (fun _ _ _ => id) (fun _ => rfl) (h.failed p) fun _ _ _ _ _ => id
    exact houtput.of_status (status_handleStdout _ _ _) (connections_handleStdout _ _ _).1
      (connections_handleStdout _ _ _).2 (files_handleStdout _ _ _)
      (undisturbed_handleStdout houtput.filed _ _)
  | writeFailed r q | timeout r q =>
    exact h.of_status (status_modifyConn_of_eq s q.conn fun _ => rfl) rfl rfl
      ((Files.forget s _ _).trans (.settle _ _ _)) (undisturbed_reject s _ _ _)
  | closed p =>
    refine h.modifyConn p (g := fun status => { status with
      state := .disconnected, exitedSince := status.handshake = .done }) (fun _ => rfl)
      (fun _ _ _ => id) (fun _ => rfl) (fun _ _ _ hstate => by cases hstate) ?_
    intro k call _ _ status hsuits
    cases hphase : call.phase with
    | initializing r | notifying =>
      rw [hphase] at hsuits
      exact hsuits
    | listing r =>
      rw [hphase] at hsuits
      exact ⟨hsuits.1, .inr (decide_eq_true hsuits.1)⟩
  | processError p =>
    refine h.modifyConn p (g := fun status => { status with state := .error }) (fun _ => rfl)
      (fun _ _ _ => id) (fun _ => rfl) (fun _ _ _ hstate => by cases hstate) ?_
    intro k call hcall hp status hsuits
    have hcount := eq_false_of_count hcareful hcall
    cases hphase : call.phase with
    | initializing r | notifying =>
      rw [hphase] at hsuits
      exact hsuits
    | listing r => simp [hp, hphase, Phase.isListing] at hcount
  | resumed _ _ _ hcall hresumes => exact h.resumes hcall hresumes
  | notified _ _ hcall hphase => exact h.afterNotification hcall hphase
  | unnotified _ _ hcall => exact (h.but hcall).fail

/-! ## Runs -/

/-- The state of a connection that is registered. -/
lemma getConnectionState_of_registered {conn : Connection} {name : String}
    (h : s.registered name = some conn) : s.getConnectionState name = conn.state := by
  unfold Service.getConnectionState
  rw [Service.registered] at h
  rw [h]

/-- A registered connection is the one of the invariant. -/
lemma Sound.registered (h : Sound s) {name : String} (hi : s.connections.get name = some i) :
    ∃ conn, s.registered name = some conn ∧ s.conns.get i = some conn := by
  obtain ⟨status, hst, -⟩ := h.named name i hi
  obtain ⟨conn, hconn, -⟩ := Option.map_eq_some_iff.mp hst
  refine ⟨conn, ?_, hconn⟩
  rw [Service.registered, hi]
  exact hconn

/-- If nothing is registered, `connect` attempts a handshake. -/
lemma attempts_of_free {config : ServerConfig} (hfree : s.connections.get config.name = none) :
    s.Attempts config := by
  have hhas : ¬ s.connections.has config.name = true := by
    rw [JsMap.has, hfree]
    exact Bool.false_ne_true
  unfold Service.Attempts Service.connect
  rw [if_neg hhas]
  simp only [Service.sendRequest, JsMap.get_set_self, Ledger.get_enter, if_pos]
  exact ⟨_, rfl⟩

/-- What the calls of `connect` establish follows from the invariant. -/
lemma Sound.established {e : Event} (h : Sound s) (hcareful : Careful s e) : Established s e := by
  cases e with
  | connect config =>
    refine ⟨fun conn hconn => .inl ?_, fun hlost => ?_⟩
    · rw [getConnectionState_of_registered hconn]
      exact (hcareful.1 conn hconn).1
    · cases hi : s.connections.get config.name with
      | none => exact attempts_of_free hi
      | some i =>
        -- a connection that is connected and whose process runs was not lost
        obtain ⟨conn, hconn, hget⟩ := h.registered hi
        obtain ⟨hstate, hexited⟩ := hcareful.1 conn hconn
        rcases hlost conn hconn with hlost | hfailed
        · rw [hexited] at hlost
          cases hlost
        · have hst : s.status i = some conn.status := by rw [Service.status, hget]; rfl
          exact absurd hstate (h.failed i conn.status hst hfailed)
  | resumed k =>
    intro call hcall hreturns
    have hin := h.calls k call hcall
    obtain ⟨conn, hconn, hget⟩ := h.registered (hin.own_of_returns hreturns)
    obtain ⟨status, hst, -, hsuits⟩ := hin.status
    rw [Service.status, hget] at hst
    obtain rfl := Option.some.inj hst
    rw [getConnectionState_of_registered hconn]
    cases hphase : call.phase with
    | initializing r | notifying => simp [Service.returns, hphase] at hreturns
    | listing r =>
      rw [hphase] at hsuits
      exact hsuits.2.imp_right fun hexited => ⟨conn, hget, hexited⟩
  | disconnect | onModuleDestroy | call | stdout | writeFailed | timeout | closed | processError
  | notified => trivial

/-- At first there are neither connections nor calls. -/
lemma sound_init : Sound (system parse).init where
  named _ _ hn := by cases hn
  filed _ _ _ _ hconn := by cases hconn
  failed _ _ hst := by cases hst
  calls _ _ hcall := by cases hcall
  apart _ _ _ _ hcall := by cases hcall

end Invariant

/-- **`connect` establishes a connection.** In every run of careful steps, every call that returns
finds the state `connected` unless the process was closed after the handshake, and a call attempts a
handshake if there is no connection, or its process has exited or its handshake has failed. -/
theorem established_of_careful {parse : String → Option JsVal} {es : List Event}
    (h : (system parse).AllSteps Careful (system parse).init es) :
    (system parse).AllSteps Established (system parse).init es := by
  exact EventSystem.allSteps_of_invariant (I := Sound)
    (fun s e s' hsound hcareful hs => hsound.step hcareful (steps_of_step hs))
    (fun s e hsound hcareful => hsound.established hcareful) sound_init h

/-- A line that lists no tools, in answer to the second request. -/
def toolsListed : String :=
  "\x7b\"jsonrpc\":\"2.0\",\"id\":2,\"result\":\x7b\"tools\":[]\x7d\x7d"

/-- `JSON.parse`, on the lines of a handshake. -/
def parseHandshake (line : String) : Option JsVal :=
  if line = toolsListed then
    some (.obj [("jsonrpc", .str "2.0"), ("id", .num 2), ("result", .obj [("tools", .arr [])])])
  else parseInitialized line

/-- A server is connected to, twice. Its process exits, and it is connected to again. -/
def reconnected : List Event :=
  [.connect notes, .stdout 0 initializedLine, .resumed 0, .notified 0 false,
    .stdout 0 (streamOf [toolsListed]), .resumed 0, .connect notes, .closed 0,
    .disconnect "notes", .connect notes]

/-- The theorem for a server that is connected to again after its process has exited. -/
theorem established_of_careful_reconnected :
    ((system parseHandshake).exec (system parseHandshake).init reconnected).isSome ∧
    (system parseHandshake).AllSteps Established (system parseHandshake).init reconnected :=
  ⟨by decide +kernel, established_of_careful (by decide +kernel)⟩

/-- **After a handshake that has failed, `connect` returns.** The server does not answer
`initialize` for thirty seconds. The next call of `connect` returns normally, while the state is
`error`. -/
theorem connect_after_failure :
    ¬ (system parseHandshake).AllSteps Established (system parseHandshake).init
      ([.connect notes, .timeout 0, .resumed 0] ++ [.connect notes]) := by
  intro h
  have hrun : ((system parseHandshake).exec (system parseHandshake).init
      [.connect notes, .timeout 0, .resumed 0]).map (fun s =>
        (s.getConnectionState "notes", (s.registered "notes").map (·.exitedSince))) =
      some (.error, some false) := by
    decide +kernel
  obtain ⟨s, hs, hstate⟩ := Option.map_eq_some_iff.mp hrun
  obtain ⟨hstate, hconn⟩ := Prod.mk.inj hstate
  obtain ⟨conn, hconn, hexited⟩ := Option.map_eq_some_iff.mp hconn
  rcases (h.last hs).1 conn hconn with hconnected | hsince
  · cases hstate.symm.trans hconnected
  · cases hexited.symm.trans hsince

end McpClient
