import AuraLive.Mcp.Client

set_option relaxedAutoImplicit false
set_option autoImplicit false

/-!
# The steps of the MCP client and its requests

A request is a promise, and while it waits its connection has it under its id. Whatever happens, a
promise that is settled stays as it is, and what a connection has under an id is a request that was
written to it with that id.

## Main definitions

* `McpClient.Service.Steps` — what a step can do.
* `McpClient.Keeps` — requests stay, and those that are settled stay as they are.
* `McpClient.Files` — moreover a connection gets no request but its own.
* `McpClient.Filed` — every request that waits is found where it was written to.

## Main results

* `McpClient.steps_of_step` — the steps of the service are those.
* `McpClient.files_step` — requests are filed where they are written to, whatever happens.
* `McpClient.outcome_kept` — a promise that is settled stays as it is, in every run.
-/

namespace McpClient

open Foundations

/-! ## What a step can do -/

namespace Service

/-- The request is resolved. -/
def resolved (s : Service) (r : ℕ) : Bool :=
  match s.outcome r with
  | some (.resolved _) => true
  | _ => false

/-- The step of `connect` after a request was settled. -/
inductive Resumes (s : Service) (k : ℕ) (call : ConnectCall) : Service → Prop
  /-- It fails. -/
  | fail : Resumes s k call (s.failConnect k call)
  /-- The notification is written. -/
  | notify (r : ℕ) (hphase : call.phase = .initializing r) (hr : s.resolved r = true)
      (hname : s.connections.has call.name = true) :
      Resumes s k call (s.awaiting k call .notifying)
  /-- It returns. -/
  | done (r : ℕ) (tools : Option JsVal) (hphase : call.phase = .listing r)
      (hr : s.resolved r = true) : Resumes s k call
        { s.modifyConn call.conn fun c => { c with tools := tools } with calls := s.calls.remove k }
  /-- The tools have no length. -/
  | unlisted (tools : Option JsVal) : Resumes s k call
      ((s.modifyConn call.conn fun c => { c with tools := tools }).failConnect k call)

/-- The step of the service at an event. -/
inductive Steps (parse : String → Option JsVal) (s : Service) : Event → Service → Prop
  | connect (config : ServerConfig) : Steps parse s (.connect config) (s.connect config)
  | disconnect (name : String) : Steps parse s (.disconnect name)
      { s with connections := s.connections.delete name }
  | onModuleDestroy : Steps parse s .onModuleDestroy { s with connections := ∅ }
  | call (name method : String) (s' : Service) (r : ℕ)
      (hsend : s.sendRequest name method = some (s', r)) : Steps parse s (.call name method) s'
  | unknown (name method : String) : Steps parse s (.call name method) s
  | stdout (p : ℕ) (data : List UInt8) (conn : Connection) (hconn : s.conns.get p = some conn) :
      Steps parse s (.stdout p data)
        ((s.modifyConn p fun c => { c with output := c.output ++ data }).handleStdout parse
          conn.config.name data)
  | writeFailed (r : ℕ) (q : Request) (hq : s.requests.get r = some q) :
      Steps parse s (.writeFailed r) ((s.forget q.conn q.id).settle r .rejected)
  | timeout (r : ℕ) (q : Request) (hq : s.requests.get r = some q) :
      Steps parse s (.timeout r) ((s.forget q.conn q.id).settle r .rejected)
  | inTime (r : ℕ) : Steps parse s (.timeout r) s
  | closed (p : ℕ) : Steps parse s (.closed p) (s.modifyConn p fun c => { c with
      state := .disconnected, exited := true, exitedSince := c.handshake = .done })
  | processError (p : ℕ) : Steps parse s (.processError p)
      (s.modifyConn p fun c => { c with state := .error })
  | resumed (k : ℕ) (call : ConnectCall) (s' : Service) (hcall : s.calls.get k = some call)
      (hresumes : s.Resumes k call s') : Steps parse s (.resumed k) s'
  | notified (k : ℕ) (call : ConnectCall) (hcall : s.calls.get k = some call)
      (hphase : call.phase = .notifying) :
      Steps parse s (.notified k false) (s.afterNotification k call)
  | unnotified (k : ℕ) (call : ConnectCall) (hcall : s.calls.get k = some call) :
      Steps parse s (.notified k true) (s.failConnect k call)

end Service

section Inversion

variable {parse : String → Option JsVal} {s s' : Service}

lemma resumes_of_resume {k : ℕ} {call : ConnectCall} (h : s.resume k call = some s') :
    s.Resumes k call s' := by
  have hresolved : ∀ {r : ℕ} {result : Option JsVal}, s.outcome r = some (.resolved result) →
      s.resolved r = true := fun hr => by rw [Service.resolved, hr]
  unfold Service.resume at h
  split at h
  · rename_i r hphase
    split at h
    · cases h
    · exact Option.some.inj h ▸ .fail
    · rename_i hr
      split at h
      · rename_i hname
        exact Option.some.inj h ▸ .notify r hphase (hresolved hr) hname
      · exact Option.some.inj h ▸ .fail
  · rename_i r hphase
    split at h
    · cases h
    · exact Option.some.inj h ▸ .fail
    · rename_i hr
      split at h
      · exact Option.some.inj h ▸ .fail
      · rename_i tools _
        dsimp only at h
        split at h
        · exact Option.some.inj h ▸ .done r tools hphase (hresolved hr)
        · exact Option.some.inj h ▸ .unlisted tools
  · cases h

/-- Every step is one of these.

**Proof sketch.** One case for each kind of event: its guard gives the connection, the request or
the call that the step is about. -/
lemma steps_of_step {e : Event} (h : (system parse).step s e = some s') : s.Steps parse e s' := by
  cases e with
  | connect config => exact Option.some.inj h ▸ .connect config
  | disconnect name => exact Option.some.inj h ▸ .disconnect name
  | onModuleDestroy => exact Option.some.inj h ▸ .onModuleDestroy
  | call name method =>
    obtain rfl := Option.some.inj h
    cases hsend : s.sendRequest name method with
    | none => exact .unknown name method
    | some p => exact .call name method p.1 p.2 hsend
  | stdout p data =>
    simp only [system, Service.handle] at h
    split at h
    · cases h
    · rename_i conn hconn
      exact Option.some.inj h ▸ .stdout p data conn hconn
  | writeFailed r =>
    simp only [system, Service.handle] at h
    split at h
    · cases h
    · rename_i q hq
      exact Option.some.inj h ▸ .writeFailed r q hq
  | timeout r =>
    simp only [system, Service.handle] at h
    split at h
    · cases h
    rename_i q hq
    split at h
    · exact Option.some.inj h ▸ .timeout r q hq
    · exact Option.some.inj h ▸ .inTime r
  | closed p =>
    simp only [system, Service.handle] at h
    split at h
    · exact Option.some.inj h ▸ .closed p
    · cases h
  | processError p =>
    simp only [system, Service.handle] at h
    split at h
    · exact Option.some.inj h ▸ .processError p
    · cases h
  | resumed k =>
    simp only [system, Service.handle] at h
    split at h
    · cases h
    · rename_i call hcall
      exact .resumed k call s' hcall (resumes_of_resume h)
  | notified k failed =>
    simp only [system, Service.handle] at h
    split at h
    · cases h
    rename_i call hcall
    split at h
    · rename_i hphase
      obtain rfl := Option.some.inj h
      cases failed
      · exact .notified k call hcall hphase
      · exact .unnotified k call hcall
    · cases h

end Inversion

/-! ## What every step leaves -/

/-- Requests stay, and those that are settled stay as they are. -/
def Keeps (s s' : Service) : Prop :=
  ∀ r q, s.requests.get r = some q → ∃ q', s'.requests.get r = some q' ∧ q'.conn = q.conn ∧
    q'.id = q.id ∧ ∀ o, q.outcome = some o → q'.outcome = some o

/-- Every request that waits was written to the connection that has it, with the id it is found
under. -/
def Filed (s : Service) : Prop :=
  ∀ i conn id r, s.conns.get i = some conn → conn.pendingRequests.get id = some r →
    ∃ q, s.requests.get r = some q ∧ q.conn = i ∧ q.id = id

/-- Requests stay, and a request that waits did so before, or was just written. -/
structure Files (s s' : Service) : Prop where
  keeps : Keeps s s'
  waiting : ∀ i conn' id r, s'.conns.get i = some conn' → conn'.pendingRequests.get id = some r →
    (∃ conn, s.conns.get i = some conn ∧ conn.pendingRequests.get id = some r) ∨
      ∃ q, s'.requests.get r = some q ∧ q.conn = i ∧ q.id = id

section Relations

variable {s s' s'' : Service}

/-- Nothing changes. -/
lemma Keeps.of_eq (h : s'.requests = s.requests) : Keeps s s' :=
  fun _ q hq => ⟨q, h ▸ hq, rfl, rfl, fun _ ho => ho⟩

/-- One change after the other. -/
lemma Keeps.trans (h : Keeps s s') (h' : Keeps s' s'') : Keeps s s'' := by
  intro r q hq
  obtain ⟨q', hq', hconn, hid, hout⟩ := h r q hq
  obtain ⟨q'', hq'', hconn', hid', hout'⟩ := h' r q' hq'
  exact ⟨q'', hq'', hconn'.trans hconn, hid'.trans hid, fun o ho => hout' o (hout o ho)⟩

/-- Requests that waited are found in the next state as well. -/
lemma Filed.of_files (h : Filed s) (hfiles : Files s s') : Filed s' := by
  intro i conn' id r hconn' hr
  rcases hfiles.waiting i conn' id r hconn' hr with ⟨conn, hconn, hr⟩ | hq
  · obtain ⟨q, hq, hqconn, hid⟩ := h i conn id r hconn hr
    obtain ⟨q', hq', hconn', hid', -⟩ := hfiles.keeps r q hq
    exact ⟨q', hq', hconn'.trans hqconn, hid'.trans hid⟩
  · exact hq

namespace Files

/-- Something else changes. -/
lemma of_eq (hrequests : s'.requests = s.requests) (hconns : s'.conns = s.conns) : Files s s' where
  keeps := .of_eq hrequests
  waiting _ conn' _ _ hconn' hr := .inl ⟨conn', hconns ▸ hconn', hr⟩

/-- One change after the other. -/
lemma trans (h : Files s s') (h' : Files s' s'') : Files s s'' where
  keeps := h.keeps.trans h'.keeps
  waiting i conn'' id r hconn'' hr := by
    rcases h'.waiting i conn'' id r hconn'' hr with ⟨conn', hconn', hr⟩ | hq
    · rcases h.waiting i conn' id r hconn' hr with hconn | ⟨q, hq, hqconn, hid⟩
      · exact .inl hconn
      · obtain ⟨q', hq', hconn', hid', -⟩ := h'.keeps r q hq
        exact .inr ⟨q', hq', hconn'.trans hqconn, hid'.trans hid⟩
    · exact .inr hq

/-- A connection changes, and requests may leave it. -/
lemma modifyConn (s : Service) (i : ℕ) {f : Connection → Connection}
    (hf : ∀ conn id r, (f conn).pendingRequests.get id = some r →
      conn.pendingRequests.get id = some r) : Files s (s.modifyConn i f) where
  keeps := .of_eq rfl
  waiting j conn' id r hconn' hr := by
    simp only [Service.modifyConn, Ledger.get_modify] at hconn'
    by_cases hj : i = j
    · rw [if_pos hj] at hconn'
      obtain ⟨conn, hconn, rfl⟩ := Option.map_eq_some_iff.mp hconn'
      exact .inl ⟨conn, hconn, hf conn id r hr⟩
    · rw [if_neg hj] at hconn'
      exact .inl ⟨conn', hconn', hr⟩

/-- A request leaves its connection. -/
lemma forget (s : Service) (i id : ℕ) : Files s (s.forget i id) := by
  exact modifyConn s i fun conn id' r hr => (JsMap.get_of_get_delete hr).2

/-- A promise is settled once. -/
lemma settle (s : Service) (r : ℕ) (o : Outcome) : Files s (s.settle r o) where
  keeps r' q hq := by
    unfold Service.settle
    dsimp only
    rw [Ledger.get_modify]
    by_cases hr : r = r'
    · rw [if_pos hr, hq]
      refine ⟨_, rfl, ?_⟩
      dsimp only
      by_cases ho : q.outcome.isSome = true
      · rw [if_pos ho]
        exact ⟨rfl, rfl, fun _ h => h⟩
      · rw [if_neg ho]
        refine ⟨rfl, rfl, fun o' ho' => absurd ?_ ho⟩
        rw [ho']
        rfl
    · rw [if_neg hr]
      exact ⟨q, hq, rfl, rfl, fun _ h => h⟩
  waiting _ conn' _ _ hconn' hr := .inl ⟨conn', hconn', hr⟩

end Files

end Relations

/-! ## The functions -/

section Functions

variable {parse : String → Option JsVal} {s s' : Service} {i r k : ℕ}

/-- What `sendRequest` does. -/
lemma sendRequest_eq_some {name method : String} :
    s.sendRequest name method = some (s', r) ↔ ∃ i conn, s.connections.get name = some i ∧
      s.conns.get i = some conn ∧ r = s.requests.next ∧ s' = { s with
        conns := s.conns.modify i fun c => { c with
          requestId := conn.requestId + 1
          pendingRequests := c.pendingRequests.set (conn.requestId + 1) s.requests.next }
        requests := s.requests.enter ⟨i, conn.requestId + 1, method, none⟩ } := by
  unfold Service.sendRequest
  constructor
  · intro h
    split at h
    · cases h
    rename_i i hi
    split at h
    · cases h
    rename_i conn hconn
    cases h
    exact ⟨i, conn, hi, hconn, rfl, rfl⟩
  · rintro ⟨i, conn, hi, hconn, rfl, rfl⟩
    rw [hi]
    dsimp only
    rw [hconn]

/-- A new request is one more, and its connection has it. -/
lemma files_sendRequest {name method : String} (h : s.sendRequest name method = some (s', r)) :
    Files s s' := by
  obtain ⟨i, conn₀, -, -, rfl, rfl⟩ := sendRequest_eq_some.mp h
  constructor
  · intro r q hq
    refine ⟨q, ?_, rfl, rfl, fun _ ho => ho⟩
    have hlt := Ledger.lt_next_of_get hq
    dsimp only
    rw [Ledger.get_enter, if_neg (by omega)]
    exact hq
  · intro j conn' id r hconn' hr
    simp only [Ledger.get_modify] at hconn'
    by_cases hj : i = j
    · rw [if_pos hj] at hconn'
      obtain ⟨conn, hconn, rfl⟩ := Option.map_eq_some_iff.mp hconn'
      dsimp only at hr
      rw [JsMap.get_set] at hr
      split at hr
      · rename_i hid
        obtain rfl := Option.some.inj hr
        exact .inr ⟨_, by rw [Ledger.get_enter, if_pos rfl], hj, hid⟩
      · exact .inl ⟨conn, hconn, hr⟩
    · rw [if_neg hj] at hconn'
      exact .inl ⟨conn', hconn', hr⟩

/-- A response settles at most one promise. -/
lemma files_handleResponse (i : ℕ) (s : Service) (response : JsVal) :
    Files s (Service.handleResponse i s response) := by
  unfold Service.handleResponse
  split
  · exact .of_eq rfl rfl
  split
  · exact .of_eq rfl rfl
  · exact (Files.forget s _ _).trans (.settle _ _ _)

/-- The responses of a chunk settle at most one promise each. -/
lemma files_foldl (i : ℕ) : ∀ (responses : List JsVal) (s : Service),
    Files s (responses.foldl (Service.handleResponse i) s)
  | [], _ => .of_eq rfl rfl
  | response :: responses, s =>
    (files_handleResponse i s response).trans (files_foldl i responses _)

lemma files_handleStdout (s : Service) (name : String) (data : List UInt8) :
    Files s (s.handleStdout parse name data) := by
  unfold Service.handleStdout
  split
  · exact .of_eq rfl rfl
  split
  · exact .of_eq rfl rfl
  · refine Files.trans (.modifyConn s _ ?_) (files_foldl _ _ _)
    exact fun _ _ _ => id

/-- A new connection has no requests. -/
lemma files_spawned (s : Service) (config : ServerConfig) : Files s { s with
    conns := s.conns.enter (.spawned config)
    connections := s.connections.set config.name s.conns.next } where
  keeps := .of_eq rfl
  waiting _ conn' _ _ hconn' hr := by
    rw [Ledger.get_enter] at hconn'
    split at hconn'
    · obtain rfl := Option.some.inj hconn'
      cases hr
    · exact .inl ⟨conn', hconn', hr⟩

/-- `connect` writes a request. -/
lemma files_connect (s : Service) (config : ServerConfig) : Files s (s.connect config) := by
  unfold Service.connect
  split
  · exact .of_eq rfl rfl
  dsimp only
  split
  · exact files_spawned s config
  · rename_i hsend
    exact ((files_spawned s config).trans (files_sendRequest hsend)).trans (.of_eq rfl rfl)

lemma files_failConnect (s : Service) (k : ℕ) (call : ConnectCall) :
    Files s (s.failConnect k call) := by
  have hconn := Files.modifyConn s call.conn
    (f := fun c => { c with state := .error, handshake := .failed }) fun _ _ _ => id
  exact hconn.trans (.of_eq rfl rfl)

/-- `connect` writes another request. -/
lemma files_afterNotification (s : Service) (k : ℕ) (call : ConnectCall) :
    Files s (s.afterNotification k call) := by
  have hconn := Files.modifyConn s call.conn
    (f := fun c => { c with state := .connected, handshake := .done }) fun _ _ _ => id
  unfold Service.afterNotification
  dsimp only
  split
  · exact hconn.trans (files_failConnect _ k call)
  · rename_i hsend
    exact (hconn.trans (files_sendRequest hsend)).trans (.of_eq rfl rfl)

/-- The other steps of `connect` write none. -/
lemma files_resumes {call : ConnectCall} (h : s.Resumes k call s') : Files s s' := by
  have htools := fun tools => Files.modifyConn s call.conn
    (f := fun c => { c with tools := tools }) fun _ _ _ => id
  cases h with
  | fail => exact files_failConnect s k call
  | notify => exact .of_eq rfl rfl
  | done r tools => exact (htools tools).trans (.of_eq rfl rfl)
  | unlisted tools => exact (htools tools).trans (files_failConnect _ k call)

end Functions

/-! ## Steps and runs -/

section Runs

variable {parse : String → Option JsVal} {s s' : Service}

/-- Every step keeps what is settled, and files requests where they are written to. -/
lemma files_step {e : Event} (h : s.Steps parse e s') : Files s s' := by
  cases h with
  | connect config => exact files_connect s config
  | disconnect | onModuleDestroy | unknown | inTime => exact .of_eq rfl rfl
  | call _ _ _ _ hsend => exact files_sendRequest hsend
  | stdout p data conn =>
    refine Files.trans (.modifyConn s p ?_) (files_handleStdout _ _ _)
    exact fun _ _ _ => id
  | writeFailed | timeout => exact (Files.forget s _ _).trans (.settle _ _ _)
  | closed p | processError p => exact .modifyConn s p fun _ _ _ => id
  | resumed _ _ _ _ hresumes => exact files_resumes hresumes
  | notified => exact files_afterNotification _ _ _
  | unnotified => exact files_failConnect _ _ _

/-- **A promise that is settled stays as it is**, in every run. -/
theorem outcome_kept : ∀ {es : List Event} {s s' : Service}, (system parse).exec s es = some s' →
    Keeps s s'
  | [], _, _, h => Option.some.inj h ▸ .of_eq rfl
  | _ :: _, _, _, h => by
    obtain ⟨u, hu, hrest⟩ := EventSystem.exec_cons.mp h
    exact (files_step (steps_of_step hu)).keeps.trans (outcome_kept hrest)

end Runs

end McpClient
