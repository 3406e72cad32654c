import AuraLive.Foundations.EventSystem
import AuraLive.Foundations.JsValue
import AuraLive.Foundations.Ledger
import AuraLive.Mcp.Framing

set_option relaxedAutoImplicit false
set_option autoImplicit false

/-!
# The MCP client

`McpClientService` starts a process for every server it connects to, writes requests to it and waits
for the lines of its output. A connection is registered under the name of its server. Requests, the
output of a process and the steps of `connect` look it up by that name, while timeouts and the
events of a process hold on to the connection itself.

## Main definitions

* `McpClient.Connection`, `Request`, `ConnectCall` — a connection with its process, the promise of a
  request, and a call of `connect` that waits.
* `McpClient.Service`, `Event` — the service and what can happen.
* `McpClient.Service.sendRequest`, `handleResponse`, `handleStdout`, `resume` — the functions of the
  service.
* `McpClient.system` — the service over time.

## Design

* **Processes.** A process has the number of the connection that started it. It may write after it
  was killed, until it is closed.
* **History.** Connections and requests are never removed from their ledgers. A connection records
  all output of its process, and when the process was closed.
* **Promises.** A promise that is settled stays as it is. What waits for it goes on at any later
  time.
-/

namespace McpClient

open Foundations

/-! ## The state -/

/-- `McpConnectionState`. -/
inductive ConnectionState where
  | connecting
  | connected
  | disconnected
  | error
  deriving DecidableEq

/-- `McpServerConfig`. -/
structure ServerConfig where
  name : String
  command : String
  args : List String
  env : List (String × String)

/-- How far `connect` has come. -/
inductive Handshake where
  | pending
  | done
  | failed
  deriving DecidableEq

/-- An `McpConnection`. -/
structure Connection where
  config : ServerConfig
  state : ConnectionState
  /-- The tools of the server, a value of any shape. -/
  tools : Option JsVal
  /-- The requests that wait, under their ids. -/
  pendingRequests : JsMap ℕ ℕ
  requestId : ℕ
  buffer : List Char
  /-- All output of the process. -/
  output : List UInt8
  /-- The process was closed. -/
  exited : Bool
  handshake : Handshake
  /-- The process was closed after the handshake. -/
  exitedSince : Bool

/-- A connection whose process was just started. -/
def Connection.spawned (config : ServerConfig) : Connection :=
  ⟨config, .connecting, some (.arr []), ∅, 0, [], [], false, .pending, false⟩

/-- How a promise was settled: with the `result` of a response, or with an error. -/
inductive Outcome where
  | resolved (result : Option JsVal)
  | rejected

/-- The promise of a request. -/
structure Request where
  /-- The connection the request was written to. -/
  conn : ℕ
  id : ℕ
  method : String
  outcome : Option Outcome

/-- What a call of `connect` waits for. -/
inductive Phase where
  /-- The request `initialize`. -/
  | initializing (request : ℕ)
  /-- The notification is written. -/
  | notifying
  /-- The request `tools/list`. -/
  | listing (request : ℕ)
  deriving DecidableEq

/-- A call of `connect` that has started a process. -/
structure ConnectCall where
  conn : ℕ
  name : String
  phase : Phase

/-- The service. -/
structure Service where
  /-- The connections that are registered. -/
  connections : JsMap String ℕ
  /-- All connections. -/
  conns : Ledger Connection
  /-- All requests. -/
  requests : Ledger Request
  /-- The calls of `connect` in progress. -/
  calls : Ledger ConnectCall

/-- What can happen. -/
inductive Event where
  | connect (config : ServerConfig)
  | disconnect (serverName : String)
  | onModuleDestroy
  /-- `callTool` or `listTools`, by anyone. -/
  | call (serverName method : String)
  /-- A chunk of the output of a process. -/
  | stdout (process : ℕ) (data : List UInt8)
  /-- Writing a request has failed. -/
  | writeFailed (request : ℕ)
  /-- The thirty seconds of a request are over. -/
  | timeout (request : ℕ)
  /-- The events of a process. -/
  | closed (process : ℕ)
  | processError (process : ℕ)
  /-- A call of `connect` goes on after the request it waits for was settled. -/
  | resumed (call : ℕ)
  /-- The notification of a call of `connect` was written, or that has failed. -/
  | notified (call : ℕ) (failed : Bool)

/-! ## The functions -/

namespace Service

/-- `getConnectionState`. -/
def getConnectionState (s : Service) (serverName : String) : ConnectionState :=
  match (s.connections.get serverName).bind s.conns.get with
  | none => .disconnected
  | some conn => conn.state

/-- A connection changes. -/
def modifyConn (s : Service) (i : ℕ) (f : Connection → Connection) : Service :=
  { s with conns := s.conns.modify i f }

/-- A promise is settled, unless it was before. -/
def settle (s : Service) (r : ℕ) (outcome : Outcome) : Service :=
  { s with requests := s.requests.modify r fun q =>
      if q.outcome.isSome then q else { q with outcome := some outcome } }

/-- `conn.pendingRequests.delete(id)`. -/
def forget (s : Service) (i id : ℕ) : Service :=
  s.modifyConn i fun c => { c with pendingRequests := c.pendingRequests.delete id }

/-- `sendRequest`: the service and the number of the request, if the server is registered. -/
def sendRequest (s : Service) (serverName method : String) : Option (Service × ℕ) :=
  match s.connections.get serverName with
  | none => none
  | some i =>
    match s.conns.get i with
    | none => none
    | some conn =>
      let id := conn.requestId + 1
      let r := s.requests.next
      some ({ s with
        conns := s.conns.modify i fun c =>
          { c with requestId := id, pendingRequests := c.pendingRequests.set id r }
        requests := s.requests.enter ⟨i, id, method, none⟩ }, r)

/-- The key of `pendingRequests` that a value is, if it is one. -/
def idOf : Option JsVal → Option ℕ
  | some (.num q) => if q.den = 1 ∧ 0 ≤ q.num then some q.num.toNat else none
  | _ => none

/-- How `handleResponse` settles a request. -/
def outcomeOf (response : JsVal) : Outcome :=
  if JsVal.truthy (response.field "error") then .rejected else .resolved (response.field "result")

/-- `handleResponse`, where `i` is the registered connection. Reading the id of `null` throws, which
is caught. -/
def handleResponse (i : ℕ) (s : Service) (response : JsVal) : Service :=
  match idOf (response.field "id") with
  | none => s
  | some id =>
    match (s.conns.get i).bind fun conn => conn.pendingRequests.get id with
    | none => s
    | some r => (s.forget i id).settle r (outcomeOf response)

/-- `handleStdout`: the chunk of a process goes to the connection that is registered under the name
of its server. -/
def handleStdout (parse : String → Option JsVal) (s : Service) (serverName : String)
    (data : List UInt8) : Service :=
  match s.connections.get serverName with
  | none => s
  | some i =>
    match s.conns.get i with
    | none => s
    | some conn =>
      let (buffer, responses) := McpClient.handleStdout parse conn.buffer data
      responses.foldl (handleResponse i) (s.modifyConn i fun c => { c with buffer := buffer })

/-- An exception in `connect`: the state is set, and the call ends. -/
def failConnect (s : Service) (k : ℕ) (call : ConnectCall) : Service :=
  { s.modifyConn call.conn fun c => { c with state := .error, handshake := .failed } with
    calls := s.calls.remove k }

/-- The call waits for something else. -/
def awaiting (s : Service) (k : ℕ) (call : ConnectCall) (phase : Phase) : Service :=
  { s with calls := s.calls.amend k { call with phase := phase } }

/-- The outcome of a request. -/
def outcome (s : Service) (r : ℕ) : Option Outcome := (s.requests.get r).bind (·.outcome)

/-- `result.tools`, unless reading it throws. -/
def toolsOf : Option JsVal → Option (Option JsVal)
  | none => none
  | some .null => none
  | some result => some (result.field "tools")

/-- `tools.length`, which `connect` reads for its log line, does not throw. -/
def hasLength : Option JsVal → Bool
  | none => false
  | some .null => false
  | some _ => true

/-- `connect`, up to its first `await`. -/
def connect (s : Service) (config : ServerConfig) : Service :=
  if s.connections.has config.name then s
  else
    let i := s.conns.next
    let s := { s with
      conns := s.conns.enter (.spawned config)
      connections := s.connections.set config.name i }
    match s.sendRequest config.name "initialize" with
    | none => s
    | some (s, r) => { s with calls := s.calls.enter ⟨i, config.name, .initializing r⟩ }

/-- `connect` goes on after a request was settled. -/
def resume (s : Service) (k : ℕ) (call : ConnectCall) : Option Service :=
  match call.phase with
  | .initializing r =>
    match s.outcome r with
    | none => none
    | some .rejected => some (s.failConnect k call)
    | some (.resolved _) =>
      -- `sendNotification` looks the connection up
      if s.connections.has call.name then some (s.awaiting k call .notifying)
      else some (s.failConnect k call)
  | .listing r =>
    match s.outcome r with
    | none => none
    | some .rejected => some (s.failConnect k call)
    | some (.resolved result) =>
      match toolsOf result with
      | none => some (s.failConnect k call)
      | some tools =>
        let s := s.modifyConn call.conn fun c => { c with tools := tools }
        if hasLength tools then some { s with calls := s.calls.remove k }
        else some (s.failConnect k call)
  | .notifying => none

/-- `connect` goes on after the notification was written: the state is set, and `listTools` is
called. -/
def afterNotification (s : Service) (k : ℕ) (call : ConnectCall) : Service :=
  let s := s.modifyConn call.conn fun c => { c with state := .connected, handshake := .done }
  match s.sendRequest call.name "tools/list" with
  | none => s.failConnect k call
  | some (s, r) => s.awaiting k call (.listing r)

end Service

/-- The handlers. -/
def Service.handle (parse : String → Option JsVal) (s : Service) : Event → Option Service
  | .connect config => some (s.connect config)
  | .disconnect serverName => some { s with connections := s.connections.delete serverName }
  | .onModuleDestroy => some { s with connections := ∅ }
  | .call serverName method => some (((s.sendRequest serverName method).map Prod.fst).getD s)
  | .stdout p data =>
    match s.conns.get p with
    | none => none
    | some conn =>
      some ((s.modifyConn p fun c => { c with output := c.output ++ data }).handleStdout parse
        conn.config.name data)
  | .writeFailed r =>
    match s.requests.get r with
    | none => none
    | some q => some ((s.forget q.conn q.id).settle r .rejected)
  | .timeout r =>
    match s.requests.get r with
    | none => none
    | some q =>
      if (s.conns.get q.conn).any fun conn => conn.pendingRequests.has q.id then
        some ((s.forget q.conn q.id).settle r .rejected)
      else some s
  | .closed p =>
    if (s.conns.get p).isSome then
      some (s.modifyConn p fun c => { c with
        state := .disconnected, exited := true, exitedSince := c.handshake = .done })
    else none
  | .processError p =>
    if (s.conns.get p).isSome then some (s.modifyConn p fun c => { c with state := .error })
    else none
  | .resumed k =>
    match s.calls.get k with
    | none => none
    | some call => s.resume k call
  | .notified k failed =>
    match s.calls.get k with
    | none => none
    | some call =>
      if call.phase = .notifying then
        some (if failed then s.failConnect k call else s.afterNotification k call)
      else none

/-- The service over time. -/
def system (parse : String → Option JsVal) : EventSystem Service Event where
  init := ⟨∅, .empty, .empty, .empty⟩
  step := Service.handle parse

end McpClient
