import AuraLive.Mcp.Requests
import Mathlib.Data.Rat.Lemmas

set_option relaxedAutoImplicit false
set_option autoImplicit false

/-!
# Responses and their requests

A request is written to the process of the connection that is registered under the name of the
server, and the output of a process goes to the connection that is registered under that name when
it comes. The ids of the requests start with one for every connection.

## Main definitions

* `McpClient.emitted` — the responses in the output of a process.
* `McpClient.OwnResponses` — every request that is resolved was answered by the process it was
  written to.
* `McpClient.Correlated` — responses reach their own requests in a run.
* `McpClient.OwnOutput` — what a chunk of output must find.
* `McpClient.Coherent` — the invariant.

## Main results

* `McpClient.own_responses` — in every run whose chunks find their own connection and do not cut a
  character, every resolved request was answered by its own process.
* `McpClient.answered_by_another_process` — the output of a process that was killed resolves the
  request of the next connection.
-/

namespace McpClient

open Foundations

/-! ## The property -/

section Property

variable (parse : String → Option JsVal)

/-- The responses in the complete lines of an output. -/
def emitted (output : List UInt8) : List JsVal :=
  responsesOf parse ((decodeUtf8 output).splitOn '\n').dropLast

/-- What follows the last line feed of an output. -/
def rest (output : List UInt8) : List Char := ((decodeUtf8 output).splitOn '\n').getLastD []

/-- The output has a response to a request with the given result. -/
def Answered (output : List UInt8) (id : ℕ) (result : Option JsVal) : Prop :=
  ∃ response ∈ emitted parse output, response.field "id" = some (.num id) ∧
    JsVal.truthy (response.field "error") = false ∧ response.field "result" = result

/-- Every request that is resolved was answered by the process it was written to. -/
def OwnResponses (s : Service) : Prop :=
  ∀ r q result, s.requests.get r = some q → q.outcome = some (.resolved result) →
    ∃ conn, s.conns.get q.conn = some conn ∧ Answered parse conn.output q.id result

end Property

/-- A chunk of output is not cut within a character, and if a connection is registered under the
name of the server, it is the one that has started the process. -/
def OwnOutput (s : Service) : Event → Prop
  | .stdout p data => ∀ conn ∈ s.conns.get p,
      decodeUtf8 (conn.output ++ data) = decodeUtf8 conn.output ++ decodeUtf8 data ∧
      ∀ i ∈ s.connections.get conn.config.name, i = p
  | _ => True

instance (s : Service) : (e : Event) → Decidable (OwnOutput s e)
  | .stdout _ _ => inferInstanceAs (Decidable (∀ _ ∈ _, _ ∧ ∀ _ ∈ _, _))
  | .connect _ | .disconnect _ | .onModuleDestroy | .call _ _ | .writeFailed _ | .timeout _
  | .closed _ | .processError _ | .resumed _ | .notified _ _ => .isTrue trivial

/-! ## The output of a process -/

section Output

variable (parse : String → Option JsVal) {output data : List UInt8}

/-- A chunk is read from where the buffer has stopped. -/
lemma handleStdout_rest
    (h : decodeUtf8 (output ++ data) = decodeUtf8 output ++ decodeUtf8 data) :
    emitted parse (output ++ data) =
        emitted parse output ++ (handleStdout parse (rest output) data).2 ∧
      rest (output ++ data) = (handleStdout parse (rest output) data).1 := by
  have hne : (rest output ++ decodeUtf8 data).splitOn '\n' ≠ [] := List.splitOn_ne_nil _ _
  have hsplit : (decodeUtf8 (output ++ data)).splitOn '\n' =
      ((decodeUtf8 output).splitOn '\n').dropLast ++
        (rest output ++ decodeUtf8 data).splitOn '\n' := by
    rw [h]
    exact splitOn_append _ _
  constructor
  · rw [emitted, hsplit, List.dropLast_append_of_ne_nil hne, responsesOf_append]
    rfl
  · rw [rest, hsplit, List.getLastD_eq_getLast?, List.getLast?_append_of_ne_nil _ hne,
      ← List.getLastD_eq_getLast?]
    rfl

variable {parse} {id : ℕ} {result : Option JsVal}

/-- What was answered stays so. -/
lemma Answered.append (h : Answered parse output id result)
    (hdata : decodeUtf8 (output ++ data) = decodeUtf8 output ++ decodeUtf8 data) :
    Answered parse (output ++ data) id result := by
  obtain ⟨response, hmem, hfields⟩ := h
  refine ⟨response, ?_, hfields⟩
  rw [(handleStdout_rest parse hdata).1]
  exact List.mem_append_left _ hmem

/-- The id of a response is a key of the map only if it is that number. -/
lemma eq_num_of_idOf {v : Option JsVal} (h : Service.idOf v = some id) : v = some (.num id) := by
  unfold Service.idOf at h
  split at h
  · rename_i q
    split at h
    · rename_i hq
      obtain rfl := Option.some.inj h
      congr 2
      rw [← Rat.coe_int_num_of_den_eq_one hq.1]
      exact_mod_cast congrArg (Int.cast (R := ℚ)) (Int.toNat_of_nonneg hq.2).symm
    · cases h
  · cases h

end Output

/-! ## The invariant -/

/-- The state of the correlation. -/
structure Coherent (parse : String → Option JsVal) (s : Service) : Prop where
  /-- A connection is registered under its own name, and its buffer is what follows the last line
  feed in the output of its process. -/
  registered : ∀ n i, s.connections.get n = some i → ∃ conn, s.conns.get i = some conn ∧
    conn.config.name = n ∧ conn.buffer = rest conn.output
  /-- Every request that waits is found where it was written to. -/
  filed : Filed s
  /-- Every request that is resolved was answered by its process. -/
  own : OwnResponses parse s

section Invariant

variable {parse : String → Option JsVal} {s s' s'' : Service} {i id r k : ℕ}

/-- Connections stay, with their names, buffers and outputs. -/
def Retains (s s' : Service) : Prop :=
  ∀ i conn, s.conns.get i = some conn → ∃ conn', s'.conns.get i = some conn' ∧
    conn'.config = conn.config ∧ conn'.buffer = conn.buffer ∧ conn'.output = conn.output

/-- A connection changes otherwise. -/
lemma retains_modify {f : Connection → Connection} (hconns : s'.conns = s.conns.modify i f)
    (hconfig : ∀ conn, (f conn).config = conn.config)
    (hbuffer : ∀ conn, (f conn).buffer = conn.buffer)
    (houtput : ∀ conn, (f conn).output = conn.output) : Retains s s' := by
  intro j conn hconn
  rw [hconns, Ledger.get_modify, hconn]
  by_cases hj : i = j
  · rw [if_pos hj]
    exact ⟨f conn, rfl, hconfig conn, hbuffer conn, houtput conn⟩
  · rw [if_neg hj]
    exact ⟨conn, rfl, rfl, rfl, rfl⟩

namespace Coherent

/-- A step that leaves names, buffers and outputs, where every request that is resolved was so
before or was answered. -/
lemma of_retains (h : Coherent parse s) (hfiles : Files s s') (hretains : Retains s s')
    (hreg : ∀ n i, s'.connections.get n = some i → s.connections.get n = some i)
    (hown : ∀ r q result, s'.requests.get r = some q → q.outcome = some (.resolved result) →
      (∃ q₀, s.requests.get r = some q₀ ∧ q₀.conn = q.conn ∧ q₀.id = q.id ∧
        q₀.outcome = some (.resolved result)) ∨
      ∃ conn, s.conns.get q.conn = some conn ∧ Answered parse conn.output q.id result) :
    Coherent parse s' where
  registered n i hn := by
    obtain ⟨conn, hconn, hname, hrest⟩ := h.registered n i (hreg n i hn)
    obtain ⟨conn', hconn', hconfig, hbuffer, houtput⟩ := hretains i conn hconn
    exact ⟨conn', hconn', by rw [hconfig, hname], by rw [hbuffer, houtput, hrest]⟩
  filed := h.filed.of_files hfiles
  own r q result hq hres := by
    have hanswer : ∃ conn, s.conns.get q.conn = some conn ∧
        Answered parse conn.output q.id result := by
      rcases hown r q result hq hres with ⟨q₀, hq₀, hconn, hid, hres₀⟩ | hanswer
      · exact hconn ▸ hid ▸ h.own r q₀ result hq₀ hres₀
      · exact hanswer
    obtain ⟨conn, hconn, hanswer⟩ := hanswer
    obtain ⟨conn', hconn', -, -, houtput⟩ := hretains q.conn conn hconn
    exact ⟨conn', hconn', houtput ▸ hanswer⟩

/-- The correlation only concerns connections and requests, and those that are registered. -/
lemma of_eq (h : Coherent parse s) (hconns : s'.conns = s.conns)
    (hrequests : s'.requests = s.requests)
    (hreg : ∀ n i, s'.connections.get n = some i → s.connections.get n = some i) :
    Coherent parse s' := by
  refine h.of_retains (.of_eq hrequests hconns) (fun i conn hconn => ?_) hreg ?_
  · exact ⟨conn, hconns ▸ hconn, rfl, rfl, rfl⟩
  · exact fun r q result hq hres => .inl ⟨q, hrequests ▸ hq, rfl, rfl, hres⟩

/-- A connection changes, but for its output, its buffer and its name, and requests may leave. -/
lemma modifyConn (h : Coherent parse s) (i : ℕ) {f : Connection → Connection}
    (hconfig : ∀ conn, (f conn).config = conn.config)
    (hbuffer : ∀ conn, (f conn).buffer = conn.buffer)
    (houtput : ∀ conn, (f conn).output = conn.output)
    (hpending : ∀ conn id r, (f conn).pendingRequests.get id = some r →
      conn.pendingRequests.get id = some r) :
    Coherent parse (s.modifyConn i f) :=
  h.of_retains (.modifyConn s i hpending) (retains_modify rfl hconfig hbuffer houtput)
    (fun _ _ => id) fun _ q _ hq hres => .inl ⟨q, hq, rfl, rfl, hres⟩

/-- A request leaves the map. -/
lemma forget (h : Coherent parse s) (i id : ℕ) : Coherent parse (s.forget i id) :=
  h.of_retains (.forget s i id) (retains_modify rfl (fun _ => rfl) (fun _ => rfl) fun _ => rfl)
    (fun _ _ hn => hn) fun _ q _ hq hres => .inl ⟨q, hq, rfl, rfl, hres⟩

/-- A promise is settled; if it is resolved, the process has answered. -/
lemma settle (h : Coherent parse s) {o : Outcome}
    (ho : ∀ q result, s.requests.get r = some q → o = .resolved result →
      ∃ conn, s.conns.get q.conn = some conn ∧ Answered parse conn.output q.id result) :
    Coherent parse (s.settle r o) := by
  refine h.of_retains (.settle s r o) (fun i conn hconn => ⟨conn, hconn, rfl, rfl, rfl⟩)
    (fun _ _ => id) ?_
  intro r' q result hq hres
  simp only [Service.settle, Ledger.get_modify] at hq
  split at hq
  · rename_i hr
    obtain ⟨q₀, hq₀, rfl⟩ := Option.map_eq_some_iff.mp hq
    split at hres
    · rename_i hsome
      rw [if_pos hsome]
      exact .inl ⟨q₀, hq₀, rfl, rfl, hres⟩
    · rename_i hnone
      rw [if_neg hnone]
      exact .inr (ho q₀ result (hr ▸ hq₀) (Option.some.inj hres))
  · exact .inl ⟨q, hq, rfl, rfl, hres⟩

/-- A promise is rejected. -/
lemma reject (h : Coherent parse s) (r : ℕ) : Coherent parse (s.settle r .rejected) :=
  h.settle fun _ _ _ ho => by cases ho

/-- A request is entered under a new id. -/
lemma sendRequest (h : Coherent parse s) {name method : String}
    (hsend : s.sendRequest name method = some (s', r)) : Coherent parse s' := by
  have hfiles := files_sendRequest hsend
  obtain ⟨i, conn₀, -, -, rfl, rfl⟩ := sendRequest_eq_some.mp hsend
  refine h.of_retains hfiles (retains_modify rfl (fun _ => rfl) (fun _ => rfl) fun _ => rfl)
    (fun _ _ => id) ?_
  intro r q result hq hres
  simp only [Ledger.get_enter] at hq
  split at hq
  · cases hq
    cases hres
  · exact .inl ⟨q, hq, rfl, rfl, hres⟩

/-- A response of the process of a connection settles the request with its id. -/
lemma handleResponse (h : Coherent parse s) {conn : Connection} {response : JsVal}
    (hconn : s.conns.get i = some conn) (hresponse : response ∈ emitted parse conn.output) :
    Coherent parse (Service.handleResponse i s response) := by
  unfold Service.handleResponse
  split
  · exact h
  rename_i id hid
  split
  · exact h
  rename_i r hr
  rw [hconn] at hr
  obtain ⟨q, hq, hqconn, hqid⟩ := h.filed i conn id r hconn hr
  refine (h.forget i id).settle fun q' result hq' hout => ?_
  -- the request is the one that waits, and the response is one of its process
  obtain rfl : q = q' := Option.some.inj (hq.symm.trans hq')
  have hretains : Retains s (s.forget i id) :=
    retains_modify rfl (fun _ => rfl) (fun _ => rfl) fun _ => rfl
  obtain ⟨conn', hconn', -, -, houtput⟩ := hretains i conn hconn
  refine ⟨conn', hqconn ▸ hconn', response, houtput ▸ hresponse, ?_, ?_⟩
  · rw [hqid]
    exact eq_num_of_idOf hid
  · unfold Service.outcomeOf at hout
    split at hout
    · cases hout
    · rename_i herror
      exact ⟨Bool.eq_false_iff.mpr herror, Outcome.resolved.inj hout⟩

end Coherent

/-- A response concerns no output. -/
lemma retains_handleResponse (i : ℕ) (s : Service) (response : JsVal) :
    Retains s (Service.handleResponse i s response) := by
  have hself : Retains s s := fun _ conn hconn => ⟨conn, hconn, rfl, rfl, rfl⟩
  unfold Service.handleResponse
  split
  · exact hself
  split
  · exact hself
  · exact retains_modify rfl (fun _ => rfl) (fun _ => rfl) fun _ => rfl

/-- The responses of a chunk, one after the other. -/
lemma coherent_foldl (output : List UInt8) : ∀ {responses : List JsVal} {s : Service},
    Coherent parse s → (∃ conn, s.conns.get i = some conn ∧ conn.output = output) →
    (∀ response ∈ responses, response ∈ emitted parse output) →
    Coherent parse (responses.foldl (Service.handleResponse i) s)
  | [], _, h, _, _ => h
  | response :: _, s, h, ⟨conn, hconn, houtput⟩, hmem => by
    obtain ⟨conn', hconn', -, -, houtput'⟩ := retains_handleResponse i s response i conn hconn
    rw [List.foldl_cons]
    refine coherent_foldl output (h.handleResponse hconn ?_) ⟨conn', hconn', houtput'.trans houtput⟩
      fun x hx => hmem x (List.mem_cons_of_mem _ hx)
    rw [houtput]
    exact hmem response List.mem_cons_self

/-- The output of a process grows. If its connection is registered, the buffer is what follows the
last line feed. -/
lemma coherent_output (h : Coherent parse s) {p : ℕ} {conn : Connection} {data : List UInt8}
    (buffer : List Char) (hconn : s.conns.get p = some conn)
    (hdata : decodeUtf8 (conn.output ++ data) = decodeUtf8 conn.output ++ decodeUtf8 data)
    (hbuffer : ∀ n, s.connections.get n = some p → buffer = rest (conn.output ++ data))
    (hconns : ∀ j, s'.conns.get j = if p = j then
      some { conn with output := conn.output ++ data, buffer := buffer } else s.conns.get j)
    (hrequests : s'.requests = s.requests) (hreg : s'.connections = s.connections) :
    Coherent parse s' where
  registered n i hn := by
    rw [hreg] at hn
    obtain ⟨conn', hconn', hname, hrest⟩ := h.registered n i hn
    rw [hconns]
    by_cases hi : p = i
    · subst hi
      rw [if_pos rfl]
      obtain rfl := Option.some.inj (hconn.symm.trans hconn')
      exact ⟨_, rfl, hname, hbuffer n hn⟩
    · rw [if_neg hi]
      exact ⟨conn', hconn', hname, hrest⟩
  filed i conn' id r hconn' hr := by
    rw [hconns] at hconn'
    rw [hrequests]
    by_cases hi : p = i
    · subst hi
      rw [if_pos rfl] at hconn'
      obtain rfl := Option.some.inj hconn'
      exact h.filed p conn id r hconn hr
    · rw [if_neg hi] at hconn'
      exact h.filed i conn' id r hconn' hr
  own r q result hq hres := by
    rw [hrequests] at hq
    obtain ⟨conn', hconn', hanswer⟩ := h.own r q result hq hres
    rw [hconns]
    by_cases hi : p = q.conn
    · rw [if_pos hi]
      obtain rfl := Option.some.inj (hconn.symm.trans (hi ▸ hconn'))
      exact ⟨_, rfl, hanswer.append hdata⟩
    · rw [if_neg hi]
      exact ⟨conn', hconn', hanswer⟩

/-- A chunk that finds its own connection.

**Proof sketch.** If nothing is registered under the name, only the output grows. Otherwise the
buffer is what follows the last line feed of the output, so the responses in the chunk are those
which the output has now and had not before. -/
lemma coherent_stdout (h : Coherent parse s) {p : ℕ} {conn : Connection} {data : List UInt8}
    (hconn : s.conns.get p = some conn) (hown : OwnOutput s (.stdout p data)) :
    Coherent parse ((s.modifyConn p fun c => { c with output := c.output ++ data }).handleStdout
      parse conn.config.name data) := by
  obtain ⟨hdata, hsame⟩ := hown conn hconn
  obtain ⟨hemitted, hrest⟩ := handleStdout_rest parse hdata
  unfold Service.handleStdout
  simp only [Service.modifyConn]
  cases hreg : s.connections.get conn.config.name with
  | none =>
    refine coherent_output h conn.buffer hconn hdata (fun n hn => ?_) (fun j => ?_) rfl rfl
    · obtain ⟨conn', hconn', rfl, -⟩ := h.registered n p hn
      obtain rfl := Option.some.inj (hconn.symm.trans hconn')
      rw [hreg] at hn
      cases hn
    · dsimp only
      rw [Ledger.get_modify]
      split
      · rename_i hj
        rw [← hj, hconn]
        rfl
      · rfl
  | some i =>
    obtain rfl := hsame i hreg
    obtain ⟨conn', hconn', -, hbuffer⟩ := h.registered _ i hreg
    obtain rfl := Option.some.inj (hconn.symm.trans hconn')
    simp only [Ledger.get_modify, hconn, if_pos, Option.map_some]
    rw [hbuffer]
    refine coherent_foldl (conn.output ++ data) ?_ ?_ ?_
    · refine coherent_output h _ hconn hdata (fun _ _ => hrest.symm) (fun j => ?_) rfl rfl
      simp only [Ledger.get_modify]
      split
      · rename_i hj
        rw [← hj, hconn]
        rfl
      · rfl
    · simp only [Ledger.get_modify, hconn, if_pos, Option.map_some]
      exact ⟨_, rfl, rfl⟩
    · intro response hmem
      rw [hemitted]
      exact List.mem_append_right _ hmem

/-- A new connection has no output and no requests. -/
lemma coherent_connect (h : Coherent parse s) (config : ServerConfig) :
    Coherent parse (s.connect config) := by
  unfold Service.connect
  split
  · exact h
  have hnew : Coherent parse { s with
      conns := s.conns.enter (.spawned config)
      connections := s.connections.set config.name s.conns.next } := by
    -- a connection that was there before has another number
    have hold : ∀ j conn, s.conns.get j = some conn →
        (s.conns.enter (.spawned config)).get j = some conn := by
      intro j conn hconn
      have hlt := Ledger.lt_next_of_get hconn
      rw [Ledger.get_enter, if_neg (by omega)]
      exact hconn
    constructor
    · refine JsMap.forall_get_set ?_ fun n j _ hn => ?_
      · exact ⟨.spawned config, by rw [Ledger.get_enter, if_pos rfl], rfl, rfl⟩
      · obtain ⟨conn, hconn, hname, hrest⟩ := h.registered n j hn
        exact ⟨conn, hold j conn hconn, hname, hrest⟩
    · exact h.filed.of_files (files_spawned s config)
    · intro r q result hq hres
      obtain ⟨conn, hconn, hanswer⟩ := h.own r q result hq hres
      exact ⟨conn, hold q.conn conn hconn, hanswer⟩
  dsimp only
  split
  · exact hnew
  · rename_i hsend
    exact (hnew.sendRequest hsend).of_eq rfl rfl fun _ _ => id

/-- `connect` fails. -/
lemma coherent_failConnect (h : Coherent parse s) (k : ℕ) (call : ConnectCall) :
    Coherent parse (s.failConnect k call) := by
  have hconn := h.modifyConn call.conn
    (f := fun c => { c with state := .error, handshake := .failed })
    (fun _ => rfl) (fun _ => rfl) (fun _ => rfl) fun _ _ _ => id
  exact hconn.of_eq rfl rfl fun _ _ => id

/-- `connect` goes on. -/
lemma coherent_resumes (h : Coherent parse s) {call : ConnectCall} (hs : s.Resumes k call s') :
    Coherent parse s' := by
  have htools := fun tools => h.modifyConn call.conn (f := fun c => { c with tools := tools })
    (fun _ => rfl) (fun _ => rfl) (fun _ => rfl) fun _ _ _ => id
  cases hs with
  | fail => exact coherent_failConnect h k call
  | notify => exact h.of_eq rfl rfl fun _ _ => id
  | done r tools => exact (htools tools).of_eq rfl rfl fun _ _ => id
  | unlisted tools => exact coherent_failConnect (htools tools) k call

/-- `connect` goes on after the notification. -/
lemma coherent_afterNotification (h : Coherent parse s) (k : ℕ) (call : ConnectCall) :
    Coherent parse (s.afterNotification k call) := by
  have hconn := h.modifyConn call.conn
    (f := fun c => { c with state := .connected, handshake := .done })
    (fun _ => rfl) (fun _ => rfl) (fun _ => rfl) fun _ _ _ => id
  unfold Service.afterNotification
  dsimp only
  split
  · exact coherent_failConnect hconn k call
  · rename_i hsend
    exact (hconn.sendRequest hsend).of_eq rfl rfl fun _ _ => id

/-- Every step whose chunk finds its own connection keeps the correlation. -/
lemma coherent_step {e : Event} (h : Coherent parse s) (hown : OwnOutput s e)
    (hs : s.Steps parse e s') : Coherent parse s' := by
  cases hs with
  | connect config => exact coherent_connect h config
  | disconnect name =>
    exact h.of_eq rfl rfl fun n i hn => (JsMap.get_of_get_delete hn).2
  | onModuleDestroy => exact h.of_eq rfl rfl fun n i hn => by cases hn
  | call _ _ _ _ hsend => exact h.sendRequest hsend
  | unknown | inTime => exact h
  | stdout p data conn hconn => exact coherent_stdout h hconn hown
  | writeFailed r q | timeout r q => exact (h.forget _ _).reject r
  | closed p | processError p =>
    exact h.modifyConn p (fun _ => rfl) (fun _ => rfl) (fun _ => rfl) fun _ _ _ => id
  | resumed _ _ _ _ hresumes => exact coherent_resumes h hresumes
  | notified => exact coherent_afterNotification h _ _
  | unnotified => exact coherent_failConnect h _ _

end Invariant

/-! ## Runs -/

section Runs

variable {parse : String → Option JsVal}

/-- Responses reach their own requests in a run: every promise is settled at most once, and is
resolved only with the result of a response from the process it was written to, with its id. -/
def Correlated (parse : String → Option JsVal) (es : List Event) : Prop :=
  (∀ es₁ es₂ s₁ s₂, es = es₁ ++ es₂ → (system parse).exec (system parse).init es₁ = some s₁ →
    (system parse).exec s₁ es₂ = some s₂ → Keeps s₁ s₂) ∧
  (system parse).AllStates (OwnResponses parse) (system parse).init es

/-- At first there are no connections. -/
lemma coherent_init : Coherent parse (system parse).init where
  registered _ _ hn := by cases hn
  filed _ _ _ _ hconn := by cases hconn
  own _ _ _ hq := by cases hq

/-- **Responses reach their own requests.** In every run whose chunks begin and end between
characters and find the connection that has started their process, if any, every promise is settled
at most once, and is resolved only with the result of a response of its own process.

**Proof sketch.** That promises stay settled needs no condition. The rest is the invariant
`Coherent`: the buffer of a registered connection is what its own process has sent after the last
line feed, and a key of its map is the id of a request that was written to it. -/
theorem own_responses {es : List Event}
    (h : (system parse).AllSteps OwnOutput (system parse).init es) : Correlated parse es := by
  refine ⟨fun _ _ _ _ _ _ hrun => outcome_kept hrun, ?_⟩
  refine EventSystem.allStates_of_invariant
    (fun s e s' hc hown hs => coherent_step hc hown (steps_of_step hs))
    (fun _ hc => hc.own) ?_ h
  exact coherent_init

end Runs

/-! ## A server that is started again -/

/-- A server. -/
def notes : ServerConfig := ⟨"notes", "npx", ["notes-server"], []⟩

/-- A line that answers the first request. -/
def initialized : String := "\x7b\"jsonrpc\":\"2.0\",\"id\":1,\"result\":\x7b\x7d\x7d"

/-- `JSON.parse`, on that line. -/
def parseInitialized (line : String) : Option JsVal :=
  if line = initialized then
    some (.obj [("jsonrpc", .str "2.0"), ("id", .num 1), ("result", .obj [])])
  else none

/-- The line as it is written. -/
def initializedLine : List UInt8 := streamOf [initialized]

/-- The server is started again, and each process answers its own request. -/
def ownAnswers : List Event :=
  [.connect notes, .stdout 0 initializedLine, .resumed 0, .disconnect "notes", .connect notes,
    .stdout 1 initializedLine]

/-- The first process answers after it was killed. -/
def lateAnswer : List Event :=
  [.connect notes, .disconnect "notes", .connect notes, .stdout 0 initializedLine]

/-- The theorem for the two processes of `ownAnswers`, each of which answers its own request. -/
theorem own_responses_restarted :
    ((system parseInitialized).exec (system parseInitialized).init ownAnswers).isSome ∧
    Correlated parseInitialized ownAnswers :=
  ⟨by decide +kernel, own_responses (by decide +kernel)⟩

/-- **The output of a process that was killed resolves the request of the next one.** The process of
the second connection has sent nothing. -/
theorem answered_by_another_process : ¬ Correlated parseInitialized lateAnswer := by
  rintro ⟨-, h⟩
  have hrun : ((system parseInitialized).exec (system parseInitialized).init
      lateAnswer).isSome := by
    decide +kernel
  obtain ⟨s, hs⟩ := Option.isSome_iff_exists.mp hrun
  have hq : ((system parseInitialized).exec (system parseInitialized).init lateAnswer).bind
      (fun s => s.requests.get 1) =
        some ⟨1, 1, "initialize", some (.resolved (some (.obj [])))⟩ := by
    rfl
  have hconn : (((system parseInitialized).exec (system parseInitialized).init lateAnswer).bind
      fun s => s.conns.get 1).map (·.output) = some [] := by
    decide +kernel
  rw [hs] at hq hconn
  obtain ⟨conn, hconn', response, hmem, -⟩ := h.last hs 1 _ _ hq rfl
  obtain ⟨conn₁, hconn₁, houtput⟩ := Option.map_eq_some_iff.mp hconn
  obtain rfl := Option.some.inj (hconn'.symm.trans hconn₁)
  rw [houtput] at hmem
  cases hmem

end McpClient
