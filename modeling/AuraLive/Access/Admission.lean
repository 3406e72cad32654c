import AuraLive.Agent.Proactive
import AuraLive.Foundations.LineFormat
import AuraLive.Foundations.Requests
import AuraLive.VoiceBot.State

set_option relaxedAutoImplicit false
set_option autoImplicit false

/-!
# Admission to rooms

Who gets a token for a room. `POST /room/join` and `POST /token` stand behind `RoomAccessGuard`,
which verifies a JWT and has another server say whether its owner may enter the room; then
`joinRoom` of `livekit/livekit.service.ts` makes the room if there is none, dispatches an agent to
it and signs a token. `POST /room/create` has no guard and makes a room of its own. Any number of
requests are handled at a time.

## Main definitions

* `Admission.canActivate`, `checkRoomAccess` — the guard, before and after it has asked.
* `Admission.Call`, `turn`, `server` — a request, and what it does at each reply.
* `Admission.Entitled`, `Present` — what was replied about the owner of a token, and about a room.
* `Admission.Mediated` — what every token and every room rests on.

## Main results

* `Admission.mediated` — no token for a room of the client's choice without access to that room.

## Design

* **Identities.** The owner of the JWT is never compared with the name in the body, which is the
  identity in the token.
* **History.** What tokens and rooms rest on is said of the replies themselves, as the other
  services have sent them.
* **Left out.** The agent that `createRoom` dispatches and the bot that the controller starts for a
  new room run in the background. The texts of errors of other services are left out.
-/

namespace Admission

open Foundations VoiceBot

/-! ## The guard -/

/-- What `jwt.verify` says of a token; of the payload only `sub` is read. -/
inductive Verdict where
  | valid (sub : Option JsVal)
  | expired
  | invalid

/-- The configuration, and what the libraries do. -/
structure Env where
  rt : Proactive.Runtime
  JWT_SECRET : Option String
  REST_API_URL : Option String
  LIVEKIT_URL : String
  LIVEKIT_AGENT_NAME : Option String
  /-- `jwt.verify` with a secret and a token, at a time. -/
  verify : String → String → ℕ → Verdict

/-- What is read of a request to join a room. -/
structure Request where
  authorization : Option String
  /-- `query.token`. -/
  token : Option JsVal
  body : Option JsVal

/-- A request to join a room that the guard has let through so far. -/
structure Join where
  token : String
  userId : Option JsVal
  roomId : JsVal
  userName : Option JsVal
  roomTopic : Option JsVal

/-- `extractToken`: an authorization header that is a bearer token hides the query, even when there
is nothing after the word. -/
def extractToken (request : Request) : Option JsVal :=
  match request.authorization.bind fun header => strip "Bearer ".toList header.toList with
  | some token => some (.str (String.ofList token))
  | none => if JsVal.truthy request.token then request.token else none

/-- `secret`. -/
def secret (env : Env) : String :=
  (truthyText env.JWT_SECRET).getD "default-secret-change-in-production"

/-- The first part of `canActivate`, which `JwtAuthGuard` consists of: the token and its owner, or
the message of an `UnauthorizedException`. What is not a string is not a JWT. -/
def authenticate (env : Env) (request : Request) (now : ℕ) :
    Except String (String × Option JsVal) :=
  let token := extractToken request
  if JsVal.truthy token then
    match token with
    | some (.str token) =>
      match env.verify (secret env) token now with
      | .valid sub => .ok (token, sub)
      | .expired => .error "토큰이 만료되었습니다"
      | .invalid => .error "유효하지 않은 토큰입니다"
    | _ => .error "유효하지 않은 토큰입니다"
  else .error "인증 토큰이 필요합니다"

/-- `canActivate` of `RoomAccessGuard`, up to its question about the room. -/
def canActivate (env : Env) (request : Request) (now : ℕ) : Except String Join :=
  match authenticate env request now with
  | .error message => .error message
  | .ok (token, userId) =>
    match request.body.bind (·.field "roomId") with
    | none => .error "roomId가 필요합니다"
    | some roomId =>
      if JsVal.truthy (some roomId) then
        .ok ⟨token, userId, roomId, request.body.bind (·.field "userName"),
          request.body.bind (·.field "roomTopic")⟩
      else .error "roomId가 필요합니다"

/-- Where `checkRoomAccess` asks about a room; the id is not encoded. -/
def accessUrl (env : Env) (roomId : JsVal) : Option String :=
  (Proactive.textOf env.rt roomId).map fun text =>
    (truthyText env.REST_API_URL).getD "http://localhost:3002" ++ "/restapi/rooms/" ++ text ++
      "/access"

/-- `checkRoomAccess`, once the other server has answered: whether the response is a success, and
what it holds; `none` if there is no response, or nothing to parse in it. -/
def checkRoomAccess (reply : Option (Bool × JsVal)) : Bool :=
  match reply with
  | some (true, data) =>
    match data.field "hasAccess" with
    | some (.bool hasAccess) => hasAccess
    | _ => false
  | _ => false

/-! ## Rooms and tokens -/

/-- What `roomService.createRoom` is asked for. -/
structure RoomRequest where
  name : JsVal
  /-- `metadata.topic`. -/
  topic : Option JsVal
  /-- `metadata.createdBy`. -/
  createdBy : Option JsVal
  emptyTimeout : ℕ
  maxParticipants : JsVal
  /-- The names of the agents. -/
  agents : List String

/-- A room of LiveKit. -/
structure Room where
  name : String
  maxParticipants : ℕ

/-- A token before it is signed. -/
structure Grant where
  identity : Option JsVal
  ttl : String
  room : JsVal
  roomJoin : Bool
  canPublish : Bool
  canSubscribe : Bool
  canPublishData : Bool
  hidden : Option Bool

/-- `generateTokenForUser`, up to the signature. -/
def tokenForUser (roomId : JsVal) (userName : Option JsVal) (isBot : Bool) : Grant :=
  { identity := userName
    ttl := "24h"
    room := roomId
    roomJoin := true
    canPublish := true
    canSubscribe := true
    canPublishData := true
    hidden := if isBot then some false else none }

section Config

variable (env : Env)

/-- `agentName`. -/
def agentName : String := (truthyText env.LIVEKIT_AGENT_NAME).getD "aura-bot"

/-- `buildRoomAgentDispatch`. -/
def buildRoomAgentDispatch : List String := if agentName env = "" then [] else [agentName env]

/-- `text.replace(p, r)` for a text `p` that is not empty. -/
def replaceFirst (p r : List Char) : List Char → List Char
  | [] => []
  | c :: t =>
    match strip p (c :: t) with
    | some rest => r ++ rest
    | none => c :: replaceFirst p r t

/-- `wsUrl`. -/
def wsUrl : String :=
  String.ofList (replaceFirst "https://".toList "wss://".toList
    (replaceFirst "http://".toList "ws://".toList env.LIVEKIT_URL.toList))

/-- The room that `joinRoom` makes when there is none. -/
def autoRoom (join : Join) : RoomRequest :=
  { name := join.roomId
    topic := some (JsVal.orElse join.roomTopic join.roomId)
    createdBy := join.userName
    emptyTimeout := 300
    maxParticipants := .num 20
    agents := buildRoomAgentDispatch env }

/-- `generateRoomId`. -/
def generateRoomId (timestamp : ℕ) (random : String) : String :=
  "room-" ++ toString timestamp ++ "-" ++ random

/-- The room that `createRoom` makes. -/
def ownRoom (body : JsVal) (timestamp : ℕ) (random : String) : RoomRequest :=
  { name := .str (generateRoomId timestamp random)
    topic := body.field "roomTopic"
    createdBy := body.field "userName"
    emptyTimeout := 300
    maxParticipants := (body.field "maxParticipants").getD (.num 20)
    agents := buildRoomAgentDispatch env }

end Config

/-! ## Requests -/

/-- A request arrives: to join a room, or to create one. -/
inductive Arrival where
  | join (request : Request)
  | create (body : JsVal)

/-- What a request in progress waits for. -/
inductive Call where
  | guard (request : Request)
  | access (join : Join) (url : String)
  | listRooms (join : Join)
  | autoCreate (join : Join) (request : RoomRequest)
  | listDispatch (join : Join)
  | createDispatch (join : Join)
  | sign (join : Join) (grant : Grant)
  | create (body : JsVal)
  | createRoom (request : RoomRequest)
  | signOwn (request : RoomRequest) (room : Room) (grant : Grant)

/-- A reply, `none` or `false` if there is an error instead. -/
inductive Reply where
  /-- The request begins to be handled, at a time and with some random letters. -/
  | begin (now : ℕ) (random : String)
  | access (response : Option (Bool × JsVal))
  /-- The names of all rooms. -/
  | rooms (rooms : Option (List String))
  | room (room : Option Room)
  /-- The names of the agents that have been dispatched. -/
  | dispatches (names : Option (List String))
  | dispatched (ok : Bool)
  | signed (jwt : Option String)

/-- What a request is answered. -/
inductive Answer where
  | unauthorized (message : String)
  | forbidden (message : String)
  | badRequest (message : String)
  /-- An internal server error, and how its message begins. -/
  | failed (message : String)
  | joined (token url : String)
  | created (roomId roomUrl : String) (request : RoomRequest) (maxParticipants : ℕ)
      (token livekitUrl : String)

/-- How a request begins. -/
def start : Arrival → Call
  | .join request => .guard request
  | .create body => .create body

/-- The errors of `joinRoom`. -/
def joinFailed : Answer := .failed "Failed to join room: "

/-- The errors of `createRoom`. -/
def createFailed : Answer := .failed "Failed to create room: "

/-- The guard says no. -/
def noAccess : Answer := .forbidden "이 방에 대한 접근 권한이 없습니다"

section Turns

variable (env : Env)

/-- The guard asks the other server. If there is no text for the room, making the question
throws, and that means no. -/
def askAccess (join : Join) : Call ⊕ Answer :=
  match accessUrl env join.roomId with
  | none => .inr noAccess
  | some url => .inl (.access join url)

/-- `joinRoom`, up to its first `await`. The names are written into a log line outside of its
`try`. -/
def joinRoom (join : Join) : Call ⊕ Answer :=
  if Proactive.printable env.rt join.userName then
    if JsVal.truthy (some join.roomId) then .inl (.listRooms join)
    else .inr (.badRequest "roomId is required")
  else .inr (.failed "Cannot convert object to primitive value")

/-- `createRoom`, up to its first `await`. Here the log line is inside of the `try`. -/
def createRoom (body : JsVal) (now : ℕ) (random : String) : Call ⊕ Answer :=
  if Proactive.printable env.rt (body.field "userName") &&
      Proactive.printable env.rt (body.field "roomTopic") then
    .inl (.createRoom (ownRoom env body now random))
  else .inr createFailed

/-- The end of `joinRoom`. -/
def signFor (join : Join) : Call ⊕ Answer :=
  .inl (.sign join (tokenForUser join.roomId join.userName false))

/-- What a request does at a reply. -/
def turn : Call → Reply → Option (Call ⊕ Answer)
  | .guard request, .begin now _ =>
    match canActivate env request now with
    | .error message => some (.inr (.unauthorized message))
    | .ok join => some (askAccess env join)
  | .access join _, .access response =>
    if checkRoomAccess response then some (joinRoom env join) else some (.inr noAccess)
  | .listRooms join, .rooms rooms =>
    match rooms with
    | none => some (.inr joinFailed)
    | some rooms =>
      if rooms.any fun name => JsVal.isStr (some join.roomId) name then
        some (.inl (.listDispatch join))
      else some (.inl (.autoCreate join (autoRoom env join)))
  | .autoCreate join _, .room room =>
    match room with
    | none => some (.inr joinFailed)
    | some _ => some (.inl (.listDispatch join))
  | .listDispatch join, .dispatches names =>
    match names with
    | none => some (signFor join)
    | some names =>
      if agentName env ∈ names then some (signFor join) else some (.inl (.createDispatch join))
  | .createDispatch join, .dispatched _ => some (signFor join)
  | .sign _ _, .signed jwt =>
    match jwt with
    | none => some (.inr joinFailed)
    | some jwt => some (.inr (.joined jwt (wsUrl env)))
  | .create body, .begin now random => some (createRoom env body now random)
  | .createRoom request, .room room =>
    match room with
    | none => some (.inr createFailed)
    | some room =>
      some (.inl (.signOwn request room (tokenForUser (.str room.name) request.createdBy false)))
  | .signOwn request room _, .signed jwt =>
    match jwt with
    | none => some (.inr createFailed)
    | some jwt =>
      some (.inr (.created room.name (wsUrl env ++ "/" ++ room.name) request room.maxParticipants
        jwt (wsUrl env)))
  | _, _ => none

/-- The server. -/
def server : Handler Arrival Call Reply Answer := ⟨start, turn env⟩

end Turns

/-- A reply, with what it came to and what it led to. -/
abbrev Log := List (Exchange Call Reply Answer)

/-! ## Mediation -/

/-- A request names a room, and has a token that has been verified. -/
def Verified (env : Env) (log : Log) (n : ℕ) (join : Join) : Prop :=
  ∃ request now random, Handler.Replied log n (.guard request) (.begin now random) ∧
    extractToken request = some (.str join.token) ∧
    env.verify (secret env) join.token now = .valid join.userId ∧
    request.body.bind (·.field "roomId") = some join.roomId

/-- The owner of the token of a request may enter the room that it names: the other server, asked
about this very room with this very token, has replied that its owner has access. -/
structure Entitled (env : Env) (log : Log) (n : ℕ) (join : Join) : Prop where
  verified : Verified env log n join
  allowed : ∃ url data, accessUrl env join.roomId = some url ∧
    Handler.Replied log n (.access join url) (.access (some (true, data))) ∧
    data.field "hasAccess" = some (.bool true)

/-- LiveKit has listed the room of a request, or has made it for this request. -/
def Present (env : Env) (log : Log) (n : ℕ) (join : Join) : Prop :=
  (∃ names name, Handler.Replied log n (.listRooms join) (.rooms (some names)) ∧
    name ∈ names ∧ join.roomId = .str name) ∨
  ∃ room, Handler.Replied log n (.autoCreate join (autoRoom env join)) (.room (some room))

/-- The room is one of `createRoom`, which chooses the name itself. -/
def IsOwn (env : Env) (log : Log) (n : ℕ) (request : RoomRequest) : Prop :=
  ∃ body now random, Handler.Replied log n (.create body) (.begin now random) ∧
    request = ownRoom env body now random

/-- The token of an answer. -/
def Answer.token : Answer → Option String
  | .joined token _ => some token
  | .created _ _ _ _ token _ => some token
  | _ => none

/-- A token for a room that the client names. -/
structure ForJoin (env : Env) (earlier : Log) (x : Exchange Call Reply Answer) (join : Join) :
    Prop where
  call : x.call = .sign join (tokenForUser join.roomId join.userName false)
  entitled : Entitled env earlier x.n join
  present : Present env earlier x.n join

/-- A token for a room that LiveKit has made for this request, under a name that the client has not
chosen. -/
structure ForOwn (env : Env) (earlier : Log) (x : Exchange Call Reply Answer)
    (request : RoomRequest) (room : Room) : Prop where
  call : x.call = .signOwn request room (tokenForUser (.str room.name) request.createdBy false)
  own : IsOwn env earlier x.n request
  made : Handler.Replied earlier x.n (.createRoom request) (.room (some room))

/-- **Mediation.** What an exchange rests on. -/
structure Mediated (env : Env) (earlier : Log) (x : Exchange Call Reply Answer) : Prop where
  /-- A client gets a token. -/
  token : ∀ answer jwt, x.next = .inr answer → answer.token = some jwt →
    x.reply = .signed (some jwt) ∧
      ((∃ join, ForJoin env earlier x join) ∨ ∃ request room, ForOwn env earlier x request room)
  /-- A room is made under a name that the client has chosen. -/
  room : ∀ join request, x.next = .inl (.autoCreate join request) →
    request = autoRoom env join ∧ Entitled env earlier x.n join
  /-- The guard has turned down what `joinRoom` would. -/
  guarded : ∀ message, x.next ≠ .inr (.badRequest message)

/-- What a request in progress may wait for. -/
def Waits (env : Env) (log : Log) (n : ℕ) : Call → Prop
  | .guard _ => True
  | .access join url =>
    JsVal.truthy (some join.roomId) = true ∧ accessUrl env join.roomId = some url ∧
      Verified env log n join
  | .listRooms join => Entitled env log n join
  | .autoCreate join request => request = autoRoom env join ∧ Entitled env log n join
  | .listDispatch join | .createDispatch join => Entitled env log n join ∧ Present env log n join
  | .sign join grant => grant = tokenForUser join.roomId join.userName false ∧
      Entitled env log n join ∧ Present env log n join
  | .create _ => True
  | .createRoom request => IsOwn env log n request
  | .signOwn request room grant => grant = tokenForUser (.str room.name) request.createdBy false ∧
      IsOwn env log n request ∧
      Handler.Replied log n (.createRoom request) (.room (some room))

section Proofs

variable {env : Env} {n : ℕ} {log : Log} {join : Join} {x : Exchange Call Reply Answer}

/-- A token that has been verified remains so. -/
lemma Verified.cons (h : Verified env log n join) (x : Exchange Call Reply Answer) :
    Verified env (x :: log) n join := by
  obtain ⟨request, now, random, hbegin, hrest⟩ := h
  exact ⟨request, now, random, hbegin.cons x, hrest⟩

/-- Access is not lost. -/
lemma Entitled.cons (h : Entitled env log n join) (x : Exchange Call Reply Answer) :
    Entitled env (x :: log) n join where
  verified := h.verified.cons x
  allowed := by
    obtain ⟨url, data, hurl, hreply, hdata⟩ := h.allowed
    exact ⟨url, data, hurl, hreply.cons x, hdata⟩

/-- The room of a request remains present. -/
lemma Present.cons (h : Present env log n join) (x : Exchange Call Reply Answer) :
    Present env (x :: log) n join :=
  h.imp (fun ⟨names, name, hreply, hname⟩ => ⟨names, name, hreply.cons x, hname⟩)
    fun ⟨room, hreply⟩ => ⟨room, hreply.cons x⟩

/-- A name that the client has not chosen remains one. -/
lemma IsOwn.cons {request : RoomRequest} (h : IsOwn env log n request)
    (x : Exchange Call Reply Answer) : IsOwn env (x :: log) n request := by
  obtain ⟨body, now, random, hbegin, heq⟩ := h
  exact ⟨body, now, random, hbegin.cons x, heq⟩

/-- A request may go on to wait when something else happens. -/
lemma Waits.cons {k : Call} (h : Waits env log n k) (x : Exchange Call Reply Answer) :
    Waits env (x :: log) n k := by
  cases k with
  | guard => trivial
  | access => exact ⟨h.1, h.2.1, h.2.2.cons x⟩
  | listRooms => exact Entitled.cons h x
  | autoCreate => exact ⟨h.1, h.2.cons x⟩
  | listDispatch => exact ⟨h.1.cons x, h.2.cons x⟩
  | createDispatch => exact ⟨h.1.cons x, h.2.cons x⟩
  | sign => exact ⟨h.1, h.2.1.cons x, h.2.2.cons x⟩
  | create => trivial
  | createRoom => exact IsOwn.cons h x
  | signOwn => exact ⟨h.1, h.2.1.cons x, h.2.2.cons x⟩

/-- What the guard has found out about a request that it lets through so far. -/
lemma canActivate_eq_ok {request : Request} {now : ℕ}
    (h : canActivate env request now = .ok join) :
    extractToken request = some (.str join.token) ∧
      env.verify (secret env) join.token now = .valid join.userId ∧
      request.body.bind (·.field "roomId") = some join.roomId ∧
      JsVal.truthy (some join.roomId) = true := by
  unfold canActivate at h
  split at h
  · cases h
  · rename_i token userId hauth
    have hverify : extractToken request = some (.str token) ∧
        env.verify (secret env) token now = .valid userId := by
      unfold authenticate at hauth
      dsimp only at hauth
      split at hauth
      · split at hauth
        · split at hauth
          · obtain ⟨rfl, rfl⟩ := Prod.mk.inj (Except.ok.inj hauth)
            exact ⟨‹_›, ‹_›⟩
          · cases hauth
          · cases hauth
        · cases hauth
      · cases hauth
    split at h
    · cases h
    · rename_i hroom
      split at h
      · obtain rfl := Except.ok.inj h
        exact ⟨hverify.1, hverify.2, hroom, ‹_›⟩
      · cases h

/-- What the other server has replied when the guard lets a request in. -/
lemma checkRoomAccess_eq_true {response : Option (Bool × JsVal)}
    (h : checkRoomAccess response = true) :
    ∃ data, response = some (true, data) ∧ data.field "hasAccess" = some (.bool true) := by
  unfold checkRoomAccess at h
  split at h
  · rename_i data
    split at h
    · rename_i hasAccess hfield
      exact ⟨data, rfl, by rw [hfield, h]⟩
    · cases h
  · cases h

/-- A value that is equal to a string. -/
lemma eq_of_isStr {v : JsVal} {text : String} (h : JsVal.isStr (some v) text = true) :
    v = .str text := by
  cases v <;> simp_all [JsVal.isStr]

/-- Nothing is asked of a request that waits for something other than a new room. -/
lemma mediated_of_inl {k k' : Call} {r : Reply}
    (h : ∀ join request, k' ≠ .autoCreate join request) : Mediated env log ⟨n, k, r, .inl k'⟩ where
  token _ _ hnext := by cases hnext
  room join request hnext := absurd (Sum.inl.inj hnext) (h join request)
  guarded _ hnext := by cases hnext

/-- Nothing is asked of an answer without a token, unless the guard should have given it. -/
lemma mediated_of_inr {k : Call} {r : Reply} {answer : Answer} (htoken : answer.token = none)
    (h : ∀ message, answer ≠ .badRequest message) : Mediated env log ⟨n, k, r, .inr answer⟩ where
  token answer' jwt hnext hjwt := by
    obtain rfl := Sum.inr.inj hnext
    rw [htoken] at hjwt
    cases hjwt
  room _ _ hnext := by cases hnext
  guarded message hnext := h message (Sum.inr.inj hnext)

/-- An answer with a token that has been signed. -/
lemma mediated_of_token {k : Call} {answer : Answer} {jwt : String}
    (htoken : answer.token = some jwt)
    (h : (∃ join, ForJoin env log ⟨n, k, .signed (some jwt), .inr answer⟩ join) ∨
      ∃ request room, ForOwn env log ⟨n, k, .signed (some jwt), .inr answer⟩ request room) :
    Mediated env log ⟨n, k, .signed (some jwt), .inr answer⟩ where
  token answer' jwt' hnext hjwt := by
    obtain rfl := Sum.inr.inj hnext
    obtain rfl := Option.some.inj (htoken.symm.trans hjwt)
    exact ⟨rfl, h⟩
  room _ _ hnext := by cases hnext
  guarded message hnext := by
    obtain rfl := Sum.inr.inj hnext
    cases htoken

/-- **Exchanges** rest on what requests may wait for.

**Proof sketch.** One case for each call that a reply can come to. Only the two that sign answer
with a token, and what they were waiting for says whose it is; only the list of the rooms leads to a
room that is made for `joinRoom`, and only after the other server has replied. All other answers are
errors, and the guard has turned down a request without a room before `joinRoom` would. -/
lemma mediated_of_turn {k : Call} {r : Reply} {next : Call ⊕ Answer} (hk : Waits env log n k)
    (h : turn env k r = some next) : Mediated env log ⟨n, k, r, next⟩ := by
  unfold turn at h
  split at h
  · -- the guard
    split at h <;> obtain rfl := Option.some.inj h
    · exact mediated_of_inr rfl (by simp)
    · unfold askAccess
      split
      · exact mediated_of_inr rfl (by simp [noAccess])
      · exact mediated_of_inl (by simp)
  · -- the other server has replied
    split at h <;> obtain rfl := Option.some.inj h
    · obtain ⟨htruthy, -⟩ := hk
      unfold joinRoom
      rw [if_pos htruthy]
      split
      · exact mediated_of_inl (by simp)
      · exact mediated_of_inr rfl (by simp)
    · exact mediated_of_inr rfl (by simp [noAccess])
  · -- the rooms
    split at h
    · obtain rfl := Option.some.inj h
      exact mediated_of_inr rfl (by simp [joinFailed])
    · split at h <;> obtain rfl := Option.some.inj h
      · exact mediated_of_inl (by simp)
      · refine ⟨fun _ _ hnext => (by cases hnext), fun join request hnext => ?_,
          fun _ hnext => (by cases hnext)⟩
        obtain ⟨rfl, rfl⟩ := Call.autoCreate.inj (Sum.inl.inj hnext)
        exact ⟨rfl, hk⟩
  · -- a new room
    split at h <;> obtain rfl := Option.some.inj h
    · exact mediated_of_inr rfl (by simp [joinFailed])
    · exact mediated_of_inl (by simp)
  · -- the agents
    split at h
    · obtain rfl := Option.some.inj h
      exact mediated_of_inl (by simp)
    · split at h <;> obtain rfl := Option.some.inj h <;> exact mediated_of_inl (by simp)
  · obtain rfl := Option.some.inj h
    exact mediated_of_inl (by simp)
  · -- the token
    split at h <;> obtain rfl := Option.some.inj h
    · exact mediated_of_inr rfl (by simp [joinFailed])
    · obtain ⟨rfl, hentitled, hpresent⟩ := hk
      exact mediated_of_token rfl (.inl ⟨_, rfl, hentitled, hpresent⟩)
  · -- `createRoom` begins
    obtain rfl := Option.some.inj h
    unfold createRoom
    split
    · exact mediated_of_inl (by simp)
    · exact mediated_of_inr rfl (by simp [createFailed])
  · split at h <;> obtain rfl := Option.some.inj h
    · exact mediated_of_inr rfl (by simp [createFailed])
    · exact mediated_of_inl (by simp)
  · split at h <;> obtain rfl := Option.some.inj h
    · exact mediated_of_inr rfl (by simp [createFailed])
    · obtain ⟨rfl, hown, hmade⟩ := hk
      exact mediated_of_token rfl (.inr ⟨_, _, rfl, hown, hmade⟩)
  · cases h

/-- **Requests** may wait for what they wait for next.

**Proof sketch.** One case for each call that a reply can come to. The guard establishes what the
token says, the reply of the other server that its owner has access, and the list of rooms or the
new room that the room is present; each is put into the log with the reply, and what was in the log
before stays in it. -/
lemma waits_of_turn {k k' : Call} {r : Reply} (hk : Waits env log n k)
    (h : turn env k r = some (.inl k')) : Waits env (⟨n, k, r, .inl k'⟩ :: log) n k' := by
  unfold turn at h
  split at h
  · -- the guard
    split at h <;> replace h := Option.some.inj h
    · cases h
    · rename_i request now random _ join hguard
      obtain ⟨htoken, hverify, hroom, htruthy⟩ := canActivate_eq_ok hguard
      unfold askAccess at h
      split at h
      · cases h
      · rename_i url hurl
        obtain rfl := Sum.inl.inj h
        exact ⟨htruthy, hurl, request, now, random, .head, htoken, hverify, hroom⟩
  · -- the other server has replied
    split at h <;> replace h := Option.some.inj h
    · rename_i join url response haccess
      obtain ⟨data, rfl, hdata⟩ := checkRoomAccess_eq_true haccess
      obtain ⟨htruthy, hurl, hverified⟩ := hk
      unfold joinRoom at h
      rw [if_pos htruthy] at h
      split at h
      · obtain rfl := Sum.inl.inj h
        exact ⟨hverified.cons _, url, data, hurl, .head, hdata⟩
      · cases h
    · cases h
  · -- the rooms
    split at h
    · cases Option.some.inj h
    · rename_i rooms
      split at h <;> obtain rfl := Sum.inl.inj (Option.some.inj h)
      · rename_i hany
        obtain ⟨name, hname, hstr⟩ := List.any_eq_true.mp hany
        exact ⟨Entitled.cons hk _, .inl ⟨rooms, name, .head, hname, eq_of_isStr hstr⟩⟩
      · exact ⟨rfl, Entitled.cons hk _⟩
  · -- a new room
    split at h
    · cases Option.some.inj h
    · rename_i room
      obtain rfl := Sum.inl.inj (Option.some.inj h)
      obtain ⟨rfl, hentitled⟩ := hk
      exact ⟨hentitled.cons _, .inr ⟨room, .head⟩⟩
  · -- the agents
    split at h
    · obtain rfl := Sum.inl.inj (Option.some.inj h)
      exact ⟨rfl, hk.1.cons _, hk.2.cons _⟩
    · split at h <;> obtain rfl := Sum.inl.inj (Option.some.inj h)
      · exact ⟨rfl, hk.1.cons _, hk.2.cons _⟩
      · exact ⟨hk.1.cons _, hk.2.cons _⟩
  · obtain rfl := Sum.inl.inj (Option.some.inj h)
    exact ⟨rfl, hk.1.cons _, hk.2.cons _⟩
  · split at h <;> cases Option.some.inj h
  · -- `createRoom` begins
    rename_i body now random
    replace h := Option.some.inj h
    unfold createRoom at h
    split at h
    · obtain rfl := Sum.inl.inj h
      exact ⟨body, now, random, .head, rfl⟩
    · cases h
  · split at h
    · cases Option.some.inj h
    · obtain rfl := Sum.inl.inj (Option.some.inj h)
      exact ⟨rfl, IsOwn.cons hk _, .head⟩
  · split at h <;> cases Option.some.inj h
  · cases h

end Proofs

/-- The server is sound. -/
lemma sound (env : Env) : Handler.Sound (Waits env) (Mediated env) (server env) where
  mono := Waits.cons
  start log n i := by cases i <;> trivial
  rests := mediated_of_turn
  waits := waits_of_turn

/-- One JWT is valid. -/
def oneUser : Env where
  rt := ⟨fun _ => none, fun _ => "", fun _ _ => false, fun _ => ""⟩
  JWT_SECRET := some "secret"
  REST_API_URL := none
  LIVEKIT_URL := "https://livekit"
  LIVEKIT_AGENT_NAME := none
  verify _ token _ := if token = "jwt" then .valid (some (.str "u1")) else .invalid

/-- A user joins a room that has to be made, while somebody without a token tries the same. -/
def joining : List (Handler.Event Arrival Reply) :=
  let body := some (.obj [("roomId", .str "weekly"), ("userName", .str "Kim")])
  [.arrive (.join ⟨some "Bearer jwt", none, body⟩), .arrive (.join ⟨none, none, body⟩),
    .reply 0 (.begin 1 ""), .reply 0 (.access (some (true, .obj [("hasAccess", .bool true)]))),
    .reply 1 (.begin 2 ""), .reply 0 (.rooms (some ["daily"])),
    .reply 0 (.room (some ⟨"weekly", 20⟩)), .reply 0 (.dispatches (some [])),
    .reply 0 (.dispatched false), .reply 0 (.signed (some "t"))]

/-- Only the first one gets a token. -/
example : ((server oneUser).system.exec (server oneUser).system.init joining).map (fun s =>
    s.log.filterMap fun x => x.next.elim (fun _ => none) fun answer => some (x.n, answer.token)) =
    some [(0, some "t"), (1, none)] := by
  decide +kernel

end Admission
