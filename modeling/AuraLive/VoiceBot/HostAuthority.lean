import AuraLive.Foundations.EventSystem
import AuraLive.Foundations.JsSet

set_option relaxedAutoImplicit false
set_option autoImplicit false

/-!
# Host authority

The part of a room's context that says who may steer the bot, and the `DataReceived` handler of
`startBot` as far as it touches it: the set of host identities, the host-only mode, the wake-word
and the speaking switch, and the host's queries. Every other message of the handler writes other
fields of the context only.

## Main definitions

* `HostMode.HostContext` — the four fields.
* `HostMode.Branch`, `HostMode.dispatch` — which branch of the handler takes a message.
* `HostMode.dataReceived` — the handler.
* `HostMode.hostMode` — the room as an event system: the bot registers, leaves, gets a message.
* `HostMode.Authority` — a message no host sent changes nothing once there is a host.
* `HostMode.Harmless` — what an outsider's message must be for that.

## Main results

* `HostMode.dataReceived_eq_self_iff` — when the handler leaves everything as it is, for a
  message no host sent.
* `HostMode.isHost_step` — where a host comes from.
* `HostMode.host_authority_iff` — authority is kept along a run, and nobody becomes a host
  without a host's word, exactly when every outsider's message is harmless.
* `HostMode.outsider_takes_over` — one message makes an outsider a host.

## Design

The two switches and the query ask whether the sender is a host; the three messages that write
the set and the mode do not ask. An identity in a message is any parsed value, and
`message.host.identity` may be `undefined`, so the set is over `Option JsVal`. A `TypeError` is
caught by the handler; where one can come before a write the model says so (`printable`).
-/

namespace HostMode

open Foundations JsVal

/-! ## The handler -/

/-- The fields of `RoomContext` that decide who steers the bot. -/
structure HostContext where
  /-- Answers go to the hosts only. -/
  hostOnlyMode : Bool
  /-- The hosts, a `Set` filled from messages. -/
  hostIdentities : List (Option JsVal)
  /-- Wake words are listened to. -/
  wakeWordEnabled : Bool
  /-- Answers are spoken. -/
  speakingEnabled : Bool

/-- The context `startBot` registers. -/
def HostContext.initial : HostContext := ⟨true, [], false, false⟩

/-- `hostIdentities.has(v)`. -/
def HostContext.has (c : HostContext) (v : Option JsVal) : Bool :=
  JsSet.has sameValueZero c.hostIdentities v

/-- `hostIdentities.add(v)`. -/
def HostContext.add (c : HostContext) (v : Option JsVal) : HostContext :=
  { c with hostIdentities := JsSet.add sameValueZero c.hostIdentities v }

/-- `hostIdentities.delete(v)`. -/
def HostContext.delete (c : HostContext) (v : Option JsVal) : HostContext :=
  { c with hostIdentities := JsSet.delete sameValueZero c.hostIdentities v }

/-- A received data message, parsed; the sender is `undefined` for data sent by the server. -/
structure Packet where
  /-- `participant?.identity`. -/
  sender : Option String
  /-- The parsed payload. -/
  message : JsVal

/-- The branches of the handler that concern the hosts; `other` is every other message, a
payload without a `type` among them. -/
inductive Branch where
  | hostModeEnable
  | hostAdd
  | hostRemove
  | wakeWordToggle
  | speakingToggle
  | hostAiQuery
  | other

/-- The branch that takes a message, in the order of the handler. -/
def dispatch (message : JsVal) : Branch :=
  let type := message.field "type"
  if isStr type "CLIENT_READY" then .other
  else if isStr type "AI_MUTE" then .other
  else if isStr type "HOST_MODE_ENABLE" then .hostModeEnable
  else if isStr type "HOST_ADD" && truthy (message.field "host") then .hostAdd
  else if isStr type "HOST_REMOVE" && truthy (message.field "identity") then .hostRemove
  else if isStr type "WAKE_WORD_TOGGLE" then .wakeWordToggle
  else if isStr type "SPEAKING_TOGGLE" then .speakingToggle
  else if isStr type "HOST_AI_QUERY" then .hostAiQuery
  else .other

/-- `v === true`. -/
def isTrue : Option JsVal → Bool
  | some (JsVal.bool b) => b
  | _ => false

/-- The identity of the sender as a value. -/
def Packet.identity (p : Packet) : Option JsVal := p.sender.map str

/-- `message.enabled === true`. -/
def Packet.enabled (p : Packet) : Bool := isTrue (p.message.field "enabled")

/-- `message.hostIdentity || participant?.identity || null`, `none` when that is not truthy. -/
def Packet.hostId (p : Packet) : Option JsVal :=
  if truthy (p.message.field "hostIdentity") then p.message.field "hostIdentity"
  else if truthy p.identity then p.identity
  else none

/-- `message.host.identity`. -/
def Packet.addedHost (p : Packet) : Option JsVal :=
  (p.message.field "host").bind fun host => host.field "identity"

mutual

/-- Whether a template literal can print the value: an object with a property `toString` has no
callable one, and the conversion throws. -/
def printable : JsVal → Bool
  | arr l => printableAll l
  | obj fields => !fields.any fun e => e.1 = "toString"
  | _ => true

/-- Whether all elements of an array can be printed. -/
def printableAll : List JsVal → Bool
  | [] => true
  | v :: l => printable v && printableAll l

end

/-- A call of `processHostQuery`. -/
structure HostQuery where
  /-- `message.query`. -/
  query : Option JsVal
  /-- The sender. -/
  hostIdentity : String

/-- The guard of the switches and of the query:
`participant?.identity && hostIdentities.has(participant.identity)`. -/
def HostContext.admits (c : HostContext) (p : Packet) : Bool :=
  truthy p.identity && c.has p.identity

/-- `HOST_MODE_ENABLE`: any sender. -/
def hostModeEnable (c : HostContext) (p : Packet) : HostContext :=
  let c := { c with hostOnlyMode := p.enabled }
  match p.hostId with
  | none => c
  | some hostId => c.add (some hostId)

/-- `HOST_AI_QUERY`: the log line prints the query before `processHostQuery` is called. -/
def hostAiQuery (c : HostContext) (p : Packet) : Option HostQuery :=
  if c.hostOnlyMode && c.admits p && (p.message.field "query").all printable then
    p.sender.map fun sender => ⟨p.message.field "query", sender⟩
  else none

/-- The `DataReceived` handler with a registered context: the context after it, and the query it
starts. -/
def dataReceived (c : HostContext) (p : Packet) : HostContext × Option HostQuery :=
  match dispatch p.message with
  | .hostModeEnable => (hostModeEnable c p, none)
  | .hostAdd => (c.add p.addedHost, none)
  | .hostRemove => (c.delete (p.message.field "identity"), none)
  | .wakeWordToggle => (if c.admits p then { c with wakeWordEnabled := p.enabled } else c, none)
  | .speakingToggle => (if c.admits p then { c with speakingEnabled := p.enabled } else c, none)
  | .hostAiQuery => (c, hostAiQuery c p)
  | .other => (c, none)

/-! ## The room -/

/-- The room: its registered context and the host queries started so far. -/
structure Room where
  /-- `activeRooms.get(roomId)`. -/
  context : Option HostContext
  /-- The calls of `processHostQuery`, oldest first. -/
  queries : List HostQuery

/-- What happens to the room. -/
inductive Event where
  /-- `startBot` registers its context. -/
  | register
  /-- The context is removed. -/
  | remove
  /-- A data message arrives. -/
  | data (p : Packet)

/-- The room after a message; without a context the message is dropped. -/
def Room.receive (r : Room) (p : Packet) : Room :=
  match r.context with
  | none => r
  | some c => ⟨some (dataReceived c p).1, r.queries ++ (dataReceived c p).2.toList⟩

/-- The room after an event. -/
def Room.after (r : Room) : Event → Room
  | .register => { r with context := some .initial }
  | .remove => { r with context := none }
  | .data p => r.receive p

/-- The room as an event system; every event can happen at any time. -/
def hostMode : EventSystem Room Event where
  init := ⟨none, []⟩
  step r e := some (r.after e)

/-! ## Authority -/

/-- No host sent the message: the identity of its sender is not in `hostIdentities`. -/
def Outsider (c : HostContext) (p : Packet) : Prop := ∀ id, p.sender = some id →
  c.has (some (str id)) = false

/-- A message no host sent, in a room that has a host, leaves the four fields as they are and
starts no query. -/
def Authority (r : Room) : Event → Prop
  | .data p => ∀ c, r.context = some c → c.hostIdentities ≠ [] → Outsider c p → r.receive p = r
  | _ => True

/-- The participant is a host of the registered context. -/
def IsHost (r : Room) (id : String) : Prop := ∃ c, r.context = some c ∧
  c.has (some (str id)) = true

/-- The message asks to make the value a host. -/
def Names (p : Packet) (v : JsVal) : Prop :=
  match dispatch p.message with
  | .hostModeEnable => p.hostId = some v
  | .hostAdd => p.addedHost = some v
  | _ => False

/-- The participant is made a host with authority: by a host, or as the first host of a room
that has none. -/
def Appoints (id : String) (r : Room) : Event → Prop
  | .data p => ∃ c, r.context = some c ∧ Names p (str id) ∧
      (c.hostIdentities = [] ∨ ¬ Outsider c p)
  | _ => False

/-- What a message of an outsider may be: it switches the mode to what it is and names a host
that is one, or nobody; it adds a host that is one; it removes a host that is none; or it is none
of the three messages the handler takes from anybody. -/
def HarmlessFor (c : HostContext) (p : Packet) : Prop :=
  match dispatch p.message with
  | .hostModeEnable => p.enabled = c.hostOnlyMode ∧ ∀ v, p.hostId = some v → c.has (some v) = true
  | .hostAdd => c.has p.addedHost = true
  | .hostRemove => c.has (p.message.field "identity") = false
  | _ => True

/-- Every message of an outsider in a room that has a host is harmless. -/
def Harmless (r : Room) : Event → Prop
  | .data p => ∀ c, r.context = some c → c.hostIdentities ≠ [] → Outsider c p → HarmlessFor c p
  | _ => True

/-! ## What the handler does -/

/-- The guard lets no outsider through. -/
lemma Outsider.admits {c : HostContext} {p : Packet} (h : Outsider c p) : c.admits p = false := by
  cases hs : p.sender with
  | none => simp [HostContext.admits, Packet.identity, hs, truthy]
  | some id => simp [HostContext.admits, Packet.identity, hs, h id hs]

/-- Adding changes nothing exactly when the host is one. -/
lemma HostContext.add_eq_self_iff {c : HostContext} {v : Option JsVal} :
    c.add v = c ↔ c.has v = true := by
  rw [HostContext.has, ← JsSet.add_eq_self_iff]
  constructor
  · exact fun h => congrArg HostContext.hostIdentities h
  · intro h
    rw [HostContext.add, h]

/-- Deleting changes nothing exactly when the host is none. -/
lemma HostContext.delete_eq_self_iff {c : HostContext} {v : Option JsVal} :
    c.delete v = c ↔ c.has v = false := by
  rw [HostContext.has, ← JsSet.delete_eq_self_iff]
  constructor
  · exact fun h => congrArg HostContext.hostIdentities h
  · intro h
    rw [HostContext.delete, h]

/-- Enabling the host mode changes nothing exactly when the mode is what the message asks for and
the host it names is one. -/
lemma hostModeEnable_eq_self_iff {c : HostContext} {p : Packet} :
    hostModeEnable c p = c ↔
      p.enabled = c.hostOnlyMode ∧ ∀ v, p.hostId = some v → c.has (some v) = true := by
  have hmode : (hostModeEnable c p).hostOnlyMode = p.enabled := by
    unfold hostModeEnable
    cases p.hostId <;> rfl
  constructor
  · intro h
    have henabled : p.enabled = c.hostOnlyMode := by rw [← hmode, h]
    refine ⟨henabled, fun v hv => HostContext.add_eq_self_iff.mp ?_⟩
    simpa only [hostModeEnable, hv, henabled] using h
  · rintro ⟨henabled, hnamed⟩
    unfold hostModeEnable
    rw [henabled]
    cases hid : p.hostId with
    | none => rfl
    | some v => exact HostContext.add_eq_self_iff.mpr (hnamed v hid)

/-- **One message.** A message of an outsider leaves everything as it is exactly when it is
harmless.

**Proof sketch.** By the branch that takes the message. The guarded branches refuse the outsider;
of the others, each changes nothing under its own condition. -/
lemma dataReceived_eq_self_iff {c : HostContext} {p : Packet} (ho : Outsider c p) :
    dataReceived c p = (c, none) ↔ HarmlessFor c p := by
  unfold dataReceived HarmlessFor
  cases dispatch p.message with
  | hostModeEnable => simp only [Prod.mk.injEq, and_true, hostModeEnable_eq_self_iff]
  | hostAdd => simp only [Prod.mk.injEq, and_true, HostContext.add_eq_self_iff]
  | hostRemove => simp only [Prod.mk.injEq, and_true, HostContext.delete_eq_self_iff]
  | wakeWordToggle => simp [ho.admits]
  | speakingToggle => simp [ho.admits]
  | hostAiQuery => simp [hostAiQuery, ho.admits]
  | other => simp

/-- A room is as it was exactly when its context is and no query was started. -/
lemma receive_eq_self_iff {r : Room} {c : HostContext} {p : Packet} (hc : r.context = some c) :
    r.receive p = r ↔ dataReceived c p = (c, none) := by
  rcases r with ⟨context, queries⟩
  simp only at hc
  subst hc
  rcases hd : dataReceived c p with ⟨c', q⟩
  simp only [Room.receive, hd, Room.mk.injEq, Option.some.injEq, Prod.mk.injEq]
  cases q <;> simp

/-- Authority at a step is the step's message being harmless. -/
lemma authority_iff_harmless (r : Room) (e : Event) : Authority r e ↔ Harmless r e := by
  cases e with
  | register => exact Iff.rfl
  | remove => exact Iff.rfl
  | data p =>
    constructor
    · intro h c hc hne ho
      exact (dataReceived_eq_self_iff ho).mp ((receive_eq_self_iff hc).mp (h c hc hne ho))
    · intro h c hc hne ho
      exact (receive_eq_self_iff hc).mpr ((dataReceived_eq_self_iff ho).mpr (h c hc hne ho))

/-! ## Where hosts come from -/

/-- A participant that is a host after a message was one before or is named by it. -/
lemma has_dataReceived {c : HostContext} {p : Packet} {id : String}
    (h : (dataReceived c p).1.has (some (str id)) = true) :
    c.has (some (str id)) = true ∨ Names p (str id) := by
  unfold dataReceived at h
  unfold Names
  cases hd : dispatch p.message with
  | hostModeEnable =>
    simp only [hd, hostModeEnable] at h ⊢
    cases hid : p.hostId with
    | none =>
      simp only [hid] at h
      exact .inl h
    | some v =>
      simp only [hid] at h
      refine (JsSet.has_add h).imp_right fun hv => ?_
      exact sameValueZero_str.mp hv
  | hostAdd =>
    simp only [hd] at h ⊢
    exact (JsSet.has_add h).imp_right sameValueZero_str.mp
  | hostRemove =>
    simp only [hd] at h
    exact .inl (JsSet.has_of_has_delete h)
  | wakeWordToggle =>
    simp only [hd] at h
    left
    split at h <;> exact h
  | speakingToggle =>
    simp only [hd] at h
    left
    split at h <;> exact h
  | hostAiQuery => exact .inl (by simpa only [hd] using h)
  | other => exact .inl (by simpa only [hd] using h)

/-- **Where a host comes from.** Under authority a step makes a participant a host only by an
appointment.

**Proof sketch.** A new host is named by the message. If the room had hosts and none of them sent
it, authority says that nothing changed, so the participant was a host before. -/
lemma isHost_step {r : Room} {e : Event} {id : String} (ha : Authority r e)
    (h : IsHost (r.after e) id) : IsHost r id ∨ Appoints id r e := by
  cases e with
  | register =>
    obtain ⟨c, hc, hid⟩ := h
    rw [← Option.some.inj hc] at hid
    exact absurd hid (by simp [HostContext.initial, HostContext.has, JsSet.has])
  | remove =>
    obtain ⟨c, hc, -⟩ := h
    exact absurd hc (by simp [Room.after])
  | data p =>
    obtain ⟨c', hc', hid⟩ := h
    cases hc : r.context with
    | none => simp [Room.after, Room.receive, hc] at hc'
    | some c =>
      by_cases hauth : c.hostIdentities = [] ∨ ¬ Outsider c p
      · have hc'' : c' = (dataReceived c p).1 := by
          simp only [Room.after, Room.receive, hc, Option.some.injEq] at hc'
          exact hc'.symm
        rw [hc''] at hid
        exact (has_dataReceived hid).imp (fun hold => ⟨c, hc, hold⟩)
          fun hnames => ⟨c, hc, hnames, hauth⟩
      · rw [not_or, not_not] at hauth
        have hsame : r.receive p = r := ha c hc hauth.1 hauth.2
        left
        exact ⟨c', hsame ▸ hc', hid⟩

/-! ## Runs -/

/-- **Host authority.** Along a run, every message that no host sent leaves the hosts, the modes
and the queries of a room with hosts as they are, and nobody becomes a host without being
appointed, exactly when every such message is harmless.

**Proof sketch.** The first part is `authority_iff_harmless` at every step. Under authority a host
comes from an appointment (`isHost_step`), so being no host is preserved by every step that does
not appoint the participant. -/
theorem host_authority_iff (es : List Event) :
    (hostMode.AllSteps Authority hostMode.init es ∧
      ∀ id, hostMode.AllSteps (fun r e => ¬ Appoints id r e) hostMode.init es →
        hostMode.AllStates (fun r => ¬ IsHost r id) hostMode.init es) ↔
      hostMode.AllSteps Harmless hostMode.init es := by
  constructor
  · rintro ⟨h, -⟩
    exact EventSystem.allSteps_of_invariant (I := fun _ => True) (fun _ _ _ _ _ _ => trivial)
      (fun r e _ ha => (authority_iff_harmless r e).mp ha) trivial h
  · intro h
    have hauth : hostMode.AllSteps Authority hostMode.init es :=
      EventSystem.allSteps_of_invariant (I := fun _ => True) (fun _ _ _ _ _ _ => trivial)
        (fun r e _ hh => (authority_iff_harmless r e).mpr hh) trivial h
    refine ⟨hauth, fun id hno => ?_⟩
    refine EventSystem.allStates_of_invariant (I := fun r => ¬ IsHost r id) ?_ (fun _ hI => hI)
      ?_ (hauth.and hno)
    · rintro r e r' hI ⟨ha, hna⟩ hs hhost
      rw [← Option.some.inj hs] at hhost
      exact (isHost_step ha hhost).elim hI hna
    · rintro ⟨c, hc, -⟩
      exact absurd hc (by simp [hostMode])

/-- A message with a type and one more property. -/
def sends (sender type name : String) (value : JsVal) : Event :=
  .data ⟨some sender, obj [("type", str type), (name, value)]⟩

/-- The first host has enabled the host mode, and somebody sends one more message. -/
def hosted (e : Event) : List Event :=
  [.register, sends "host" "HOST_MODE_ENABLE" "enabled" (JsVal.bool true), e]

/-- An outsider takes the room over: he adds himself to the hosts, turns the host mode off, or
removes the host. -/
theorem outsider_takes_over :
    ¬ hostMode.AllSteps Authority hostMode.init
        (hosted (sends "guest" "HOST_ADD" "host" (obj [("identity", str "guest")]))) ∧
      ¬ hostMode.AllSteps Authority hostMode.init
        (hosted (sends "guest" "HOST_MODE_ENABLE" "enabled" (JsVal.bool false))) ∧
      ¬ hostMode.AllSteps Authority hostMode.init
        (hosted (sends "guest" "HOST_REMOVE" "identity" (str "host"))) := by
  have hguest : ∀ message, Outsider ⟨true, [some (str "host")], false, false⟩
      ⟨some "guest", message⟩ := by
    intro message id hid
    rw [← Option.some.inj hid]
    decide
  refine ⟨?_, ?_, ?_⟩
  · intro h
    have hsame := h.2.2.1 _ rfl (by decide) (hguest _)
    have hhosts := congrArg (fun r : Room => r.context.map (·.hostIdentities.length)) hsame
    exact absurd hhosts (by decide)
  · intro h
    have hsame := h.2.2.1 _ rfl (by decide) (hguest _)
    have hmode := congrArg (fun r : Room => r.context.map (·.hostOnlyMode)) hsame
    exact absurd hmode (by decide)
  · intro h
    have hsame := h.2.2.1 _ rfl (by decide) (hguest _)
    have hhosts := congrArg (fun r : Room => r.context.map (·.hostIdentities.length)) hsame
    exact absurd hhosts (by decide)

end HostMode
