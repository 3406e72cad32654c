import AuraLive.Foundations.Extension
import AuraLive.Lifecycle.Moves
import AuraLive.Perplexity.Service

set_option relaxedAutoImplicit false
set_option autoImplicit false

/-!
# The Perplexity session of a room

`PERPLEXITY_START` switches the mode of the registered context on, starts a session of
`PerplexityService` and copies the participants of the `Room` into it; `PERPLEXITY_END` ends it. No
other event of the room reaches the service.

## Main definitions

* `Lifecycle.PerplexityMode` — the service and the modes of the contexts.
* `Lifecycle.perplexityMode` — the sessions of a room with their Perplexity modes.
* `Lifecycle.MirrorsRoom` — the service has a session exactly while the mode is on, with the humans
  of the room as its participants.
* `Lifecycle.KeepsMirror` — what a step must find for that to stay so.

## Main results

* `Lifecycle.perplexity_mirror_iff` — the service mirrors the room throughout a run exactly when
  every step finds what it must find.
* `Lifecycle.perplexity_mirror_broken` — a human who joins later and a bot that is stopped break the
  mirror.

## Design

The service is the one of `Perplexity.PerplexityService`. A message reaches the handlers of a `Room`
that is connected; LiveKit may not know its sender. The messages that only change the cells of a
session are left out.
-/

namespace Lifecycle

open Foundations EventSystem Perplexity

/-- `identity.includes(text)`. -/
def includes (identity text : String) : Bool := text.toList <:+: identity.toList

/-- The identities that `PERPLEXITY_START` leaves out. -/
def botLike (identity : String) : Bool := includes identity "bot" || includes identity "agent"

/-- A participant with a bot's identity is left out. -/
lemma isHuman_of_not_botLike {p : String} (h : botLike p = false) : isHuman p = true := by
  by_contra hne
  have hpre : "ai-bot".toList <+: p.toList := by
    simpa [isHuman, startsWith, List.isPrefixOf_iff_prefix] using hne
  have hin : "bot".toList <:+: "ai-bot".toList := by decide
  have hbot : "bot".toList <:+: p.toList := hin.trans hpre.isInfix
  simp only [botLike, includes, Bool.or_eq_false_iff, decide_eq_false_iff_not] at h
  exact h.1 hbot

/-- `PerplexityService` and the field `perplexityModeActive` of every context. -/
structure PerplexityMode where
  service : PerplexityService
  perplexityModeActive : ℕ → Bool

/-- A message that the `Room` of a session receives. -/
inductive ModeEvent where
  | perplexityStart (session now : ℕ) (sender : Option String)
  | perplexityEnd (session : ℕ)
  deriving DecidableEq, Repr

section

variable (roomId : String) (name : String → String)

/-- `participant.name || participant.identity`. -/
def displayName (p : String) : String := if name p = "" then p else name p

/-- The participants that are added to a session, in their order. -/
def addParticipants (now : ℕ) (service : PerplexityService) (identities : List String) :
    PerplexityService :=
  identities.foldl (fun service p => service.addParticipant roomId now p (displayName name p))
    service

namespace PerplexityMode

variable (x : PerplexityMode)

/-- The `PERPLEXITY_START` handler of a `Room` with these participants. -/
def start (context : Option ℕ) (remoteParticipants : List String) (now : ℕ)
    (sender : Option String) : PerplexityMode :=
  match context with
  | none => x
  | some c =>
    if x.perplexityModeActive c then x
    else
      let added := remoteParticipants.filter fun p => !botLike p
      let service := addParticipants roomId name now (x.service.startSession roomId now) added
      { perplexityModeActive := Function.update x.perplexityModeActive c true
        service := match sender with
          | none => service
          | some p =>
            if p ∈ added ∨ botLike p then service
            else service.addParticipant roomId now p (displayName name p) }

/-- The `PERPLEXITY_END` handler. -/
def stop (context : Option ℕ) : PerplexityMode :=
  match context with
  | none => x
  | some c =>
    if x.perplexityModeActive c then
      { perplexityModeActive := Function.update x.perplexityModeActive c false
        service := x.service.endSession roomId }
    else x

/-- The modes after a message, if it can be received. -/
def handle (s : Server) : ModeEvent → Option PerplexityMode
  | .perplexityStart n now sender =>
    if s.Connected n then
      some (x.start roomId name s.active (s.sessions n).remoteParticipants now sender)
    else none
  | .perplexityEnd n => if s.Connected n then some (x.stop roomId s.active) else none

end PerplexityMode

/-- The sessions of a room with their Perplexity modes. A context is created with its mode off. -/
def perplexityMode : EventSystem (Server × PerplexityMode) (Event ⊕ ModeEvent) :=
  lifecycle.extend (fun _ _ _ x => x) (fun s x e => x.handle roomId name s e)
    ⟨perplexity.init, fun _ => false⟩

/-- Whether the registered context, if there is one, has its mode on. -/
def modeOn (p : Server × PerplexityMode) : Bool := p.1.active.any p.2.perplexityModeActive

/-- While the mode is on, the service has a session whose participants are the humans of the room;
while it is off, or no context is registered, there is none. -/
def MirrorsRoom (p : Server × PerplexityMode) : Prop :=
  if modeOn p then
    ∃ session ∈ p.2.service.sessions.get roomId,
      (∀ q ∈ session.participants.keys, q ∈ humans p.1.members) ∧
        ∀ q ∈ humans p.1.members, q ∈ session.participants.keys
  else p.2.service.sessions.get roomId = none

/-- What a step must find. No human joins or leaves while the mode is on, and the context is neither
removed nor replaced. The mode is switched on when the identity of no human in the room has `bot` or
`agent` in it, by someone who is in the room. -/
def KeepsMirror (p : Server × PerplexityMode) : Event ⊕ ModeEvent → Prop
  | .inl ⟨_, .join q⟩ => modeOn p = true → isHuman q = false
  | .inl ⟨_, .leave q⟩ => modeOn p = true → isHuman q = false
  | .inl ⟨_, .disconnected _⟩ => modeOn p = false
  | .inl ⟨_, .resume (.roomDisconnect _ _) true⟩ => modeOn p = false
  | .inl ⟨_, .published _ true⟩ => modeOn p = false
  | .inr (.perplexityStart _ _ sender) =>
    p.1.active.isSome → modeOn p = false →
      (∀ q ∈ humans p.1.members, botLike q = false) ∧
        ∀ q ∈ sender, botLike q = true ∨ q ∈ p.1.members
  | _ => True

instance : DecidablePred (MirrorsRoom roomId) := fun p => by
  delta MirrorsRoom
  infer_instance

instance (p : Server × PerplexityMode) (e : Event ⊕ ModeEvent) : Decidable (KeepsMirror p e) := by
  delta KeepsMirror
  split <;> infer_instance

end

/-! ## Sessions of the service -/

section

variable {roomId : String} {name : String → String}

/-- One more participant. -/
lemma addParticipant_keys {service : PerplexityService} {session : PerplexitySession}
    (h : service.sessions.get roomId = some session) (now : ℕ) (p n : String) :
    ∃ session', (service.addParticipant roomId now p n).sessions.get roomId = some session' ∧
      ∀ q, q ∈ session'.participants.keys ↔ q ∈ session.participants.keys ∨ q = p := by
  unfold PerplexityService.addParticipant
  rw [h]
  dsimp only
  split
  · rename_i hhas
    refine ⟨session, h, fun q => ⟨.inl, ?_⟩⟩
    rintro (hq | rfl)
    · exact hq
    · exact (session.participants.mem_keys_iff q).mpr hhas
  · refine ⟨_, JsMap.get_set_self _ _ _, fun q => ?_⟩
    simp only [JsMap.mem_keys_iff, JsMap.get_set]
    by_cases hq : p = q
    · simp [hq]
    · simp [hq, Ne.symm hq]

/-- Several more participants, by induction on their list. -/
lemma addParticipants_keys (name : String → String) (now : ℕ) : ∀ (identities : List String)
    {service : PerplexityService}
    {session : PerplexitySession}, service.sessions.get roomId = some session →
    ∃ session', (addParticipants roomId name now service identities).sessions.get roomId =
        some session' ∧
      ∀ q, q ∈ session'.participants.keys ↔ q ∈ session.participants.keys ∨ q ∈ identities
  | [], service, session, h => ⟨session, h, by simp⟩
  | p :: identities, service, session, h => by
    obtain ⟨session₁, h₁, hk₁⟩ := addParticipant_keys h now p (displayName name p)
    obtain ⟨session₂, h₂, hk₂⟩ := addParticipants_keys name now identities h₁
    refine ⟨session₂, h₂, fun q => ?_⟩
    rw [hk₂, hk₁, List.mem_cons, or_assoc]

/-- The participants of the session that `PERPLEXITY_START` has started.

**Proof sketch.** The session is new, so after the loop it has the humans among the remote
participants. The sender is added if not in it yet, unless it is a bot. -/
lemma start_keys (roomId : String) (name : String → String) {x : PerplexityMode} {c : ℕ}
    (remoteParticipants : List String) (hoff : x.perplexityModeActive c = false) (now : ℕ)
    (sender : Option String) :
    ∃ session, (x.start roomId name (some c) remoteParticipants now sender).service.sessions.get
        roomId = some session ∧
      ∀ q, q ∈ session.participants.keys ↔
        (q ∈ remoteParticipants ∨ q ∈ sender) ∧ botLike q = false := by
  have h₀ : (x.service.startSession roomId now).sessions.get roomId = some _ :=
    JsMap.get_set_self _ _ _
  obtain ⟨session, h₁, hk⟩ := addParticipants_keys name now
    (remoteParticipants.filter fun p => !botLike p) h₀
  have hempty : ∀ q, q ∈ session.participants.keys ↔
      q ∈ remoteParticipants ∧ botLike q = false := by
    intro q
    rw [hk q]
    simp [JsMap.mem_keys_iff]
  simp only [PerplexityMode.start, hoff, Bool.false_eq_true, if_false]
  cases sender with
  | none =>
    refine ⟨session, h₁, fun q => ?_⟩
    simp [hempty q]
  | some p =>
    dsimp only
    split
    · rename_i hp
      refine ⟨session, h₁, fun q => ?_⟩
      rw [hempty q]
      -- the sender has been added already, or is left out
      refine ⟨fun h => ⟨.inl h.1, h.2⟩, fun h => ⟨h.1.elim id fun hq => ?_, h.2⟩⟩
      obtain rfl : p = q := Option.some.inj hq
      rcases hp with hp | hp
      · exact (List.mem_filter.mp hp).1
      · simp [h.2] at hp
    · rename_i hp
      obtain ⟨session', h', hk'⟩ := addParticipant_keys h₁ now p (displayName name p)
      refine ⟨session', h', fun q => ?_⟩
      rw [hk' q, hempty q]
      have hbot : botLike p = false := by simpa using fun h => hp (.inr h)
      constructor
      · rintro (h | rfl)
        · exact ⟨.inl h.1, h.2⟩
        · exact ⟨.inr rfl, hbot⟩
      · rintro ⟨h | h, hq⟩
        · exact .inl ⟨h, hq⟩
        · exact .inr (Option.some.inj h).symm

/-! ## Steps -/

variable {p p' : Server × PerplexityMode}

/-- With the mode switched off the service must have no session. -/
lemma mirrorsRoom_off (hM : MirrorsRoom roomId p) (hx : p'.2 = p.2) (hoff : modeOn p' = false) :
    MirrorsRoom roomId p' ↔ modeOn p = false := by
  unfold MirrorsRoom at hM ⊢
  rw [hoff, hx, if_neg (by simp)]
  cases hon : modeOn p with
  | false => simpa [hon] using hM
  | true =>
    simp only [hon, if_true] at hM
    obtain ⟨session, hget, -⟩ := hM
    simp [Option.mem_def.mp hget]

/-- With the mode on the humans of the room must be the participants of the session. -/
lemma mirrorsRoom_on (hM : MirrorsRoom roomId p) (hx : p'.2 = p.2) (hon : modeOn p = true)
    (hon' : modeOn p' = true) :
    MirrorsRoom roomId p' ↔ ∀ q, q ∈ humans p'.1.members ↔ q ∈ humans p.1.members := by
  unfold MirrorsRoom at hM ⊢
  rw [hon', hx, if_pos rfl]
  rw [hon, if_pos rfl] at hM
  obtain ⟨session, hget, hsub, hsup⟩ := hM
  constructor
  · rintro ⟨session', hget', hsub', hsup'⟩ q
    obtain rfl : session = session' := Option.some.inj (hget.symm.trans hget')
    exact ⟨fun hq => hsub q (hsup' q hq), fun hq => hsub' q (hsup q hq)⟩
  · intro hall
    exact ⟨session, hget, fun q hq => (hall q).mpr (hsub q hq),
      fun q hq => hsup q ((hall q).mp hq)⟩

/-- The humans after someone has joined are the same exactly when it was no human. -/
lemma humans_join {members : List String} {q : String} (hq : q ∉ members) :
    (∀ r, r ∈ humans (members ++ [q]) ↔ r ∈ humans members) ↔ isHuman q = false := by
  simp only [humans, List.filter_append, List.mem_append]
  cases hum : isHuman q with
  | false => simp [hum]
  | true =>
    simp only [Bool.true_eq_false, iff_false]
    intro h
    have hmem := (h q).mp (.inr (by simp [hum]))
    exact hq (List.mem_filter.mp hmem).1

/-- The humans after someone has left are the same exactly when it was no human. -/
lemma humans_leave {members : List String} {q : String} (hq : q ∈ members)
    (hnd : members.Nodup) :
    (∀ r, r ∈ humans (members.erase q) ↔ r ∈ humans members) ↔ isHuman q = false := by
  simp only [humans, List.mem_filter, hnd.mem_erase_iff]
  constructor
  · intro h
    by_contra hne
    have := (h q).mpr ⟨hq, by simpa using hne⟩
    exact this.1.1 rfl
  · intro hbot r
    refine ⟨fun h => ⟨h.1.2, h.2⟩, fun h => ⟨⟨?_, h.1⟩, h.2⟩⟩
    rintro rfl
    simp [hbot] at h

/-- The mode of a context that is being registered is off. -/
lemma modeOn_registered {n : ℕ} (hf : OnlyRegistered p.1 p.2.perplexityModeActive)
    (hx : p'.2 = p.2) (hp : (p.1.stage n).2 = .publishing) (hact : p'.1.active = some n) :
    modeOn p' = false := by
  simp [modeOn, hact, hx, hf.eq_false hp]

/-- A step of the sessions that keeps the registered context.

**Proof sketch.** With the mode off nothing is asked. With the mode on its session is the same as
before, so the room is mirrored if and only if its humans are the same as before, which only a human
who joins or leaves changes. -/
lemma mirror_keeps {e : Event} (hnd : p.1.members.Nodup) (hM : MirrorsRoom roomId p)
    (hx : p'.2 = p.2) (hact : p'.1.active = p.1.active)
    (hstep : lifecycle.step p.1 e = some p'.1) (hdrop : ∀ n, ¬ e.act.Drops n)
    (hreg : ∀ n, e.act ≠ .published n true) :
    MirrorsRoom roomId p' ↔ KeepsMirror p (.inl e) := by
  have hmode : modeOn p' = modeOn p := by rw [modeOn, hx, hact, modeOn]
  have hmem := members_step hstep
  obtain ⟨-, hh⟩ := step_eq hstep
  -- with the mode off nothing is asked; with the mode on the humans must be the same
  have hiff : MirrorsRoom roomId p' ↔
      (modeOn p = true → ∀ q, q ∈ humans p'.1.members ↔ q ∈ humans p.1.members) := by
    cases hon : modeOn p with
    | false => simp [mirrorsRoom_off hM hx (hmode.trans hon), hon]
    | true => simp [mirrorsRoom_on hM hx hon (hmode.trans hon)]
  rw [hiff]
  obtain ⟨now, act⟩ := e
  cases act with
  | join q =>
    simp only [Server.handle, Option.ite_none_left_eq_some] at hh
    refine imp_congr_right fun _ => ?_
    rw [hmem]
    exact humans_join hh.1
  | leave q =>
    simp only [Server.handle, Option.ite_none_right_eq_some] at hh
    refine imp_congr_right fun _ => ?_
    rw [hmem]
    exact humans_leave hh.1 hnd
  | disconnected n => exact absurd (.inl rfl) (hdrop n)
  | published n ok =>
    cases ok with
    | true => exact absurd rfl (hreg n)
    | false => exact iff_of_true (fun _ q => by rw [hmem]; rfl) trivial
  | resume call ok =>
    refine iff_of_true (fun _ q => by rw [hmem]; rfl) ?_
    cases call with
    | roomDisconnect n after =>
      cases ok with
      | true => exact absurd (.inr ⟨after, rfl⟩) (hdrop n)
      | false => trivial
    | _ => trivial
  | _ => exact iff_of_true (fun _ q => by rw [hmem]; rfl) trivial

/-- **A step of the sessions** keeps the mirror exactly when it finds what it must find. -/
lemma mirror_lifecycle {e : Event} (hnd : p.1.members.Nodup)
    (hf : OnlyRegistered p.1 p.2.perplexityModeActive) (hM : MirrorsRoom roomId p)
    (h : (perplexityMode roomId name).step p (.inl e) = some p') :
    MirrorsRoom roomId p' ↔ KeepsMirror p (.inl e) := by
  obtain ⟨hstep, hx⟩ := extend_step_inl.mp h
  have hnone : p'.1.active = none → modeOn p' = false := fun hact => by simp [modeOn, hact]
  cases shift hstep with
  | keeps ha hst hk =>
    refine mirror_keeps hnd hM hx hk.active hstep (fun n hd => ?_) fun n hn => ?_
    · rcases hd with hd | ⟨after, hd⟩ <;> simp [hd, Act.target] at ha
    · simp [hn, Act.target] at ha
  | creates ha hn hst hc hact =>
    refine mirror_keeps hnd hM hx (hact.trans hn.symm) hstep (fun n hd => ?_) fun n hp => ?_
    · rcases hd with hd | ⟨after, hd⟩ <;> simp [hd, Act.starts] at ha
    · simp [hp, Act.starts] at ha
  | connects ha hn hp hst hc hact =>
    exact mirror_keeps hnd hM hx hact hstep (by simp [ha, Act.Drops]) (by simp [ha])
  | refused ha hn hp hst hc hact =>
    exact mirror_keeps hnd hM hx hact hstep (by simp [ha, Act.Drops]) (by simp [ha])
  | unpublished ha hn hp hst hc hact =>
    exact mirror_keeps hnd hM hx hact hstep (by simp [ha, Act.Drops]) (by simp [ha])
  | @registers n ha hn hp hst hc hact =>
    obtain ⟨now, act⟩ := e
    obtain rfl : act = .published n true := ha
    exact mirrorsRoom_off hM hx (modeOn_registered hf hx hp hact)
  | @drops n ha hst hc hact =>
    obtain ⟨now, act⟩ := e
    rcases ha with rfl | ⟨after, rfl⟩
    · exact mirrorsRoom_off hM hx (hnone hact)
    · exact mirrorsRoom_off hM hx (hnone hact)

/-- The participants that are copied are the humans of the room exactly when no human is left out
and the sender is no stranger. -/
lemma copies_iff (members : List String) (sender : Option String) :
    (∀ q, ((q ∈ members ∨ q ∈ sender) ∧ botLike q = false ↔ q ∈ humans members)) ↔
      (∀ q ∈ humans members, botLike q = false) ∧
        ∀ q ∈ sender, botLike q = true ∨ q ∈ members := by
  constructor
  · intro h
    refine ⟨fun q hq => ((h q).mpr hq).2, fun q hq => ?_⟩
    cases hbot : botLike q with
    | true => exact .inl rfl
    | false => exact .inr (List.mem_filter.mp ((h q).mp ⟨.inr hq, hbot⟩)).1
  · rintro ⟨hhum, hsender⟩ q
    constructor
    · rintro ⟨hq | hq, hbot⟩
      · exact List.mem_filter.mpr ⟨hq, isHuman_of_not_botLike hbot⟩
      · have hmem := (hsender q hq).resolve_left (by simp [hbot])
        exact List.mem_filter.mpr ⟨hmem, isHuman_of_not_botLike hbot⟩
    · intro hq
      exact ⟨.inl (List.mem_filter.mp hq).1, hhum q hq⟩

/-- **A message** keeps the mirror exactly when it finds what it must find.

**Proof sketch.** A connected `Room` lists the participants of the room. Those that are copied are
the ones without `bot` and `agent` in their identities, all of whom are humans. -/
lemma mirror_message {e : ModeEvent} (hfaith : p.1.Faithful) (hM : MirrorsRoom roomId p)
    (h : (perplexityMode roomId name).step p (.inr e) = some p') :
    MirrorsRoom roomId p' ↔ KeepsMirror p (.inr e) := by
  obtain ⟨hbase, hown⟩ := extend_step_inr.mp h
  have hsame : p'.2 = p.2 → MirrorsRoom roomId p' := by
    intro hx
    rwa [show p' = p from Prod.ext hbase hx]
  cases e with
  | perplexityStart n now sender =>
    simp only [PerplexityMode.handle, Option.ite_none_right_eq_some, Option.some.injEq] at hown
    obtain ⟨hconn, hx⟩ := hown
    rw [hfaith n hconn.2] at hx
    cases hact : p.1.active with
    | none =>
      refine iff_of_true (hsame ?_) (by simp [KeepsMirror, hact])
      rw [← hx, hact]
      rfl
    | some c =>
      cases hon : p.2.perplexityModeActive c with
      | true =>
        refine iff_of_true (hsame ?_) (by simp [KeepsMirror, modeOn, hact, hon])
        rw [← hx, hact, PerplexityMode.start]
        simp [hon]
      | false =>
        obtain ⟨session, hget, hkeys⟩ := start_keys roomId name p.1.members hon now sender
        rw [← hact, hx] at hget
        have hon' : modeOn p' = true := by
          have hx' : p'.2 = _ := hx.symm
          simp only [hact, PerplexityMode.start, hon, Bool.false_eq_true, if_false] at hx'
          simp [modeOn, hbase, hact, hx']
        have hM' : MirrorsRoom roomId p' ↔
            ∀ q, ((q ∈ p.1.members ∨ q ∈ sender) ∧ botLike q = false ↔ q ∈ humans p.1.members) := by
          rw [MirrorsRoom, if_pos hon', hbase]
          constructor
          · rintro ⟨session', hget', hsub, hsup⟩ q
            obtain rfl : session = session' := Option.some.inj (hget.symm.trans hget')
            rw [← hkeys q]
            exact ⟨hsub q, hsup q⟩
          · intro hall
            exact ⟨session, hget, fun q hq => (hall q).mp ((hkeys q).mp hq),
              fun q hq => (hkeys q).mpr ((hall q).mpr hq)⟩
        rw [hM', copies_iff]
        simp [KeepsMirror, hact, modeOn, hon]
  | perplexityEnd n =>
    simp only [PerplexityMode.handle, Option.ite_none_right_eq_some, Option.some.injEq] at hown
    obtain ⟨-, hx⟩ := hown
    refine iff_of_true ?_ trivial
    cases hact : p.1.active with
    | none =>
      refine hsame ?_
      rw [← hx, hact]
      rfl
    | some c =>
      cases hon : p.2.perplexityModeActive c with
      | false =>
        refine hsame ?_
        rw [← hx, hact, PerplexityMode.stop]
        simp [hon]
      | true =>
        have hx' : p'.2 = _ := hx.symm
        simp only [hact, PerplexityMode.stop, hon, if_true] at hx'
        simp [MirrorsRoom, modeOn, hbase, hact, hx', PerplexityService.endSession]

/-! ## Runs -/

/-- A mode is switched on only for a context that is registered. -/
lemma onlyRegistered_modes {e : Event ⊕ ModeEvent}
    (hf : OnlyRegistered p.1 p.2.perplexityModeActive) (hs : Sound p.1)
    (h : (perplexityMode roomId name).step p e = some p') :
    OnlyRegistered p'.1 p'.2.perplexityModeActive := by
  cases e with
  | inl e =>
    obtain ⟨hstep, hx⟩ := extend_step_inl.mp h
    rw [hx]
    exact hf.step hstep
  | inr e =>
    obtain ⟨hbase, hown⟩ := extend_step_inr.mp h
    rw [hbase]
    cases e with
    | perplexityStart m now sender =>
      simp only [PerplexityMode.handle, Option.ite_none_right_eq_some, Option.some.injEq] at hown
      rw [← hown.2]
      unfold PerplexityMode.start
      split
      · exact hf
      rename_i c hc
      split
      · exact hf
      · exact hf.update hs hc true
    | perplexityEnd m =>
      simp only [PerplexityMode.handle, Option.ite_none_right_eq_some, Option.some.injEq] at hown
      rw [← hown.2]
      unfold PerplexityMode.stop
      split
      · exact hf
      rename_i c hc
      split
      · exact hf.update hs hc false
      · exact hf

/-- Nobody is in the room twice. -/
lemma nodup_step {s s' : Server} {e : Event} (hnd : s.members.Nodup)
    (h : lifecycle.step s e = some s') : s'.members.Nodup := by
  rw [members_step h]
  obtain ⟨-, hh⟩ := step_eq h
  cases ha : e.act with
  | join q =>
    simp only [ha, Server.handle, Option.ite_none_left_eq_some] at hh
    have hq : q ∉ s.members := hh.1
    simpa [Act.membersAfter, List.concat_eq_append] using List.Nodup.concat hq hnd
  | leave q => exact hnd.erase q
  | _ => exact hnd

/-- What every step keeps besides the mirror. -/
structure Background (p : Server × PerplexityMode) : Prop where
  sound : Sound p.1
  faithful : p.1.Faithful
  nodup : p.1.members.Nodup
  registered : OnlyRegistered p.1 p.2.perplexityModeActive

lemma Background.step {e : Event ⊕ ModeEvent} (hb : Background p)
    (h : (perplexityMode roomId name).step p e = some p') : Background p' := by
  obtain ⟨hs, hfaith, hnd⟩ := extend_base
    (I := fun s => Sound s ∧ s.Faithful ∧ s.members.Nodup)
    (fun _ _ _ hI h => ⟨hI.1.step h, hI.2.1.step h, nodup_step hI.2.2 h⟩)
    ⟨hb.sound, hb.faithful, hb.nodup⟩ h
  exact ⟨hs, hfaith, hnd, onlyRegistered_modes hb.registered hb.sound h⟩

/-- **The Perplexity session mirrors the room** in every state of a run exactly when in every step
no human joins or leaves while the mode is on, the context is neither removed nor replaced while the
mode is on, and the mode is switched on in a room where no human has `bot` or `agent` in the
identity, by someone who is in the room. -/
theorem perplexity_mirror_iff {es : List (Event ⊕ ModeEvent)} {p : Server × PerplexityMode}
    (hr : (perplexityMode roomId name).exec (perplexityMode roomId name).init es = some p) :
    (perplexityMode roomId name).AllStates (MirrorsRoom roomId) (perplexityMode roomId name).init
        es ↔
      (perplexityMode roomId name).AllSteps KeepsMirror (perplexityMode roomId name).init es := by
  refine allStates_iff_of_step_iff (fun p e p' hb h => hb.step h) ?_
    (⟨sound_init, faithful_init, List.nodup_nil, fun n hn => ?_⟩ : Background _) ?_ hr
  · rintro p (e | e) p' hb hM h
    · exact mirror_lifecycle hb.nodup hb.registered hM h
    · exact mirror_message hb.faithful hM h
  · simp [perplexityMode] at hn
  · simp [MirrorsRoom, modeOn, perplexityMode, lifecycle, perplexity]

end

/-- A bot is started in a room with two humans, who switch the mode on. -/
def perplexed : List (Event ⊕ ModeEvent) :=
  [.inl ⟨0, .join "kim"⟩, .inl ⟨1, .join "lee"⟩, .inl ⟨2, .startBot⟩, .inl ⟨3, .connected 0 true⟩,
    .inl ⟨4, .published 0 true⟩, .inr (.perplexityStart 0 5 (some "kim"))]

/-- The mode is switched off before a human leaves. -/
theorem perplexity_mirror_iff_switched_off :
    (perplexityMode "room" id).AllStates (MirrorsRoom "room") (perplexityMode "room" id).init
      (perplexed ++ [.inr (.perplexityEnd 0), .inl ⟨6, .leave "lee"⟩]) := by
  obtain ⟨p, hp⟩ := Option.isSome_iff_exists.mp
    (show ((perplexityMode "room" id).exec (perplexityMode "room" id).init
      (perplexed ++ [.inr (.perplexityEnd 0), .inl ⟨6, .leave "lee"⟩])).isSome by decide +kernel)
  refine (perplexity_mirror_iff hp).mpr ?_
  decide +kernel

/-- A human who leaves keeps her cell, and a bot that loses its connection leaves the session. -/
theorem perplexity_mirror_broken :
    ¬ (perplexityMode "room" id).AllStates (MirrorsRoom "room") (perplexityMode "room" id).init
        (perplexed ++ [.inl ⟨6, .leave "lee"⟩]) ∧
      ¬ (perplexityMode "room" id).AllStates (MirrorsRoom "room") (perplexityMode "room" id).init
        (perplexed ++ [.inl ⟨6, .disconnected 0⟩]) := by
  decide +kernel

end Lifecycle
