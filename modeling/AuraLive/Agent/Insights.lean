import AuraLive.Agent.Proactive

set_option relaxedAutoImplicit false
set_option autoImplicit false

/-!
# The insights a room receives

`filterInsights` compares the confidence of an insight, whatever it is, with a number, and looks its
type up in a map that all rooms share and that every room empties when its analysis is stopped.

## Main definitions

* `Proactive.Confident`, `Few`, `Spaced` — what is to hold of the messages sent to a room.
* `Proactive.Undisturbed` — what an answer of the language model must find.

## Main results

* `Proactive.insights_of_undisturbed` — if every answer is undisturbed, the messages of every room
  are confident, few and spaced, and the same as if there were no other rooms.
* `Proactive.few_of_exec` — they are few in every run.
* `Proactive.insights_disturbed` — insights without confidence are sent, and another room's insight
  or stop changes what a room receives.

## Design

* **Projection.** A room is compared with the same system in which only the events of that room
  happen. The cooldowns there are those that the room keeps of its own.
-/

namespace Proactive

open Foundations

/-! ## The property -/

/-- Every insight has a number of at least `minConfidenceThreshold` as its confidence. -/
def Confident (room : Room) : Prop :=
  ∀ message ∈ room.sent, ∀ x ∈ message.insights,
    ∃ q, x.confidence = some (.num q) ∧ DEFAULT_PROACTIVE_CONFIG.minConfidenceThreshold ≤ q

/-- Every message has at most `maxInsightsPerAnalysis` insights. -/
def Few (room : Room) : Prop :=
  ∀ message ∈ room.sent,
    message.insights.length ≤ DEFAULT_PROACTIVE_CONFIG.maxInsightsPerAnalysis

/-- An insight that was sent: its type, the time, and the number of stops before. -/
structure Delivery where
  type : Option JsVal
  time : ℕ
  stops : ℕ

/-- The insights of a message. -/
def Sent.deliveries (message : Sent) : List Delivery :=
  message.insights.map fun x => ⟨x.type, message.time, message.stops⟩

/-- The insights that were sent to a room, in the order in which they were sent. -/
def Room.deliveries (room : Room) : List Delivery := room.sent.flatMap Sent.deliveries

/-- Two insights of the same type are at least `cooldownMs` apart, unless the analysis was stopped
in between. -/
def Spaced (room : Room) : Prop :=
  room.deliveries.Pairwise fun a b => a.type = b.type → a.stops = b.stops →
    a.time + DEFAULT_PROACTIVE_CONFIG.cooldownMs ≤ b.time

/-- A value is a number. -/
def isNumber : Option JsVal → Bool
  | some (.num _) => true
  | _ => false

/-- A value is neither an object nor an array. -/
def isPrimitive : Option JsVal → Bool
  | some (.arr _) => false
  | some (.obj _) => false
  | _ => true

/-- When the language model has answered, every insight in the answer is rejected by the comparison
with the threshold, or its confidence is a number, its type is no object, and the type is on
cooldown exactly if it is because of this room: no other room was sent the type within the cooldown,
and none that this room was sent was forgotten with the stop of another room. -/
def Undisturbed (rt : Runtime) (s : State) (e : Event) : Prop :=
  match e.what with
  | .replied _ text now => ∀ x ∈ callLLM rt text now,
      isBelow rt DEFAULT_PROACTIVE_CONFIG.minConfidenceThreshold x.confidence = some true ∨
      isNumber x.confidence = true ∧ isPrimitive x.type = true ∧
        s.insightCooldowns.blocks x.type now = (s.rooms e.roomId).own.blocks x.type now
  | _ => True

/-! ## One room -/

section Room

variable {rt : Runtime} {room : Room} {now : ℕ}

/-- What is known of a room: its messages are as they should be, and the last time of a type is in
the room's own cooldowns. -/
structure Kept (room : Room) : Prop where
  confident : Confident room
  spaced : Spaced room
  /-- The number of stops does not decrease. -/
  stops : ∀ d ∈ room.deliveries, d.stops ≤ room.stops
  /-- What was sent since the last stop is in the cooldowns. -/
  last : ∀ d ∈ room.deliveries, d.stops = room.stops →
    isPrimitive d.type = true ∧ d.time ≤ room.own.lastTime d.type

/-- A primitive value is the same as itself. -/
lemma sameValueZero_self {type : Option JsVal} (h : isPrimitive type = true) :
    JsVal.sameValueZero type type = true := by
  unfold isPrimitive at h
  split at h
  · cases h
  · cases h
  · rename_i harr hobj
    match type with
    | none => rfl
    | some .null => rfl
    | some (.bool b) => simp [JsVal.sameValueZero]
    | some (.num q) => simp [JsVal.sameValueZero]
    | some (.str s) => simp [JsVal.sameValueZero]
    | some (.arr l) => exact absurd rfl (harr l)
    | some (.obj fields) => exact absurd rfl (hobj fields)

/-- A type that is not on cooldown was let through long ago. -/
lemma lastTime_le {cooldowns : Cooldowns} {type : Option JsVal}
    (h : cooldowns.blocks type now = false) :
    cooldowns.lastTime type + DEFAULT_PROACTIVE_CONFIG.cooldownMs ≤ now := by
  have hpos : 0 < DEFAULT_PROACTIVE_CONFIG.cooldownMs := by decide
  have hle := of_decide_eq_false h
  omega

/-- Entering types that are not on cooldown does not set the last time of a type back. -/
lemma lastTime_le_append {cooldowns : Cooldowns} {type : Option JsVal} :
    ∀ {types : List (Option JsVal)}, (∀ t ∈ types, cooldowns.blocks t now = false) →
      cooldowns.lastTime type ≤ Cooldowns.lastTime (types.map (·, now) ++ cooldowns) type
  | [], _ => le_rfl
  | t :: types, h => by
    rw [List.map_cons, List.cons_append, lastTime_cons]
    split
    · rename_i hsame
      rw [eq_of_sameValueZero hsame]
      exact (Nat.le_add_right _ _).trans (lastTime_le (h t List.mem_cons_self))
    · exact lastTime_le_append fun t' ht' => h t' (List.mem_cons_of_mem _ ht')

/-- The last time of a type that is entered is the present. -/
lemma lastTime_append_of_mem {cooldowns : Cooldowns} {type : Option JsVal}
    (hprim : isPrimitive type = true) : ∀ {types : List (Option JsVal)}, type ∈ types →
      Cooldowns.lastTime (types.map (·, now) ++ cooldowns) type = now
  | t :: types, h => by
    rw [List.map_cons, List.cons_append, lastTime_cons]
    split
    · rfl
    · rename_i hsame
      rcases List.mem_cons.mp h with rfl | h
      · exact absurd (sameValueZero_self hprim) hsame
      · exact lastTime_append_of_mem hprim h

/-- The messages of a room that receives what the filter let through. -/
lemma deliveries_receive (id : ℕ) (f : Filtered) :
    (room.receive rt id now f).deliveries =
      room.deliveries ++ (f.result rt).map fun x => ⟨x.type, now, room.stops⟩ := by
  unfold Room.receive Room.deliveries
  dsimp only
  split
  · rename_i hnil
    rw [hnil, List.map_nil, List.append_nil]
  · rw [List.flatMap_append, List.flatMap_singleton]
    rfl

/-- What is sent was let through. -/
lemma result_sublist (rt : Runtime) (f : Filtered) : (f.result rt).Sublist f.filtered := by
  unfold Filtered.result
  split
  · exact List.nil_sublist _
  · split
    · exact List.Sublist.refl _
    · exact List.nil_sublist _

/-- A room with the same messages, stops and cooldowns is kept as well. -/
lemma Kept.congr {room' : Room} (h : Kept room) (hsent : room'.sent = room.sent)
    (hstops : room'.stops = room.stops) (hown : room'.own = room.own) : Kept room' := by
  have hdel : room'.deliveries = room.deliveries := by rw [Room.deliveries, hsent, Room.deliveries]
  refine ⟨?_, ?_, ?_, ?_⟩
  · intro message hm
    exact h.confident message (hsent ▸ hm)
  · unfold Spaced
    rw [hdel]
    exact h.spaced
  · rw [hdel, hstops]
    exact h.stops
  · rw [hdel, hstops, hown]
    exact h.last

/-- Messages, stops and cooldowns stay as they are. -/
def Quiet (room room' : Room) : Prop :=
  room'.sent = room.sent ∧ room'.stops = room.stops ∧ room'.own = room.own

lemma quiet_addScreenContext (room : Room) (text : String) :
    Quiet room (room.addScreenContext text) := by
  unfold Room.addScreenContext
  dsimp only
  split <;> exact ⟨rfl, rfl, rfl⟩

lemma quiet_runProactiveAnalysis (room : Room) (now : ℕ) :
    Quiet room (room.runProactiveAnalysis rt now) := by
  unfold Room.runProactiveAnalysis
  dsimp only
  split
  · exact ⟨rfl, rfl, rfl⟩
  · split <;> exact ⟨rfl, rfl, rfl⟩

/-- A stop starts a new count. -/
lemma Kept.clearScreenContext (h : Kept room) : Kept room.clearScreenContext := by
  unfold Room.clearScreenContext
  dsimp only
  split
  · refine ⟨h.confident, h.spaced, fun d hd => (h.stops d hd).trans (Nat.le_succ _), ?_⟩
    intro d hd hstops
    have hle := h.stops d hd
    have heq : d.stops = room.stops + 1 := hstops
    omega
  · exact h.congr rfl rfl rfl

/-- What a room receives keeps it as it should be, if it was filtered with the room's own cooldowns.

**Proof sketch.** An insight of the same type since the last stop is in the own cooldowns, which do
not block the new one, so it was sent long ago. -/
lemma Kept.receive (h : Kept room) (id : ℕ) {f : Filtered}
    (hvalues : ∀ x ∈ f.filtered, isNumber x.confidence = true ∧ isPrimitive x.type = true)
    (hfilter : ∀ x ∈ f.filtered,
      isBelow rt DEFAULT_PROACTIVE_CONFIG.minConfidenceThreshold x.confidence = some false ∧
        room.own.blocks x.type now = false)
    (hpair : f.filtered.Pairwise fun a b => JsVal.sameValueZero b.type a.type = false) :
    Kept (room.receive rt id now f) := by
  have hsub := result_sublist rt f
  have hown : (room.receive rt id now f).own =
      ((f.filtered.map (·.type)).reverse.map (·, now)) ++ room.own := by
    simp [Room.receive, List.map_reverse]
  have hblocks : ∀ t ∈ (f.filtered.map (·.type)).reverse, room.own.blocks t now = false := by
    intro t ht
    obtain ⟨x, hx, rfl⟩ := List.mem_map.mp (List.mem_reverse.mp ht)
    exact (hfilter x hx).2
  refine ⟨?_, ?_, ?_, ?_⟩
  · intro message hm x hx
    unfold Room.receive at hm
    dsimp only at hm
    split at hm
    · exact h.confident message hm x hx
    rcases List.mem_append.mp hm with hm | hm
    · exact h.confident message hm x hx
    rw [List.mem_singleton.mp hm] at hx
    have hmem := hsub.subset hx
    have hnum := (hvalues x hmem).1
    have hbelow := (hfilter x hmem).1
    unfold isNumber at hnum
    split at hnum
    · rename_i q hq
      rw [hq] at hbelow
      exact ⟨q, hq, not_lt.mp (of_decide_eq_false (Option.some.inj hbelow))⟩
    · cases hnum
  · unfold Spaced
    rw [deliveries_receive]
    refine List.pairwise_append.mpr ⟨h.spaced, ?_, ?_⟩
    · rw [List.pairwise_map]
      refine (hpair.sublist hsub).imp_of_mem ?_
      intro a b ha _ hdiff htype
      have hself := sameValueZero_self (hvalues a (hsub.subset ha)).2
      rw [show b.type = a.type from htype.symm, hself] at hdiff
      cases hdiff
    · intro a ha b hb htype hstops
      obtain ⟨x, hx, rfl⟩ := List.mem_map.mp hb
      have hlast := (h.last a ha hstops).2
      rw [htype] at hlast
      have hlong := lastTime_le (hfilter x (hsub.subset hx)).2
      dsimp only at hlast ⊢
      omega
  · intro d hd
    rw [deliveries_receive] at hd
    rcases List.mem_append.mp hd with hd | hd
    · exact h.stops d hd
    · obtain ⟨x, -, rfl⟩ := List.mem_map.mp hd
      exact le_rfl
  · intro d hd hstops
    rw [deliveries_receive] at hd
    rw [hown]
    rcases List.mem_append.mp hd with hd | hd
    · obtain ⟨hprim, hlast⟩ := h.last d hd hstops
      exact ⟨hprim, hlast.trans (lastTime_le_append hblocks)⟩
    · obtain ⟨x, hx, rfl⟩ := List.mem_map.mp hd
      have hmem := hsub.subset hx
      have hprim := (hvalues x hmem).2
      refine ⟨hprim, (lastTime_append_of_mem hprim ?_).ge⟩
      exact List.mem_reverse.mpr (List.mem_map_of_mem hmem)

end Room

/-! ## The system -/

section System

variable {rt : Runtime}

/-- An event does not concern the other rooms. -/
lemma rooms_of_ne {s s' : State} {e : Event} (h : (system rt).step s e = some s') {roomId : String}
    (hne : e.roomId ≠ roomId) : s'.rooms roomId = s.rooms roomId := by
  simp only [system, State.setRoom] at h
  split at h
  case h_5 =>
    split at h
    · cases h
    · obtain rfl := Option.some.inj h
      exact Function.update_of_ne hne.symm _ _
  all_goals
    obtain rfl := Option.some.inj h
    exact Function.update_of_ne hne.symm _ _

/-- What an event does to its room. -/
lemma step_cases {s s' : State} {e : Event} (h : (system rt).step s e = some s') :
    Quiet (s.rooms e.roomId) (s'.rooms e.roomId) ∨
    s'.rooms e.roomId = (s.rooms e.roomId).clearScreenContext ∨
    ∃ id text now, e.what = .replied id text now ∧ s'.rooms e.roomId =
      (s.rooms e.roomId).receive rt id now (analyze rt text now s.insightCooldowns) := by
  rcases e with ⟨roomId, what⟩
  cases what with
  | addScreenContext text =>
    obtain rfl := Option.some.inj h
    simp only [State.setRoom, Function.update_self]
    exact .inl (quiet_addScreenContext _ text)
  | clearScreenContext =>
    obtain rfl := Option.some.inj h
    simp only [State.setRoom, Function.update_self]
    exact .inr (.inl trivial)
  | conversed turns =>
    obtain rfl := Option.some.inj h
    simp only [State.setRoom, Function.update_self]
    exact .inl ⟨rfl, rfl, rfl⟩
  | runProactiveAnalysis now =>
    obtain rfl := Option.some.inj h
    simp only [State.setRoom, Function.update_self]
    exact .inl (quiet_runProactiveAnalysis _ now)
  | replied id text now =>
    simp only [system] at h
    split at h
    · cases h
    obtain rfl := Option.some.inj h
    simp only [State.setRoom, Function.update_self]
    exact .inr (.inr ⟨id, text, now, rfl, rfl⟩)

/-- An undisturbed answer is filtered as with the cooldowns of the room alone. -/
lemma analyze_congr {s : State} {roomId : String} {id : ℕ} {text : Option String} {now : ℕ}
    (h : Undisturbed rt s ⟨roomId, .replied id text now⟩) :
    (analyze rt text now s.insightCooldowns).filtered =
        (analyze rt text now (s.rooms roomId).own).filtered ∧
      (analyze rt text now s.insightCooldowns).threw =
        (analyze rt text now (s.rooms roomId).own).threw :=
  filterInsights_congr [] fun x hx => (h x hx).imp_right fun hx' => hx'.2.2

/-- An undisturbed answer keeps its room as it should be. -/
lemma Kept.replied {s : State} {roomId : String} {id : ℕ} {text : Option String} {now : ℕ}
    (hroom : Kept (s.rooms roomId)) (he : Undisturbed rt s ⟨roomId, .replied id text now⟩) :
    Kept ((s.rooms roomId).receive rt id now (analyze rt text now s.insightCooldowns)) := by
  obtain ⟨new, hfiltered, -, hnew, hpair⟩ :=
    filterInsights_spec rt now (callLLM rt text now) [] (s.rooms roomId).own
  have hall : (analyze rt text now s.insightCooldowns).filtered = new := by
    rw [(analyze_congr he).1]
    exact hfiltered
  refine hroom.receive id ?_ ?_ ?_
  · intro x hx
    rw [hall] at hx
    obtain ⟨hmem, hbelow, -⟩ := hnew x hx
    rcases he x hmem with hlow | hgood
    · rw [hbelow] at hlow
      cases hlow
    · exact ⟨hgood.1, hgood.2.1⟩
  · intro x hx
    rw [hall] at hx
    exact (hnew x hx).2
  · rw [hall]
    exact hpair

/-- A step with an undisturbed answer keeps all rooms as they should be. -/
lemma kept_step {s s' : State} {e : Event} (hs : ∀ roomId, Kept (s.rooms roomId))
    (he : Undisturbed rt s e) (h : (system rt).step s e = some s') (roomId : String) :
    Kept (s'.rooms roomId) := by
  by_cases hne : e.roomId = roomId
  case neg =>
    rw [rooms_of_ne h hne]
    exact hs roomId
  subst hne
  have hroom := hs e.roomId
  rcases step_cases h with ⟨hsent, hstops, hown⟩ | hclear | ⟨id, text, now, hwhat, hreceive⟩
  · exact hroom.congr hsent hstops hown
  · rw [hclear]
    exact hroom.clearScreenContext
  · rw [hreceive]
    rcases e with ⟨roomId, what⟩
    obtain rfl : what = .replied id text now := hwhat
    exact hroom.replied he

/-- An answer brings at most `maxInsightsPerAnalysis` insights to a room. -/
lemma few_step {s s' : State} {e : Event} (hs : ∀ roomId, Few (s.rooms roomId))
    (h : (system rt).step s e = some s') (roomId : String) : Few (s'.rooms roomId) := by
  by_cases hne : e.roomId = roomId
  case neg =>
    rw [rooms_of_ne h hne]
    exact hs roomId
  subst hne
  have hroom := hs e.roomId
  have hsame : ∀ {room' : Room}, room'.sent = (s.rooms e.roomId).sent → Few room' :=
    fun hsent message hm => hroom message (hsent ▸ hm)
  rcases step_cases h with ⟨hsent, -⟩ | hclear | ⟨id, text, now, -, hreceive⟩
  · exact hsame hsent
  · rw [hclear]
    unfold Room.clearScreenContext
    dsimp only
    split <;> exact hsame rfl
  · rw [hreceive]
    intro message hm
    unfold Room.receive at hm
    dsimp only at hm
    split at hm
    · exact hroom message hm
    rcases List.mem_append.mp hm with hm | hm
    · exact hroom message hm
    · rw [List.mem_singleton.mp hm]
      exact (result_sublist rt _).length_le.trans (length_filterInsights_le _ _ _ (by decide))

/-- **At most `maxInsightsPerAnalysis` insights per analysis**, in every run. -/
theorem few_of_exec {es : List Event} {s : State}
    (h : (system rt).exec (system rt).init es = some s) (roomId : String) :
    Few (s.rooms roomId) :=
  EventSystem.exec_invariant (I := fun s => ∀ roomId, Few (s.rooms roomId))
    (C := fun _ _ => True) (fun _ _ _ hs _ hstep => few_step hs hstep)
    (fun _ _ hm => by cases hm) (EventSystem.allSteps_true _ _) h roomId

/-- A room in two runs: it is the same, and in the second run the cooldowns are those of the room
alone. -/
structure Alone (roomId : String) (s p : State) : Prop where
  room : p.rooms roomId = s.rooms roomId
  cooldowns : p.insightCooldowns = (s.rooms roomId).own

/-- An event of the room that is undisturbed in the first run happens in the second one as well.

**Proof sketch.** Every event but a reply looks only at the room itself, which is the same in both
runs but for the answers that have been sent. At a reply, both runs read the same insights. The
cooldowns of the first run, which all rooms share, agree on the confident types with those that the
room has by itself (`analyze_congr`), so the filter lets the same ones through. -/
lemma Alone.step {s s' p : State} {e : Event} (hrel : Alone e.roomId s p)
    (he : Undisturbed rt s e) (h : (system rt).step s e = some s') :
    ∃ p', (system rt).step p e = some p' ∧ Alone e.roomId s' p' := by
  rcases e with ⟨roomId, what⟩
  obtain ⟨hroom, hcool⟩ := hrel
  dsimp only at hroom hcool
  cases what with
  | addScreenContext text =>
    obtain rfl := Option.some.inj h
    refine ⟨_, rfl, ?_, ?_⟩
    · simp only [State.setRoom, Function.update_self, hroom]
    · simp only [State.setRoom, Function.update_self, hcool]
      exact (quiet_addScreenContext _ text).2.2.symm
  | clearScreenContext =>
    obtain rfl := Option.some.inj h
    refine ⟨_, rfl, ?_, ?_⟩
    · simp only [State.setRoom, Function.update_self, hroom]
    · simp only [State.setRoom, Function.update_self, hcool, hroom]
      unfold Room.clearScreenContext
      dsimp only
      split <;> simp_all
  | conversed turns =>
    obtain rfl := Option.some.inj h
    refine ⟨_, rfl, ?_, ?_⟩
    · simp only [State.setRoom, Function.update_self, hroom]
    · simp only [State.setRoom, Function.update_self, hcool]
  | runProactiveAnalysis now =>
    obtain rfl := Option.some.inj h
    refine ⟨_, rfl, ?_, ?_⟩
    · simp only [State.setRoom, Function.update_self, hroom]
    · simp only [State.setRoom, Function.update_self, hcool]
      exact (quiet_runProactiveAnalysis _ now).2.2.symm
  | replied id text now =>
    simp only [system] at h
    split at h
    · cases h
    rename_i u hwaiting
    obtain rfl := Option.some.inj h
    obtain ⟨hfiltered, hthrew⟩ := analyze_congr he
    obtain ⟨new, hnew, hcooldowns, -⟩ :=
      filterInsights_spec rt now (callLLM rt text now) [] (s.rooms roomId).own
    refine ⟨{ p.setRoom roomId ((s.rooms roomId).receive rt id now
        (analyze rt text now (s.rooms roomId).own)) with
      insightCooldowns := (analyze rt text now (s.rooms roomId).own).cooldowns },
      by simp only [system, hroom, hwaiting, hcool], ?_, ?_⟩
    · simp only [State.setRoom, Function.update_self]
      unfold Room.receive Filtered.result
      rw [hfiltered, hthrew]
    · simp only [State.setRoom, Function.update_self]
      unfold Room.receive
      dsimp only
      rw [hfiltered, show (analyze rt text now (s.rooms roomId).own).filtered = new from hnew]
      exact hcooldowns

/-- A run whose answers are undisturbed, and the run of the events of one room, lead the room to the
same state.

**Proof sketch.** Induction on the run. Events of other rooms do not change the room or its own
cooldowns. -/
lemma Alone.exec {roomId : String} : ∀ {es : List Event} {s p t : State}, Alone roomId s p →
    (system rt).AllSteps (Undisturbed rt) s es → (system rt).exec s es = some t →
    ∃ q, (system rt).exec p (es.filter fun e => e.roomId = roomId) = some q ∧ Alone roomId t q
  | [], s, p, t, hrel, _, hr => by
    obtain rfl := Option.some.inj hr
    exact ⟨p, rfl, hrel⟩
  | e :: es, s, p, t, hrel, hC, hr => by
    obtain ⟨s', hstep, hr'⟩ := EventSystem.exec_cons.mp hr
    obtain ⟨he, hC'⟩ := (EventSystem.allSteps_cons hstep).mp hC
    by_cases hroom : e.roomId = roomId
    · subst hroom
      obtain ⟨p', hp, hrel'⟩ := hrel.step he hstep
      obtain ⟨q, hq, hrel''⟩ := Alone.exec hrel' hC' hr'
      refine ⟨q, ?_, hrel''⟩
      rw [List.filter_cons_of_pos (by simp)]
      exact EventSystem.exec_cons.mpr ⟨p', hp, hq⟩
    · rw [List.filter_cons_of_neg (by simpa using hroom)]
      have hsame := rooms_of_ne hstep hroom
      exact Alone.exec ⟨hrel.room.trans hsame.symm, hrel.cooldowns.trans (by rw [hsame])⟩ hC' hr'

end System

/-- **The insights of a room.** In every run in which the language model's answers are undisturbed,
the messages of every room are confident, few and spaced, and they are those that the room is sent
in the run of its own events alone. -/
theorem insights_of_undisturbed (rt : Runtime) (es : List Event) (s : State)
    (h : (system rt).exec (system rt).init es = some s)
    (hC : (system rt).AllSteps (Undisturbed rt) (system rt).init es) (roomId : String) :
    Confident (s.rooms roomId) ∧ Few (s.rooms roomId) ∧ Spaced (s.rooms roomId) ∧
      ∃ s', (system rt).exec (system rt).init (es.filter fun e => e.roomId = roomId) = some s' ∧
        (s'.rooms roomId).sent = (s.rooms roomId).sent := by
  have hinit : ∀ roomId, Kept ((system rt).init.rooms roomId) := by
    intro roomId
    refine ⟨?_, .nil, ?_, ?_⟩
    · intro message hm
      cases hm
    · intro d hd
      cases hd
    · intro d hd
      cases hd
  have hkept := EventSystem.exec_invariant (I := fun s => ∀ roomId, Kept (s.rooms roomId))
    (fun _ _ _ hs he hstep => kept_step hs he hstep) hinit hC h roomId
  have halone : Alone roomId (system rt).init (system rt).init := ⟨rfl, rfl⟩
  obtain ⟨s', hs', hsame⟩ := halone.exec hC h
  exact ⟨hkept.confident, few_of_exec h roomId, hkept.spaced, s', hs', by rw [hsame.room]⟩

instance decidableUndisturbed (rt : Runtime) (s : State) (e : Event) :
    Decidable (Undisturbed rt s e) :=
  match e with
  | ⟨roomId, .replied _ text now⟩ => inferInstanceAs (Decidable (∀ x ∈ callLLM rt text now,
      isBelow rt DEFAULT_PROACTIVE_CONFIG.minConfidenceThreshold x.confidence = some true ∨
      isNumber x.confidence = true ∧ isPrimitive x.type = true ∧
        s.insightCooldowns.blocks x.type now = (s.rooms roomId).own.blocks x.type now))
  | ⟨_, .addScreenContext _⟩ => .isTrue trivial
  | ⟨_, .clearScreenContext⟩ => .isTrue trivial
  | ⟨_, .conversed _⟩ => .isTrue trivial
  | ⟨_, .runProactiveAnalysis _⟩ => .isTrue trivial

/-! ## Two answers -/

/-- An answer with one tip. -/
def tip : String := "[\x7b\"type\":\"tip\",\"confidence\":90\x7d]"

/-- An answer with an insight that has no confidence. -/
def unsure : String := "[\x7b\"type\":\"info\"\x7d]"

/-- The services, for these answers. -/
def services : Runtime where
  parse text :=
    if text = tip then some (.arr [.obj [("type", .str "tip"), ("confidence", .num 90)]])
    else if text = unsure then some (.arr [.obj [("type", .str "info")]])
    else none
  numberText _ := "90"
  below _ _ := false
  hashTexts texts := "||".intercalate texts

/-- A room shares a screen, and the answer to its first analysis comes at the given time. -/
def shares (roomId : String) (answer : String) (now : ℕ) : List Event :=
  [⟨roomId, .addScreenContext "main.ts"⟩, ⟨roomId, .runProactiveAnalysis now⟩,
    ⟨roomId, .replied 0 (some answer) now⟩]

/-- How many insights a room is sent in a run. -/
def received (es : List Event) (roomId : String) : Option ℕ :=
  ((system services).exec (system services).init es).map fun s => (s.rooms roomId).deliveries.length

/-- Two rooms get a tip, two minutes apart. -/
theorem insights_of_undisturbed_tips :
    received (shares "a" tip 100000 ++ shares "b" tip 220000) "b" = some 1 ∧
    ∃ s, (system services).exec (system services).init
        (shares "a" tip 100000 ++ shares "b" tip 220000) = some s ∧
      Confident (s.rooms "b") ∧ Few (s.rooms "b") ∧ Spaced (s.rooms "b") ∧
      ∃ s', (system services).exec (system services).init
          ((shares "a" tip 100000 ++ shares "b" tip 220000).filter fun e => e.roomId = "b") =
            some s' ∧ (s'.rooms "b").sent = (s.rooms "b").sent := by
  have hreceived : received (shares "a" tip 100000 ++ shares "b" tip 220000) "b" = some 1 := by
    decide +kernel
  obtain ⟨s, hs, -⟩ := Option.map_eq_some_iff.mp hreceived
  exact ⟨hreceived, s, hs, insights_of_undisturbed services _ s hs (by decide +kernel) "b"⟩

/-- **Disturbed rooms.** Room `b` is not sent a tip because room `a` was sent one a second before,
though alone it would be; and room `a` is sent an insight without a confidence. -/
theorem insights_disturbed :
    received (shares "a" tip 100000 ++ shares "b" tip 101000) "b" = some 0 ∧
    received ((shares "a" tip 100000 ++ shares "b" tip 101000).filter fun e => e.roomId = "b")
      "b" = some 1 ∧
    ∃ s, (system services).exec (system services).init (shares "a" unsure 100000) = some s ∧
      ¬ Confident (s.rooms "a") := by
  refine ⟨by decide +kernel, by decide +kernel, ?_⟩
  obtain ⟨s, hs, hsent⟩ := Option.map_eq_some_iff.mp (show
    ((system services).exec (system services).init (shares "a" unsure 100000)).map
      (fun s => (s.rooms "a").sent.any fun m => m.insights.any fun x => x.confidence.isNone) =
        some true by decide +kernel)
  refine ⟨s, hs, fun h => ?_⟩
  obtain ⟨m, hm, hx⟩ := List.any_eq_true.mp hsent
  obtain ⟨x, hx, hnone⟩ := List.any_eq_true.mp hx
  obtain ⟨q, hq, -⟩ := h m hm x hx
  rw [hq] at hnone
  cases hnone

end Proactive
