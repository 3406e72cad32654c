import AuraLive.VoiceBot.OneVoice

set_option relaxedAutoImplicit false
set_option autoImplicit false

/-!
# Superseded answers

A flow that has taken a request id is superseded when another flow takes one. `speakAndPublish`
compares the two ids once, after the speech synthesis; the `speaking` broadcast that follows is
awaited before the first frame. So a flow that is superseded during the broadcast plays all the
same, and so does one whose id is taken again or compared with 0.

## Main definitions

* `VoiceBot.Supersedes` — in a step another flow takes a request id.
* `VoiceBot.SilentFor` — in a step the flows of a request send no frame.
* `VoiceBot.supersedesCleanly` — ids are taken outside the broadcast, and are new.

## Main results

* `VoiceBot.superseded_stays_silent` — then a superseded flow stays silent.
* `VoiceBot.superseded_and_heard` — a timer callback during the broadcast does not silence
  the answer.
-/

namespace VoiceBot

open Foundations

/-- No flow that speaks for the task `ρ` is inside `publishAudio`. -/
def PlaysNothing (pool : RoomPool) (ρ : ℕ) : Prop :=
  ∀ t ∈ pool.tasks, t.flow.root t.id = ρ → t.op.isPlaying = false

/-- In the step a flow that does not speak for the task `ρ` takes a request id. -/
def Supersedes (env : Env) (pool : RoomPool) (e : RoomEvent) (ρ : ℕ) : Prop :=
  (∀ t ∈ (runtime env).turn pool e, t.flow.root t.id ≠ ρ) ∧
    ∃ x ∈ (runtime env).trace pool e, x.2.taken.isSome

/-- An audio frame. -/
def Act.isFrame : Act → Bool
  | .captureFrame _ _ => true
  | _ => false

/-- In the step the flows that speak for the task `ρ` send no frame. -/
def SilentFor (env : Env) (ρ : ℕ) (pool : RoomPool) (e : RoomEvent) : Prop :=
  ∀ t ∈ (runtime env).turn pool e, t.flow.root t.id = ρ →
    ∀ x ∈ (runtime env).trace pool e, x.2.isFrame = false

/-- The broadcast between the check of the request id and the first frame. -/
def Op.isAnnouncing : Op → Bool
  | .announce _ _ => true
  | _ => false

/-- A request id is taken only while the flows that speak for the task `ρ` are not in the broadcast,
and while they are in progress it is not theirs. It is never 0. -/
def TakesCleanly (ρ : ℕ) (seats : List (Seat Op Flow)) (s : RoomState) (a : Act) : Prop :=
  ∀ claim ∈ a.taken, claim.requestId ≠ 0 ∧
    ∀ seat ∈ seats, seat.flow.root seat.id = ρ → seat.op.isAnnouncing = false ∧
      ∀ c ∈ s.claims, c.task = ρ → c.requestId ≠ claim.requestId

/-- Request ids are taken cleanly. -/
def supersedesCleanly (env : Env) (ρ : ℕ) : Guards (runtime env) where
  call _ _ _ := True
  resume _ _ _ _ := True
  act seats _ _ s a := TakesCleanly ρ seats s a

/-- Request ids are taken cleanly, and up to the `k`-th one the flows that speak for the task `ρ` do
not run. -/
def supersedesFrom (env : Env) (ρ k : ℕ) : Guards (runtime env) where
  call _ s flow := s.claims.length ≤ k → ∀ t ∈ flow.announcement, t.parent ≠ ρ
  resume _ s seat _ := s.claims.length ≤ k → seat.flow.root seat.id ≠ ρ
  act seats _ _ s a := TakesCleanly ρ seats s a

/-! ## The invariant -/

/-- The flows that speak for the task `ρ`, which has taken `r`, are off air, and their request is no
longer the current one. -/
structure Silenced (ρ r current : ℕ) (K : Set Speaker) : Prop where
  nonzero : current ≠ 0
  quiet : ∀ x ∈ K, x.root = ρ →
    x.mic ≠ .onAir ∧ (x.request = none ∨ x.request = some r ∧ current ≠ r)

/-- Up to the `k`-th request id no flow of `ρ` runs or plays; from the next one on they are
silenced. -/
structure IsSilenced (ρ r k n : ℕ) (s : RoomState) (L : Set RoomMember) : Prop where
  claimed : ∃ site, ⟨ρ, r, site⟩ ∈ s.claims
  before : s.claims.length ≤ k → ∀ x ∈ L, x.phase.root = ρ →
    ∃ op, x.op = some op ∧ op.isPlaying = false
  after : k < s.claims.length → Silenced ρ r s.currentRequestId (speaker '' L)

namespace Silenced

variable {ρ r current : ℕ} {K : Set Speaker} {x x' : Speaker}

lemma exit (h : Silenced ρ r current (insert x K)) : Silenced ρ r current K :=
  ⟨h.nonzero, fun y hy => h.quiet y (.inr hy)⟩

/-- A task that speaks for another request, or is as silent as it was. -/
lemma update (h : Silenced ρ r current (insert x K))
    (hx : x'.root = ρ →
      x'.mic ≠ .onAir ∧ (x'.request = none ∨ x'.request = some r ∧ current ≠ r)) :
    Silenced ρ r current (insert x' K) :=
  ⟨h.nonzero, Set.forall_mem_insert.mpr ⟨hx, fun y hy => h.quiet y (.inr hy)⟩⟩

/-- A task that is as silent as it was. -/
lemma withMic (h : Silenced ρ r current (insert x K)) {m : Mic}
    (hm : x.root = ρ → m = .onAir → x.mic = .onAir) :
    Silenced ρ r current (insert { x with mic := m } K) :=
  h.update fun hroot => by
    obtain ⟨hmic, hreq⟩ := h.quiet x (Set.mem_insert _ _) hroot
    exact ⟨fun hon => hmic (hm hroot hon), hreq⟩

end Silenced

section Certificate

variable {ρ r k n i : ℕ} {flow : Flow} {φ φ' : Phase} {s : RoomState} {O : Set RoomMember}
  {seats : List (Seat Op Flow)}

/-- A task that has not taken a request id is not the one that has taken `r`. -/
lemma Known.root_ne {L : Set RoomMember} (hK : Known n s L) {x : RoomMember} (hx : x ∈ L)
    (hplain : x.phase.thinking = none) (hnone : x.phase.request = none)
    (hclaimed : ∃ site, ⟨ρ, r, site⟩ ∈ s.claims) : x.phase.root ≠ ρ := by
  obtain ⟨site, hsite⟩ := hclaimed
  rw [(hK.1 x hx).root_eq hplain]
  exact fun heq => hK.2.unclaimed (kin x) ⟨x, hx, rfl⟩ hplain hnone _ hsite heq.symm

/-- A task takes one request id. -/
lemma Known.request_eq {L : Set RoomMember} (hK : Known n s L) {x : RoomMember} (hx : x ∈ L)
    (hroot : x.phase.root = ρ) (hclaimed : ∃ site, ⟨ρ, r, site⟩ ∈ s.claims) {r' : ℕ}
    (hr : x.phase.request = some r') : r' = r := by
  obtain ⟨site, hsite⟩ := hclaimed
  obtain ⟨site', hsite'⟩ := hK.claimed hx hr
  exact hK.2.claims_fun _ hsite' _ hsite hroot

/-- An action that takes no request id leaves the claims as they are. -/
lemma Act.claims_apply (a : Act) (s : RoomState) :
    (a.apply s).claims = s.claims ++ a.taken.toList := by
  cases a with
  | touch stamp => cases stamp <;> simp [Act.apply, Act.taken, RoomState.touch]
  | _ => simp [Act.apply, Act.taken]

/-- The flows of `ρ` are silenced by a new request id. -/
lemma silenced_of_claim {claim : Claim} (hc : Crew n i O seats)
    (hclean : claim.requestId ≠ 0 ∧ ∀ seat ∈ seats, seat.flow.root seat.id = ρ →
      seat.op.isAnnouncing = false ∧ ∀ c ∈ s.claims, c.task = ρ → c.requestId ≠ claim.requestId)
    (hK : Known n s (insert ⟨i, flow, none, φ⟩ O))
    (hclaimed : ∃ site, ⟨ρ, r, site⟩ ∈ s.claims)
    (hair : ∀ x ∈ O, x.phase.root = ρ → ∀ op, x.op = some op → op.isAnnouncing = false →
      x.phase.mic ≠ .onAir) (hroot : φ'.root ≠ ρ) :
    Silenced ρ r claim.requestId (insert φ'.speaker (speaker '' O)) := by
  refine ⟨hclean.1, Set.forall_mem_insert.mpr ⟨fun hr => absurd hr hroot, ?_⟩⟩
  rintro _ ⟨x, hx, rfl⟩ hx'
  obtain ⟨op, hop, hseat⟩ := hc.seated x hx
  have hflow : x.flow.root x.id = ρ := (hK.1 x (.inr hx)).root.symm.trans hx'
  obtain ⟨hnot, hnew⟩ := hclean.2 _ hseat hflow
  refine ⟨hair x hx hx' op hop hnot, ?_⟩
  cases hreq : x.phase.request with
  | none => exact .inl hreq
  | some r' =>
    obtain rfl := hK.request_eq (.inr hx) hx' hclaimed hreq
    obtain ⟨site, hsite⟩ := hclaimed
    exact .inr ⟨hreq, (hnew _ hsite rfl).symm⟩

/-- A move that takes no request id keeps the flows of `ρ` silent. -/
lemma Silenced.move {a : Act} (hmove : Move a φ s φ') (htaken : a.taken = none)
    (hK : Known n s (insert ⟨i, flow, none, φ⟩ O))
    (h : Silenced ρ r s.currentRequestId (insert φ.speaker (speaker '' O))) :
    Silenced ρ r (a.apply s).currentRequestId (insert φ'.speaker (speaker '' O)) := by
  have hspeaker := hmove.speaker
  generalize φ'.speaker = x, (a.apply s).currentRequestId = current at hspeaker ⊢
  cases hspeaker with
  | keep => exact h
  | off => exact h.withMic (by simp)
  | on hmic hid =>
    refine h.withMic fun hroot _ => ?_
    -- a silenced task does not pass the check of its request id
    obtain ⟨-, hreq⟩ := h.quiet _ (Set.mem_insert _ _) hroot
    rcases hid with h0 | hid
    · exact absurd h0 h.nonzero
    · rcases hreq with hnone | ⟨hr, hne⟩
      · exact absurd (hnone.symm.trans hid) (by simp)
      · exact absurd (Option.some.inj (hid.symm.trans hr)) hne
  | claim c => simp [Act.taken] at htaken
  | announce t ht hended hopen hid =>
    refine h.update fun hroot => ?_
    -- the parent of the announcement has the request, which is not the current one
    obtain ⟨y, hy, hyroot, hyreq⟩ := hK.parent_request ht hended hopen
    obtain ⟨-, hreq⟩ := h.quiet (speaker y) (.inr ⟨y, hy, rfl⟩) (hyroot.trans hroot)
    rcases hreq with hnone | ⟨hr, hne⟩
    · exact absurd (hnone.symm.trans hyreq) (by simp)
    · have hrid : t.requestId = r := Option.some.inj (hyreq.symm.trans hr)
      exact absurd (hid.symm.trans hrid) hne

/-- An action keeps the superseded task silent.

**Proof sketch.** Up to the `k`-th request id the flows of the task wait without playing, so the
task that runs speaks for somebody else. An action that takes no id keeps the flows silent as they
are. One that takes an id does so cleanly: the flows of the task are not in the broadcast, and the
id is not theirs, so that from then on none of them passes the check of the id. -/
lemma IsSilenced.act {a : Act} (hc : Crew n i O seats) (hmove : Move a φ s φ')
    (hclean : TakesCleanly ρ seats s a)
    (hK : Known n s (insert ⟨i, flow, none, φ⟩ O))
    (h : IsSilenced ρ r k n s (insert ⟨i, flow, none, φ⟩ O)) :
    IsSilenced ρ r k n (a.apply s) (insert ⟨i, flow, none, φ'⟩ O) := by
  have hroot : φ'.root = φ.root := hmove.speaker.root
  have hclaims := Act.claims_apply a s
  obtain ⟨site, hsite⟩ := h.claimed
  have hclaimed : ∃ site, ⟨ρ, r, site⟩ ∈ (a.apply s).claims :=
    ⟨site, by rw [hclaims]; exact List.mem_append_left _ hsite⟩
  have hle : s.claims.length ≤ (a.apply s).claims.length := by
    rw [hclaims, List.length_append]
    exact Nat.le_add_right _ _
  have hbefore : (a.apply s).claims.length ≤ k → ∀ x ∈ insert ⟨i, flow, none, φ'⟩ O,
      x.phase.root = ρ → ∃ op, x.op = some op ∧ op.isPlaying = false := by
    intro hk
    have hold := h.before (Nat.le_trans hle hk)
    rintro x (rfl | hx) hx'
    · -- up to then the running task speaks for somebody else
      obtain ⟨op, hop, -⟩ := hold ⟨i, flow, none, φ⟩ (Set.mem_insert _ _) (hroot.symm.trans hx')
      cases hop
    · exact hold x (.inr hx) hx'
  refine ⟨hclaimed, hbefore, fun hk => ?_⟩
  rw [Set.image_insert_eq]
  cases htaken : a.taken with
  | none =>
    rw [hclaims, htaken, Option.toList_none, List.append_nil] at hk
    have hafter := h.after hk
    rw [Set.image_insert_eq] at hafter
    exact hafter.move hmove htaken hK
  | some claim =>
    obtain rfl := Act.eq_of_taken htaken
    refine silenced_of_claim hc (hclean claim rfl) hK h.claimed (fun x hx hx' op hop hnot => ?_) ?_
    · rcases Nat.lt_or_ge k s.claims.length with hlt | hge
      · exact ((h.after hlt).quiet _ ⟨x, .inr hx, rfl⟩ hx').1
      · obtain ⟨op', hop', hplay⟩ := h.before hge x (.inr hx) hx'
        obtain rfl : op = op' := Option.some.inj (hop.symm.trans hop')
        intro hon
        have hair := (hK.onAir_iff (.inr hx) hop).mp hon
        cases op <;> simp_all [Op.isOnAir, Op.isPlaying, Op.isAnnouncing]
    · obtain ⟨-, hplain, -, hreq, -⟩ := hmove
      rw [hroot]
      exact hK.root_ne (Set.mem_insert _ _) hplain hreq h.claimed

lemma IsSilenced.call (hfrom : s.claims.length ≤ k → ∀ t ∈ flow.announcement, t.parent ≠ ρ)
    (hK : Known n s O) (h : IsSilenced ρ r k n s O) :
    IsSilenced ρ r k (n + 1) s (insert ⟨n, flow, none, start n flow⟩ O) := by
  refine ⟨h.claimed, fun hk => ?_, fun hk => ?_⟩
  · refine Set.forall_mem_insert.mpr ⟨fun hroot => ?_, h.before hk⟩
    obtain ⟨site, hsite⟩ := h.claimed
    cases flow with
    | thinking t => exact absurd hroot (hfrom hk t rfl)
    | _ => exact absurd hroot (Nat.ne_of_gt (hK.2.claims_lt _ hsite))
  · rw [Set.image_insert_eq]
    exact ⟨(h.after hk).nonzero, Set.forall_mem_insert.mpr
      ⟨fun _ => ⟨by simp [speaker, Phase.speaker, start], .inl rfl⟩, (h.after hk).quiet⟩⟩

lemma IsSilenced.resume {op : Op} {reply : Except String op.Reply}
    (hfrom : s.claims.length ≤ k → flow.root i ≠ ρ)
    (hK : Known n s (insert ⟨i, flow, some op, φ⟩ O))
    (h : IsSilenced ρ r k n s (insert ⟨i, flow, some op, φ⟩ O)) :
    IsSilenced ρ r k n s (insert ⟨i, flow, none, resume op reply φ⟩ O) := by
  have hmem : (⟨i, flow, some op, φ⟩ : RoomMember) ∈ insert ⟨i, flow, some op, φ⟩ O :=
    Set.mem_insert _ _
  have hown : Proper ⟨i, flow, some op, φ⟩ := hK.1 _ hmem
  refine ⟨h.claimed, fun hk => ?_, fun hk => ?_⟩
  · refine Set.forall_mem_insert.mpr ⟨fun hroot => ?_, (Set.forall_mem_insert.mp (h.before hk)).2⟩
    have hsame : (VoiceBot.resume op reply φ).root = φ.root := by
      rcases resume_cases op reply φ with hr | ⟨hr, -⟩ | hr | ⟨task, -, hr | hr⟩ <;> rw [hr]
    exact absurd (hown.root.symm.trans (hsame.symm.trans hroot)) (hfrom hk)
  · have hafter := h.after hk
    rw [Set.image_insert_eq] at hafter ⊢
    rcases resume_cases op reply φ with hr | ⟨hr, text, hop⟩ | hr | ⟨task, -, hr | hr⟩
    · rw [hr]
      exact hafter
    · -- the greeting has no request
      have hgreeting : φ.greeting = true := hown.greets op rfl (by rw [hop]; rfl)
      rw [hr]
      refine hafter.withMic fun hroot _ => ?_
      have hplain : φ.thinking = none := by
        rw [hown.thinking]
        have hflow : flow.isGreeting = true := hown.greeting.symm.trans hgreeting
        cases flow <;> simp_all [Flow.isGreeting, Flow.announcement]
      exact absurd hroot (hK.root_ne hmem hplain (hown.silent hgreeting) h.claimed)
    · rw [hr]
      exact hafter.withMic (by simp)
    · rw [hr]
      exact hafter
    · rw [hr]
      exact hafter

/-- A superseded flow is kept silent. -/
theorem silenced_certificate (env : Env) (ρ r k : ℕ) :
    (protocol env).Certificate (supersedesFrom env ρ k) Known (IsSilenced ρ r k) where
  tick _ _ h := ⟨h.claimed, h.before, h.after⟩
  call _ _ hfrom hK h := h.call hfrom hK
  resume _ _ hfrom hK h := h.resume hfrom hK
  act hc hmove hclean hK h := h.act hc hmove hclean hK
  wait {n s i flow φ φ' op O seats} _ hwait _ h := by
    obtain ⟨-, hok, rfl⟩ := hwait
    refine ⟨h.claimed, fun hk => ?_, fun hk => ?_⟩
    · obtain ⟨hown, hothers⟩ := Set.forall_mem_insert.mp (h.before hk)
      refine Set.forall_mem_insert.mpr ⟨fun hroot => ?_, hothers⟩
      obtain ⟨op', hop', -⟩ := hown hroot
      cases hop'
    · have hafter := h.after hk
      rw [Set.image_insert_eq] at hafter ⊢
      exact hafter.withMic fun _ hair => hok.onAir hair
  exit _ _ _ h := by
    refine ⟨h.claimed, fun hk => (Set.forall_mem_insert.mp (h.before hk)).2, fun hk => ?_⟩
    have hafter := h.after hk
    rw [Set.image_insert_eq] at hafter
    exact hafter.exit

end Certificate

/-! ## Silence -/

section Runs

variable {env : Env} {pool pool' : RoomPool} {e : RoomEvent} {ρ r k : ℕ}

/-- Request ids are not forgotten, and a step that takes one is recorded. -/
lemma claims_step (hs : (room env).step pool e = some pool') :
    pool.shared.claims.length ≤ pool'.shared.claims.length ∧
      ((∃ x ∈ (runtime env).trace pool e, x.2.taken.isSome) →
        pool.shared.claims.length < pool'.shared.claims.length) := by
  obtain ⟨t, ht, rfl⟩ := Option.map_eq_some_iff.mp hs
  have hstart : t.state.claims = pool.shared.claims := by
    cases e with
    | call stamp flow =>
      simp only [Runtime.turn, Option.ite_none_right_eq_some, Option.some.injEq] at ht
      obtain ⟨-, rfl⟩ := ht
      rfl
    | resume stamp id replies =>
      simp only [Runtime.turn] at ht
      split at ht
      · cases ht
      · simp only [Option.ite_none_right_eq_some, Option.some.injEq] at ht
        obtain ⟨-, rfl⟩ := ht
        rfl
  have hmono : ∀ (a : Act) (s : RoomState), s.claims.length ≤ (a.apply s).claims.length := by
    intro a s
    rw [Act.claims_apply, List.length_append]
    exact Nat.le_add_right _ _
  obtain ⟨hend, htrace⟩ := Async.advance_measure hmono t.program t.state
  rw [hstart] at hend htrace
  refine ⟨hend, ?_⟩
  rintro ⟨x, hx, htaken⟩
  rw [Runtime.trace, ht] at hx
  obtain ⟨hbefore, hafter⟩ := htrace x hx
  obtain ⟨claim, hclaim⟩ := Option.isSome_iff_exists.mp htaken
  rw [Act.claims_apply, hclaim, List.length_append] at hafter
  exact Nat.lt_of_le_of_lt hbefore (Nat.lt_of_lt_of_le (Nat.lt_succ_self _) hafter)

/-- What is known once the flows of the task `ρ` have been superseded. -/
abbrev SupersededAt (env : Env) (ρ r k : ℕ) : RoomPool → Prop :=
  (protocol env).Holds ((protocol env).both Known (IsSilenced ρ r k))

lemma supersededAt_certificate (env : Env) (ρ r k : ℕ) :
    (protocol env).Certificate (supersedesFrom env ρ k) Discipline.anything
      ((protocol env).both Known (IsSilenced ρ r k)) :=
  (known_certificate env).both (silenced_certificate env ρ r k) (fun _ _ _ _ => trivial)
    (fun _ _ _ _ _ => trivial) fun _ _ _ _ _ _ => trivial

/-- After the superseding step the additional condition is empty. -/
lemma supersedesFrom_holds (hk : k < pool.shared.claims.length)
    (hG : (supersedesCleanly env ρ).Holds pool e) : (supersedesFrom env ρ k).Holds pool e := by
  refine ⟨?_, hG.2⟩
  cases e with
  | call stamp flow => exact fun hle => absurd hk (Nat.not_lt.mpr hle)
  | resume stamp id replies => exact fun t _ _ hle => absurd hk (Nat.not_lt.mpr hle)

/-- No frame is sent for a superseded task. -/
lemma SupersededAt.silent (h : SupersededAt env ρ r k pool) (hk : k < pool.shared.claims.length)
    (hG : (supersedesCleanly env ρ).Holds pool e) : SilentFor env ρ pool e := by
  rintro t ht hroot ⟨s, a⟩ hx
  obtain ⟨t', φ, φ', O, ht', hc, ⟨hK, hsil⟩, hmove, -⟩ :=
    (supersededAt_certificate env ρ r k).trace (protocol_sound env) h (supersedesFrom_holds hk hG)
      hx
  obtain rfl : t = t' := Option.some.inj (ht.symm.trans ht')
  have hmem : (⟨t.id, t.flow, none, φ⟩ : RoomMember) ∈ insert ⟨t.id, t.flow, none, φ⟩ O :=
    Set.mem_insert _ _
  have hφ : φ.root = ρ := (hK.1 _ hmem).root.trans hroot
  cases a with
  | captureFrame voice frame =>
    obtain ⟨hmic, -⟩ := hmove
    rcases Nat.lt_or_ge k s.claims.length with hlt | hge
    · exact absurd hmic ((hsil.after hlt).quiet _ ⟨_, hmem, rfl⟩ hφ).1
    · obtain ⟨op, hop, -⟩ := hsil.before hge _ hmem hφ
      cases hop
  | _ => rfl

/-- The invariant when a flow of another task is about to take a request id. -/
lemma supersededAt_of_reachable (hr : (room env).Reachable pool)
    (hclaimed : ∃ site, ⟨ρ, r, site⟩ ∈ pool.shared.claims) (hplays : PlaysNothing pool ρ) :
    SupersededAt env ρ r pool.shared.claims.length pool := by
  obtain ⟨phases, hconf, hK⟩ := known_reachable hr
  refine ⟨phases, hconf, hK, hclaimed, fun _ => ?_, fun hlt => absurd hlt (Nat.lt_irrefl _)⟩
  rintro x ⟨t, ht, rfl⟩ hroot
  refine ⟨t.op, rfl, hplays t ht ?_⟩
  exact (hK.1 _ ⟨t, ht, rfl⟩).root.symm.trans hroot

/-- **A superseded answer stays silent.** Suppose a task `ρ` has taken a request id and none of its
frames is being played, and another flow takes a request id. If, then and later, ids are taken only
while no flow of `ρ` is in the broadcast before its first frame, are never 0, and are not the id of
`ρ` while a flow of `ρ` is in progress, no frame is sent for `ρ` any more. -/
theorem superseded_stays_silent (env : Env) (pool pool' : RoomPool) (e : RoomEvent)
    (es : List RoomEvent) (ρ : ℕ) (hr : (room env).Reachable pool)
    (hclaimed : ∃ claim ∈ pool.shared.claims, claim.task = ρ) (hplays : PlaysNothing pool ρ)
    (hsup : Supersedes env pool e ρ) (hs : (room env).step pool e = some pool')
    (hG : (room env).AllSteps (supersedesCleanly env ρ).Holds pool (e :: es)) :
    (room env).AllSteps (SilentFor env ρ) pool' es := by
  obtain ⟨⟨task, r, site⟩, hmem, rfl⟩ := hclaimed
  have hat := supersededAt_of_reachable hr ⟨site, hmem⟩ hplays
  obtain ⟨hGe, hGs⟩ := (EventSystem.allSteps_cons hs).mp hG
  have hlt := (claims_step hs).2 hsup.2
  have hfrom : (supersedesFrom env task pool.shared.claims.length).Holds pool e := by
    obtain ⟨phases, hconf, -⟩ := hat
    obtain ⟨u, hu, -⟩ := Option.map_eq_some_iff.mp hs
    have hother := hsup.1 u hu
    refine ⟨?_, hGe.2⟩
    cases e with
    | call stamp flow =>
      rintro - t ht rfl
      simp only [Runtime.turn, Option.ite_none_right_eq_some, Option.some.injEq] at hu
      obtain ⟨-, rfl⟩ := hu
      cases flow <;> simp_all [Flow.announcement, Flow.root]
    | resume stamp id replies =>
      rintro t ht rfl -
      obtain ⟨hid, hflow⟩ := hconf.turn_resume ht hu
      rwa [hid, hflow] at hother
  have hat' := (supersededAt_certificate env task r _).step (protocol_sound env) hat hfrom hs
  refine EventSystem.allSteps_of_invariant
    (I := fun p => SupersededAt env task r pool.shared.claims.length p ∧
      pool.shared.claims.length < p.shared.claims.length)
    (fun p e p' hI hG hs => ?_) (fun p e hI hG => hI.1.silent hI.2 hG) ⟨hat', hlt⟩ hGs
  exact ⟨(supersededAt_certificate env task r _).step (protocol_sound env) hI.1
    (supersedesFrom_holds hI.2 hG) hs, Nat.lt_of_lt_of_le hI.2 (claims_step hs).1⟩

end Runs

instance decidablePlaysNothing (pool : RoomPool) (ρ : ℕ) : Decidable (PlaysNothing pool ρ) :=
  inferInstanceAs (Decidable (∀ t ∈ pool.tasks, t.flow.root t.id = ρ → t.op.isPlaying = false))

instance decidableSupersedes (env : Env) (pool : RoomPool) (e : RoomEvent) (ρ : ℕ) :
    Decidable (Supersedes env pool e ρ) :=
  inferInstanceAs (Decidable ((∀ t ∈ (runtime env).turn pool e, t.flow.root t.id ≠ ρ) ∧
    ∃ x ∈ (runtime env).trace pool e, x.2.taken.isSome))

instance decidableSilentFor (env : Env) (ρ : ℕ) (pool : RoomPool) (e : RoomEvent) :
    Decidable (SilentFor env ρ pool e) :=
  inferInstanceAs (Decidable (∀ t ∈ (runtime env).turn pool e, t.flow.root t.id = ρ →
    ∀ x ∈ (runtime env).trace pool e, x.2.isFrame = false))

instance decidableTakesCleanly (ρ : ℕ) (seats : List (Seat Op Flow)) (s : RoomState) (a : Act) :
    Decidable (TakesCleanly ρ seats s a) :=
  inferInstanceAs (Decidable (∀ claim ∈ a.taken, claim.requestId ≠ 0 ∧
    ∀ seat ∈ seats, seat.flow.root seat.id = ρ → seat.op.isAnnouncing = false ∧
      ∀ c ∈ s.claims, c.task = ρ → c.requestId ≠ claim.requestId))

instance (env : Env) (ρ : ℕ) (seats : List (Seat Op Flow)) (s : RoomState) (flow : Flow) :
    Decidable ((supersedesCleanly env ρ).call seats s flow) :=
  inferInstanceAs (Decidable True)

instance (env : Env) (ρ : ℕ) (seats : List (Seat Op Flow)) (s : RoomState) (seat : Seat Op Flow)
    (reply : Except String seat.op.Reply) :
    Decidable ((supersedesCleanly env ρ).resume seats s seat reply) :=
  inferInstanceAs (Decidable True)

instance (env : Env) (ρ : ℕ) (seats : List (Seat Op Flow)) (i : ℕ) (flow : Flow) (s : RoomState)
    (a : Act) : Decidable ((supersedesCleanly env ρ).act seats i flow s a) :=
  inferInstanceAs (Decidable (TakesCleanly ρ seats s a))

/-- The task is in `speakAndPublish`, before its first frame. -/
def Op.awaitsFirstFrame : Op → Bool
  | .synthesizePcm (.answer _) _ => true
  | .announce _ _ => true
  | _ => false

/-- An utterance is being answered when the meeting timer ends; the answer waits for its speech. -/
def answerInSynthesis : List RoomEvent :=
  [.call ⟨1000, 1000, 0⟩ (.setModes Modes.talkative),
    .call ⟨2000, 2000, 0⟩ (.processAndRespond ⟨"kim", none⟩),
    .resume ⟨3000, 3000, 0⟩ 1 speechReplies,
    .call ⟨3010, 3010, 0⟩ (.timerNotify .ended ⟨30, 5, 0, "ended"⟩)]

/-- An utterance is being answered when the meeting timer ends; the answer is in the broadcast
before its first frame. -/
def answerInBroadcast : List RoomEvent :=
  answerInSynthesis ++ [.resume ⟨3020, 3020, 0⟩ 1 speechReplies]

/-- The callback of the timer takes a request id. -/
def timerSpeaks : RoomEvent := .resume ⟨3030, 3030, 0⟩ 2 speechReplies

/-- The answer goes on. -/
def answerGoesOn : List RoomEvent := [.resume ⟨3040, 3040, 0⟩ 1 speechReplies]

/-- A timer that ends during the speech synthesis silences the answer. -/
theorem superseded_answerInSynthesis : ∃ pool pool',
    (room (.simple .call)).exec (room (.simple .call)).init answerInSynthesis = some pool ∧
    (room (.simple .call)).step pool timerSpeaks = some pool' ∧
    Supersedes (.simple .call) pool timerSpeaks 1 ∧
    (room (.simple .call)).AllSteps (SilentFor (.simple .call) 1) pool' answerGoesOn := by
  have hcheck : ((room (.simple .call)).exec (room (.simple .call)).init answerInSynthesis).any
      (fun pool => decide ((∃ claim ∈ pool.shared.claims, claim.task = 1) ∧ PlaysNothing pool 1 ∧
        Supersedes (.simple .call) pool timerSpeaks 1 ∧
        ((room (.simple .call)).step pool timerSpeaks).isSome ∧
        (room (.simple .call)).AllSteps (supersedesCleanly (.simple .call) 1).Holds pool
          (timerSpeaks :: answerGoesOn))) = true := by decide +kernel
  obtain ⟨pool, hpool, hall⟩ := (Option.any_eq_true _ _).mp hcheck
  obtain ⟨hclaimed, hplays, hsup, hstep, hG⟩ := of_decide_eq_true hall
  obtain ⟨pool', hpool'⟩ := Option.isSome_iff_exists.mp hstep
  exact ⟨pool, pool', hpool, hpool', hsup, superseded_stays_silent _ pool pool' timerSpeaks
    answerGoesOn 1 ⟨_, hpool⟩ hclaimed hplays hsup hpool' hG⟩

/-- A timer that ends during the broadcast does not: the answer has passed its only check. -/
theorem superseded_and_heard : ∃ pool pool',
    (room (.simple .call)).exec (room (.simple .call)).init answerInBroadcast = some pool ∧
    (∃ claim ∈ pool.shared.claims, claim.task = 1) ∧ PlaysNothing pool 1 ∧
    (∃ t ∈ pool.tasks, t.flow.root t.id = 1 ∧ t.op.awaitsFirstFrame = true) ∧
    Supersedes (.simple .call) pool timerSpeaks 1 ∧
    (room (.simple .call)).step pool timerSpeaks = some pool' ∧
    ¬ (room (.simple .call)).AllSteps (SilentFor (.simple .call) 1) pool' answerGoesOn := by
  have hcheck : ((room (.simple .call)).exec (room (.simple .call)).init answerInBroadcast).any
      (fun pool => decide ((∃ claim ∈ pool.shared.claims, claim.task = 1) ∧ PlaysNothing pool 1 ∧
        (∃ t ∈ pool.tasks, t.flow.root t.id = 1 ∧ t.op.awaitsFirstFrame = true) ∧
        Supersedes (.simple .call) pool timerSpeaks 1) &&
        ((room (.simple .call)).step pool timerSpeaks).any (fun pool' =>
          decide (¬ (room (.simple .call)).AllSteps (SilentFor (.simple .call) 1) pool'
            answerGoesOn))) = true := by decide +kernel
  obtain ⟨pool, hpool, hall⟩ := (Option.any_eq_true _ _).mp hcheck
  obtain ⟨hfacts, hstep⟩ := (Bool.and_eq_true _ _).mp hall
  obtain ⟨hclaimed, hplays, hwaits, hsup⟩ := of_decide_eq_true hfacts
  obtain ⟨pool', hpool', hheard⟩ := (Option.any_eq_true _ _).mp hstep
  exact ⟨pool, pool', hpool, hclaimed, hplays, hwaits, hsup, hpool', of_decide_eq_true hheard⟩

end VoiceBot
