import AuraLive.VoiceBot.Family

set_option relaxedAutoImplicit false
set_option autoImplicit false

/-!
# The vision mode

Whether a capture request that was never answered is replaced after 10 s. `processVisionIntent`
resets the vision mode then and requests another capture. It is only called by `processAndRespond`,
which gives up before that while the vision mode is on, so the reset is never reached: until a
capture response arrives or the screen share ends, no capture is requested.

## Main definitions

* `VoiceBot.Overdue` — an utterance about the screen arrives while a request is overdue.
* `VoiceBot.Recaptures`, `LeavesVision` — a step requests a capture, or leaves the vision mode.

## Main results

* `VoiceBot.overdue_not_recaptured` — no capture is requested, in every reachable state.
* `VoiceBot.deaf_after_lost_response` — a run into such a state.
-/

namespace VoiceBot

open Foundations

/-- The action requests a capture. -/
def Act.requestsCapture : Act → Bool
  | .requestCapture _ => true
  | _ => false

/-- A capture is requested in the step. -/
def Recaptures (env : Env) (pool : RoomPool) (e : RoomEvent) : Prop :=
  ∃ x ∈ (runtime env).trace pool e, x.2.requestsCapture = true

instance decidableRecaptures (env : Env) (pool : RoomPool) (e : RoomEvent) :
    Decidable (Recaptures env pool e) :=
  inferInstanceAs (Decidable (∃ x ∈ (runtime env).trace pool e, x.2.requestsCapture = true))

/-- The action leaves the vision mode. -/
def Act.leavesVision : Act → Bool
  | .setVisionMode false => true
  | _ => false

/-- The vision mode is left in the step. -/
def LeavesVision (env : Env) (pool : RoomPool) (e : RoomEvent) : Prop :=
  ∃ x ∈ (runtime env).trace pool e, x.2.leavesVision = true

/-- The text of an utterance that has been transcribed. -/
def transcribed : (op : Op) → Except String op.Reply → Option String
  | .transcribe _, .ok stt => some stt.corrected
  | _, _ => none

/-- An utterance is classified as a call with a question about the screen, while a capture request
has been pending for more than 10 s, no response is being processed, the screen is shared, nothing
is being published and the last response is 3 s ago. -/
structure Overdue (env : Env) (pool : RoomPool) (stamp : Tick) (id : ℕ)
    (replies : (op : Op) → Except String op.Reply) : Prop where
  vision : pool.shared.isVisionMode = true
  pending : ∃ request ∈ pool.shared.pendingVisionRequest, 10000 < stamp.now - request.requestId
  idle : ∀ t ∈ pool.tasks, t.flow.captureResponse = none
  sharing : pool.shared.hasActiveScreenShare = true
  free : pool.shared.isPublishing = false
  cooldown : pool.shared.lastResponseTime = 0 ∨ 3000 ≤ stamp.now - pool.shared.lastResponseTime
  asks : ∃ t ∈ pool.tasks, t.id = id ∧ t.flow.isUtterance = true ∧
    ∃ text ∈ transcribed t.op (replies t.op),
      (env.classify text).isCallIntent = true ∧ (env.classify text).isVisionIntent = true

/-! ## The invariant -/

/-- No step leaves the vision mode. -/
def staysInVision (env : Env) : Guards (runtime env) where
  call _ _ _ := True
  resume _ _ _ _ := True
  act _ _ _ _ a := a.leavesVision = false

/-- The vision mode is on. -/
def InVision : ℕ → RoomState → Set RoomMember → Prop := fun _ s _ => s.isVisionMode = true

/-- The vision mode stays on until it is left. -/
lemma Act.isVisionMode {a : Act} {s : RoomState} (h : s.isVisionMode = true)
    (ha : a.leavesVision = false) : (a.apply s).isVisionMode = true := by
  cases a with
  | setVisionMode on =>
    cases on with
    | true => rfl
    | false => simp [Act.leavesVision] at ha
  | touch stamp => cases stamp <;> exact h
  | _ => exact h

/-- Vision mode goes on in every run whose steps do not leave it. -/
theorem inVision_certificate (env : Env) :
    (protocol env).Certificate (staysInVision env) Discipline.anything InVision where
  tick _ _ h := h
  call _ _ _ _ h := h
  resume _ _ _ _ h := h
  act _ _ hstay _ h := Act.isVisionMode h hstay
  wait _ _ _ h := h
  exit _ _ _ h := h

section Steps

variable {env : Env} {pool : RoomPool} {e : RoomEvent}

/-- A step that does not leave the vision mode meets the guards. -/
lemma staysInVision_holds (h : ¬ LeavesVision env pool e) : (staysInVision env).Holds pool e := by
  refine ⟨by cases e <;> simp [Guards.Begins, staysInVision], fun t _ x hx => ?_⟩
  exact Bool.eq_false_iff.mpr fun hleaves => h ⟨x, hx, hleaves⟩

/-- In the vision mode a capture is requested only after it has been left. -/
lemma not_recaptures (hvision : (protocol env).Holds InVision pool)
    (h : ¬ LeavesVision env pool e) :
    ¬ Recaptures env pool e := by
  rintro ⟨⟨s, a⟩, hx, hreq⟩
  obtain ⟨t, φ, φ', O, -, -, hin, hmove, -⟩ :=
    (inVision_certificate env).trace (protocol_sound env) hvision (staysInVision_holds h) hx
  cases a with
  | requestCapture requestId => exact Bool.noConfusion (hmove.1.symm.trans hin)
  | _ => simp [Act.requestsCapture] at hreq

/-- A call of `processAndRespond` does not leave the vision mode. -/
lemma utterance_not_leavesVision (hK : (protocol env).Holds Known pool) {stamp : Tick} {id : ℕ}
    {replies : (op : Op) → Except String op.Reply} {t : Task RoomState Act Op Op.Reply Flow}
    (ht : t ∈ pool.tasks) (hid : t.id = id) (hflow : t.flow.isUtterance = true) :
    ¬ LeavesVision env pool (.resume stamp id replies) := by
  subst hid
  rintro ⟨x, hx, hleaves⟩
  obtain ⟨u, φ, φ', O, hu, -, hknown, hmove, -⟩ :=
    (known_certificate env).trace (protocol_sound env) hK (freely_holds _ _) hx
  obtain ⟨phases, hconf, -⟩ := hK
  obtain ⟨-, hsame⟩ := hconf.turn_resume ht hu
  have hutterance : φ.utterance = true := by
    rw [(hknown.1 _ (Set.mem_insert _ _)).utterance, hsame]
    exact hflow
  obtain ⟨s, a⟩ := x
  cases a with
  | setVisionMode on =>
    cases on with
    | true => simp [Act.leavesVision] at hleaves
    | false => exact Bool.noConfusion (hutterance.symm.trans hmove.1)
  | _ => simp [Act.leavesVision] at hleaves

end Steps

/-! ## Nothing is requested -/

/-- **The reset after 10 s is never reached.** In every reachable state in which a capture request
is overdue, an utterance that asks about the screen does not request a capture, and as long as no
step leaves the vision mode none is requested later either. -/
theorem overdue_not_recaptured (env : Env) (pool : RoomPool) (hr : (room env).Reachable pool)
    (stamp : Tick) (id : ℕ) (replies : (op : Op) → Except String op.Reply)
    (h : Overdue env pool stamp id replies) :
    ¬ Recaptures env pool (.resume stamp id replies) ∧
      ∀ es, (room env).AllSteps (fun pool e => ¬ LeavesVision env pool e) pool
          (.resume stamp id replies :: es) →
        (room env).AllSteps (fun pool e => ¬ Recaptures env pool e) pool
          (.resume stamp id replies :: es) := by
  have hK := known_reachable hr
  have hvision : (protocol env).Holds InVision pool := by
    obtain ⟨phases, hconf, -⟩ := hK
    exact ⟨phases, hconf, h.vision⟩
  have hstep : ∀ pool e pool', (protocol env).Holds InVision pool → ¬ LeavesVision env pool e →
      (room env).step pool e = some pool' → (protocol env).Holds InVision pool' :=
    fun pool e pool' hin hstay hs =>
      (inVision_certificate env).step (protocol_sound env) hin (staysInVision_holds hstay) hs
  constructor
  · obtain ⟨t, ht, hid, hflow, -⟩ := h.asks
    exact not_recaptures hvision (utterance_not_leavesVision hK ht hid hflow)
  · exact fun es hes => EventSystem.allSteps_of_invariant hstep
      (fun pool e hin hstay => not_recaptures hin hstay) hvision hes

/-- A capture is requested, and the response is lost; 20 s later somebody asks again. -/
def lostResponse : List RoomEvent :=
  [.call ⟨1000, 1000, 0⟩ (.setModes Modes.talkative), .call ⟨1000, 1000, 0⟩ (.screenShare true),
    .call ⟨2000, 2000, 0⟩ (.processAndRespond ⟨"kim", none⟩),
    .resume ⟨3000, 3000, 0⟩ 2 speechReplies,
    .resume ⟨3010, 3010, 0⟩ 2 speechReplies,
    .call ⟨23000, 23000, 0⟩ (.processAndRespond ⟨"kim", none⟩)]

/-- The state after the lost response. -/
def lostPool : RoomPool :=
  ((room (.simple .look)).exec (room (.simple .look)).init lostResponse).getD
    (room (.simple .look)).init

/-- The run with the lost response leads to `lostPool`. -/
lemma exec_lostResponse :
    (room (.simple .look)).exec (room (.simple .look)).init lostResponse = some lostPool := by
  have hsome : ((room (.simple .look)).exec (room (.simple .look)).init lostResponse).isSome := by
    decide +kernel
  obtain ⟨pool, hpool⟩ := Option.isSome_iff_exists.mp hsome
  rw [lostPool, hpool, Option.getD_some]

/-- The second utterance of that run is overdue. -/
lemma lostPool_overdue :
    Overdue (.simple .look) lostPool ⟨23500, 23500, 0⟩ 3 speechReplies where
  vision := by decide +kernel
  pending := by decide +kernel
  idle := by decide +kernel
  sharing := by decide +kernel
  free := by decide +kernel
  cooldown := by decide +kernel
  asks := by decide +kernel

/-- The overdue utterance after the lost response captures nothing. -/
theorem overdue_not_recaptured_lostPool :
    Overdue (.simple .look) lostPool ⟨23500, 23500, 0⟩ 3 speechReplies ∧
      ¬ Recaptures (.simple .look) lostPool (.resume ⟨23500, 23500, 0⟩ 3 speechReplies) :=
  ⟨lostPool_overdue, (overdue_not_recaptured (.simple .look) lostPool
    ⟨lostResponse, exec_lostResponse⟩ _ _ _ lostPool_overdue).1⟩

/-- The bot stays deaf: the second question is dropped because the vision mode is still on. -/
theorem deaf_after_lost_response :
    (room (.simple .look)).exec (room (.simple .look)).init lostResponse = some lostPool ∧
      Overdue (.simple .look) lostPool ⟨23500, 23500, 0⟩ 3 speechReplies ∧
      ¬ Recaptures (.simple .look) lostPool (.resume ⟨23500, 23500, 0⟩ 3 speechReplies) :=
  ⟨exec_lostResponse, lostPool_overdue, by decide +kernel⟩

end VoiceBot
