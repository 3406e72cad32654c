import AuraLive.Foundations.EventSystem
import AuraLive.Foundations.Ledger

set_option relaxedAutoImplicit false
set_option autoImplicit false

/-!
# The registry of recordings

`startRecording` and `stopRecording` of `recording/recording.service.ts`. Both look at
`activeRecordings`, wait for the egress client and then write the map under the room, whatever has
happened to the entry in the meantime.

## Main definitions

* `Recording.Service` — the map, the calls that wait, and the egresses that have been started and
  not been stopped.
* `Recording.Service.startRecording`, `startReplied`, `stopRecording`, `stopReplied` — the two
  functions, up to and from their `await`.
* `Recording.recordings` — the service as an event system.
* `Recording.Accounted`, `Recording.KeepsOthers` — what is to hold of a room without calls, and of a
  call that has stopped an egress.
* `Recording.Undisturbed` — the replies that find the entry as the call left it.

## Main results

* `Recording.inStep_step_iff` — which steps keep the entries and the egresses together.
* `Recording.registry_accounted` — the registry is right in every run whose replies are undisturbed,
  and a reply that is not can be followed by one that is never put right.
* `Recording.registry_astray` — two overlapping starts, a stop that fails, and a late stop.

## Design

Egress identifiers are numbers, each given out once. The egress client starts nothing when it
throws, and leaves the egress running when `stopEgress` throws. What `EncodedFileOutput` is made of
is kept in the request.
-/

namespace Recording

open Foundations

/-- A room. -/
abbrev RoomId := String

/-- An egress. -/
abbrev EgressId := ℕ

/-- An entry of `activeRecordings`. -/
structure ActiveRecording where
  egressId : EgressId
  startedAt : ℕ
  deriving DecidableEq

/-- The layouts of a composite recording. -/
inductive Layout where
  | grid
  | speaker
  | singleSpeaker
  deriving DecidableEq, Repr

/-- Where an egress writes its file. -/
inductive Destination where
  | s3 (bucket region accessKey secret : String)
  | file
  deriving DecidableEq

/-- The arguments of `startRoomCompositeEgress`. -/
structure EgressRequest where
  roomId : RoomId
  filepath : String
  destination : Destination
  layout : Layout
  audioOnly : Bool
  deriving DecidableEq

/-- The settings the service reads; an empty text is a missing one. -/
structure Settings where
  egressClient : Bool
  s3Bucket : String
  s3Region : String
  s3AccessKey : String
  s3SecretKey : String
  recordingLocalPath : String
  deriving DecidableEq

/-- `RecordingStatus`, as far as it is returned. -/
inductive RecordingStatus where
  | recording
  | completed
  deriving DecidableEq, Repr

/-- `RecordingResult`. -/
structure RecordingResult where
  egressId : EgressId
  fileUrl : Option String
  duration : ℕ
  status : RecordingStatus
  deriving DecidableEq

/-- A call that waits for the egress client. -/
inductive Call where
  | startRoomCompositeEgress (request : EgressRequest)
  | stopEgress (roomId : RoomId) (recording : ActiveRecording)
  deriving DecidableEq

/-- The room of a call. -/
def Call.roomId : Call → RoomId
  | .startRoomCompositeEgress request => request.roomId
  | .stopEgress roomId _ => roomId

/-- The state of the service and of the egress client. -/
structure Service where
  activeRecordings : JsMap RoomId ActiveRecording
  calls : Ledger Call
  /-- The egresses that `startRecording` has started and that have not been stopped. -/
  egresses : Ledger RoomId

/-! ## The functions -/

namespace Settings

variable (settings : Settings)

/-- Whether recordings go to S3. -/
def s3Configured : Bool :=
  settings.s3Bucket ≠ "" && settings.s3AccessKey ≠ "" && settings.s3SecretKey ≠ ""

/-- The request for an egress of a room. -/
def request (roomId : RoomId) (layout : Layout) (now : ℕ) : EgressRequest :=
  { roomId := roomId
    filepath :=
      (if settings.s3Configured then "rooms/"
        else
          (if settings.recordingLocalPath ≠ "" then settings.recordingLocalPath
            else "/tmp/recordings") ++ "/") ++
        roomId ++ "/recordings/" ++ toString now ++ ".mp4"
    destination :=
      if settings.s3Configured then
        .s3 settings.s3Bucket settings.s3Region settings.s3AccessKey settings.s3SecretKey
      else .file
    layout := layout
    audioOnly := false }

end Settings

namespace Service

variable (s : Service)

/-- `startRecording`, up to its `await`. -/
def startRecording (settings : Settings) (roomId : RoomId) (layout : Layout) (now : ℕ) :
    Except String Service :=
  if !settings.egressClient then
    .error "EgressClient not initialized. Check LiveKit credentials."
  else if s.activeRecordings.has roomId then .error s!"Room {roomId} is already being recorded"
  else
    .ok { s with
      calls := s.calls.enter (.startRoomCompositeEgress (settings.request roomId layout now)) }

/-- `startRecording`, from its `await` on. -/
def startReplied (call : ℕ) (request : EgressRequest) (reply : Except String Unit) (now : ℕ) :
    Service × Except String (EgressId × RecordingStatus) :=
  let s := { s with calls := s.calls.remove call }
  match reply with
  | .error message => (s, .error s!"Failed to start recording: {message}")
  | .ok _ =>
    let egressId := s.egresses.next
    ({ s with
        egresses := s.egresses.enter request.roomId
        activeRecordings := s.activeRecordings.set request.roomId ⟨egressId, now⟩ },
      .ok (egressId, .recording))

/-- `stopRecording`, up to its `await`. -/
def stopRecording (settings : Settings) (roomId : RoomId) : Except String Service :=
  if !settings.egressClient then .error "EgressClient not initialized"
  else
    match s.activeRecordings.get roomId with
    | none => .error s!"No active recording found for room {roomId}"
    | some recording => .ok { s with calls := s.calls.enter (.stopEgress roomId recording) }

/-- `stopRecording`, from its `await` on; the reply lists the files. -/
def stopReplied (call : ℕ) (roomId : RoomId) (recording : ActiveRecording)
    (reply : Except String (List String)) (now : ℕ) : Service × Except String RecordingResult :=
  let s :=
    { s with
      calls := s.calls.remove call
      activeRecordings := s.activeRecordings.delete roomId }
  match reply with
  | .error message => (s, .error s!"Failed to stop recording: {message}")
  | .ok fileResults =>
    ({ s with egresses := s.egresses.remove recording.egressId },
      .ok
        { egressId := recording.egressId
          fileUrl := fileResults.head?
          duration := (now - recording.startedAt) / 1000
          status := .completed })

/-- `isRecording`. -/
def isRecording (roomId : RoomId) : Bool := s.activeRecordings.has roomId

end Service

/-- What happens to the service: a call is made, or the egress client replies to one. -/
inductive Event where
  | startRecording (roomId : RoomId) (layout : Layout) (now : ℕ)
  | startReplied (call : ℕ) (reply : Except String Unit) (now : ℕ)
  | stopRecording (roomId : RoomId)
  | stopReplied (call : ℕ) (reply : Except String (List String)) (now : ℕ)

/-- The service as an event system; a call that throws leaves it as it is. -/
def recordings (settings : Settings) : EventSystem Service Event where
  init := ⟨∅, .empty, .empty⟩
  step s e :=
    match e with
    | .startRecording roomId layout now =>
      match s.startRecording settings roomId layout now with
      | .error _ => some s
      | .ok s' => some s'
    | .startReplied call reply now =>
      match s.calls.get call with
      | some (.startRoomCompositeEgress request) => some (s.startReplied call request reply now).1
      | _ => none
    | .stopRecording roomId =>
      match s.stopRecording settings roomId with
      | .error _ => some s
      | .ok s' => some s'
    | .stopReplied call reply now =>
      match s.calls.get call with
      | some (.stopEgress roomId recording) =>
        some (s.stopReplied call roomId recording reply now).1
      | _ => none

/-! ## What is to hold -/

/-- No call for the room is in progress. -/
def Quiet (s : Service) (r : RoomId) : Prop := ∀ i call, s.calls.get i = some call → call.roomId ≠ r

/-- The registry is right about a room. -/
structure Accounted (s : Service) (r : RoomId) : Prop where
  /-- The room has an entry exactly when some egress that was started for it has not been
  stopped. -/
  has_iff : s.isRecording r = true ↔ ∃ egressId, s.egresses.get egressId = some r
  /-- There is at most one such egress. -/
  single : ∀ e e', s.egresses.get e = some r → s.egresses.get e' = some r → e = e'
  /-- The entry names it. -/
  names : ∀ recording, s.activeRecordings.get r = some recording →
    s.egresses.get recording.egressId = some r

/-- The registry is right about every room without calls. -/
def AccountedWhenQuiet (s : Service) : Prop := ∀ r, Quiet s r → Accounted s r

/-- A call that has stopped an egress does not remove the entry of another one. -/
def KeepsOthers (settings : Settings) (s : Service) (e : Event) : Prop :=
  ∀ call files now s', e = .stopReplied call (.ok files) now →
    (recordings settings).step s e = some s' →
    ∀ roomId recording, s.calls.get call = some (.stopEgress roomId recording) →
    ∀ other, s.activeRecordings.get roomId = some other → other.egressId ≠ recording.egressId →
      s'.activeRecordings.get roomId = some other

/-- A reply that finds the entry of its room as its call needs it: none after a start that succeeds
and after a stop that fails, and none but its own after a stop that succeeds. -/
def Undisturbed (s : Service) : Event → Prop
  | .startReplied call (.ok _) _ =>
    ∀ request, s.calls.get call = some (.startRoomCompositeEgress request) →
      s.activeRecordings.get request.roomId = none
  | .stopReplied call (.ok _) _ =>
    ∀ roomId recording, s.calls.get call = some (.stopEgress roomId recording) →
      ∀ other, s.activeRecordings.get roomId = some other → other.egressId = recording.egressId
  | .stopReplied call (.error _) _ =>
    ∀ roomId recording, s.calls.get call = some (.stopEgress roomId recording) →
      s.activeRecordings.get roomId = none
  | _ => True

/-! ## Steps -/

/-- What a step does to the service. -/
inductive Moves (s : Service) : Event → Service → Prop where
  /-- A call throws at once. -/
  | refused (e : Event) (hcall : ∀ t, Undisturbed t e) : Moves s e s
  /-- A call waits for the egress client; a stop has read the entry of its room. -/
  | asks (e : Event) (call : Call) (hcall : ∀ t, Undisturbed t e)
      (hread : ∀ roomId recording, call = .stopEgress roomId recording →
        s.activeRecordings.get roomId = some recording) :
      Moves s e { s with calls := s.calls.enter call }
  /-- An egress has been started. -/
  | started (call : ℕ) (request : EgressRequest) (now : ℕ)
      (h : s.calls.get call = some (.startRoomCompositeEgress request)) :
      Moves s (.startReplied call (.ok ()) now)
        { calls := s.calls.remove call
          egresses := s.egresses.enter request.roomId
          activeRecordings := s.activeRecordings.set request.roomId ⟨s.egresses.next, now⟩ }
  /-- An egress could not be started. -/
  | notStarted (call : ℕ) (message : String) (now : ℕ) :
      Moves s (.startReplied call (.error message) now) { s with calls := s.calls.remove call }
  /-- An egress has been stopped. -/
  | stopped (call : ℕ) (roomId : RoomId) (recording : ActiveRecording) (files : List String)
      (now : ℕ) (h : s.calls.get call = some (.stopEgress roomId recording)) :
      Moves s (.stopReplied call (.ok files) now)
        { calls := s.calls.remove call
          egresses := s.egresses.remove recording.egressId
          activeRecordings := s.activeRecordings.delete roomId }
  /-- An egress could not be stopped. -/
  | notStopped (call : ℕ) (roomId : RoomId) (recording : ActiveRecording) (message : String)
      (now : ℕ) (h : s.calls.get call = some (.stopEgress roomId recording)) :
      Moves s (.stopReplied call (.error message) now)
        { s with
          calls := s.calls.remove call
          activeRecordings := s.activeRecordings.delete roomId }

section Steps

variable {settings : Settings} {s s' : Service} {e : Event}

/-- **Steps of the service.**

**Proof sketch.** One case for each kind of event. A call of either function is refused by its tests
or asks LiveKit; a reply ends the call that it is for. -/
lemma moves_of_step (h : (recordings settings).step s e = some s') : Moves s e s' := by
  cases e with
  | startRecording roomId layout now =>
    have htrivial : ∀ t, Undisturbed t (.startRecording roomId layout now) := fun _ => trivial
    simp only [recordings, Service.startRecording] at h
    split at h
    · exact Option.some.inj h ▸ .refused _ htrivial
    · rename_i t ht
      split at ht
      · cases ht
      · split at ht
        · cases ht
        · obtain rfl := Except.ok.inj ht
          exact Option.some.inj h ▸ .asks _ _ htrivial fun _ _ hcall => by cases hcall
  | startReplied call reply now =>
    simp only [recordings] at h
    split at h
    · rename_i request hcall
      cases reply with
      | error message => exact Option.some.inj h ▸ .notStarted call message now
      | ok u => exact Option.some.inj h ▸ .started call request now hcall
    · cases h
  | stopRecording roomId =>
    have htrivial : ∀ t, Undisturbed t (.stopRecording roomId) := fun _ => trivial
    simp only [recordings, Service.stopRecording] at h
    split at h
    · exact Option.some.inj h ▸ .refused _ htrivial
    · rename_i t ht
      split at ht
      · cases ht
      · split at ht
        · cases ht
        · rename_i recording hread
          obtain rfl := Except.ok.inj ht
          refine Option.some.inj h ▸ .asks _ _ htrivial fun r x hcall => ?_
          obtain ⟨rfl, rfl⟩ := Call.stopEgress.inj hcall
          exact hread
  | stopReplied call reply now =>
    simp only [recordings] at h
    split at h
    · rename_i roomId recording hcall
      cases reply with
      | error message =>
        exact Option.some.inj h ▸ .notStopped call roomId recording message now hcall
      | ok files => exact Option.some.inj h ▸ .stopped call roomId recording files now hcall
    · cases h

/-! ## The invariants -/

/-- The egress of a recording has been started for the room, and for no other. -/
def Service.Owns (s : Service) (r : RoomId) (recording : ActiveRecording) : Prop :=
  recording.egressId < s.egresses.next ∧
    ∀ r', s.egresses.get recording.egressId = some r' → r' = r

/-- Recordings that are entered or about to be stopped have their egress in their room. -/
structure Owned (s : Service) : Prop where
  entry : ∀ r recording, s.activeRecordings.get r = some recording → s.Owns r recording
  call : ∀ i r recording, s.calls.get i = some (.stopEgress r recording) → s.Owns r recording

/-- The entry of every room is its egress that has not been stopped. -/
def InStep (s : Service) : Prop :=
  ∀ r egressId, s.egresses.get egressId = some r ↔
    (s.activeRecordings.get r).map (·.egressId) = some egressId

/-- A recording keeps its room when an egress is started. -/
lemma Service.Owns.enter {r : RoomId} {recording : ActiveRecording} (h : s.Owns r recording)
    (room : RoomId) (heg : s'.egresses = s.egresses.enter room) : s'.Owns r recording := by
  obtain ⟨hlt, hroom⟩ := h
  refine ⟨by rw [heg]; exact Nat.lt_succ_of_lt hlt, fun r' hr' => ?_⟩
  rw [heg, Ledger.get_enter, if_neg (Nat.ne_of_gt hlt)] at hr'
  exact hroom r' hr'

/-- A recording keeps its room when an egress is stopped. -/
lemma Service.Owns.remove {r : RoomId} {recording : ActiveRecording} (h : s.Owns r recording)
    (egressId : EgressId) (heg : s'.egresses = s.egresses.remove egressId) :
    s'.Owns r recording := by
  refine ⟨by rw [heg, Ledger.remove_next]; exact h.1, fun r' hr' => ?_⟩
  rw [heg] at hr'
  exact h.2 r' (Ledger.get_of_get_remove _ hr').2

/-- Every step keeps the egresses in their rooms. -/
lemma owned_step (s : Service) (e : Event) (s' : Service) (hs : Owned s)
    (h : (recordings settings).step s e = some s') : Owned s' := by
  cases moves_of_step h with
  | refused e _ => exact hs
  | asks e call _ hread =>
    refine ⟨hs.entry, fun i r recording hi => ?_⟩
    dsimp only at hi
    rw [Ledger.get_enter] at hi
    split at hi
    · exact hs.entry r recording (hread r recording (Option.some.inj hi))
    · exact hs.call i r recording hi
  | started call request now hcall =>
    refine ⟨JsMap.forall_get_set ⟨by simp, fun r' hr' => ?_⟩ fun r recording _ hr => ?_,
      fun i r recording hi => ?_⟩
    · simpa [Ledger.get_enter] using hr'.symm
    · exact (hs.entry r recording hr).enter request.roomId rfl
    · exact (hs.call i r recording (Ledger.get_of_get_remove _ hi).2).enter request.roomId rfl
  | notStarted call message now =>
    exact ⟨hs.entry, fun i r recording hi =>
      hs.call i r recording (Ledger.get_of_get_remove _ hi).2⟩
  | stopped call roomId recording files now hcall =>
    refine ⟨fun r x hr => ?_, fun i r x hi => ?_⟩
    · exact (hs.entry r x (JsMap.get_of_get_delete hr).2).remove recording.egressId rfl
    · exact (hs.call i r x (Ledger.get_of_get_remove _ hi).2).remove recording.egressId rfl
  | notStopped call roomId recording message now hcall =>
    exact ⟨fun r x hr => hs.entry r x (JsMap.get_of_get_delete hr).2,
      fun i r x hi => hs.call i r x (Ledger.get_of_get_remove _ hi).2⟩

/-- A room without an entry has no egress. -/
lemma InStep.get_ne_of_none (hs : InStep s) {r : RoomId} (h : s.activeRecordings.get r = none)
    (egressId : EgressId) : s.egresses.get egressId ≠ some r := by
  intro hr
  have hmap := (hs r egressId).mp hr
  rw [h] at hmap
  cases hmap

/-- A start that succeeds keeps entries and egresses together exactly if the room has no entry. -/
lemma InStep.started_iff (hs : InStep s) (call : ℕ) (request : EgressRequest) (now : ℕ) :
    InStep
      { calls := s.calls.remove call
        egresses := s.egresses.enter request.roomId
        activeRecordings := s.activeRecordings.set request.roomId ⟨s.egresses.next, now⟩ } ↔
      s.activeRecordings.get request.roomId = none := by
  constructor
  · intro hs'
    cases hold : s.activeRecordings.get request.roomId with
    | none => rfl
    | some recording =>
      have hrunning := (hs request.roomId recording.egressId).mpr (by rw [hold]; rfl)
      have hlt := Ledger.lt_next_of_get hrunning
      have hnew := (hs' request.roomId recording.egressId).mp (by
        dsimp only
        rw [Ledger.get_enter, if_neg (Nat.ne_of_gt hlt)]
        exact hrunning)
      simp only [JsMap.get_set_self, Option.map_some, Option.some.injEq] at hnew
      exact absurd hnew (Nat.ne_of_gt hlt)
  · intro hnone r egressId
    dsimp only
    rw [Ledger.get_enter, JsMap.get_set]
    by_cases hnew : s.egresses.next = egressId
    · subst hnew
      rw [if_pos rfl]
      by_cases hr : request.roomId = r
      · simp [hr]
      · have hold := (hs r s.egresses.next).not.mp (by simp)
        simp [hr, hold]
    · rw [if_neg hnew]
      by_cases hr : request.roomId = r
      · subst hr
        have hold := hs.get_ne_of_none hnone egressId
        simp [hold, hnew]
      · rw [if_neg hr]
        exact hs r egressId

/-- A stop that succeeds keeps entries and egresses together exactly if the entry is its own.

**Proof sketch.** The egress of the recording is removed, and the entry of its room. If the entry
named another egress, that one still runs and has no entry. If not, the rooms and egresses that are
left name each other as before, since the egress was that of this room only. -/
lemma InStep.stopped_iff (hs : InStep s) {roomId : RoomId} {recording : ActiveRecording}
    (howns : s.Owns roomId recording) (call : ℕ) :
    InStep
      { calls := s.calls.remove call
        egresses := s.egresses.remove recording.egressId
        activeRecordings := s.activeRecordings.delete roomId } ↔
      ∀ other, s.activeRecordings.get roomId = some other →
        other.egressId = recording.egressId := by
  constructor
  · intro hs' other hother
    by_contra hne
    have hrunning := (hs roomId other.egressId).mpr (by rw [hother]; rfl)
    have hnew := (hs' roomId other.egressId).mp (by
      dsimp only
      rw [Ledger.get_remove, if_neg (Ne.symm hne)]
      exact hrunning)
    simp at hnew
  · intro hown r egressId
    dsimp only
    rw [Ledger.get_remove, JsMap.get_delete]
    by_cases he : recording.egressId = egressId
    · subst he
      rw [if_pos rfl]
      by_cases hr : roomId = r
      · simp [hr]
      · -- the egress was not the one of another room
        have hold : ¬ (s.activeRecordings.get r).map (·.egressId) = some recording.egressId :=
          fun hmap => hr (howns.2 r ((hs r recording.egressId).mpr hmap)).symm
        simp [hr, hold]
    · rw [if_neg he]
      by_cases hr : roomId = r
      · subst hr
        have hold : s.egresses.get egressId ≠ some roomId := by
          intro hrunning
          obtain ⟨other, hother, hid⟩ :=
            Option.map_eq_some_iff.mp ((hs roomId egressId).mp hrunning)
          exact he ((hown other hother).symm.trans hid)
        simp [hold]
      · rw [if_neg hr]
        exact hs r egressId

/-- A stop that fails keeps entries and egresses together exactly if the room has no entry. -/
lemma InStep.notStopped_iff (hs : InStep s) (roomId : RoomId) (call : ℕ) :
    InStep
      { s with
        calls := s.calls.remove call
        activeRecordings := s.activeRecordings.delete roomId } ↔
      s.activeRecordings.get roomId = none := by
  constructor
  · intro hs'
    cases hold : s.activeRecordings.get roomId with
    | none => rfl
    | some recording =>
      have hrunning := (hs roomId recording.egressId).mpr (by rw [hold]; rfl)
      have hnew := (hs' roomId recording.egressId).mp hrunning
      simp at hnew
  · intro hnone r egressId
    dsimp only
    rw [JsMap.get_delete]
    by_cases hr : roomId = r
    · subst hr
      simp [hs.get_ne_of_none hnone egressId]
    · rw [if_neg hr]
      exact hs r egressId

/-- **Step lemma.** A step keeps entries and egresses together exactly if it is undisturbed. -/
lemma inStep_step_iff (s : Service) (e : Event) (s' : Service) (ho : Owned s) (hs : InStep s)
    (h : (recordings settings).step s e = some s') : InStep s' ↔ Undisturbed s e := by
  cases moves_of_step h with
  | refused e hcall => exact ⟨fun _ => hcall s, fun _ => hs⟩
  | asks e call hcall _ => exact ⟨fun _ => hcall s, fun _ => hs⟩
  | started call request now hcall =>
    rw [hs.started_iff]
    constructor
    · intro hnone request' hcall'
      obtain rfl := Call.startRoomCompositeEgress.inj (Option.some.inj (hcall.symm.trans hcall'))
      exact hnone
    · intro hundisturbed
      exact hundisturbed request hcall
  | notStarted call message now => exact ⟨fun _ => trivial, fun _ => hs⟩
  | stopped call roomId recording files now hcall =>
    rw [hs.stopped_iff (ho.call call roomId recording hcall)]
    constructor
    · intro hown roomId' recording' hcall'
      obtain ⟨rfl, rfl⟩ := Call.stopEgress.inj (Option.some.inj (hcall.symm.trans hcall'))
      exact hown
    · intro hundisturbed
      exact hundisturbed roomId recording hcall
  | notStopped call roomId recording message now hcall =>
    rw [hs.notStopped_iff]
    constructor
    · intro hnone roomId' recording' hcall'
      obtain ⟨rfl, rfl⟩ := Call.stopEgress.inj (Option.some.inj (hcall.symm.trans hcall'))
      exact hnone
    · intro hundisturbed
      exact hundisturbed roomId recording hcall

end Steps

/-! ## Runs -/

/-- Entries and egresses that are together account for every room. -/
lemma InStep.accounted {s : Service} (hs : InStep s) (r : RoomId) : Accounted s r := by
  refine ⟨?_, fun e e' he he' => ?_, fun recording hr => ?_⟩
  · rw [Service.isRecording, JsMap.has]
    constructor
    · intro hsome
      obtain ⟨recording, hr⟩ := Option.isSome_iff_exists.mp hsome
      exact ⟨recording.egressId, (hs r _).mpr (by rw [hr]; rfl)⟩
    · rintro ⟨egressId, hrunning⟩
      obtain ⟨recording, hr, -⟩ := Option.map_eq_some_iff.mp ((hs r egressId).mp hrunning)
      rw [hr]
      rfl
  · exact Option.some.inj (((hs r e).mp he).symm.trans ((hs r e').mp he'))
  · exact (hs r recording.egressId).mpr (by rw [hr]; rfl)

/-- A stop that finds no entry but its own removes no other. -/
lemma keepsOthers_of_undisturbed {settings : Settings} {s : Service} {e : Event}
    (h : Undisturbed s e) : KeepsOthers settings s e := by
  rintro call files now s' rfl _ roomId recording hcall other hother hne
  exact absurd (h roomId recording hcall other hother) hne

/-- An egress that its room's entry does not name is not accounted for, as long as no call changes
that. -/
lemma not_accounted {s t : Service} {r : RoomId} {egressId : EgressId}
    (hrunning : s.egresses.get egressId = some r)
    (hentry : (s.activeRecordings.get r).map (·.egressId) ≠ some egressId)
    (hegresses : t.egresses = s.egresses)
    (hentries : ∀ recording, t.activeRecordings.get r = some recording →
      s.activeRecordings.get r = some recording) : ¬ Accounted t r := by
  intro hacc
  have hrunning' : t.egresses.get egressId = some r := by rw [hegresses, hrunning]
  obtain ⟨recording, hr⟩ := Option.isSome_iff_exists.mp (hacc.has_iff.mpr ⟨egressId, hrunning'⟩)
  have hsame := hacc.single _ _ (hacc.names recording hr) hrunning'
  rw [hentries recording hr, Option.map_some, hsame] at hentry
  exact hentry rfl

/-- The calls that wait can all fail; then the egresses are what they were, and no entry is new.

**Proof sketch.** Induction on the number of calls; the reply to one of them is an exception. -/
lemma calls_fail (settings : Settings) (s : Service) :
    ∃ es t, (recordings settings).exec s es = some t ∧ (∀ i, t.calls.get i = none) ∧
      t.egresses = s.egresses ∧ ∀ r recording, t.activeRecordings.get r = some recording →
        s.activeRecordings.get r = some recording := by
  induction hn : s.calls.pending using Nat.strongRecOn generalizing s with
  | ind n ih =>
    by_cases hzero : s.calls.pending = 0
    · exact ⟨[], s, rfl, Ledger.get_of_pending_eq_zero hzero, rfl, fun _ _ hr => hr⟩
    obtain ⟨i, call, hi⟩ := Ledger.exists_get_of_pending hzero
    -- one call fails, and the others after it
    obtain ⟨e, s', hstep, hcalls, hegresses, hentries⟩ : ∃ e s',
        (recordings settings).step s e = some s' ∧ s'.calls = s.calls.remove i ∧
          s'.egresses = s.egresses ∧ ∀ r recording, s'.activeRecordings.get r = some recording →
            s.activeRecordings.get r = some recording := by
      cases call with
      | startRoomCompositeEgress request =>
        refine ⟨.startReplied i (.error "") 0, { s with calls := s.calls.remove i }, ?_, rfl, rfl,
          fun _ _ hr => hr⟩
        simp [recordings, hi, Service.startReplied]
      | stopEgress roomId recording =>
        refine ⟨.stopReplied i (.error "") 0,
          { s with
            calls := s.calls.remove i
            activeRecordings := s.activeRecordings.delete roomId }, ?_, rfl, rfl,
          fun _ _ hr => (JsMap.get_of_get_delete hr).2⟩
        simp [recordings, hi, Service.stopReplied]
    have hlt : s'.calls.pending < n := by
      rw [← hn, hcalls]
      exact Ledger.pending_remove_lt hi
    obtain ⟨es, t, hr, hquiet, hegresses', hentries'⟩ := ih _ hlt s' rfl
    exact ⟨e :: es, t, EventSystem.exec_cons.mpr ⟨s', hstep, hr⟩, hquiet,
      hegresses'.trans hegresses, fun r x hx => hentries r x (hentries' r x hx)⟩

/-- A disturbed reply leaves an egress that the entry of its room does not name.

**Proof sketch.** Otherwise every egress that runs is named by the entry of its room. In every kind
of step, entries that are left or new name egresses that run: a stop that succeeds removes the
entry of the room whose egress it removes. So entries and egresses would be together, which they are
not after a disturbed reply. -/
lemma exists_unnamed {settings : Settings} {s s' : Service} {e : Event} (ho : Owned s)
    (hs : InStep s) (h : (recordings settings).step s e = some s') (hnot : ¬ Undisturbed s e) :
    ∃ r egressId, s'.egresses.get egressId = some r ∧
      (s'.activeRecordings.get r).map (·.egressId) ≠ some egressId := by
  have hout := (inStep_step_iff s e s' ho hs h).not.mpr hnot
  by_contra hnone
  have hnamed : ∀ r egressId, s'.egresses.get egressId = some r →
      (s'.activeRecordings.get r).map (·.egressId) = some egressId := by
    intro r egressId hrunning
    by_contra hne
    exact hnone ⟨r, egressId, hrunning, hne⟩
  refine hout fun r egressId => ⟨hnamed r egressId, fun hentry => ?_⟩
  -- no step enters a recording whose egress does not run
  obtain ⟨recording, hr, rfl⟩ := Option.map_eq_some_iff.mp hentry
  have hold : ∀ x, s.activeRecordings.get r = some x → s.egresses.get x.egressId = some r :=
    fun x hx => (hs r x.egressId).mpr (by rw [hx]; rfl)
  cases moves_of_step h with
  | refused e hcall => exact hold recording hr
  | asks e call hcall _ => exact hold recording hr
  | started call request now hcall =>
    dsimp only at hr ⊢
    rw [JsMap.get_set] at hr
    split at hr
    · rename_i hroom
      obtain rfl := Option.some.inj hr
      simp [Ledger.get_enter, hroom]
    · have hrunning := hold recording hr
      rw [Ledger.get_enter, if_neg (Nat.ne_of_gt (Ledger.lt_next_of_get hrunning))]
      exact hrunning
  | notStarted call message now => exact hold recording hr
  | stopped call roomId stopped files now hcall =>
    dsimp only at hr ⊢
    obtain ⟨hroom, hr⟩ := JsMap.get_of_get_delete hr
    have hrunning := hold recording hr
    have hne : stopped.egressId ≠ recording.egressId := by
      intro hsame
      refine hroom ((ho.call call roomId stopped hcall).2 r ?_).symm
      rw [hsame]
      exact hrunning
    rw [Ledger.get_remove, if_neg hne]
    exact hrunning
  | notStopped call roomId stopped message now hcall =>
    exact hold recording (JsMap.get_of_get_delete hr).2

/-- The initial state. -/
lemma owned_init (settings : Settings) : Owned (recordings settings).init :=
  ⟨fun r recording hr => absurd hr (by simp [recordings]),
    fun i r recording hi => absurd hi (by simp [recordings])⟩

lemma inStep_init (settings : Settings) : InStep (recordings settings).init := by
  intro r egressId
  simp [recordings]

/-- **The registry of recordings.** In every run whose replies are all undisturbed, at every moment
a room without calls has an entry exactly when it has an egress that has not been stopped, there is
at most one, and the entry names it; and no call that has stopped an egress removes the entry of
another one. A run with a disturbed reply has a beginning that can be continued to a moment when
this fails.

**Proof sketch.** Undisturbed replies are exactly the steps that keep entries and egresses together
(`inStep_step_iff`). The first reply that is disturbed leaves an egress that no entry names. When
the calls that wait then fail, the egress still runs and no entry is new. -/
theorem registry_accounted (settings : Settings) {es : List Event} {s : Service}
    (hr : (recordings settings).exec (recordings settings).init es = some s) :
    ((recordings settings).AllSteps Undisturbed (recordings settings).init es →
      (recordings settings).AllStates AccountedWhenQuiet (recordings settings).init es ∧
        (recordings settings).AllSteps (KeepsOthers settings) (recordings settings).init es) ∧
    (¬ (recordings settings).AllSteps Undisturbed (recordings settings).init es →
      ∃ es₁ es₂ t, es₁ <+: es ∧
        (recordings settings).exec (recordings settings).init (es₁ ++ es₂) = some t ∧
        ¬ AccountedWhenQuiet t) := by
  have hinit : Owned (recordings settings).init ∧ InStep (recordings settings).init :=
    ⟨owned_init settings, inStep_init settings⟩
  have hstep : ∀ s e s', Owned s ∧ InStep s → Undisturbed s e →
      (recordings settings).step s e = some s' → Owned s' ∧ InStep s' := by
    intro s e s' hs hu h
    exact ⟨owned_step s e s' hs.1 h, (inStep_step_iff s e s' hs.1 hs.2 h).mpr hu⟩
  constructor
  · intro hall
    refine ⟨EventSystem.allStates_of_invariant hstep (fun s hs r _ => hs.2.accounted r) hinit hall,
      EventSystem.allSteps_of_invariant hstep (fun s e _ hu => ?_) hinit hall⟩
    exact keepsOthers_of_undisturbed hu
  · intro hnot
    obtain ⟨es₁, e, es₂, u, u', rfl, hu, hall, hs, hdisturbed⟩ :=
      EventSystem.exists_first_violation hr hnot
    obtain ⟨ho, hin⟩ := EventSystem.exec_invariant hstep hinit hall hu
    obtain ⟨r, egressId, hrunning, hentry⟩ := exists_unnamed ho hin hs hdisturbed
    obtain ⟨es₃, t, ht, hquiet, hegresses, hentries⟩ := calls_fail settings u'
    refine ⟨es₁ ++ [e], es₃, t, ⟨es₂, by simp⟩, ?_, fun hacc => ?_⟩
    · rw [List.append_assoc]
      exact EventSystem.exec_append hu (EventSystem.exec_cons.mpr ⟨u', hs, ht⟩)
    · refine not_accounted hrunning hentry hegresses (hentries r) (hacc r fun i call hi => ?_)
      rw [hquiet i] at hi
      cases hi

/-- Settings with an egress client and without S3. -/
def localSettings : Settings := ⟨true, "", "", "", "", ""⟩

/-- A recording is stopped by two calls at once, of which the second fails after the first has
removed the entry, and another room is recorded meanwhile. -/
def stoppedTwice : List Event :=
  [.startRecording "a" .grid 0, .startReplied 0 (.ok ()) 10, .stopRecording "a",
    .stopRecording "a", .startRecording "b" .speaker 20, .stopReplied 1 (.ok ["a.mp4"]) 30,
    .startReplied 3 (.ok ()) 40, .stopReplied 2 (.error "egress has ended") 50]

/-- The registry is right throughout that run. -/
theorem registry_accounted_stopped_twice :
    ∃ s, (recordings localSettings).exec (recordings localSettings).init stoppedTwice = some s ∧
      s.activeRecordings.entries = [("b", ⟨1, 40⟩)] ∧
      (recordings localSettings).AllStates AccountedWhenQuiet (recordings localSettings).init
        stoppedTwice := by
  obtain ⟨s, hs, hentries⟩ := Option.map_eq_some_iff.mp (show
    ((recordings localSettings).exec (recordings localSettings).init stoppedTwice).map
      (·.activeRecordings.entries) = some [("b", ⟨1, 40⟩)] by decide +kernel)
  refine ⟨s, hs, hentries, ((registry_accounted localSettings hs).1 ?_).1⟩
  -- the only reply with an exception comes when the entry is gone
  refine ⟨trivial, ?_, trivial, trivial, trivial, ?_, ?_, ?_, trivial⟩
  · intro request _
    rfl
  · intro roomId recording hcall other hother
    obtain ⟨rfl, rfl⟩ := Call.stopEgress.inj (Option.some.inj hcall)
    exact congrArg ActiveRecording.egressId (Option.some.inj hother).symm
  · intro request hcall
    obtain rfl := Call.startRoomCompositeEgress.inj (Option.some.inj hcall)
    rfl
  · intro roomId recording hcall
    obtain ⟨rfl, rfl⟩ := Call.stopEgress.inj (Option.some.inj hcall)
    rfl

/-- Two calls start a recording of one room at once. -/
def startedTwice : List Event :=
  [.startRecording "a" .grid 0, .startRecording "a" .grid 1, .startReplied 0 (.ok ()) 10,
    .startReplied 1 (.ok ()) 11]

/-- The egress client does not stop the recording. -/
def stopFails : List Event :=
  [.startRecording "a" .grid 0, .startReplied 0 (.ok ()) 10, .stopRecording "a",
    .stopReplied 1 (.error "timeout") 20]

/-- The second of two calls that stop one recording ends when the next recording has started. -/
def stopsLate : List Event :=
  [.startRecording "a" .grid 0, .startReplied 0 (.ok ()) 10, .stopRecording "a",
    .stopRecording "a", .stopReplied 1 (.ok []) 20, .startRecording "a" .grid 30,
    .startReplied 3 (.ok ()) 40]

/-- **The registry goes astray.** Two overlapping starts leave two egresses and one entry, a stop
that fails leaves an egress without an entry, and a late stop removes the entry of the next
recording. -/
theorem registry_astray :
    ¬ (recordings localSettings).AllStates AccountedWhenQuiet (recordings localSettings).init
      startedTwice ∧
    ¬ (recordings localSettings).AllStates AccountedWhenQuiet (recordings localSettings).init
      stopFails ∧
    ¬ (recordings localSettings).AllSteps (KeepsOthers localSettings)
      (recordings localSettings).init (stopsLate ++ [.stopReplied 2 (.ok []) 50]) := by
  have hquiet : ∀ s : Service, s.calls.entries.entries = [] → Quiet s "a" := by
    intro s hs i call hi
    have hmem := s.calls.entries.mem_entries_of_get hi
    rw [hs] at hmem
    cases hmem
  refine ⟨fun h => ?_, fun h => ?_, fun h => ?_⟩
  · obtain ⟨s, hs, hfacts⟩ := (Option.any_eq_true _ _).mp (show
      ((recordings localSettings).exec (recordings localSettings).init startedTwice).any (fun s =>
        s.calls.entries.entries = [] ∧ s.egresses.get 0 = some "a" ∧
          s.egresses.get 1 = some "a") = true by decide +kernel)
    obtain ⟨hcalls, hfirst, hsecond⟩ := of_decide_eq_true hfacts
    exact absurd ((h.last hs "a" (hquiet s hcalls)).single 0 1 hfirst hsecond) (by decide)
  · obtain ⟨s, hs, hfacts⟩ := (Option.any_eq_true _ _).mp (show
      ((recordings localSettings).exec (recordings localSettings).init stopFails).any (fun s =>
        s.calls.entries.entries = [] ∧ s.egresses.get 0 = some "a" ∧
          s.isRecording "a" = false) = true by decide +kernel)
    obtain ⟨hcalls, hrunning, hnone⟩ := of_decide_eq_true hfacts
    have hsome := (h.last hs "a" (hquiet s hcalls)).has_iff.mpr ⟨0, hrunning⟩
    rw [hnone] at hsome
    cases hsome
  · obtain ⟨s, hs, hfacts⟩ := (Option.any_eq_true _ _).mp (show
      ((recordings localSettings).exec (recordings localSettings).init stopsLate).any (fun s =>
        s.calls.get 2 = some (.stopEgress "a" ⟨0, 10⟩) ∧
          s.activeRecordings.get "a" = some ⟨1, 40⟩ ∧
          ((recordings localSettings).step s (.stopReplied 2 (.ok []) 50)).any fun s' =>
            s'.activeRecordings.get "a" = none) = true by decide +kernel)
    obtain ⟨hcall, hother, hstep⟩ := of_decide_eq_true hfacts
    obtain ⟨s', hs', hgone⟩ := (Option.any_eq_true _ _).mp hstep
    have hkeeps := h.last hs 2 [] 50 s' rfl hs' "a" ⟨0, 10⟩ hcall ⟨1, 40⟩ hother (by decide)
    rw [of_decide_eq_true hgone] at hkeeps
    cases hkeeps

end Recording
