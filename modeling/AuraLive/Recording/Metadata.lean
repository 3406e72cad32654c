import AuraLive.Recording.Registry
import Mathlib.Data.Rat.Defs

set_option relaxedAutoImplicit false
set_option autoImplicit false

/-!
# The metadata of recordings

The chapters of a recording are kept in a JSON object beside its file. Updating them reads the
object, replaces the chapters and writes it back. A read that fails gives the same `null` as an
object that does not exist, and then a new object is made up.

## Main definitions

* `Recording.RecordingMetadata`, `Recording.Bucket` — the objects, by their keys.
* `Recording.getRecordingMetadata`, `saveRecordingMetadata`, `updateRecordingChapters`,
  `fetchAndSaveChaptersFromRAG` — the functions of the service.
* `Recording.SameButChapters` — two objects differ at most in their chapters and `updatedAt`.

## Main results

* `Recording.updateRecordingChapters_get` — the object after an update.
* `Recording.chapters_preserve_iff` — the object is preserved exactly when it was read, or nothing
  was written, or the new object happens to agree with it.
* `Recording.metadata_fabricated` — a read that times out loses the rest of the object.

## Design

The body of an object is the value that `JSON.stringify` was given: reading it back gives the same
value, a missing property being `undefined`. Times are milliseconds. A write that throws may or may
not have taken effect. The reply of the RAG server has the fields the code reads; an exception
before the chapters are converted is a failed call.
-/

namespace Recording

open Foundations

/-! ## Objects -/

/-- `VideoChapter`. -/
structure VideoChapter where
  title : String
  startTime : ℚ
  endTime : Option ℚ
  deriving DecidableEq

/-- `RecordingMetadata`. -/
@[ext] structure RecordingMetadata where
  roomId : RoomId
  fileName : String
  fileUrl : String
  fileSize : ℕ
  duration : Option ℚ := none
  recordingStartTime : Option ℕ := none
  chapters : Option (List VideoChapter) := none
  createdAt : ℕ
  updatedAt : ℕ
  deriving DecidableEq

/-- The metadata objects of the bucket, by their keys. -/
abbrev Bucket := JsMap String RecordingMetadata

/-- What comes of a `GetObjectCommand`. -/
inductive GetOutcome where
  /-- The object is returned, if there is one. -/
  | success
  /-- There is no body. -/
  | emptyBody
  /-- The body is not JSON. -/
  | unparsable
  | noSuchKey
  /-- Any other error. -/
  | failure (message : String)
  deriving DecidableEq

/-- What comes of a `PutObjectCommand`. -/
inductive PutOutcome where
  | success
  /-- The command throws; it may have taken effect. -/
  | failure (message : String) (written : Bool)
  deriving DecidableEq

/-- Whether the object has been written. -/
def PutOutcome.written : PutOutcome → Bool
  | .success => true
  | .failure _ written => written

/-! ## The functions -/

/-- `getMetadataS3Key`. -/
def getMetadataS3Key (roomId : RoomId) (fileName : String) : String :=
  "rooms/" ++ roomId ++ "/recordings/" ++ fileName ++ ".meta.json"

/-- `getRecordingMetadata`. -/
def getRecordingMetadata (settings : Settings) (bucket : Bucket) (roomId : RoomId)
    (fileName : String) (outcome : GetOutcome) : Option RecordingMetadata :=
  if !settings.s3Configured then none
  else
    match outcome with
    | .success => bucket.get (getMetadataS3Key roomId fileName)
    | .emptyBody => none
    | .unparsable => none
    | .noSuchKey => none
    | .failure _ => none

/-- `saveRecordingMetadata`. -/
def saveRecordingMetadata (settings : Settings) (bucket : Bucket) (roomId : RoomId)
    (metadata : RecordingMetadata) (outcome : PutOutcome) : Bucket × Bool :=
  if !settings.s3Configured then (bucket, false)
  else
    (if outcome.written then bucket.set (getMetadataS3Key roomId metadata.fileName) metadata
      else bucket,
      match outcome with
      | .success => true
      | .failure _ _ => false)

/-- The object that `updateRecordingChapters` makes up. -/
def newMetadata (settings : Settings) (roomId : RoomId) (fileName : String) (now : ℕ) :
    RecordingMetadata :=
  { roomId := roomId
    fileName := fileName
    fileUrl := "https://" ++ settings.s3Bucket ++ ".s3." ++ settings.s3Region ++
      ".amazonaws.com/rooms/" ++ roomId ++ "/recordings/" ++ fileName
    fileSize := 0
    chapters := some []
    createdAt := now
    updatedAt := now }

/-- The result of an update of chapters. -/
structure ChapterResult where
  success : Bool
  message : String
  deriving DecidableEq

/-- `updateRecordingChapters`; the times are those of the object that is made up and of the
update. -/
def updateRecordingChapters (settings : Settings) (bucket : Bucket) (roomId : RoomId)
    (fileName : String) (chapters : List VideoChapter) (get : GetOutcome) (put : PutOutcome)
    (created updated : ℕ) : Bucket × ChapterResult :=
  let metadata := (getRecordingMetadata settings bucket roomId fileName get).getD
    (newMetadata settings roomId fileName created)
  let metadata := { metadata with chapters := some chapters, updatedAt := updated }
  let (bucket, success) := saveRecordingMetadata settings bucket roomId metadata put
  (bucket,
    { success := success
      message :=
        if success then toString chapters.length ++ "개 챕터가 저장되었습니다."
        else "챕터 저장에 실패했습니다." })

/-- A chapter in the reply of the RAG server. -/
structure RagChapter where
  sectionName : String
  title : String
  startTime : ℚ
  deriving DecidableEq

/-- The reply of the RAG server. -/
structure RagResponse where
  status : String
  chapters : Option (List RagChapter)
  message : Option String
  deriving DecidableEq

/-- `getSectionLabel`. -/
def getSectionLabel (name : String) : String :=
  if name = "discussion" then "논의"
  else if name = "decision" then "결정"
  else if name = "action" then "액션"
  else ""

/-- The chapters of a reply: each ends where the next one starts. -/
def toVideoChapters : List RagChapter → List VideoChapter
  | [] => []
  | ch :: rest =>
    { title := "[" ++ getSectionLabel ch.sectionName ++ "] " ++ ch.title
      startTime := ch.startTime
      endTime := rest.head?.map (·.startTime) } :: toVideoChapters rest

/-- The chapters that a reply asks to save; none if there are none. -/
def RagResponse.extracted (data : RagResponse) : List VideoChapter :=
  if data.status ≠ "success" then [] else toVideoChapters (data.chapters.getD [])

/-- `x || d` for a text that may be missing. -/
def textOr (x : Option String) (d : String) : String :=
  if x.getD "" = "" then d else x.getD ""

/-- The result of fetching chapters. -/
structure FetchResult where
  success : Bool
  chapters : List VideoChapter
  message : String
  deriving DecidableEq

/-- `fetchAndSaveChaptersFromRAG`, given the reply of the RAG server. -/
def fetchAndSaveChaptersFromRAG (settings : Settings) (bucket : Bucket) (roomId : RoomId)
    (fileName : String) (reply : Except String RagResponse) (get : GetOutcome) (put : PutOutcome)
    (created updated : ℕ) : Bucket × FetchResult :=
  match reply with
  | .error message => (bucket, ⟨false, [], "RAG API 호출 실패: " ++ message⟩)
  | .ok data =>
    match data.extracted with
    | [] => (bucket, ⟨true, [], textOr data.message "추출된 챕터가 없습니다."⟩)
    | ch :: rest =>
      let (bucket, result) := updateRecordingChapters settings bucket roomId fileName (ch :: rest)
        get put created updated
      (bucket, ⟨result.success, ch :: rest, result.message⟩)

/-! ## What is preserved -/

/-- The second object differs from the first at most in its chapters and `updatedAt`. -/
def SameButChapters (old new : RecordingMetadata) : Prop :=
  new = { old with chapters := new.chapters, updatedAt := new.updatedAt }

/-- The object under a key is the old one, but for its chapters and `updatedAt`. -/
def Preserved (bucket : Bucket) (key : String) (old : RecordingMetadata) : Prop :=
  ∃ new, bucket.get key = some new ∧ SameButChapters old new

/-- The object was read, or nothing is written, or the object that is made up agrees with it. -/
def KeepsObject (settings : Settings) (roomId : RoomId) (fileName : String)
    (old : RecordingMetadata) (get : GetOutcome) (put : PutOutcome) (created : ℕ) : Prop :=
  settings.s3Configured = false ∨ put.written = false ∨ get = .success ∨
    SameButChapters old (newMetadata settings roomId fileName created)

section Update

variable {settings : Settings} {bucket : Bucket} {roomId : RoomId} {fileName : String}
  {old : RecordingMetadata} (hold : bucket.get (getMetadataS3Key roomId fileName) = some old)
  (chapters : List VideoChapter) (get : GetOutcome) (put : PutOutcome) (created updated : ℕ)

/-- A save that does not write leaves the bucket as it is. -/
lemma saveRecordingMetadata_of_not_written (metadata : RecordingMetadata)
    (h : settings.s3Configured = false ∨ put.written = false) :
    (saveRecordingMetadata settings bucket roomId metadata put).1 = bucket := by
  unfold saveRecordingMetadata
  rcases h with h | h
  · simp [h]
  · simp only [h, Bool.false_eq_true, if_false]
    split <;> rfl

/-- A save that writes. -/
lemma saveRecordingMetadata_of_written (metadata : RecordingMetadata)
    (hs3 : settings.s3Configured = true) (hput : put.written = true) :
    (saveRecordingMetadata settings bucket roomId metadata put).1 =
      bucket.set (getMetadataS3Key roomId metadata.fileName) metadata := by
  simp [saveRecordingMetadata, hs3, hput]

include hold in
/-- An object that is there is read exactly if the command succeeds. -/
lemma getRecordingMetadata_eq (hs3 : settings.s3Configured = true) :
    getRecordingMetadata settings bucket roomId fileName get =
      if get = .success then some old else none := by
  unfold getRecordingMetadata
  cases get <;> simp [hs3, hold]

include hold in
/-- **The object after an update.** -/
lemma updateRecordingChapters_get :
    (updateRecordingChapters settings bucket roomId fileName chapters get put created
        updated).1.get (getMetadataS3Key roomId fileName) =
      if settings.s3Configured = false ∨ put.written = false then some old
      else if get = .success then
        if getMetadataS3Key roomId old.fileName = getMetadataS3Key roomId fileName then
          some { old with chapters := some chapters, updatedAt := updated }
        else some old
      else
        some { newMetadata settings roomId fileName created with
          chapters := some chapters, updatedAt := updated } := by
  unfold updateRecordingChapters
  dsimp only
  split
  · rename_i hkept
    rw [saveRecordingMetadata_of_not_written put _ hkept, hold]
  · rename_i hwritten
    rw [not_or, Bool.not_eq_false, Bool.not_eq_false] at hwritten
    rw [saveRecordingMetadata_of_written put _ hwritten.1 hwritten.2,
      getRecordingMetadata_eq hold get hwritten.1, JsMap.get_set]
    by_cases hget : get = .success
    · simp only [hget, if_true, Option.getD_some]
      split
      · rfl
      · exact hold
    · simp [hget, newMetadata]

/-- Two objects that agree but for their chapters stay so when the second gets chapters. -/
lemma sameButChapters_update {new : RecordingMetadata} :
    SameButChapters old { new with chapters := some chapters, updatedAt := updated } ↔
      SameButChapters old new := by
  simp [SameButChapters, RecordingMetadata.ext_iff]

include hold in
/-- An update preserves the object exactly when it has been read, or nothing is written, or the
object that is made up agrees with it. -/
lemma updateRecordingChapters_preserved_iff :
    Preserved (updateRecordingChapters settings bucket roomId fileName chapters get put created
        updated).1 (getMetadataS3Key roomId fileName) old ↔
      KeepsObject settings roomId fileName old get put created := by
  have hsame : SameButChapters old old := rfl
  rw [Preserved, updateRecordingChapters_get hold, KeepsObject, ← or_assoc]
  split
  · rename_i hkept
    simp [hkept, hsame]
  · rename_i hwritten
    rw [or_iff_right hwritten]
    by_cases hget : get = .success
    · simp only [hget, if_true, true_or, iff_true]
      split
      · exact ⟨_, rfl, (sameButChapters_update chapters updated).mpr hsame⟩
      · exact ⟨_, rfl, hsame⟩
    · simp [hget, sameButChapters_update]

end Update

/-- **Chapter updates and the rest of the metadata.** For every stored object, every outcome of the
S3 calls and every list of chapters, an update leaves an object that differs at most in its chapters
and `updatedAt` exactly when the object was read, or nothing was written, or the object that is made
up in its place agrees with it. Fetching the chapters from the RAG server does so exactly in these
cases, and when the server gives none. -/
theorem chapters_preserve_iff {settings : Settings} {bucket : Bucket} {roomId : RoomId}
    {fileName : String} {old : RecordingMetadata}
    (hold : bucket.get (getMetadataS3Key roomId fileName) = some old) (get : GetOutcome)
    (put : PutOutcome) (created updated : ℕ) :
    (∀ chapters, Preserved (updateRecordingChapters settings bucket roomId fileName chapters get put
        created updated).1 (getMetadataS3Key roomId fileName) old ↔
      KeepsObject settings roomId fileName old get put created) ∧
    ∀ reply, Preserved (fetchAndSaveChaptersFromRAG settings bucket roomId fileName reply get put
        created updated).1 (getMetadataS3Key roomId fileName) old ↔
      (∀ data, reply = .ok data → data.extracted ≠ [] →
        KeepsObject settings roomId fileName old get put created) := by
  have hsame : Preserved bucket (getMetadataS3Key roomId fileName) old := ⟨old, hold, rfl⟩
  refine ⟨fun chapters =>
      updateRecordingChapters_preserved_iff hold chapters get put created updated,
    fun reply => ?_⟩
  cases reply with
  | error message =>
    refine ⟨fun _ data hdata => ?_, fun _ => hsame⟩
    cases hdata
  | ok data =>
    unfold fetchAndSaveChaptersFromRAG
    dsimp only
    cases hextracted : data.extracted with
    | nil =>
      refine ⟨fun _ data' hdata' hne => ?_, fun _ => hsame⟩
      obtain rfl := Except.ok.inj hdata'
      exact absurd hextracted hne
    | cons ch rest =>
      dsimp only
      rw [updateRecordingChapters_preserved_iff hold]
      refine ⟨fun hkeeps _ _ _ => hkeeps, fun h => h data rfl ?_⟩
      rw [hextracted]
      exact List.cons_ne_nil ch rest

/-- Settings with S3. -/
def s3Settings : Settings := ⟨true, "bucket", "ap-northeast-2", "key", "secret", ""⟩

/-- A recording of two megabytes that was started at the time 1000. -/
def storedMetadata : RecordingMetadata :=
  { roomId := "a"
    fileName := "recording-5000.webm"
    fileUrl :=
      "https://bucket.s3.ap-northeast-2.amazonaws.com/rooms/a/recordings/recording-5000.webm"
    fileSize := 2000000
    recordingStartTime := some 1000
    chapters := some []
    createdAt := 5000
    updatedAt := 5000 }

/-- The bucket with that object. -/
def storedBucket : Bucket :=
  JsMap.set ∅ (getMetadataS3Key "a" "recording-5000.webm") storedMetadata

/-- An update that reads the object preserves it. -/
theorem chapters_preserve_iff_read :
    Preserved (updateRecordingChapters s3Settings storedBucket "a" "recording-5000.webm"
        [⟨"[결정] 일정", 12, none⟩] .success .success 9000 9001).1
      (getMetadataS3Key "a" "recording-5000.webm") storedMetadata := by
  have hold : storedBucket.get (getMetadataS3Key "a" "recording-5000.webm") =
      some storedMetadata := JsMap.get_set_self _ _ _
  exact ((chapters_preserve_iff hold .success .success 9000 9001).1 _).mpr (.inr (.inr (.inl rfl)))

/-- **A made-up object.** When the object cannot be read for a moment and can then be written, its
size and the start of its recording are lost. -/
theorem metadata_fabricated :
    ¬ Preserved (updateRecordingChapters s3Settings storedBucket "a" "recording-5000.webm"
        [⟨"[결정] 일정", 12, none⟩] (.failure "TimeoutError") .success 9000 9001).1
      (getMetadataS3Key "a" "recording-5000.webm") storedMetadata := by
  rintro ⟨new, hnew, hsame⟩
  have hlost : ((updateRecordingChapters s3Settings storedBucket "a" "recording-5000.webm"
      [⟨"[결정] 일정", 12, none⟩] (.failure "TimeoutError") .success 9000 9001).1.get
        (getMetadataS3Key "a" "recording-5000.webm")).map (·.fileSize) = some 0 := by
    decide +kernel
  rw [hnew, Option.map_some, hsame] at hlost
  cases hlost

end Recording
