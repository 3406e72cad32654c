import AuraLive.Foundations.EventSystem
import AuraLive.Foundations.Ledger
import AuraLive.Foundations.Unicode

set_option relaxedAutoImplicit false
set_option autoImplicit false

/-!
# Chat attachments

`uploadChatFile` of `upload/upload.service.ts` stores a file under a key made of the room, the time
in milliseconds and the name of the file, in which every character but some is replaced by an
underscore.

## Main definitions

* `Upload.decodeFileName`, `Upload.safeFileName`, `Upload.s3Key` — the name of a file and its key.
* `Upload.uploads` — uploads that wait for S3 in any order, as an event system.
* `Upload.DistinctKeys` — two uploads of a room have different keys.
* `Upload.TellsApart` — what an upload must find for that.

## Main results

* `Upload.safeFileName_ne_iff` — which names the replacement tells apart.
* `Upload.distinct_keys_iff` — the keys are distinct in a run exactly when every upload is told
  apart from those of the same room and the same millisecond.
* `Upload.file_replaced` — two files with different names under one key.

## Design

A text is the list of its code units in UTF-16, which the regular expressions go through. The file
that is stored keeps its body, its type and the names; how the metadata are escaped is left out, as
are the URLs that are returned.
-/

namespace Upload

open Foundations

/-- A text as code units in UTF-16. -/
abbrev Text := List ℕ

/-- The code units of a character from 가 to 힣. -/
def isHangul (u : ℕ) : Bool := 0xAC00 ≤ u && u ≤ 0xD7A3

/-- The code units that `[a-zA-Z0-9._-]` matches. -/
def isSafe (u : ℕ) : Bool :=
  (97 ≤ u && u ≤ 122) || (65 ≤ u && u ≤ 90) || (48 ≤ u && u ≤ 57) || u = 46 || u = 95 || u = 45

/-- `Buffer.from(name, 'latin1')`: the low byte of every code unit. -/
def latin1 (name : Text) : List UInt8 := name.map UInt8.ofNat

/-- `decodeFileName`. -/
def decodeFileName (name : Text) : Text :=
  let decoded := (decodeUtf8 (latin1 name)).flatMap utf16Units
  if decoded.any isHangul then decoded else name

/-- `decodedFileName.replace(/[^a-zA-Z0-9._-]/g, '_')`. -/
def safeFileName (decodedFileName : Text) : Text :=
  decodedFileName.map fun u => if isSafe u then u else 95

/-- The key of a file. -/
def s3Key (roomId : String) (timestamp : ℕ) (originalname : Text) : Text :=
  utf16 "rooms/" ++ utf16 roomId ++ utf16 "/attachments/" ++ utf16 (toString timestamp) ++
    45 :: safeFileName (decodeFileName originalname)

/-! ## Uploads -/

/-- `Express.Multer.File`, as far as it is used. -/
structure File where
  originalname : Text
  buffer : List UInt8
  mimetype : String

/-- What is stored under a key. -/
structure Stored where
  body : List UInt8
  contentType : String
  originalName : Text
  uploaderName : String
  roomId : String

/-- An upload that waits for S3. -/
structure Put where
  key : Text
  object : Stored

/-- An upload that has been made: its room, the time and the name of the file. -/
structure Attachment where
  roomId : String
  time : ℕ
  originalname : Text

/-- The bucket, the uploads that wait for S3 and all that have been made, the last one first. -/
structure UploadService where
  bucket : JsMap Text Stored
  calls : Ledger Put
  made : List Attachment

/-- The object for a file. -/
def File.stored (file : File) (roomId : String) (uploaderName : Option String) : Stored where
  body := file.buffer
  contentType := if file.mimetype = "" then "application/octet-stream" else file.mimetype
  originalName := decodeFileName file.originalname
  uploaderName := if uploaderName.getD "" = "" then "unknown" else uploaderName.getD ""
  roomId := roomId

namespace UploadService

variable (s : UploadService)

/-- `uploadChatFile` until it waits for S3. -/
def uploadChatFile (roomId : String) (file : File) (uploaderName : Option String) (now : ℕ) :
    UploadService :=
  { s with
    calls := s.calls.enter
      ⟨s3Key roomId now file.originalname, file.stored roomId uploaderName⟩
    made := ⟨roomId, now, file.originalname⟩ :: s.made }

/-- S3 answers. The object may have been written even if an error is returned. -/
def putEnded (call : ℕ) (put : Put) (written : Bool) : UploadService :=
  { s with
    bucket := if written then s.bucket.set put.key put.object else s.bucket
    calls := s.calls.remove call }

end UploadService

/-- What happens to the service. -/
inductive Event where
  | uploadChatFile (roomId : String) (file : File) (uploaderName : Option String) (now : ℕ)
  | putEnded (call : ℕ) (written : Bool)

/-- The service as an event system. Without S3 every upload is refused. -/
def uploads (configured : Bool) : EventSystem UploadService Event where
  init := ⟨∅, .empty, []⟩
  step s e :=
    match e with
    | .uploadChatFile roomId file uploaderName now =>
      some (if configured then s.uploadChatFile roomId file uploaderName now else s)
    | .putEnded call written => (s.calls.get call).map fun put => s.putEnded call put written

/-- The key of an upload. -/
def Attachment.key (u : Attachment) : Text := s3Key u.roomId u.time u.originalname

/-- Two uploads of a room have different keys. -/
def DistinctKeys (s : UploadService) : Prop :=
  s.made.Pairwise fun later earlier => later.roomId = earlier.roomId → later.key ≠ earlier.key

/-- Two names are told apart by their lengths, or at a place where one of them has a letter, a
digit, a dot or a hyphen and the other one something else. -/
def ToldApart (name name' : Text) : Prop :=
  name.length ≠ name'.length ∨
    ∃ p ∈ name.zip name', p.1 ≠ p.2 ∧
      (isSafe p.1 = true ∧ p.1 ≠ 95 ∨ isSafe p.2 = true ∧ p.2 ≠ 95)

/-- An upload is told apart from the others of the same room and the same millisecond. -/
def TellsApart (configured : Bool) (s : UploadService) : Event → Prop
  | .uploadChatFile roomId file _ now => configured = true →
    ∀ u ∈ s.made, u.roomId = roomId → u.time = now →
      ToldApart (decodeFileName file.originalname) (decodeFileName u.originalname)
  | .putEnded _ _ => True

/-! ## Keys -/

/-- **What the replacement tells apart.** -/
lemma safeFileName_ne_iff {name name' : Text} :
    safeFileName name ≠ safeFileName name' ↔ ToldApart name name' := by
  unfold ToldApart safeFileName
  induction name generalizing name' with
  | nil =>
    cases name' with
    | nil => simp
    | cons v name' => simp
  | cons u name ih =>
    cases name' with
    | nil => simp
    | cons v name' =>
      have hhead : (if isSafe u then u else 95) ≠ (if isSafe v then v else 95) ↔
          u ≠ v ∧ (isSafe u = true ∧ u ≠ 95 ∨ isSafe v = true ∧ v ≠ 95) := by
        cases hu : isSafe u <;> cases hv : isSafe v <;> simp <;> grind
      rw [List.map_cons, List.map_cons, Ne, List.cons.injEq, not_and_or, ← Ne, ← Ne, hhead, ih]
      simp only [List.length_cons, List.zip_cons_cons, List.mem_cons, Ne, Nat.succ_inj]
      constructor
      · rintro (h | h | ⟨p, hp, h⟩)
        · exact .inr ⟨(u, v), .inl rfl, h⟩
        · exact .inl h
        · exact .inr ⟨p, .inr hp, h⟩
      · rintro (h | ⟨p, rfl | hp, h⟩)
        · exact .inr (.inl h)
        · exact .inl h
        · exact .inr (.inr ⟨p, hp, h⟩)

/-- Two keys of a room are the same if the times and the names are. -/
lemma s3Key_eq_iff {roomId : String} {time time' : ℕ} {name name' : Text} :
    s3Key roomId time name = s3Key roomId time' name' ↔
      time = time' ∧ safeFileName (decodeFileName name) = safeFileName (decodeFileName name') := by
  have hhyphen : ∀ n : ℕ, 45 ∉ utf16 (toString n) := notMem_utf16_toString (c := '-') rfl
  unfold s3Key
  simp only [List.append_assoc, List.append_cancel_left_eq]
  rw [append_separator_left_inj (hhyphen _) (hhyphen _), utf16_toString_inj]

/-- A step keeps the keys distinct exactly if the upload is told apart. -/
lemma distinctKeys_step_iff {configured : Bool} {s s' : UploadService} {e : Event}
    (h : DistinctKeys s) (hstep : (uploads configured).step s e = some s') :
    DistinctKeys s' ↔ TellsApart configured s e := by
  cases e with
  | putEnded call written =>
    obtain ⟨put, -, rfl⟩ := Option.map_eq_some_iff.mp hstep
    exact iff_of_true h trivial
  | uploadChatFile roomId file uploaderName now =>
    obtain rfl := Option.some.inj hstep
    cases configured with
    | false => exact iff_of_true h fun hfalse => absurd hfalse Bool.false_ne_true
    | true =>
      simp only [DistinctKeys, UploadService.uploadChatFile, if_true, List.pairwise_cons,
        TellsApart, forall_const]
      refine (and_iff_left h).trans (forall₂_congr fun u _ => ?_)
      constructor
      · rintro hkeys rfl rfl
        exact safeFileName_ne_iff.mp fun hsame => hkeys rfl (s3Key_eq_iff.mpr ⟨rfl, hsame⟩)
      · rintro htold rfl hkey
        obtain ⟨htime, hname⟩ := s3Key_eq_iff.mp hkey
        exact safeFileName_ne_iff.mpr (htold rfl htime.symm) hname

/-- **Keys of uploads.** In every run the uploads of a room have different keys if and only if every
upload is told apart, by the characters that are not replaced, from the others of the same room and
the same millisecond. -/
theorem distinct_keys_iff {configured : Bool} {es : List Event} {s : UploadService}
    (h : (uploads configured).exec (uploads configured).init es = some s) :
    (uploads configured).AllStates DistinctKeys (uploads configured).init es ↔
      (uploads configured).AllSteps (TellsApart configured) (uploads configured).init es :=
  EventSystem.allStates_iff_of_step_iff (B := fun _ => True) (fun _ _ _ _ _ => trivial)
    (fun _ _ _ _ hs hstep => distinctKeys_step_iff hs hstep) trivial List.Pairwise.nil h

instance decidableToldApart (name name' : Text) : Decidable (ToldApart name name') :=
  inferInstanceAs (Decidable (name.length ≠ name'.length ∨
    ∃ p ∈ name.zip name', p.1 ≠ p.2 ∧
      (isSafe p.1 = true ∧ p.1 ≠ 95 ∨ isSafe p.2 = true ∧ p.2 ≠ 95)))

instance decidableTellsApart (configured : Bool) (s : UploadService) (e : Event) :
    Decidable (TellsApart configured s e) :=
  match e with
  | .uploadChatFile roomId file _ now => inferInstanceAs (Decidable (configured = true →
      ∀ u ∈ s.made, u.roomId = roomId → u.time = now →
        ToldApart (decodeFileName file.originalname) (decodeFileName u.originalname)))
  | .putEnded _ _ => inferInstanceAs (Decidable True)

/-- A file with the name of some bytes, as it is received, and the suffix `.pdf`. -/
def pdf (bytes : List UInt8) : File :=
  ⟨(bytes ++ [46, 112, 100, 102]).map UInt8.toNat, [], "application/pdf"⟩

/-- 가.pdf. -/
def first : File := pdf [0xEA, 0xB0, 0x80]

/-- 나.pdf. -/
def second : File := pdf [0xEB, 0x82, 0x98]

/-- The two files a millisecond apart, and another one that is told apart by its length. -/
def apart : List Event :=
  [.uploadChatFile "a" first none 1000, .uploadChatFile "a" (pdf [97, 98]) none 1000,
    .putEnded 1 true, .uploadChatFile "a" second none 1001, .putEnded 0 true]

/-- The keys of these uploads are different. -/
theorem distinct_keys_iff_apart :
    (∃ s, (uploads true).exec (uploads true).init apart = some s ∧ s.made.length = 3) ∧
      (uploads true).AllStates DistinctKeys (uploads true).init apart := by
  obtain ⟨s, hs, hmade⟩ := Option.map_eq_some_iff.mp (show
    ((uploads true).exec (uploads true).init apart).map (·.made.length) = some 3 by decide +kernel)
  exact ⟨⟨s, hs, hmade⟩, (distinct_keys_iff hs).mpr (by decide +kernel)⟩

/-- The two files in one millisecond. -/
def together : List Event :=
  [.uploadChatFile "a" first none 1000, .uploadChatFile "a" second none 1000,
    .putEnded 0 true, .putEnded 1 true]

/-- **A file is replaced.** Two files with different names are stored under one key. -/
theorem file_replaced : decodeFileName first.originalname ≠ decodeFileName second.originalname ∧
    ¬ (uploads true).AllStates DistinctKeys (uploads true).init together := by
  refine ⟨by decide +kernel, fun h => ?_⟩
  obtain ⟨s, hs, hmade⟩ := Option.map_eq_some_iff.mp (show
    ((uploads true).exec (uploads true).init together).map
      (fun s => s.made.map fun u => (u.roomId, u.key)) =
        some [("a", s3Key "a" 1000 first.originalname), ("a", s3Key "a" 1000 first.originalname)] by
      decide +kernel)
  have hdistinct : (s.made.map fun u => (u.roomId, u.key)).Pairwise fun later earlier =>
      later.1 = earlier.1 → later.2 ≠ earlier.2 := List.pairwise_map.mpr (h.last hs)
  rw [hmade] at hdistinct
  exact (List.pairwise_cons.mp hdistinct).1 _ List.mem_cons_self rfl rfl

end Upload
