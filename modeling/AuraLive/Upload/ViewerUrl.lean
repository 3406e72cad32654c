import AuraLive.Foundations.Url
import AuraLive.Upload.ChatFiles

set_option relaxedAutoImplicit false
set_option autoImplicit false

/-!
# URLs for the viewer

`uploadChatFile` returns a URL that is put together from the bucket, the region and the key of a
file. `getViewerUrl` parses it, takes the path without its first slash and decodes it, to get the
key back. The name of the file has been made safe; the id of the room has not.

## Main definitions

* `Upload.Endpoint`, `fileUrl` — where the files are, and the URL of one.
* `Upload.viewerKey` — the key that `getViewerUrl` asks for.

## Main results

* `Upload.viewerKey_fileUrl_iff` — for which rooms it is the key of the file.
* `Upload.viewer_misses_file` — a room for which it is not.
-/

namespace Upload

open Foundations

/-- The bucket and the region. Their names have letters, digits, hyphens and dots. -/
structure Endpoint where
  bucket : String
  region : String
  plain : (bucket.toList ++ region.toList).all (fun c => c.isAlphanum || c = '-' || c = '.')

/-- The host of the files. -/
def Endpoint.host (e : Endpoint) : String := e.bucket ++ ".s3." ++ e.region ++ ".amazonaws.com"

/-- The URL that `uploadChatFile` returns. -/
def fileUrl (e : Endpoint) (s3Key : Text) : Text := utf16 ("https://" ++ e.host ++ "/") ++ s3Key

/-- The key that `getViewerUrl` asks for, if `URL` and `decodeURIComponent` do not throw. The host
is judged by a parameter. -/
def viewerKey (authority : List Char → Bool) (fileUrl : Text) : Option Text :=
  ((Url.pathname authority (Url.scalarValues fileUrl)).bind fun pathname =>
    Url.decodeURIComponent (pathname.drop 1)).map fun s3Key => s3Key.flatMap utf16Units

/-- The host has letters, digits, hyphens and dots. -/
lemma Endpoint.letter_of_mem_host (e : Endpoint) {c : Char} (hc : c ∈ e.host.toList) :
    (c.isAlphanum || c = '-' || c = '.') = true := by
  have hplain := List.all_eq_true.mp e.plain
  have hs3 : ∀ c ∈ ".s3.".toList, (c.isAlphanum || c = '-' || c = '.') = true :=
    List.all_eq_true.mp (by decide)
  have hdomain : ∀ c ∈ ".amazonaws.com".toList, (c.isAlphanum || c = '-' || c = '.') = true :=
    List.all_eq_true.mp (by decide)
  simp only [Endpoint.host, String.toList_append, List.mem_append] at hc
  obtain ((hc | hc) | hc) | hc := hc
  · exact hplain c (List.mem_append_left _ hc)
  · exact hs3 c hc
  · exact hplain c (List.mem_append_right _ hc)
  · exact hdomain c hc

/-! ## Keys as characters -/

/-- The last part of a key. -/
def lastPart (timestamp : ℕ) (originalname : Text) : List Char :=
  (toString timestamp).toList ++
    '-' :: (safeFileName (decodeFileName originalname)).map Char.ofNat

/-- The characters of a key. -/
def keyCharacters (roomId : String) (timestamp : ℕ) (originalname : Text) : List Char :=
  "rooms".toList ++ '/' :: (roomId.toList ++ '/' :: ("attachments".toList ++ '/' ::
    lastPart timestamp originalname))

/-- A safe name has safe code units. -/
lemma isSafe_of_mem_safeFileName {name : Text} {u : ℕ} (h : u ∈ safeFileName name) :
    isSafe u = true := by
  obtain ⟨v, -, rfl⟩ := List.mem_map.mp h
  split
  · assumption
  · rfl

/-- Letters that are kept are in ASCII. -/
lemma lt_of_isSafe {u : ℕ} (h : isSafe u = true) : 0x20 < u ∧ u < 0x80 := by
  simp only [isSafe, Bool.or_eq_true, Bool.and_eq_true, decide_eq_true_eq] at h
  omega

/-- Letters that are kept are characters. -/
lemma toNat_of_isSafe {u : ℕ} (h : isSafe u = true) : (Char.ofNat u).toNat = u := by
  have hu := (lt_of_isSafe h).2
  rw [Char.ofNat, dif_pos (Or.inl (by omega))]
  rfl

/-- The key of a file is written with these characters. -/
lemma s3Key_eq (roomId : String) (timestamp : ℕ) (originalname : Text) :
    s3Key roomId timestamp originalname =
      (keyCharacters roomId timestamp originalname).flatMap utf16Units := by
  have hsafe (name : Text) (hname : ∀ u ∈ name, isSafe u = true) :
      (name.map Char.ofNat).flatMap utf16Units = name := by
    induction name with
    | nil => rfl
    | cons u name ih =>
      obtain ⟨hu, hname⟩ := List.forall_mem_cons.mp hname
      have hsmall := (lt_of_isSafe hu).2
      rw [List.map_cons, List.flatMap_cons, ih hname, utf16Units, toNat_of_isSafe hu,
        if_pos (by omega)]
      rfl
  have hrooms : utf16 "rooms/" = "rooms".toList.flatMap utf16Units ++ utf16Units '/' := by decide
  have hattachments : utf16 "/attachments/" =
      utf16Units '/' ++ ("attachments".toList.flatMap utf16Units ++ utf16Units '/') := by decide
  have hhyphen : utf16Units '-' = [45] := by decide
  rw [s3Key, keyCharacters, lastPart, hrooms, hattachments]
  simp only [List.flatMap_append, List.flatMap_cons, hhyphen,
    hsafe _ fun u hu => isSafe_of_mem_safeFileName hu, List.append_assoc, utf16, List.cons_append,
    List.nil_append]

/-- The last part has safe characters. -/
lemma isSafe_of_mem_lastPart {timestamp : ℕ} {originalname : Text} {c : Char}
    (h : c ∈ lastPart timestamp originalname) : isSafe c.toNat = true := by
  obtain hdigit | h := List.mem_append.mp h
  · rw [Nat.toString_eq_ofList_toDigits, String.toList_ofList] at hdigit
    have hvalue := Nat.isDigit_of_mem_toDigits (by decide) (Nat.le_refl 10) hdigit
    simp only [Char.isDigit, Bool.and_eq_true, decide_eq_true_eq] at hvalue
    have hlow : 48 ≤ c.toNat := hvalue.1
    have hhigh : c.toNat ≤ 57 := hvalue.2
    simp [isSafe, hlow, hhigh]
  · obtain rfl | h := List.mem_cons.mp h
    · decide
    · obtain ⟨u, hu, rfl⟩ := List.mem_map.mp h
      have hsafe := isSafe_of_mem_safeFileName hu
      rwa [toNat_of_isSafe hsafe]

/-- The last part is plain. -/
lemma plain_lastPart (timestamp : ℕ) (originalname : Text) :
    Url.Plain (lastPart timestamp originalname) := by
  have hslash : ∀ c ∈ lastPart timestamp originalname, Url.isSlash c = false := by
    intro c hc
    have hsafe := isSafe_of_mem_lastPart hc
    rw [Url.isSlash, Bool.or_eq_false_iff, decide_eq_false_iff_not, decide_eq_false_iff_not]
    refine ⟨?_, ?_⟩
    all_goals
      rintro rfl
      cases hsafe
  have hhyphen : '-' ∈ lastPart timestamp originalname :=
    List.mem_append_right _ List.mem_cons_self
  refine ⟨fun c hc hmem => ?_, fun segment hsegment => ?_⟩
  · have hsafe := isSafe_of_mem_lastPart hc
    simp only [List.mem_cons, List.not_mem_nil, or_false] at hmem
    obtain rfl | rfl | rfl | rfl | rfl | rfl | rfl := hmem
    all_goals cases hsafe
  · rw [List.splitOnP_eq_singleton hslash, List.mem_singleton] at hsegment
    rw [hsegment]
    refine ⟨fun heq => ?_, fun heq => ?_⟩
    all_goals
      rw [heq] at hhyphen
      exact absurd hhyphen (by decide)

/-- The URL of a file, letter by letter. -/
lemma scalarValues_fileUrl (e : Endpoint) (roomId : String) (timestamp : ℕ) (originalname : Text) :
    Url.scalarValues (fileUrl e (s3Key roomId timestamp originalname)) =
      "https://".toList ++
        (e.host.toList ++ '/' :: keyCharacters roomId timestamp originalname) := by
  rw [fileUrl, s3Key_eq, utf16, ← List.flatMap_append, Url.scalarValues_utf16]
  simp [String.toList_append]

/-- The host goes up to the slash. -/
lemma Endpoint.stays_of_mem_host (e : Endpoint) {c : Char} (hc : c ∈ e.host.toList) :
    Url.isSlash c = false ∧ Url.isPathEnd c = false ∧ Url.isTabOrNewline c = false := by
  have hletter := e.letter_of_mem_host hc
  simp only [Url.isSlash, Url.isPathEnd, Url.isTabOrNewline, Bool.or_eq_false_iff,
    decide_eq_false_iff_not]
  refine ⟨⟨?_, ?_⟩, ⟨?_, ?_⟩, ⟨?_, ?_⟩, ?_⟩
  all_goals
    rintro rfl
    cases hletter

/-- The URL does not end with white space or a control character. -/
lemma isC0OrSpace_of_getLast? {roomId : String} {timestamp : ℕ} {originalname : Text} {c : Char}
    (hc : c ∈ (keyCharacters roomId timestamp originalname).getLast?) :
    Url.isC0OrSpace c = false := by
  have hne : lastPart timestamp originalname ≠ [] := by simp [lastPart]
  have hfront : keyCharacters roomId timestamp originalname =
      ("rooms".toList ++ '/' :: (roomId.toList ++ '/' :: ("attachments".toList ++ ['/']))) ++
        lastPart timestamp originalname := by simp [keyCharacters]
  rw [hfront, List.getLast?_append_of_ne_nil _ hne] at hc
  have hsafe := (lt_of_isSafe (isSafe_of_mem_lastPart (List.mem_of_getLast? hc))).1
  rw [Url.isC0OrSpace, decide_eq_false_iff_not]
  omega

/-- The key is plain if the id of the room is. -/
lemma plain_keyCharacters_iff {roomId : String} {timestamp : ℕ} {originalname : Text} :
    Url.Plain (keyCharacters roomId timestamp originalname) ↔ Url.Plain roomId.toList := by
  rw [keyCharacters, Url.plain_append_cons, Url.plain_append_cons, Url.plain_append_cons]
  have hrooms : Url.Plain "rooms".toList := ⟨by simp, by decide⟩
  have hattachments : Url.Plain "attachments".toList := ⟨by simp, by decide⟩
  exact ⟨fun h => h.2.1, fun h => ⟨hrooms, h, hattachments, plain_lastPart _ _⟩⟩

/-- **For which rooms the viewer opens the file**: the id has no tab, line break, `?`, `#`, `\` or
`%`, and no part of it between slashes is `.` or `..`. -/
theorem viewerKey_fileUrl_iff {authority : List Char → Bool} {e : Endpoint}
    (hauthority : authority e.host.toList = true) (roomId : String) (timestamp : ℕ)
    (originalname : Text) :
    viewerKey authority (fileUrl e (s3Key roomId timestamp originalname)) =
      some (s3Key roomId timestamp originalname) ↔ Url.Plain roomId.toList := by
  have hplain : Url.Plain (keyCharacters roomId timestamp originalname) ↔
      Url.Plain roomId.toList := plain_keyCharacters_iff
  have hhost := fun c hc => e.stays_of_mem_host (c := c) hc
  have hlast : ∀ c ∈ (keyCharacters roomId timestamp originalname).getLast?,
      Url.isC0OrSpace c = false := fun c hc => isC0OrSpace_of_getLast? hc
  rw [viewerKey, scalarValues_fileUrl, ← hplain,
    ← Url.decode_pathname_iff hauthority (by simp [Endpoint.host]) hhost (by simp [keyCharacters])
      hlast,
    Option.map_eq_some_iff, s3Key_eq]
  constructor
  · rintro ⟨key, hkey, heq⟩
    rw [← Url.scalarValues_utf16 key, heq, Url.scalarValues_utf16] at hkey
    exact hkey
  · intro hkey
    exact ⟨_, hkey, rfl⟩

/-- The bucket and the region that are used by default. -/
def standard : Endpoint where
  bucket := "aura-raw-data-bucket"
  region := "ap-northeast-2"
  plain := by decide

/-- A host of letters, digits, hyphens and dots is accepted. -/
def acceptsHost (host : List Char) : Bool := host.all fun c => c.isAlphanum || c = '-' || c = '.'

/-- The viewer opens a file of the room `팀 1`. -/
theorem viewerKey_fileUrl_team :
    viewerKey acceptsHost (fileUrl standard (s3Key "팀 1" 1000 (utf16 "a.pdf"))) =
      some (s3Key "팀 1" 1000 (utf16 "a.pdf")) :=
  (viewerKey_fileUrl_iff (e := standard) (by decide) "팀 1" 1000 (utf16 "a.pdf")).mpr
    ⟨by simp, by decide⟩

/-- **The viewer misses a file** of the room `a?b`, whose key it cuts off at the question mark. -/
theorem viewer_misses_file :
    viewerKey acceptsHost (fileUrl standard (s3Key "a?b" 1000 (utf16 "a.pdf"))) =
        some (utf16 "rooms/a") ∧
      s3Key "a?b" 1000 (utf16 "a.pdf") = utf16 "rooms/a?b/attachments/1000-a.pdf" ∧
      viewerKey acceptsHost (fileUrl standard (s3Key "a?b" 1000 (utf16 "a.pdf"))) ≠
        some (s3Key "a?b" 1000 (utf16 "a.pdf")) := by
  decide +kernel

end Upload
