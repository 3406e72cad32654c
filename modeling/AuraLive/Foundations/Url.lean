import AuraLive.Foundations.Spacing
import AuraLive.Foundations.Unicode

set_option relaxedAutoImplicit false
set_option autoImplicit false

/-!
# Paths of URLs

The path of a URL with the scheme `https`, as the URL standard parses it, and `decodeURIComponent`.
Tabs and line breaks are removed, the path ends at `?` or `#` and its segments at `/` or `\`,
characters of the path percent-encode set are encoded, and segments of dots are resolved.

## Main definitions

* `Foundations.Url.scalarValues` — the characters of a text in UTF-16.
* `Foundations.Url.pathname` — the path of a URL.
* `Foundations.Url.decodeURIComponent` — a text without its escapes.
* `Foundations.Url.Plain` — a text that a path returns.

## Main results

* `Foundations.Url.unescape_encode` — what is encoded is decoded to itself, except for `%`.
* `Foundations.Url.size_le_of_unescape` — decoding never makes a text longer.
* `Foundations.Url.total_resolve_le` — neither does resolving dots.
* `Foundations.Url.untouched_of_unescape` — so a text that is returned is not changed by any step.
* `Foundations.Url.decode_pathname_iff` — when a text is returned by the path it is put into.

## Design

The host, the port and the credentials are judged by a parameter. Segments are kept with the last
one first while they are resolved.
-/

namespace Foundations

namespace Url

/-! ## Characters -/

/-- The characters of a text in UTF-16, with U+FFFD for surrogates that are not in a pair. -/
def scalarValues : List ℕ → List Char
  | [] => []
  | u :: us =>
    if 0xD800 ≤ u ∧ u < 0xDC00 then
      match us with
      | [] => [replacement]
      | v :: vs =>
        if 0xDC00 ≤ v ∧ v < 0xE000 then
          Char.ofNat (0x10000 + (u - 0xD800) * 0x400 + (v - 0xDC00)) :: scalarValues vs
        else replacement :: scalarValues (v :: vs)
    else if 0xDC00 ≤ u ∧ u < 0xE000 then replacement :: scalarValues us
    else Char.ofNat u :: scalarValues us

/-- The end of a segment. -/
def isSlash (c : Char) : Bool := c = '/' || c = '\\'

/-- The end of a path. -/
def isPathEnd (c : Char) : Bool := c = '?' || c = '#'

/-- What is removed wherever it is. -/
def isTabOrNewline (c : Char) : Bool := c = '\t' || c = '\n' || c = '\r'

/-- What is removed at both ends. -/
def isC0OrSpace (c : Char) : Bool := c.toNat ≤ 0x20

/-- The path percent-encode set. -/
def inPathSet (c : Char) : Bool :=
  c.toNat < 0x20 || 0x7E < c.toNat || c ∈ [' ', '"', '#', '<', '>', '?', '^', '`', '\x7b', '\x7d']

/-! ## Escapes -/

/-- A digit of a hexadecimal number. -/
def hexDigit (n : ℕ) : Char := Char.ofNat (if n < 10 then 48 + n else 55 + n)

/-- The value of a digit. -/
def hexValue (c : Char) : Option ℕ :=
  if 48 ≤ c.toNat ∧ c.toNat ≤ 57 then some (c.toNat - 48)
  else if 65 ≤ c.toNat ∧ c.toNat ≤ 70 then some (c.toNat - 55)
  else if 97 ≤ c.toNat ∧ c.toNat ≤ 102 then some (c.toNat - 87)
  else none

/-- A byte as an escape. -/
def escapeByte (b : UInt8) : List Char := ['%', hexDigit (b.toNat / 16), hexDigit (b.toNat % 16)]

/-- A character in a path. -/
def encodeChar (c : Char) : List Char :=
  if inPathSet c then (String.utf8EncodeChar c).flatMap escapeByte else [c]

/-- A text in a path. -/
def encode (text : List Char) : List Char := text.flatMap encodeChar

/-- The bytes of a text, if every `%` in it begins an escape. -/
def unescape : List Char → Option (List UInt8)
  | [] => some []
  | c :: t =>
    if c = '%' then
      match t with
      | h :: l :: t =>
        (hexValue h).bind fun x => (hexValue l).bind fun y =>
          (unescape t).map (UInt8.ofNat (16 * x + y) :: ·)
      | _ => none
    else (unescape t).map (String.utf8EncodeChar c ++ ·)

/-- `decodeURIComponent`: there is no result if the bytes are not in UTF-8. -/
def decodeURIComponent (text : List Char) : Option (List Char) :=
  (unescape text).bind fun bytes =>
    if utf8 (decodeUtf8 bytes) = bytes then some (decodeUtf8 bytes) else none

/-! ## Paths -/

/-- A dot, which may be escaped. -/
def dots : List (List Char) := [['.'], ['%', '2', 'e'], ['%', '2', 'E']]

/-- A segment for the same directory. -/
def isSingleDot (segment : List Char) : Bool := dots.contains segment

/-- A segment for the directory above. -/
def isDoubleDot (segment : List Char) : Bool :=
  (dots.flatMap fun dot => dots.map (dot ++ ·)).contains segment

section Resolve

variable {σ τ : Type*} (single double : σ → Bool) (empty : σ)

/-- A segment is added to a path; an empty one stands for dots at its end. -/
def push (last : Bool) (path : List σ) (segment : σ) : List σ :=
  if double segment then if last then empty :: path.tail else path.tail
  else if single segment then if last then empty :: path else path
  else segment :: path

/-- The segments are added one after the other. -/
def resolve : List σ → List σ → List σ
  | path, [] => path
  | path, [segment] => push single double empty true path segment
  | path, segment :: next :: segments =>
    resolve (push single double empty false path segment) (next :: segments)

end Resolve

/-- Segments as a path. -/
def join (segments : List (List Char)) : List Char := segments.flatMap fun segment => '/' :: segment

/-- The path that a text after the authority is parsed to. -/
def path (text : List Char) : List Char :=
  let raw := text.takeWhile fun c => !isPathEnd c
  let segments := (raw.drop 1).splitOnP isSlash
  join (resolve isSingleDot isDoubleDot [] [] (segments.map encode)).reverse

/-- `new URL(input).pathname`, for the scheme `https`. -/
def pathname (authority : List Char → Bool) (input : List Char) : Option (List Char) :=
  let text := (Spacing.trim isC0OrSpace input).filter fun c => !isTabOrNewline c
  if (text.take 6).map Char.toLower = "https:".toList then
    let rest := (text.drop 6).dropWhile isSlash
    if authority (rest.takeWhile fun c => !(isSlash c || isPathEnd c)) then
      some (path (rest.dropWhile fun c => !(isSlash c || isPathEnd c)))
    else none
  else none

/-- A text that a path returns: nothing in it is removed, ends the path, is read as something else
or begins an escape, and no segment is for another directory. -/
structure Plain (text : List Char) : Prop where
  letters : ∀ c ∈ text, c ∉ ['\t', '\n', '\r', '?', '#', '\\', '%']
  segments : ∀ segment ∈ text.splitOnP isSlash, segment ≠ ['.'] ∧ segment ≠ ['.', '.']

/-! ## Scalar values -/

/-- A character is read from its code units. -/
lemma scalarValues_append (c : Char) (us : List ℕ) :
    scalarValues (utf16Units c ++ us) = c :: scalarValues us := by
  have hvalid := toNat_lt c
  unfold utf16Units
  split
  · rw [List.singleton_append, scalarValues.eq_def]
    simp only
    rw [if_neg (by omega), if_neg (by omega), Char.ofNat_toNat]
  · rw [List.cons_append, List.singleton_append, scalarValues.eq_def]
    simp only
    rw [if_pos (by omega), if_pos (by omega)]
    have hvalue : 0x10000 + (0xD800 + (c.toNat - 0x10000) / 0x400 - 0xD800) * 0x400 +
        (0xDC00 + (c.toNat - 0x10000) % 0x400 - 0xDC00) = c.toNat := by omega
    rw [hvalue, Char.ofNat_toNat]

/-- The code units of a text are read as the text. -/
lemma scalarValues_utf16 (text : List Char) : scalarValues (text.flatMap utf16Units) = text := by
  induction text with
  | nil => rfl
  | cons c text ih => rw [List.flatMap_cons, scalarValues_append, ih]

/-! ## Encoding and decoding -/

/-- The digits are read as they are written. -/
lemma hexValue_hexDigit {n : ℕ} (hn : n < 16) : hexValue (hexDigit n) = some n := by
  have hall : ∀ n < 16, hexValue (hexDigit n) = some n := by decide
  exact hall n hn

/-- An escaped byte is read as the byte. -/
lemma unescape_escapeByte (b : UInt8) (t : List Char) :
    unescape (escapeByte b ++ t) = (unescape t).map (b :: ·) := by
  have hb : b.toNat < 256 := b.toNat_lt
  rw [escapeByte, List.cons_append, unescape.eq_def]
  simp only [List.cons_append, List.nil_append, if_true]
  rw [hexValue_hexDigit (by omega), hexValue_hexDigit (by omega)]
  have hbyte : UInt8.ofNat (16 * (b.toNat / 16) + b.toNat % 16) = b := by
    rw [Nat.div_add_mod, UInt8.ofNat_toNat]
  simp only [Option.bind_some, hbyte]

/-- A character of a path is read as its bytes. -/
lemma unescape_encodeChar {c : Char} (hc : c ≠ '%') (t : List Char) :
    unescape (encodeChar c ++ t) = (unescape t).map (String.utf8EncodeChar c ++ ·) := by
  unfold encodeChar
  split
  · induction String.utf8EncodeChar c with
    | nil => simp
    | cons b bytes ih =>
      rw [List.flatMap_cons, List.append_assoc, unescape_escapeByte, ih, Option.map_map]
      rfl
  · rw [List.singleton_append, unescape.eq_def]
    simp only
    rw [if_neg hc]

/-- **What is encoded is decoded** to itself, if there are no escapes in it. -/
lemma unescape_encode {text : List Char} (h : '%' ∉ text) :
    unescape (encode text) = some (utf8 text) := by
  induction text with
  | nil => rfl
  | cons c text ih =>
    obtain ⟨hc, htext⟩ : ¬ '%' = c ∧ '%' ∉ text := by simpa using h
    rw [encode, List.flatMap_cons, unescape_encodeChar (Ne.symm hc)]
    change (unescape (encode text)).map _ = _
    rw [ih htext]
    rfl

/-- The number of bytes of a text. -/
def size (text : List Char) : ℕ := (utf8 text).length

lemma size_cons (c : Char) (text : List Char) :
    size (c :: text) = (String.utf8EncodeChar c).length + size text := by
  rw [size, utf8, List.flatMap_cons, List.length_append]
  rfl

lemma size_append (text text' : List Char) : size (text ++ text') = size text + size text' := by
  rw [size, utf8_append, List.length_append]
  rfl

/-- A character has bytes. -/
lemma size_char_pos (c : Char) : 0 < (String.utf8EncodeChar c).length := by
  rw [String.length_utf8EncodeChar]
  exact c.utf8Size_pos

/-- Texts have bytes. -/
lemma size_pos {text : List Char} (h : text ≠ []) : 0 < size text := by
  obtain ⟨c, text, rfl⟩ := List.exists_cons_of_ne_nil h
  have hc := size_char_pos c
  rw [size_cons]
  omega

/-- A part of a text is no longer than the text, and it is the text if it is not shorter. -/
lemma size_le_of_sublist {part text : List Char} (h : part.Sublist text) :
    size part ≤ size text ∧ (size text ≤ size part → part = text) := by
  induction h with
  | slnil => simp
  | cons c _ ih =>
    have hc := size_char_pos c
    rw [size_cons]
    exact ⟨by omega, fun hle => by omega⟩
  | cons_cons c _ ih =>
    rw [size_cons, size_cons]
    exact ⟨by omega, fun hle => by rw [ih.2 (by omega)]⟩

/-- A digit of an escape is written for itself. -/
lemma encode_eq_cons {text rest : List Char} {h : Char} {x : ℕ} (hvalue : hexValue h = some x)
    (htext : encode text = h :: rest) : ∃ text', text = h :: text' ∧ encode text' = rest := by
  cases text with
  | nil => cases htext
  | cons c text =>
    rw [encode, List.flatMap_cons] at htext
    unfold encodeChar at htext
    split at htext
    · obtain ⟨b, bytes, hbytes⟩ := List.exists_cons_of_ne_nil
        (List.length_pos_iff.mp (size_char_pos c))
      rw [hbytes, List.flatMap_cons] at htext
      obtain ⟨rfl, -⟩ := List.cons.inj htext
      cases hvalue
    · obtain ⟨rfl, hrest⟩ := List.cons.inj htext
      exact ⟨text, rfl, hrest⟩

/-- **Decoding** does not make a text longer, and it makes one with an escape shorter. -/
lemma size_le_of_unescape {text : List Char} {bytes : List UInt8}
    (h : unescape (encode text) = some bytes) :
    bytes.length ≤ size text ∧ ('%' ∈ text → bytes.length < size text) := by
  induction hlength : text.length using Nat.strongRecOn generalizing text bytes with
  | _ n ih =>
    cases text with
    | nil =>
      obtain rfl : [] = bytes := Option.some.inj h
      simp [size, utf8]
    | cons c text =>
      by_cases hc : c = '%'
      · subst hc
        have hencode : encode ('%' :: text) = '%' :: encode text := rfl
        rw [hencode, unescape.eq_def] at h
        simp only [if_true] at h
        split at h
        · rename_i d e rest htext
          obtain ⟨x, hx, h⟩ := Option.bind_eq_some_iff.mp h
          obtain ⟨y, hy, h⟩ := Option.bind_eq_some_iff.mp h
          obtain ⟨bytes, hbytes, rfl⟩ := Option.map_eq_some_iff.mp h
          obtain ⟨text, rfl, htail⟩ := encode_eq_cons hx htext
          obtain ⟨text, rfl, rfl⟩ := encode_eq_cons hy htail
          have hle := (ih text.length (by simp [← hlength]; omega) hbytes rfl).1
          have hpercent := size_char_pos '%'
          have hd := size_char_pos d
          rw [size_cons, size_cons, size_cons, List.length_cons]
          exact ⟨by omega, fun _ => by omega⟩
        · cases h
      · rw [encode, List.flatMap_cons, unescape_encodeChar hc] at h
        obtain ⟨rest, hrest, rfl⟩ := Option.map_eq_some_iff.mp h
        obtain ⟨hle, hlt⟩ := ih text.length (by simp [← hlength]) hrest rfl
        rw [size_cons, List.length_append]
        refine ⟨by omega, fun hmem => ?_⟩
        have hmore := hlt ((List.mem_cons.mp hmem).resolve_left (Ne.symm hc))
        omega

/-! ## Segments -/

section Resolve

variable {σ τ : Type*} {single double : τ → Bool}

/-- Segments may be written differently before or after they are resolved. -/
lemma resolve_map (f : σ → τ) (empty : σ) (path segments : List σ) :
    resolve single double (f empty) (path.map f) (segments.map f) =
      (resolve (single ∘ f) (double ∘ f) empty path segments).map f := by
  have hpush (last : Bool) (path : List σ) (segment : σ) :
      push single double (f empty) last (path.map f) (f segment) =
        (push (single ∘ f) (double ∘ f) empty last path segment).map f := by
    unfold push
    simp only [Function.comp_apply]
    split
    · split <;> simp
    · split
      · split <;> simp
      · simp
  induction segments generalizing path with
  | nil => rfl
  | cons segment segments ih =>
    cases segments with
    | nil => exact hpush true path segment
    | cons next segments =>
      rw [List.map_cons, List.map_cons, resolve, resolve, hpush, ← List.map_cons, ih]

/-- Without dots, a path has the segments that it is given. -/
lemma resolve_of_no_dots {empty : τ} {path segments : List τ}
    (h : ∀ segment ∈ segments, single segment = false ∧ double segment = false) :
    resolve single double empty path segments = segments.reverse ++ path := by
  have hpush {last : Bool} {path : List τ} {segment : τ} (hs : single segment = false)
      (hd : double segment = false) :
      push single double empty last path segment = segment :: path := by
    simp [push, hs, hd]
  induction segments generalizing path with
  | nil => rfl
  | cons segment segments ih =>
    obtain ⟨hfirst, hrest⟩ := List.forall_mem_cons.mp h
    cases segments with
    | nil => exact hpush hfirst.1 hfirst.2
    | cons next segments =>
      have hreverse : (segment :: next :: segments).reverse =
          (next :: segments).reverse ++ [segment] := List.reverse_cons
      rw [resolve, hpush hfirst.1 hfirst.2, ih hrest, hreverse, List.append_assoc]
      rfl

end Resolve

/-- The size of some segments, each with its slash. -/
def total (segments : List (List Char)) : ℕ := (segments.map fun segment => size segment + 1).sum

/-- The size of a path is that of its segments, each with its slash. -/
lemma size_join (segments : List (List Char)) : size (join segments) = total segments := by
  induction segments with
  | nil => rfl
  | cons segment segments ih =>
    have hslash : (String.utf8EncodeChar '/').length = 1 := by decide
    rw [join, List.flatMap_cons, List.cons_append, size_cons, size_append, hslash]
    change 1 + (size segment + size (join segments)) = size segment + 1 + total segments
    rw [ih]
    omega

section Total

variable {single double : List Char → Bool}

/-- A step does not make a path longer, and dots make it shorter. -/
lemma total_push_le (hdots : ∀ segment, single segment || double segment → segment ≠ [])
    (last : Bool) (path : List (List Char)) (segment : List Char) :
    total (push single double [] last path segment) ≤ total path + (size segment + 1) ∧
      (single segment || double segment →
        total (push single double [] last path segment) < total path + (size segment + 1)) := by
  have htail : total path.tail ≤ total path := by
    cases path with
    | nil => exact Nat.le_refl 0
    | cons first path => simp [total]
  have hempty (path : List (List Char)) : total ([] :: path) = total path + 1 := by
    simp [total, size, utf8, Nat.add_comm]
  have hpos : single segment || double segment → 0 < size segment := fun h => size_pos (hdots _ h)
  unfold push
  cases hd : double segment with
  | true =>
    have hpos := hpos (by simp [hd])
    cases last with
    | true => simp [hempty]; omega
    | false => simp; omega
  | false =>
    cases hs : single segment with
    | true =>
      have hpos := hpos (by simp [hs])
      cases last with
      | true => simp [hempty]; omega
      | false => simp
    | false => simp [total, Nat.add_comm]

/-- **Resolving dots** does not make a path longer, and it makes one with dots shorter. -/
lemma total_resolve_le (hdots : ∀ segment, single segment || double segment → segment ≠ [])
    (path segments : List (List Char)) :
    total (resolve single double [] path segments) ≤ total path + total segments ∧
      ((∃ segment ∈ segments, single segment || double segment) →
        total (resolve single double [] path segments) < total path + total segments) := by
  induction segments generalizing path with
  | nil => exact ⟨Nat.le_refl _, fun ⟨_, h, _⟩ => by cases h⟩
  | cons segment segments ih =>
    have htotal : total (segment :: segments) = size segment + 1 + total segments := rfl
    rw [htotal]
    cases segments with
    | nil =>
      obtain ⟨hle, hlt⟩ := total_push_le hdots true path segment
      have hnil : total [] = 0 := rfl
      rw [resolve, hnil]
      refine ⟨by omega, fun ⟨s, hs, hdot⟩ => ?_⟩
      obtain rfl := List.mem_singleton.mp hs
      exact hlt hdot
    | cons next segments =>
      obtain ⟨hle, hlt⟩ := total_push_le hdots false path segment
      obtain ⟨hle', hlt'⟩ := ih (push single double [] false path segment)
      rw [resolve]
      refine ⟨by omega, fun ⟨s, hs, hdot⟩ => ?_⟩
      obtain rfl | hs := List.mem_cons.mp hs
      · have hmore := hlt hdot
        omega
      · have hmore := hlt' ⟨s, hs, hdot⟩
        omega

end Total

/-- The segments of a text are as long as it is. -/
lemma join_splitOnP (text : List Char) :
    join (text.splitOnP isSlash) = '/' :: text.map fun c => if isSlash c then '/' else c := by
  induction text with
  | nil => rfl
  | cons c text ih =>
    cases hc : isSlash c with
    | true =>
      have hsplit : (c :: text).splitOnP isSlash = [] :: text.splitOnP isSlash :=
        List.splitOnP_append_cons [] text hc
      rw [hsplit, List.map_cons, if_pos hc]
      change '/' :: join (text.splitOnP isSlash) = _
      rw [ih]
    | false =>
      obtain ⟨first, rest, hsplit⟩ :=
        List.exists_cons_of_ne_nil (List.splitOnP_ne_nil isSlash text)
      rw [hsplit, join, List.flatMap_cons] at ih
      rw [List.splitOnP_cons_eq_if_modifyHead, if_neg (by simp [hc]), hsplit, List.modifyHead_cons,
        List.map_cons, if_neg (by simp [hc]), join, List.flatMap_cons, List.cons_append,
        List.cons_append]
      exact congrArg (fun t => '/' :: c :: t) (List.cons.inj ih).2

/-- All slashes have the same size. -/
lemma size_map_slash (text : List Char) :
    size (text.map fun c => if isSlash c then '/' else c) = size text := by
  induction text with
  | nil => rfl
  | cons c text ih =>
    rw [List.map_cons, size_cons, size_cons, ih]
    by_cases hc : isSlash c
    · have hslash : c = '/' ∨ c = '\\' := by simpa [isSlash] using hc
      obtain rfl | rfl := hslash <;> rfl
    · rw [if_neg hc]

/-- What is read from an escaped dot, or from two of them. -/
lemma unescape_of_dots {segment : List Char} (h : isSingleDot segment || isDoubleDot segment) :
    unescape segment = some (utf8 ['.']) ∨ unescape segment = some (utf8 ['.', '.']) := by
  have hsingle : ∀ dot ∈ dots, unescape dot = some (utf8 ['.']) := by decide
  have hdouble : ∀ dot ∈ dots.flatMap fun dot => dots.map (dot ++ ·),
      unescape dot = some (utf8 ['.', '.']) := by decide
  obtain h | h := Bool.or_eq_true_iff.mp h
  · exact .inl (hsingle segment (List.contains_iff_mem.mp h))
  · exact .inr (hdouble segment (List.contains_iff_mem.mp h))

/-! ## Texts that are returned -/

/-- The path of a text, before it is encoded. -/
def resolved (text : List Char) : List (List Char) :=
  (resolve (isSingleDot ∘ encode) (isDoubleDot ∘ encode) []
    [] ((text.takeWhile fun c => !isPathEnd c).splitOnP isSlash)).reverse

/-- The path of a text may be encoded after its dots have been resolved. -/
lemma path_cons_slash (text : List Char) : path ('/' :: text) = encode (join (resolved text)) := by
  have hjoin (segments : List (List Char)) :
      join (segments.map encode) = encode (join segments) := by
    induction segments with
    | nil => rfl
    | cons segment segments ih =>
      have hcons : join ((segment :: segments).map encode) =
          '/' :: encode segment ++ join (segments.map encode) := rfl
      rw [hcons, ih, encode, encode, encode, join, join, List.flatMap_cons, List.flatMap_append]
      rfl
  have hresolve (segments : List (List Char)) :
      resolve isSingleDot isDoubleDot [] [] (segments.map encode) =
        (resolve (isSingleDot ∘ encode) (isDoubleDot ∘ encode) [] [] segments).map encode :=
    resolve_map encode [] [] segments
  rw [path, List.takeWhile_cons_of_pos (by decide), resolved, ← hjoin, List.map_reverse, ← hresolve]
  rfl

/-- Without dots, the segments are those of the text. -/
lemma resolved_of_no_dots {text : List Char}
    (hcut : text.takeWhile (fun c => !isPathEnd c) = text)
    (h : ∀ segment ∈ text.splitOnP isSlash,
      ¬ ((isSingleDot ∘ encode) segment || (isDoubleDot ∘ encode) segment)) :
    resolved text = text.splitOnP isSlash := by
  have hno : ∀ segment ∈ text.splitOnP isSlash,
      (isSingleDot ∘ encode) segment = false ∧ (isDoubleDot ∘ encode) segment = false := by
    intro segment hmem
    simpa using h segment hmem
  rw [resolved, hcut, resolve_of_no_dots hno, List.append_nil, List.reverse_reverse]

/-- No step changes the text: nothing in it is removed, ends the path, is resolved or begins an
escape, and its slashes are slashes. -/
structure Untouched (text : List Char) : Prop where
  kept : text.filter (fun c => !isTabOrNewline c) = text
  inside : text.takeWhile (fun c => !isPathEnd c) = text
  no_dots : ∀ segment ∈ text.splitOnP isSlash,
    ¬ ((isSingleDot ∘ encode) segment || (isDoubleDot ∘ encode) segment)
  slashes : text.map (fun c => if isSlash c then '/' else c) = text
  no_percent : '%' ∉ join (text.splitOnP isSlash)

/-- A text that no step changes is returned. -/
lemma Untouched.unescape {text : List Char} (h : Untouched text) :
    unescape (path ('/' :: text.filter fun c => !isTabOrNewline c)) =
      some (utf8 ('/' :: text)) := by
  rw [path_cons_slash, h.kept, resolved_of_no_dots h.inside h.no_dots,
    unescape_encode h.no_percent, join_splitOnP, h.slashes]

/-- **A text that is returned** is not changed by any step.

**Proof sketch.** None of the steps makes the text longer. If it is returned, it has its size after
each of them, so that nothing has been removed, cut off, resolved or decoded. -/
lemma untouched_of_unescape {text : List Char}
    (h : Url.unescape (path ('/' :: text.filter fun c => !isTabOrNewline c)) =
      some (utf8 ('/' :: text))) : Untouched text := by
  have hdots : ∀ segment, (isSingleDot ∘ encode) segment || (isDoubleDot ∘ encode) segment →
      segment ≠ [] := by
    rintro _ h rfl
    exact absurd h (by decide)
  rw [path_cons_slash] at h
  generalize hfiltered : text.filter (fun c => !isTabOrNewline c) = filtered at h
  generalize hcut : filtered.takeWhile (fun c => !isPathEnd c) = cut
  have hpart : filtered.Sublist text := hfiltered ▸ List.filter_sublist
  have hpart' : cut.Sublist filtered := hcut ▸ List.takeWhile_sublist _
  obtain ⟨hdecode, hescape⟩ := size_le_of_unescape h
  obtain ⟨hresolve, hdot⟩ := total_resolve_le hdots [] (cut.splitOnP isSlash)
  have htotal : size (join (resolved filtered)) =
      total (resolve (isSingleDot ∘ encode) (isDoubleDot ∘ encode) [] []
        (cut.splitOnP isSlash)) := by
    rw [resolved, hcut, size_join, total, List.map_reverse, List.sum_reverse, total]
  have hsegments : total (cut.splitOnP isSlash) = 1 + size cut := by
    rw [← size_join, join_splitOnP, size_cons, size_map_slash]
    rfl
  have hnil : total [] = 0 := rfl
  have htext : (utf8 ('/' :: text)).length = 1 + size text := size_cons '/' text
  have hle := (size_le_of_sublist hpart).1
  have hle' := (size_le_of_sublist hpart').1
  -- every step has kept the size
  have hwhole : filtered = text := (size_le_of_sublist hpart).2 (by omega)
  have hwhole' : cut = text := ((size_le_of_sublist hpart').2 (by omega)).trans hwhole
  rw [hwhole] at hfiltered hcut h hdecode hescape htotal
  rw [hwhole'] at hcut hdot hresolve hsegments htotal
  have hno : ∀ segment ∈ text.splitOnP isSlash,
      ¬ ((isSingleDot ∘ encode) segment || (isDoubleDot ∘ encode) segment) := by
    intro segment hmem hsegment
    have hless := hdot ⟨segment, hmem, hsegment⟩
    omega
  have hpercent : '%' ∉ join (resolved text) := fun hmem => by
    have hless := hescape hmem
    omega
  rw [resolved_of_no_dots hcut hno] at h hpercent
  rw [unescape_encode hpercent, join_splitOnP] at h
  exact { kept := hfiltered
          inside := hcut
          no_dots := hno
          slashes := (List.cons.inj (utf8_injective (Option.some.inj h))).2
          no_percent := hpercent }

/-- What is not changed is plain. -/
lemma Untouched.plain {text : List Char} (h : Untouched text) : Plain text := by
  refine ⟨fun c hc hmem => ?_, fun segment hmem => ?_⟩
  · have hkept := List.filter_eq_self.mp h.kept c hc
    have hinside := List.takeWhile_eq_self_iff.mp h.inside c hc
    have hsame : (if isSlash c then '/' else c) = c :=
      List.map_inj_left.mp (h.slashes.trans (List.map_id text).symm) c hc
    have hpercent := h.no_percent
    rw [join_splitOnP, h.slashes] at hpercent
    simp only [List.mem_cons, List.not_mem_nil, or_false] at hmem
    obtain rfl | rfl | rfl | rfl | rfl | rfl | rfl := hmem
    · cases hkept
    · cases hkept
    · cases hkept
    · cases hinside
    · cases hinside
    · exact absurd hsame (by decide)
    · exact hpercent (List.mem_cons_of_mem _ hc)
  · have hnot := h.no_dots segment hmem
    refine ⟨?_, ?_⟩
    all_goals
      rintro rfl
      exact hnot (by decide)

/-- What is plain is not changed. -/
lemma Plain.untouched {text : List Char} (h : Plain text) : Untouched text := by
  have hletters : ∀ c ∈ text, isTabOrNewline c = false ∧ isPathEnd c = false ∧ c ≠ '\\' := by
    intro c hc
    have hletter := h.letters c hc
    simp only [List.mem_cons, List.not_mem_nil, or_false, not_or] at hletter
    simp [isTabOrNewline, isPathEnd, hletter]
  have hslash : text.map (fun c => if isSlash c then '/' else c) = text := by
    refine (List.map_congr_left fun c hc => ?_).trans (List.map_id text)
    by_cases hc' : c = '/'
    · rw [hc']
      rfl
    · rw [if_neg (by simp [isSlash, (hletters c hc).2.2, hc'])]
      rfl
  have hpercent : '%' ∉ join (text.splitOnP isSlash) := by
    rw [join_splitOnP, hslash]
    intro hmem
    exact h.letters '%' ((List.mem_cons.mp hmem).resolve_left (by decide)) (by decide)
  refine ⟨?_, ?_, fun segment hmem hdot => ?_, hslash, hpercent⟩
  · exact List.filter_eq_self.mpr fun c hc => by rw [(hletters c hc).1, Bool.not_false]
  · exact List.takeWhile_eq_self_iff.mpr fun c hc => by rw [(hletters c hc).2.1, Bool.not_false]
  · have hsegment : '%' ∉ segment := fun hc =>
      hpercent (List.mem_flatMap.mpr ⟨segment, hmem, List.mem_cons_of_mem _ hc⟩)
    have hread := unescape_of_dots hdot
    rw [unescape_encode hsegment] at hread
    obtain heq | heq := hread
    · exact (h.segments segment hmem).1 (utf8_injective (Option.some.inj heq))
    · exact (h.segments segment hmem).2 (utf8_injective (Option.some.inj heq))

/-- **What a path returns** after tabs and line breaks have been removed is the text itself if and
only if it is plain. -/
theorem unescape_path_iff (text : List Char) :
    unescape (path ('/' :: text.filter fun c => !isTabOrNewline c)) = some (utf8 ('/' :: text)) ↔
      Plain text :=
  ⟨fun h => (untouched_of_unescape h).plain, fun h => h.untouched.unescape⟩

/-- Decoding reads the bytes of a text. -/
lemma decodeURIComponent_eq_some_iff {text result : List Char} :
    decodeURIComponent text = some result ↔ unescape text = some (utf8 result) := by
  rw [decodeURIComponent, Option.bind_eq_some_iff]
  constructor
  · rintro ⟨bytes, hbytes, h⟩
    split at h
    · rename_i hvalid
      obtain rfl := Option.some.inj h
      rw [hbytes, hvalid]
    · cases h
  · intro h
    exact ⟨utf8 result, h, by simp⟩

/-- Nothing is removed at the ends of a URL that does not end with white space. -/
lemma trim_url {host text : List Char} (hlast : ∀ c ∈ text.getLast?, isC0OrSpace c = false) :
    Spacing.trim isC0OrSpace ("https://".toList ++ (host ++ '/' :: text)) =
      "https://".toList ++ (host ++ '/' :: text) := by
  have hend : ∀ c ∈ ("https://".toList ++ (host ++ '/' :: text)).getLast?,
      isC0OrSpace c = false := by
    intro c hc
    rw [List.getLast?_append, List.getLast?_append, List.getLast?_cons] at hc
    cases htext : text.getLast? with
    | none =>
      obtain rfl : c = '/' := by simpa [htext, eq_comm] using hc
      decide
    | some d =>
      obtain rfl : c = d := by simpa [htext, eq_comm] using hc
      exact hlast c htext
  have hstart : ("https://".toList ++ (host ++ '/' :: text)).dropWhile isC0OrSpace =
      "https://".toList ++ (host ++ '/' :: text) := rfl
  rw [Spacing.trim, hstart, List.rdropWhile_eq_self_iff]
  intro hnil
  have hnot := hend _ (List.getLast?_eq_some_getLast hnil)
  simpa using hnot

/-- The path of a URL that is put together. -/
lemma pathname_append {authority : List Char → Bool} {host text : List Char}
    (hauthority : authority host = true) (hne : host ≠ [])
    (hhost : ∀ c ∈ host, isSlash c = false ∧ isPathEnd c = false ∧ isTabOrNewline c = false)
    (hlast : ∀ c ∈ text.getLast?, isC0OrSpace c = false) :
    pathname authority ("https://".toList ++ (host ++ '/' :: text)) =
      some (path ('/' :: text.filter fun c => !isTabOrNewline c)) := by
  have hfilter : host.filter (fun c => !isTabOrNewline c) = host :=
    List.filter_eq_self.mpr fun c hc => by simp [(hhost c hc).2.2]
  have hinside : ∀ c ∈ host, (!(isSlash c || isPathEnd c)) = true := fun c hc => by
    simp [(hhost c hc).1, (hhost c hc).2.1]
  obtain ⟨first, rest, hfirst⟩ := List.exists_cons_of_ne_nil hne
  have hslash : isSlash first = false := (hhost first (by simp [hfirst])).1
  have hdrop (tail : List Char) : (host ++ tail).dropWhile isSlash = host ++ tail := by
    rw [hfirst, List.cons_append, List.dropWhile_cons_of_neg (by simp [hslash])]
  rw [pathname, trim_url hlast, List.filter_append, List.filter_append, hfilter,
    List.filter_cons_of_pos (by decide)]
  generalize text.filter (fun c => !isTabOrNewline c) = filtered
  have hscheme : "https://".toList.filter (fun c => !isTabOrNewline c) =
      "https:".toList ++ ['/', '/'] := by decide
  have hslashes : (['/', '/'] ++ (host ++ '/' :: filtered)).dropWhile isSlash =
      host ++ '/' :: filtered := hdrop _
  rw [hscheme, List.append_assoc, if_pos (by rfl)]
  change (if authority (((['/', '/'] ++ (host ++ '/' :: filtered)).dropWhile isSlash).takeWhile _)
    then some (path (((['/', '/'] ++ (host ++ '/' :: filtered)).dropWhile isSlash).dropWhile _))
    else none) = _
  rw [hslashes, List.takeWhile_append_of_pos hinside, List.dropWhile_append_of_pos hinside,
    List.takeWhile_cons_of_neg (by decide), List.dropWhile_cons_of_neg (by decide),
    List.append_nil, if_pos hauthority]

/-- **When a text is returned** by the path of the URL that it is put into. -/
theorem decode_pathname_iff {authority : List Char → Bool} {host text : List Char}
    (hauthority : authority host = true) (hne : host ≠ [])
    (hhost : ∀ c ∈ host, isSlash c = false ∧ isPathEnd c = false ∧ isTabOrNewline c = false)
    (htext : text ≠ []) (hlast : ∀ c ∈ text.getLast?, isC0OrSpace c = false) :
    ((pathname authority ("https://".toList ++ (host ++ '/' :: text))).bind fun path =>
      decodeURIComponent (path.drop 1)) = some text ↔ Plain text := by
  rw [pathname_append hauthority hne hhost hlast, Option.bind_some, decodeURIComponent_eq_some_iff,
    ← unescape_path_iff]
  rw [path_cons_slash]
  have hbytes (text : List Char) : unescape ('/' :: text) = (unescape text).map (0x2F :: ·) :=
    unescape_encodeChar (c := '/') (by decide) text
  have hpos := size_pos htext
  cases resolved (text.filter fun c => !isTabOrNewline c) with
  | nil =>
    have hempty (bytes : List UInt8) (hbytes : 0 < bytes.length) : unescape [] ≠ some bytes := by
      intro h
      rw [← Option.some.inj h] at hbytes
      exact absurd hbytes (by simp)
    exact iff_of_false (hempty _ hpos) (hempty _ (by rw [← size, size_cons]; omega))
  | cons segment segments =>
    have hcons : encode (join (segment :: segments)) =
        '/' :: (encode (join (segment :: segments))).drop 1 := rfl
    have hslash : utf8 ('/' :: text) = 0x2F :: utf8 text := rfl
    rw [hcons, hbytes, hslash, List.drop_succ_cons, List.drop_zero, Option.map_eq_some_iff]
    constructor
    · intro h
      exact ⟨utf8 text, h, rfl⟩
    · rintro ⟨bytes, h, heq⟩
      rw [h, (List.cons.inj heq).2]

/-- Texts with a slash between them are plain if they are plain on their own. -/
lemma plain_append_cons {text text' : List Char} :
    Plain (text ++ '/' :: text') ↔ Plain text ∧ Plain text' := by
  have hsplit : (text ++ '/' :: text').splitOnP isSlash =
      text.splitOnP isSlash ++ text'.splitOnP isSlash := List.splitOnP_append_cons text text' rfl
  constructor
  · rintro ⟨hletters, hsegments⟩
    rw [hsplit] at hsegments
    exact ⟨⟨fun c hc => hletters c (List.mem_append_left _ hc),
        fun s hs => hsegments s (List.mem_append_left _ hs)⟩,
      ⟨fun c hc => hletters c (List.mem_append_right _ (List.mem_cons_of_mem _ hc)),
        fun s hs => hsegments s (List.mem_append_right _ hs)⟩⟩
  · rintro ⟨h, h'⟩
    refine ⟨fun c hc => ?_, fun s hs => ?_⟩
    · obtain hc | hc := List.mem_append.mp hc
      · exact h.letters c hc
      · obtain rfl | hc := List.mem_cons.mp hc
        · decide
        · exact h'.letters c hc
    · rw [hsplit] at hs
      obtain hs | hs := List.mem_append.mp hs
      · exact h.segments s hs
      · exact h'.segments s hs

end Url

end Foundations
