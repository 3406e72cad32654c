import AuraLive.Foundations.Unicode

set_option relaxedAutoImplicit false
set_option autoImplicit false

/-!
# Framing of the output of an MCP server

`handleStdout` of `mcp/client/mcp-client.service.ts` decodes every chunk of the output by itself,
appends it to a buffer and takes the complete lines from there. Every line that is not blank is
parsed and passed to `handleResponse`.

## Main definitions

* `McpClient.handleStdout` — the buffer after a chunk, and the responses that are passed on.
* `McpClient.handleChunks` — the responses of a whole output.
* `McpClient.streamOf` — the output of a server that sends some messages.

## Main results

* `McpClient.handleChunks_eq` — the responses depend only on the text that the chunks are decoded
  to.
* `McpClient.lines_of_readAs` — a text of lines is read as lines.
* `McpClient.framing_iff` — the responses are the messages, for every parser, exactly when every
  chunk is in UTF-8.
* `McpClient.character_cut` — a chunk that ends within a character.

## Design

Buffers are lists of characters: what is decoded has no lone surrogates. `JSON.parse` is a
parameter, a function on texts that may fail. A line that it rejects is logged and dropped.
-/

namespace McpClient

open Foundations

/-! ## The functions -/

/-- White space and line terminators, which `trim` removes. -/
def isWhiteSpace (c : Char) : Bool :=
  c.toNat ∈ [9, 10, 11, 12, 13, 32, 0xA0, 0x1680, 0x2028, 0x2029, 0x202F, 0x205F, 0x3000, 0xFEFF] ||
    (0x2000 ≤ c.toNat && c.toNat ≤ 0x200A)

/-- `!line.trim()`. -/
def isBlank (line : List Char) : Bool := line.all isWhiteSpace

section Functions

variable {α : Type} (parse : String → Option α)

/-- The responses of some lines. -/
def responsesOf (lines : List (List Char)) : List α :=
  (lines.filter fun line => !isBlank line).filterMap fun line => parse (String.ofList line)

/-- `handleStdout`: the buffer after a chunk, and the responses that are passed to
`handleResponse`. -/
def handleStdout (buffer : List Char) (data : List UInt8) : List Char × List α :=
  let lines := (buffer ++ decodeUtf8 data).splitOn '\n'
  (lines.getLastD [], responsesOf parse lines.dropLast)

/-- The responses of some chunks. -/
def handleChunks : List Char → List (List UInt8) → List α
  | _, [] => []
  | buffer, data :: chunks =>
    (handleStdout parse buffer data).2 ++ handleChunks (handleStdout parse buffer data).1 chunks

end Functions

/-- A line with a message: it has no line feed, and it is not blank. -/
structure IsMessage (message : String) : Prop where
  line : '\n' ∉ message.toList
  text : isBlank message.toList = false

/-- Every line ends with a line feed. -/
def terminated (lines : List (List Char)) : List Char := lines.flatMap (· ++ ['\n'])

/-- The output of a server that sends some messages. -/
def streamOf (messages : List String) : List UInt8 := utf8 (terminated (messages.map String.toList))

/-! ## Lines -/

section Lines

variable {a : Char}

/-- Splitting goes on where it has stopped. -/
lemma splitOn_append (x y : List Char) :
    (x ++ y).splitOn a = (x.splitOn a).dropLast ++ ((x.splitOn a).getLastD [] ++ y).splitOn a := by
  induction x with
  | nil => simp
  | cons c x ih =>
    obtain ⟨l, ls, hl⟩ := List.exists_cons_of_ne_nil (List.splitOn_ne_nil a x)
    rw [hl] at ih
    rw [List.cons_append, List.splitOn_cons_eq_if_modifyHead,
      List.splitOn_cons_eq_if_modifyHead, hl, ih]
    by_cases hc : c = a
    · simp [hc]
    · cases ls with
      | nil => simp [hc, List.splitOn_cons_eq_if_modifyHead]
      | cons l' ls => simp [hc]

/-- A piece does not contain the separator. -/
lemma notMem_of_mem_splitOn {x l : List Char} (h : l ∈ x.splitOn a) : a ∉ l := by
  induction x generalizing l with
  | nil =>
    obtain rfl : l = [] := by simpa using h
    exact List.not_mem_nil
  | cons c x ih =>
    rw [List.splitOn_cons_eq_if_modifyHead] at h
    obtain ⟨m, ms, hm⟩ := List.exists_cons_of_ne_nil (List.splitOn_ne_nil a x)
    rw [hm] at h ih
    split at h
    · rcases List.mem_cons.mp h with rfl | h
      · exact List.not_mem_nil
      · exact ih h
    · rename_i hc
      rcases List.mem_cons.mp h with rfl | h
      · intro hmem
        rcases List.mem_cons.mp hmem with rfl | hmem
        · simp at hc
        · exact ih List.mem_cons_self hmem
      · exact ih (List.mem_cons_of_mem _ h)

/-- The pieces of terminated lines. -/
lemma splitOn_terminated {lines : List (List Char)} (h : ∀ line ∈ lines, '\n' ∉ line) :
    (terminated lines).splitOn '\n' = lines ++ [[]] := by
  induction lines with
  | nil => rfl
  | cons line lines ih =>
    rw [terminated, List.flatMap_cons, List.append_assoc, List.singleton_append,
      List.splitOn_append_cons_self_of_not_mem (h line List.mem_cons_self)]
    exact congrArg (line :: ·) (ih fun x hx => h x (List.mem_cons_of_mem _ hx))

end Lines

section Responses

variable {α : Type} (parse : String → Option α)

@[simp] lemma responsesOf_append (lines lines' : List (List Char)) :
    responsesOf parse (lines ++ lines') = responsesOf parse lines ++ responsesOf parse lines' := by
  simp [responsesOf]

/-- **The responses depend on the text only**, not on where the chunks end.

**Proof sketch.** Induction on the chunks: the buffer is the last piece, which has no line feed, and
splitting goes on from there. -/
lemma handleChunks_eq (chunks : List (List UInt8)) : ∀ {buffer : List Char}, '\n' ∉ buffer →
    handleChunks parse buffer chunks =
      responsesOf parse ((buffer ++ decodeChunks chunks).splitOn '\n').dropLast := by
  induction chunks with
  | nil =>
    intro buffer hbuffer
    rw [decodeChunks, List.flatMap_nil, List.append_nil, List.splitOn_eq_singleton hbuffer]
    rfl
  | cons data chunks ih =>
    intro buffer hbuffer
    have hlast : '\n' ∉ ((buffer ++ decodeUtf8 data).splitOn '\n').getLastD [] := by
      have hne := List.splitOn_ne_nil '\n' (buffer ++ decodeUtf8 data)
      rw [List.getLastD_eq_getLast?, List.getLast?_eq_some_getLast hne]
      exact notMem_of_mem_splitOn (List.getLast_mem hne)
    have hne := List.splitOn_ne_nil '\n'
      (((buffer ++ decodeUtf8 data).splitOn '\n').getLastD [] ++ decodeChunks chunks)
    rw [handleChunks, handleStdout, ih hlast, decodeChunks_cons, ← List.append_assoc,
      splitOn_append (buffer ++ decodeUtf8 data), List.dropLast_append_of_ne_nil hne,
      responsesOf_append]

/-- The responses of a text of lines that are not blank. -/
lemma handleChunks_terminated {chunks : List (List UInt8)} {lines : List (List Char)}
    (hlines : ∀ line ∈ lines, '\n' ∉ line ∧ isBlank line = false)
    (h : decodeChunks chunks = terminated lines) :
    handleChunks parse [] chunks = lines.filterMap fun line => parse (String.ofList line) := by
  rw [handleChunks_eq parse chunks List.not_mem_nil, List.nil_append, h,
    splitOn_terminated fun line hline => (hlines line hline).1, List.dropLast_concat, responsesOf,
    List.filter_eq_self.mpr]
  intro line hline
  rw [(hlines line hline).2]
  rfl

end Responses

/-! ## Lines that are read -/

section Reading

variable {text read : List Char}

/-- A line feed is read as itself, and divides what is read. -/
lemma readAs_append_lineFeed {x y : List Char} (h : ReadAs (x ++ '\n' :: y) read) :
    ∃ r r', read = r ++ '\n' :: r' ∧ ReadAs x r ∧ ReadAs y r' := by
  induction x generalizing read with
  | nil =>
    cases h with
    | whole c h => exact ⟨[], _, rfl, .nil, h⟩
    | cut c n hc h => exact absurd hc (by decide)
  | cons d x ih =>
    cases h with
    | whole c h =>
      obtain ⟨r, r', rfl, hr, hr'⟩ := ih h
      exact ⟨d :: r, r', rfl, .whole d hr, hr'⟩
    | cut c n hc h =>
      obtain ⟨r, r', rfl, hr, hr'⟩ := ih h
      exact ⟨_, r', (List.append_assoc _ _ _).symm, .cut d n hc hr, hr'⟩

/-- **A text of lines is read as lines.** -/
lemma lines_of_readAs {lines : List (List Char)} (h : ReadAs (terminated lines) read) :
    ∃ lines', read = terminated lines' ∧ ∀ line' ∈ lines', ∃ line ∈ lines, ReadAs line line' := by
  induction lines generalizing read with
  | nil =>
    cases h
    exact ⟨[], rfl, fun line' hmem => absurd hmem List.not_mem_nil⟩
  | cons line lines ih =>
    have hcons : terminated (line :: lines) = line ++ '\n' :: terminated lines := by
      simp [terminated]
    rw [hcons] at h
    obtain ⟨r, r', rfl, hr, hr'⟩ := readAs_append_lineFeed h
    obtain ⟨lines', rfl, hlines⟩ := ih hr'
    refine ⟨r :: lines', by simp [terminated], List.forall_mem_cons.mpr ⟨?_, fun line' hmem => ?_⟩⟩
    · exact ⟨line, List.mem_cons_self, hr⟩
    · obtain ⟨line₀, hline₀, hread⟩ := hlines line' hmem
      exact ⟨line₀, List.mem_cons_of_mem line hline₀, hread⟩

/-- What is read has no new characters but the replacement. -/
lemma mem_of_readAs (h : ReadAs text read) {c : Char} (hc : c ∈ read) :
    c ∈ text ∨ c = replacement := by
  induction h with
  | nil => exact .inl hc
  | whole d h ih =>
    rcases List.mem_cons.mp hc with rfl | hc
    · exact .inl List.mem_cons_self
    · exact (ih hc).imp_left (List.mem_cons_of_mem d)
  | cut d n hd h ih =>
    rcases List.mem_append.mp hc with hc | hc
    · exact .inr (List.eq_of_mem_replicate hc)
    · exact (ih hc).imp_left (List.mem_cons_of_mem d)

/-- A line that is not blank is not read as a blank one. -/
lemma isBlank_of_readAs (h : ReadAs text read) (ht : isBlank text = false) :
    isBlank read = false := by
  induction h with
  | nil => exact ht
  | whole c h ih =>
    rw [isBlank, List.all_cons, Bool.and_eq_false_iff] at ht ⊢
    exact ht.imp_right ih
  | cut c n hc h ih =>
    rw [isBlank, List.replicate_succ, List.cons_append, List.all_cons]
    rfl

end Reading

/-! ## The responses of a stream -/

/-- **Framing.** The output of a server that sends some messages leads to the responses that they
are parsed to, in order and whatever the parser does with a text, if and only if every chunk is in
UTF-8, that is, no chunk ends within a character.

**Proof sketch.** Chunks in UTF-8 are decoded to the text of the messages. If a chunk is not, some
character is read as two replacements or more, so that one of the lines is longer than its message.
-/
theorem framing_iff {messages : List String} (hmessages : ∀ message ∈ messages, IsMessage message)
    {chunks : List (List UInt8)} (hchunks : chunks.flatten = streamOf messages) :
    (∀ (α : Type) (parse : String → Option α),
      handleChunks parse [] chunks = messages.filterMap parse) ↔
    ∀ chunk ∈ chunks, IsUtf8 chunk := by
  have hlines : ∀ line ∈ messages.map String.toList, '\n' ∉ line ∧ isBlank line = false := by
    intro line hline
    obtain ⟨message, hmessage, rfl⟩ := List.mem_map.mp hline
    exact ⟨(hmessages message hmessage).line, (hmessages message hmessage).text⟩
  constructor
  · intro h
    obtain ⟨read, hread, has, hvalid⟩ :=
      readAs_decodeChunks (show chunks.flatten = [] ++ utf8 _ from hchunks)
        fun b hb => absurd hb List.not_mem_nil
    refine hvalid rfl ?_
    obtain ⟨lines, rfl, hfrom⟩ := lines_of_readAs has
    have hlines' : ∀ line ∈ lines, '\n' ∉ line ∧ isBlank line = false := by
      intro line hline
      obtain ⟨line₀, hline₀, hreadAs⟩ := hfrom line hline
      refine ⟨fun hmem => ?_, isBlank_of_readAs hreadAs (hlines line₀ hline₀).2⟩
      rcases mem_of_readAs hreadAs hmem with hmem | heq
      · exact (hlines line₀ hline₀).1 hmem
      · exact absurd heq (by decide)
    -- the parser that returns the text of a line
    have hsome := h String some
    rw [handleChunks_terminated some hlines' hread, List.filterMap_some] at hsome
    have hmap : lines.map String.ofList = messages := List.filterMap_eq_map ▸ hsome
    have hequal : messages.map String.toList = lines := by
      rw [← hmap, List.map_map]
      exact List.map_id'' (fun line => String.toList_ofList) lines
    exact Nat.le_of_eq (by rw [hequal])
  · intro hvalid α parse
    have htext := utf8_injective ((flatten_eq_utf8_decodeChunks hvalid).symm.trans hchunks)
    rw [handleChunks_terminated parse hlines htext, List.filterMap_map]
    congr 1
    funext message
    rw [Function.comp_apply, String.ofList_toList]

/-- A response with a string as its result. -/
structure JsonRpcResponse where
  id : ℕ
  result : String
  deriving DecidableEq

/-- `JSON.parse` on a line of this form, with one digit and a text without quotes and backslashes.
-/
def parseResponse (line : String) : Option JsonRpcResponse :=
  let text := line.toList
  if "\x7b\"id\":".toList = text.take 6 ∧ ",\"result\":\"".toList = (text.drop 7).take 11 ∧
      "\"\x7d".toList = text.drop (text.length - 2) then
    some ⟨(text.getD 6 '0').toNat - 48, String.ofList (text.drop 18).dropLast.dropLast⟩
  else none

/-- A message. -/
def answer : String := "\x7b\"id\":1,\"result\":\"가\"\x7d"

/-- Another one. -/
def answer' : String := "\x7b\"id\":2,\"result\":\"é\"\x7d"

lemma isMessage_answer : IsMessage answer := ⟨by decide +kernel, by decide +kernel⟩

lemma isMessage_answer' : IsMessage answer' := ⟨by decide +kernel, by decide +kernel⟩

/-- Two messages in three chunks that end within the lines. -/
def betweenCharacters : List (List UInt8) :=
  [utf8 (answer.toList.take 19), utf8 (answer.toList.drop 19 ++ '\n' :: answer'.toList.take 18),
    utf8 (answer'.toList.drop 18 ++ ['\n'])]

/-- Both messages of these chunks are received. -/
theorem framing_iff_two_messages :
    handleChunks parseResponse [] betweenCharacters = [⟨1, "가"⟩, ⟨2, "é"⟩] := by
  have hmessages : ∀ message ∈ [answer, answer'], IsMessage message := by
    intro message hmem
    rcases List.mem_cons.mp hmem with rfl | hmem
    · exact isMessage_answer
    · exact List.mem_singleton.mp hmem ▸ isMessage_answer'
  have hchunks : betweenCharacters.flatten = streamOf [answer, answer'] := by decide +kernel
  have hvalid : ∀ chunk ∈ betweenCharacters, IsUtf8 chunk :=
    List.forall_mem_cons.mpr ⟨⟨_, rfl⟩, List.forall_mem_cons.mpr ⟨⟨_, rfl⟩,
      List.forall_mem_singleton.mpr ⟨_, rfl⟩⟩⟩
  rw [(framing_iff hmessages hchunks).mpr hvalid JsonRpcResponse parseResponse]
  decide +kernel

/-- **A character that is cut.** The message is received as it is in one chunk; if its bytes come in
two chunks of which the first ends after one byte of the character, the result is another text. -/
theorem character_cut :
    IsMessage answer ∧
    handleChunks parseResponse [] [streamOf [answer]] = [⟨1, "가"⟩] ∧
    handleChunks parseResponse [] [(streamOf [answer]).take 19, (streamOf [answer]).drop 19] =
      [⟨1, "\uFFFD\uFFFD\uFFFD"⟩] ∧
    ¬ (∀ (α : Type) (parse : String → Option α),
      handleChunks parse [] [(streamOf [answer]).take 19, (streamOf [answer]).drop 19] =
        [answer].filterMap parse) := by
  refine ⟨isMessage_answer, by decide +kernel, by decide +kernel, fun h => ?_⟩
  exact absurd (h JsonRpcResponse parseResponse) (by decide +kernel)

end McpClient
