import AuraLive.Foundations.JsMap
import AuraLive.Foundations.JsSet
import Mathlib.Data.List.Induction
import Mathlib.Data.List.Infix

set_option relaxedAutoImplicit false
set_option autoImplicit false

/-!
# Diagram contexts

The voice bot keeps, for each room and each type of diagram, the utterances in which one of the
keywords of the type occurs, and the keywords that have occurred. `updateDiagramContexts` of
`livekit/voice-bot.service.ts` takes an utterance in, and `buildFocusedTranscript` writes those of a
type down for the drawing of the diagram.

## Main definitions

* `Diagrams.detectDiagramKeywords` — the types that an utterance is about.
* `Diagrams.updateDiagramContexts`, `run` — an utterance, and a sequence of them, is taken in.
* `Diagrams.buildFocusedTranscript` — the utterances of a type, sorted by time.
* `Diagrams.Mentions`, `history` — the utterances of a history that are about a type.

## Main results

* `Diagrams.contexts_record_history` — the contexts of a room hold just what has been said about
  their types, in order.

## Design

The clock is read anew for each type, once for the utterance and once for `lastUpdated`, so a call
comes with two readings for each type. `toLowerCase` is a parameter: any map of texts.
-/

namespace Diagrams

open Foundations

/-- A room. -/
abbrev RoomId := String

/-- `DiagramType`. -/
inductive DiagramType where
  | flowchart
  | sequence
  | erd
  | architecture
  deriving DecidableEq

/-- `DiagramStatement`. -/
structure DiagramStatement where
  speaker : String
  text : String
  keywords : List String
  timestamp : ℕ
  deriving DecidableEq

/-- `DiagramContext`. -/
structure DiagramContext where
  keywords : List String
  statements : List DiagramStatement
  lastUpdated : ℕ

/-- `DiagramContexts`. -/
abbrev DiagramContexts := DiagramType → DiagramContext

/-- `createEmptyDiagramContexts`. -/
def createEmptyDiagramContexts : DiagramContexts := fun _ => ⟨[], [], 0⟩

/-- The keywords of a type. -/
def keywordsOf : DiagramType → List String
  | .flowchart =>
    ["먼저", "그 다음", "그리고", "마지막으로", "최종적으로", "첫 번째", "두 번째", "세 번째",
      "만약", "~하면", "~할 경우", "아니면", "그렇지 않으면", "반복", "계속", "~할 때까지",
      "단계", "과정", "절차", "순서", "흐름", "워크플로우",
      "시작", "종료", "처리", "검증", "확인", "저장", "전송"]
  | .sequence =>
    ["API", "호출", "요청", "응답", "request", "response",
      "프론트엔드", "백엔드", "서버", "클라이언트", "데이터베이스",
      "전송", "수신", "반환", "리턴", "콜백", "callback",
      "다음", "그 후", "이후", "완료되면", "성공하면", "실패하면",
      "GET", "POST", "PUT", "DELETE", "PATCH"]
  | .erd =>
    ["테이블", "엔티티", "entity", "table",
      "관계", "참조", "외래키", "foreign key", "일대다", "다대다", "일대일",
      "필드", "컬럼", "column", "속성", "attribute",
      "데이터", "모델", "model", "스키마", "schema",
      "저장", "조회", "수정", "삭제", "생성"]
  | .architecture =>
    ["아키텍처", "구조", "설계", "시스템",
      "컴포넌트", "모듈", "서비스", "레이어", "layer",
      "마이크로서비스", "모놀리식", "MVC", "MVP", "MVVM",
      "서버", "클라우드", "AWS", "GCP", "Azure", "컨테이너", "도커",
      "연동", "통합", "인터페이스", "게이트웨이"]

/-- `Object.entries(this.DIAGRAM_KEYWORDS)`. -/
def DIAGRAM_KEYWORDS : List (DiagramType × List String) :=
  [.flowchart, .sequence, .erd, .architecture].map fun type => (type, keywordsOf type)

section Update

variable (toLowerCase : String → String)

/-- `text.toLowerCase().includes(keyword.toLowerCase())`. -/
def includes (text keyword : String) : Bool :=
  (toLowerCase keyword).toList <:+: (toLowerCase text).toList

/-- `detectDiagramKeywords`. -/
def detectDiagramKeywords (text : String) : JsMap DiagramType (List String) :=
  DIAGRAM_KEYWORDS.foldl (fun result entry =>
    let matchedKeywords := entry.2.filter (includes toLowerCase text)
    if 0 < matchedKeywords.length then result.set entry.1 matchedKeywords else result) ∅

/-- `Array.from(new Set(keywords))`. -/
def uniqueKeywords (keywords : List String) : List String :=
  keywords.foldl (JsSet.add fun a b => a = b) []

/-- A call of `updateDiagramContexts`. The readings of the clock are those for the utterance and for
`lastUpdated`. -/
structure Call where
  roomId : RoomId
  text : String
  speaker : String
  now : DiagramType → ℕ × ℕ

/-- The body of the loop over the types that have been detected. -/
def Call.record (call : Call) (contexts : DiagramContexts) (entry : DiagramType × List String) :
    DiagramContexts :=
  let diagramContext := contexts entry.1
  Function.update contexts entry.1
    { keywords := uniqueKeywords (diagramContext.keywords ++ entry.2)
      statements := diagramContext.statements ++
        [⟨call.speaker, call.text, entry.2, (call.now entry.1).1⟩]
      lastUpdated := (call.now entry.1).2 }

/-- `updateDiagramContexts`. -/
def updateDiagramContexts (activeRooms : JsMap RoomId DiagramContexts) (call : Call) :
    JsMap RoomId DiagramContexts :=
  match activeRooms.get call.roomId with
  | none => activeRooms
  | some contexts =>
    activeRooms.set call.roomId
      ((detectDiagramKeywords toLowerCase call.text).entries.foldl call.record contexts)

/-- The calls of a history. -/
def run (activeRooms : JsMap RoomId DiagramContexts) (calls : List Call) :
    JsMap RoomId DiagramContexts :=
  calls.foldl (updateDiagramContexts toLowerCase) activeRooms

end Update

/-- An utterance as it is written down. -/
def DiagramStatement.line (s : DiagramStatement) : String :=
  "[" ++ s.speaker ++ "] " ++ s.text ++ " (키워드: " ++ ", ".intercalate s.keywords ++ ")"

/-- `buildFocusedTranscript`. -/
def buildFocusedTranscript (activeRooms : JsMap RoomId DiagramContexts) (roomId : RoomId)
    (type : DiagramType) : Option String :=
  (activeRooms.get roomId).bind fun contexts =>
    let ctx := contexts type
    if ctx.statements.length = 0 then none
    else
      let sortedStatements := ctx.statements.mergeSort fun a b => a.timestamp ≤ b.timestamp
      some ("\n".intercalate (sortedStatements.map DiagramStatement.line))

/-! ## What has been said -/

section History

variable (toLowerCase : String → String)

/-- An utterance has a keyword of a type, up to case. -/
def Mentions (type : DiagramType) (call : Call) : Prop :=
  ∃ keyword ∈ keywordsOf type, (toLowerCase keyword).toList <:+: (toLowerCase call.text).toList

instance (type : DiagramType) : DecidablePred (Mentions toLowerCase type) := fun call =>
  inferInstanceAs (Decidable (∃ keyword ∈ keywordsOf type,
    (toLowerCase keyword).toList <:+: (toLowerCase call.text).toList))

/-- An utterance with those keywords of a type that it has. -/
def Call.statement (call : Call) (type : DiagramType) : DiagramStatement where
  speaker := call.speaker
  text := call.text
  keywords := (keywordsOf type).filter fun keyword =>
    (toLowerCase keyword).toList <:+: (toLowerCase call.text).toList
  timestamp := (call.now type).1

/-- The utterances of a history in a room that are about a type. -/
def history (calls : List Call) (roomId : RoomId) (type : DiagramType) : List DiagramStatement :=
  (calls.filter fun call => call.roomId = roomId ∧ Mentions toLowerCase type call).map
    fun call => call.statement toLowerCase type

/-- The clock does not go back between two calls. -/
def ClockRuns (calls : List Call) : Prop :=
  calls.Pairwise fun earlier later => ∀ type, (earlier.now type).1 ≤ (later.now type).1

/-! ## One utterance -/

/-- The keywords of an utterance are some exactly if it has one. -/
lemma keywords_ne_nil_iff (call : Call) (type : DiagramType) :
    (call.statement toLowerCase type).keywords ≠ [] ↔ Mentions toLowerCase type call := by
  simp [Call.statement, Mentions, List.filter_eq_nil_iff]

/-- What is detected in a table of types: the last entry of a type counts. -/
lemma get_foldl_detect (text : String) (type : DiagramType)
    {table : List (DiagramType × List String)} (h : (table.map Prod.fst).Nodup)
    (result : JsMap DiagramType (List String)) :
    (table.foldl (fun result entry =>
      let matchedKeywords := entry.2.filter (includes toLowerCase text)
      if 0 < matchedKeywords.length then result.set entry.1 matchedKeywords else result)
        result).get type =
      match Assoc.get type table with
      | none => result.get type
      | some keywords =>
        if keywords.filter (includes toLowerCase text) ≠ [] then
          some (keywords.filter (includes toLowerCase text))
        else result.get type := by
  induction table generalizing result with
  | nil => rfl
  | cons entry table ih =>
    rw [List.map_cons, List.nodup_cons] at h
    rw [List.foldl_cons, ih h.2]
    by_cases htype : entry.1 = type
    · have hrest : Assoc.get type table = none :=
        (Assoc.get_eq_none_iff type table).mpr (htype ▸ h.1)
      simp only [hrest, Assoc.get, htype, if_true, List.length_pos_iff]
      split <;> simp
    · simp only [Assoc.get, htype, if_false]
      have hkeep : (if 0 < (entry.2.filter (includes toLowerCase text)).length then
          result.set entry.1 (entry.2.filter (includes toLowerCase text)) else result).get type =
          result.get type := by
        split
        · exact JsMap.get_set_of_ne _ htype _
        · rfl
      simp only [hkeep]

/-- **What is detected**: the keywords of the types that the utterance mentions. -/
lemma get_detectDiagramKeywords (call : Call) (type : DiagramType) :
    (detectDiagramKeywords toLowerCase call.text).get type =
      if Mentions toLowerCase type call then
        some (call.statement toLowerCase type).keywords
      else none := by
  have hnodup : (DIAGRAM_KEYWORDS.map Prod.fst).Nodup := by decide
  have htable : Assoc.get type DIAGRAM_KEYWORDS = some (keywordsOf type) := by cases type <;> rfl
  have hget := get_foldl_detect toLowerCase call.text type hnodup ∅
  rw [htable] at hget
  refine hget.trans ?_
  have hiff : (keywordsOf type).filter (includes toLowerCase call.text) ≠ [] ↔
      Mentions toLowerCase type call := keywords_ne_nil_iff toLowerCase call type
  exact if_congr hiff rfl rfl

/-- What is recorded for a type depends on its context only. -/
lemma record_congr (call : Call) (keywords : List String) {type : DiagramType}
    {contexts contexts' : DiagramContexts} (h : contexts type = contexts' type) :
    call.record contexts (type, keywords) type = call.record contexts' (type, keywords) type := by
  simp only [Call.record, Function.update_self, h]

/-- The context of a type after an utterance has been recorded for some types. -/
lemma foldl_record (call : Call) (contexts : DiagramContexts) (type : DiagramType)
    {entries : List (DiagramType × List String)} (h : (entries.map Prod.fst).Nodup) :
    entries.foldl call.record contexts type =
      match Assoc.get type entries with
      | none => contexts type
      | some keywords => call.record contexts (type, keywords) type := by
  induction entries generalizing contexts with
  | nil => rfl
  | cons entry entries ih =>
    rw [List.map_cons, List.nodup_cons] at h
    rw [List.foldl_cons, ih _ h.2]
    by_cases htype : entry.1 = type
    · subst htype
      simp [Assoc.get, (Assoc.get_eq_none_iff entry.1 entries).mpr h.1]
    · have hother : call.record contexts entry type = contexts type :=
        Function.update_of_ne (Ne.symm htype) _ _
      simp only [Assoc.get, htype, if_false]
      cases Assoc.get type entries with
      | none => exact hother
      | some keywords => exact record_congr call keywords hother

/-- **One utterance** is recorded in the contexts of the types that it mentions. -/
lemma get_updateDiagramContexts {activeRooms : JsMap RoomId DiagramContexts} {roomId : RoomId}
    {contexts : DiagramContexts} (h : activeRooms.get roomId = some contexts) (call : Call) :
    ∃ contexts', (updateDiagramContexts toLowerCase activeRooms call).get roomId =
        some contexts' ∧
      ∀ type, contexts' type =
        if call.roomId = roomId ∧ Mentions toLowerCase type call then
          call.record contexts (type, (call.statement toLowerCase type).keywords) type
        else contexts type := by
  unfold updateDiagramContexts
  by_cases hroom : call.roomId = roomId
  · subst hroom
    refine ⟨_, by rw [h, JsMap.get_set_self], fun type => ?_⟩
    rw [foldl_record call contexts type (JsMap.nodup _)]
    have hget := get_detectDiagramKeywords toLowerCase call type
    unfold JsMap.get at hget
    rw [hget]
    by_cases hmentions : Mentions toLowerCase type call <;> simp [hmentions]
  · refine ⟨contexts, ?_, fun type => by rw [if_neg fun hboth => hroom hboth.1]⟩
    cases activeRooms.get call.roomId with
    | none => exact h
    | some other => rwa [JsMap.get_set_of_ne _ hroom]

/-! ## Keywords -/

/-- What is not repeated stays as it is. -/
lemma eraseDups_eraseDups (keywords : List String) :
    keywords.eraseDups.eraseDups = keywords.eraseDups := by
  induction hlength : keywords.length using Nat.strong_induction_on generalizing keywords with
  | _ n ih =>
    cases keywords with
    | nil => rfl
    | cons k keywords =>
      have hle : (keywords.filter fun k' => !k' == k).length < n := by
        have := List.length_filter_le (fun k' => !k' == k) keywords
        rw [← hlength, List.length_cons]
        omega
      have hfirst : (keywords.filter fun k' => !k' == k).eraseDups.filter (fun k' => !k' == k) =
          (keywords.filter fun k' => !k' == k).eraseDups :=
        List.filter_eq_self.mpr fun k' hk' =>
          (List.mem_filter.mp (List.mem_eraseDups.mp hk')).2
      rw [List.eraseDups_cons, List.eraseDups_cons, hfirst, ih _ hle _ rfl]

/-- Keywords are added behind those that are there. -/
lemma foldl_add_eq (keywords seen : List String) :
    keywords.foldl (JsSet.add fun a b => a = b) seen =
      seen ++ (keywords.filter fun k => k ∉ seen).eraseDups := by
  induction keywords generalizing seen with
  | nil => simp
  | cons k keywords ih =>
    rw [List.foldl_cons, ih]
    by_cases hk : k ∈ seen
    · have hadd : JsSet.add (fun a b => decide (a = b)) seen k = seen :=
        JsSet.add_eq_self_iff.mpr (by simpa [JsSet.has] using hk)
      simp [hadd, hk]
    · have hadd : JsSet.add (fun a b => decide (a = b)) seen k = seen ++ [k] := by
        simp [JsSet.add, JsSet.has, hk]
      simp [hadd, hk, List.eraseDups_cons, List.filter_filter, beq_eq_decide,
        Bool.and_comm]

/-- The keywords of a set are those that are not repeated, in the order of their first places. -/
lemma uniqueKeywords_eq (keywords : List String) :
    uniqueKeywords keywords = keywords.eraseDups := by
  simp [uniqueKeywords, foldl_add_eq]

/-- **A set that is made anew** with more keywords is that of all keywords so far. -/
lemma uniqueKeywords_append (keywords keywords' : List String) :
    uniqueKeywords (keywords.eraseDups ++ keywords') = (keywords ++ keywords').eraseDups := by
  have hnew : keywords'.removeAll keywords.eraseDups = keywords'.removeAll keywords :=
    List.filter_congr fun k _ => by simp
  rw [uniqueKeywords_eq, List.eraseDups_append, eraseDups_eraseDups, hnew, List.eraseDups_append]

/-! ## Histories -/

/-- One more utterance. -/
lemma history_append (calls : List Call) (call : Call) (roomId : RoomId) (type : DiagramType) :
    history toLowerCase (calls ++ [call]) roomId type =
      history toLowerCase calls roomId type ++
        if call.roomId = roomId ∧ Mentions toLowerCase type call then
          [call.statement toLowerCase type]
        else [] := by
  unfold history
  rw [List.filter_append, List.map_append]
  split <;> simp_all

/-- **What is recorded** after a history: the utterances that mention a type, and their keywords. -/
lemma get_run {activeRooms : JsMap RoomId DiagramContexts} {roomId : RoomId}
    (h : activeRooms.get roomId = some createEmptyDiagramContexts) (calls : List Call) :
    ∃ contexts, (run toLowerCase activeRooms calls).get roomId = some contexts ∧
      ∀ type, (contexts type).statements = history toLowerCase calls roomId type ∧
        (contexts type).keywords =
          ((history toLowerCase calls roomId type).flatMap (·.keywords)).eraseDups := by
  induction calls using List.reverseRecOn with
  | nil => exact ⟨createEmptyDiagramContexts, h, fun _ => ⟨rfl, rfl⟩⟩
  | append_singleton calls call ih =>
    obtain ⟨contexts, hget, hcontexts⟩ := ih
    obtain ⟨contexts', hget', hcontexts'⟩ := get_updateDiagramContexts toLowerCase hget call
    refine ⟨contexts', by rwa [run, List.foldl_append], fun type => ?_⟩
    obtain ⟨hstatements, hkeywords⟩ := hcontexts type
    rw [hcontexts' type, history_append]
    split
    · refine ⟨?_, ?_⟩
      · simp [Call.record, Call.statement, hstatements]
      · simp only [Call.record, Function.update_self, hkeywords, List.flatMap_append,
          List.flatMap_singleton, uniqueKeywords_append]
    · simpa using ⟨hstatements, hkeywords⟩

/-- The utterances of a history are sorted by time if the clock runs. -/
lemma pairwise_history {calls : List Call} {roomId : RoomId}
    (h : ClockRuns (calls.filter fun call => call.roomId = roomId)) (type : DiagramType) :
    (history toLowerCase calls roomId type).Pairwise fun a b => a.timestamp ≤ b.timestamp := by
  have hsub : (calls.filter fun call =>
      call.roomId = roomId ∧ Mentions toLowerCase type call).Sublist
        (calls.filter fun call => call.roomId = roomId) := by
    refine List.monotone_filter_right calls fun call hcall => ?_
    simp only [decide_eq_true_eq] at hcall ⊢
    exact hcall.1
  exact List.pairwise_map.mpr ((h.sublist hsub).imp fun hle => hle type)

/-- **Diagram contexts hold what has been said.** After any sequence of utterances in which the
clock of a room does not go back, the context of each type has just those utterances in the room
that have a keyword of the type, each with its keywords, in order; the keywords of the context are
those of these utterances without repetitions, in the order of their first places; and the
transcript has these utterances in order, and is there if there are any. -/
theorem contexts_record_history (activeRooms : JsMap RoomId DiagramContexts) (roomId : RoomId)
    (h : activeRooms.get roomId = some createEmptyDiagramContexts) (calls : List Call)
    (hclock : ClockRuns (calls.filter fun call => call.roomId = roomId)) (type : DiagramType) :
    let said := history toLowerCase calls roomId type
    let after := run toLowerCase activeRooms calls
    (∃ contexts, after.get roomId = some contexts ∧ (contexts type).statements = said ∧
      (contexts type).keywords = (said.flatMap (·.keywords)).eraseDups) ∧
    buildFocusedTranscript after roomId type =
      if said = [] then none else some ("\n".intercalate (said.map DiagramStatement.line)) := by
  intro said after
  obtain ⟨contexts, hget, hcontexts⟩ := get_run toLowerCase h calls
  obtain ⟨hstatements, hkeywords⟩ := hcontexts type
  refine ⟨⟨contexts, hget, hstatements, hkeywords⟩, ?_⟩
  have hsorted : said.mergeSort (fun a b => a.timestamp ≤ b.timestamp) = said :=
    List.mergeSort_of_pairwise (by simpa using pairwise_history toLowerCase hclock type)
  simp only [buildFocusedTranscript, hget, Option.bind_some, hstatements, List.length_eq_zero_iff,
    hsorted, after, said]

end History

/-- Two utterances in a room, and one in another room, at one time. -/
def talk : List Call :=
  [⟨"r", "API 호출", "kim", fun _ => (5, 5)⟩, ⟨"q", "API", "park", fun _ => (5, 5)⟩,
    ⟨"r", "api 응답", "lee", fun _ => (5, 6)⟩]

/-- The transcript of the room for a sequence diagram. -/
theorem contexts_record_history_talk :
    let toLowerCase : String → String := fun s => String.ofList (s.toList.map Char.toLower)
    buildFocusedTranscript
      (run toLowerCase ((∅ : JsMap RoomId DiagramContexts).set "r" createEmptyDiagramContexts) talk)
        "r" .sequence =
      some "[kim] API 호출 (키워드: API, 호출)\n[lee] api 응답 (키워드: API, 응답)" := by
  intro toLowerCase
  have hclock : ClockRuns (talk.filter fun call => call.roomId = "r") := by
    simp [ClockRuns, talk]
  exact (contexts_record_history toLowerCase _ "r" (JsMap.get_set_self _ _ _) talk hclock
    .sequence).2.trans (by decide +kernel)

end Diagrams
