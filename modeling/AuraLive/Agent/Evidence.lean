import AuraLive.Foundations.Double
import AuraLive.Foundations.JsDate
import AuraLive.Foundations.JsMap
import AuraLive.VoiceBot.State
import Mathlib.Algebra.Order.BigOperators.Group.List
import Mathlib.Data.List.Infix
import Mathlib.Data.List.Sort

set_option relaxedAutoImplicit false
set_option autoImplicit false

/-!
# Evidence

`EvidenceRepository` keeps verified evidence and finds what fits a text. The fields of an evidence
come from outside: a date is compared as what `new Date` makes of it, a number of participants as
what the comparison makes of it, and a comparison with `NaN` rejects nothing.

## Main definitions

* `Evidence.Value`, `Evidence.Runtime` — the values of fields, and their conversions.
* `Evidence.Repository`, `Call` — the stored evidence and the calls that change it.
* `Evidence.isEvidenceValid`, `calculateConfidence`, `findRelevantEvidence` — the search.
* `Evidence.Verified` — what the search is to make sure of.
* `Evidence.Comparable` — what is compared is a number.

## Main results

* `Evidence.findRelevantEvidence_eq_some` — what a search returns.
* `Evidence.findRelevantEvidence_verified_iff` — only verified evidence is returned if and only if
  the values of all evidence that fits are comparable.
* `Evidence.unverified_evidence_shown` — an evidence of no date, and a survey of many.
* `Evidence.findRelevantEvidence_mono` — a longer text finds what a part of it finds.

## Design

* **Exceptions.** A conversion of an object may throw, and the search then returns nothing: `none`.
* **Clock.** The clock stands still during a search.
* **Texts.** Letters are changed to lower case one by one, and a text contains another one if its
  letters do.
* **Numbers.** Confidences are doubles. What is computed of the configuration alone is a whole
  number, and exact.
-/

namespace Evidence

open Foundations VoiceBot Double

/-! ## Values -/

/-- A number: a finite one, an infinite one, or `NaN`, which is `none`. -/
abbrev Number := Option (WithBot (WithTop ℚ))

/-- The value of a field. An object is converted to a text first, which may throw. -/
inductive Value where
  | undefined
  | null
  | bool (b : Bool)
  | number (n : Number)
  | text (s : String)
  | object (primitive : Option String)
  deriving DecidableEq

/-- The truth test on a value. -/
def Value.truthy : Value → Bool
  | .undefined | .null => false
  | .bool b => b
  | .number n => n.any (· ≠ 0)
  | .text s => s ≠ ""
  | .object _ => true

/-- What the language does with texts and dates. -/
structure Runtime where
  /-- The letters of a letter in lower case. -/
  lower : Char → List Char
  /-- The number that a text stands for. -/
  stringToNumber : String → Number
  /-- The time value of a text, unless it is `NaN`. -/
  parseDate : String → Option ℤ
  /-- The local time. -/
  zone : JsDate.TimeZone

/-- The number that a value is compared as, unless the conversion throws. -/
def Runtime.toNumber (rt : Runtime) : Value → Option Number
  | .undefined => some none
  | .null => some (some 0)
  | .bool b => some (some (if b then 1 else 0))
  | .number n => some n
  | .text s => some (rt.stringToNumber s)
  | .object primitive => primitive.map rt.stringToNumber

/-- The time value of a number. -/
def timeOfNumber : Number → Option ℤ
  | some (some (some q)) => JsDate.timeClip (if 0 ≤ q then ⌊q⌋ else ⌈q⌉)
  | _ => none

/-- `new Date(value).getTime()`, unless the conversion throws. -/
def Runtime.timeValue (rt : Runtime) : Value → Option (Option ℤ)
  | .text s => some (rt.parseDate s)
  | .object primitive => primitive.map rt.parseDate
  | v => (rt.toNumber v).map timeOfNumber

/-- `n < bound`, which is false of `NaN`. -/
def isBelow (n : Number) (bound : ℕ) : Bool := n.any (· < (bound : WithBot (WithTop ℚ)))

/-! ## The repository -/

/-- The fields of a `VerifiedEvidence` that the search reads. -/
structure VerifiedEvidence where
  id : String
  topic : String
  keywords : List String
  sourceType : Value
  verifiedDate : Value
  participantCount : Value
  isActive : Value
  deriving DecidableEq

/-- The fields of an `OpinionConfig` that the search reads. -/
structure OpinionConfig where
  maxEvidenceAgeMonths : ℕ
  minSurveyParticipants : ℕ

/-- `DEFAULT_OPINION_CONFIG`. -/
def DEFAULT_OPINION_CONFIG : OpinionConfig := ⟨24, 10000⟩

/-- `evidenceMap`. -/
abbrev Repository := JsMap String VerifiedEvidence

/-- The calls that change the repository. -/
inductive Call where
  | add (evidence : VerifiedEvidence)
  | deactivate (id : String)

namespace Repository

variable (repository : Repository)

/-- `add`. -/
def add (evidence : VerifiedEvidence) : Repository := repository.set evidence.id evidence

/-- `deactivate`, with what it returns. -/
def deactivate (id : String) : Repository × Bool :=
  match repository.get id with
  | some evidence => (repository.set id { evidence with isActive := .bool false }, true)
  | none => (repository, false)

/-- The repository after a call. -/
def after : Call → Repository
  | .add evidence => repository.add evidence
  | .deactivate id => (repository.deactivate id).1

/-- The repository after some calls. -/
def afterAll (calls : List Call) : Repository := calls.foldl after repository

/-- `getAll`. -/
def getAll : List VerifiedEvidence :=
  (repository.entries.map Prod.snd).filter fun evidence => evidence.isActive.truthy

end Repository

/-! ## The search -/

section Search

variable (rt : Runtime) (config : OpinionConfig) (now : ℤ)

/-- `maxAgeMs`. -/
def OpinionConfig.maxAgeMs : ℤ := config.maxEvidenceAgeMonths * 30 * 24 * 60 * 60 * 1000

/-- `isEvidenceValid`, unless a conversion throws. -/
def isEvidenceValid (evidence : VerifiedEvidence) : Option Bool :=
  if !evidence.isActive.truthy then some false
  else
    match rt.timeValue evidence.verifiedDate with
    | none => none
    | some verifiedDate =>
      if verifiedDate.any fun t => config.maxAgeMs < now - t then some false
      else if evidence.sourceType = .text "large_survey" then
        if !evidence.participantCount.truthy then some false
        else
          (rt.toNumber evidence.participantCount).map fun n =>
            !isBelow n config.minSurveyParticipants
      else some true

/-- `toLowerCase`. -/
def Runtime.toLowerCase (s : String) : List Char := s.toList.flatMap rt.lower

/-- `getKeywordWeight`. -/
def getKeywordWeight (keyword : String) : ℕ :=
  if 6 ≤ jsLength keyword then 3 else if 4 ≤ jsLength keyword then 2 else 1

/-- The keywords that the text contains. -/
def matchedKeywords (text : String) (evidence : VerifiedEvidence) : List String :=
  evidence.keywords.filter fun keyword => rt.toLowerCase keyword <:+: rt.toLowerCase text

/-- `keywordScore`. -/
def keywordScore (text : String) (evidence : VerifiedEvidence) : ℕ :=
  ((matchedKeywords rt text evidence).map getKeywordWeight).sum

/-- `topicWords`. -/
def topicWords (evidence : VerifiedEvidence) : List (List Char) :=
  (rt.toLowerCase evidence.topic).splitOn ' '

/-- `topicMatchCount`. -/
def topicMatchCount (text : String) (evidence : VerifiedEvidence) : ℕ :=
  (topicWords rt evidence).countP fun word =>
    1 < jsLength (String.ofList word) && decide (word <:+: rt.toLowerCase text)

/-- `getSourceTypeBonus`. -/
def getSourceTypeBonus (sourceType : Value) : ℕ :=
  if sourceType = .text "standard_organization" then 20
  else if sourceType = .text "official_announcement" then 18
  else if sourceType = .text "large_survey" then 15
  else if sourceType = .text "academic_paper" then 15
  else if sourceType = .text "statistics_agency" then 12
  else 0

/-- `getAgeInMonths`, `none` for a date that is `NaN`. -/
def getAgeInMonths (verifiedDate : Option ℤ) : Option ℤ :=
  verifiedDate.map fun date =>
    (rt.zone.getFullYear now - rt.zone.getFullYear date) * 12 +
      (rt.zone.getMonth now - rt.zone.getMonth date)

/-- The bonus for what is recent, none if the age is `NaN`. -/
def recencyBonus (ageInMonths : Option ℤ) : ℕ :=
  if ageInMonths.any (· ≤ 6) then 5 else if ageInMonths.any (· ≤ 12) then 3 else 0

/-- `calculateConfidence`; the number of matched keywords is not read. The date has been converted
before. -/
def calculateConfidence (_matchedCount keywordScore topicMatchCount totalTopicWords : ℕ)
    (evidence : VerifiedEvidence) : ℤ :=
  let keywords : ℚ := (min (keywordScore * 10) 50 : ℕ)
  let topicRatio := toDouble (topicMatchCount / max totalTopicWords 1)
  let topics := toDouble (keywords + toDouble (topicRatio * 30))
  let source := toDouble (topics + getSourceTypeBonus evidence.sourceType)
  let ageInMonths := getAgeInMonths rt now (rt.timeValue evidence.verifiedDate).join
  min (round (toDouble (source + recencyBonus ageInMonths))) 100

/-- An `EvidenceMatchResult`. -/
structure EvidenceMatchResult where
  evidence : VerifiedEvidence
  confidence : ℤ
  matchedKeywords : List String

/-- The confidence in an evidence for a text. -/
def confidenceFor (text : String) (evidence : VerifiedEvidence) : ℤ :=
  calculateConfidence rt now (matchedKeywords rt text evidence).length
    (keywordScore rt text evidence) (topicMatchCount rt text evidence)
    (topicWords rt evidence).length evidence

/-- The text contains a keyword, and the confidence is high enough. -/
def Fits (text : String) (evidence : VerifiedEvidence) : Prop :=
  50 ≤ confidenceFor rt now text evidence ∧ 0 < (matchedKeywords rt text evidence).length

instance (text : String) (evidence : VerifiedEvidence) : Decidable (Fits rt now text evidence) :=
  inferInstanceAs (Decidable (_ ∧ _))

/-- The loop of `findRelevantEvidence`, unless a conversion throws. -/
def collect (text : String) : List VerifiedEvidence → Option (List EvidenceMatchResult)
  | [] => some []
  | evidence :: rest =>
    match isEvidenceValid rt config now evidence with
    | none => none
    | some false => collect text rest
    | some true =>
      if Fits rt now text evidence then
        (collect text rest).map fun results =>
          ⟨evidence, confidenceFor rt now text evidence, matchedKeywords rt text evidence⟩ ::
            results
      else collect text rest

/-- `findRelevantEvidence`. -/
def findRelevantEvidence (repository : Repository) (text : String) :
    Option (List EvidenceMatchResult) :=
  (collect rt config now text repository.getAll).map fun results =>
    results.insertionSort fun a b => b.confidence ≤ a.confidence

/-! ### What a search returns -/

variable {rt config now}

/-- The result for an evidence that fits. -/
def resultFor (rt : Runtime) (now : ℤ) (text : String) (evidence : VerifiedEvidence) :
    EvidenceMatchResult :=
  ⟨evidence, confidenceFor rt now text evidence, matchedKeywords rt text evidence⟩

/-- The loop ends if no conversion throws, with the results for what is valid and fits. -/
lemma collect_eq_some {text : String} : ∀ {es : List VerifiedEvidence}
    {results : List EvidenceMatchResult}, collect rt config now text es = some results ↔
      (∀ e ∈ es, (isEvidenceValid rt config now e).isSome) ∧
      results = (es.filter fun e =>
        isEvidenceValid rt config now e = some true ∧ Fits rt now text e).map
          (resultFor rt now text)
  | [], results => by
    simp only [collect, Option.some_inj, List.filter_nil, List.map_nil, List.not_mem_nil,
      false_implies, implies_true, true_and]
    exact eq_comm
  | e :: es, results => by
    rw [List.forall_mem_cons, List.filter_cons]
    cases hvalid : isEvidenceValid rt config now e with
    | none => simp [collect, hvalid]
    | some valid =>
      cases valid with
      | false => simp [collect, hvalid, collect_eq_some]
      | true =>
        by_cases hfits : Fits rt now text e
        · simp only [collect, hvalid, hfits, if_true, and_self, decide_true, List.map_cons,
            Option.map_eq_some_iff, collect_eq_some, Option.isSome_some, true_and]
          constructor
          · rintro ⟨_, ⟨hall, rfl⟩, rfl⟩
            exact ⟨hall, rfl⟩
          · rintro ⟨hall, rfl⟩
            exact ⟨_, ⟨hall, rfl⟩, rfl⟩
        · simp [collect, hvalid, hfits, collect_eq_some]

/-- **What a search returns**: unless a conversion throws, the results for the active evidence that
is valid and fits, sorted. -/
lemma findRelevantEvidence_eq_some {repository : Repository} {text : String}
    {results : List EvidenceMatchResult} :
    findRelevantEvidence rt config now repository text = some results ↔
      (∀ e ∈ repository.getAll, (isEvidenceValid rt config now e).isSome) ∧
      results = ((repository.getAll.filter fun e =>
        isEvidenceValid rt config now e = some true ∧ Fits rt now text e).map
          (resultFor rt now text)).insertionSort fun a b => b.confidence ≤ a.confidence := by
  rw [findRelevantEvidence, Option.map_eq_some_iff]
  simp only [collect_eq_some]
  constructor
  · rintro ⟨_, ⟨hall, rfl⟩, rfl⟩
    exact ⟨hall, rfl⟩
  · rintro ⟨hall, rfl⟩
    exact ⟨_, ⟨hall, rfl⟩, rfl⟩

/-- The results of a search. -/
lemma mem_results {repository : Repository} {text : String} {results : List EvidenceMatchResult}
    (h : findRelevantEvidence rt config now repository text = some results)
    {r : EvidenceMatchResult} :
    r ∈ results ↔ ∃ e ∈ repository.getAll, isEvidenceValid rt config now e = some true ∧
      Fits rt now text e ∧ resultFor rt now text e = r := by
  rw [(findRelevantEvidence_eq_some.mp h).2, List.mem_insertionSort]
  simp only [List.mem_map, List.mem_filter, decide_eq_true_eq, and_assoc]

end Search

/-! ## Verified evidence -/

section Verified

variable (rt : Runtime) (config : OpinionConfig) (now : ℤ)

/-- The evidence is a survey. -/
def VerifiedEvidence.IsSurvey (evidence : VerifiedEvidence) : Prop :=
  evidence.sourceType = .text "large_survey"

/-- The evidence is active, its date is an instant that is not too long ago, and if it is a survey
then enough have taken part. -/
structure Verified (evidence : VerifiedEvidence) : Prop where
  active : evidence.isActive.truthy
  recent : ∃ t, rt.timeValue evidence.verifiedDate = some (some t) ∧ now - t ≤ config.maxAgeMs
  participants : evidence.IsSurvey →
    ∃ n, rt.toNumber evidence.participantCount = some (some n) ∧ config.minSurveyParticipants ≤ n

/-- What is compared is a number: the time value of the date, and the number of participants of a
survey. -/
structure Comparable (evidence : VerifiedEvidence) : Prop where
  date : ∃ t, rt.timeValue evidence.verifiedDate = some (some t)
  count : evidence.IsSurvey → ∃ n, rt.toNumber evidence.participantCount = some (some n)

variable {rt config now} {evidence : VerifiedEvidence}

/-- **What is valid is verified** if and only if its values are comparable. -/
lemma verified_iff_comparable (h : isEvidenceValid rt config now evidence = some true) :
    Verified rt config now evidence ↔ Comparable rt evidence := by
  refine ⟨fun hv => ⟨hv.recent.imp fun _ => And.left, fun hs => (hv.participants hs).imp
    fun _ => And.left⟩, fun hc => ?_⟩
  obtain ⟨t, ht⟩ := hc.date
  have hactive : evidence.isActive.truthy := by
    by_contra hinactive
    rw [isEvidenceValid, if_pos (by simpa using hinactive)] at h
    cases h
  simp only [isEvidenceValid, hactive, ht, Bool.not_true, Bool.false_eq_true, if_false] at h
  split at h
  · cases h
  · rename_i hage
    refine ⟨hactive, ⟨t, ht, by simpa using hage⟩, fun hs => ?_⟩
    obtain ⟨n, hn⟩ := hc.count hs
    rw [if_pos (show evidence.sourceType = .text "large_survey" from hs)] at h
    split at h
    · cases h
    · rw [hn] at h
      refine ⟨n, hn, ?_⟩
      simpa [isBelow] using h

/-- **Only verified evidence is shown**, whatever was added and deactivated before, if and only if a
conversion throws or the values of all active evidence that is valid and fits the text are
comparable. -/
theorem findRelevantEvidence_verified_iff (rt : Runtime) (config : OpinionConfig) (now : ℤ)
    (repository : Repository) (calls : List Call) (text : String) :
    (∀ results, findRelevantEvidence rt config now (repository.afterAll calls) text = some results →
        ∀ r ∈ results, Verified rt config now r.evidence) ↔
      ((∀ e ∈ (repository.afterAll calls).getAll, (isEvidenceValid rt config now e).isSome) →
        ∀ e ∈ (repository.afterAll calls).getAll, isEvidenceValid rt config now e = some true →
          Fits rt now text e → Comparable rt e) := by
  constructor
  · intro h hall e he hvalid hfits
    obtain ⟨results, hresults⟩ : ∃ results, findRelevantEvidence rt config now
        (repository.afterAll calls) text = some results :=
      ⟨_, findRelevantEvidence_eq_some.mpr ⟨hall, rfl⟩⟩
    exact (verified_iff_comparable hvalid).mp
      (h _ hresults _ ((mem_results hresults).mpr ⟨e, he, hvalid, hfits, rfl⟩))
  · intro h results hresults r hr
    obtain ⟨e, he, hvalid, hfits, rfl⟩ := (mem_results hresults).mp hr
    exact (verified_iff_comparable hvalid).mpr
      (h (findRelevantEvidence_eq_some.mp hresults).1 e he hvalid hfits)

/-- A language in which only the first of 2026 is a date, and no text is a number. -/
def plainRuntime : Runtime where
  lower c := [c.toLower]
  stringToNumber _ := none
  parseDate s := if s = "2026-01" then some 1767225600000 else none
  zone := .fixed 0

/-- An evidence without a date. -/
def undated : VerifiedEvidence where
  id := "undated"
  topic := "TypeScript"
  keywords := ["typescript"]
  sourceType := .text "standard_organization"
  verifiedDate := .text "recently"
  participantCount := .undefined
  isActive := .bool true

/-- A survey without a number. -/
def uncounted : VerifiedEvidence :=
  { undated with
    id := "uncounted"
    sourceType := .text "large_survey"
    verifiedDate := .text "2026-01"
    participantCount := .text "many" }

/-- **Unverified evidence is shown**: one of no date, and a survey of many. -/
theorem unverified_evidence_shown :
    let repository := Repository.afterAll ∅ [.add undated, .add uncounted]
    (findRelevantEvidence plainRuntime DEFAULT_OPINION_CONFIG 1767225600000 repository
      "TypeScript?").map (·.map (·.evidence)) = some [undated, uncounted] ∧
    ¬ Verified plainRuntime DEFAULT_OPINION_CONFIG 1767225600000 undated ∧
    ¬ Verified plainRuntime DEFAULT_OPINION_CONFIG 1767225600000 uncounted := by
  refine ⟨by decide +kernel, fun h => ?_, fun h => ?_⟩
  · obtain ⟨t, ht, -⟩ := h.recent
    cases ht
  · obtain ⟨n, hn, -⟩ := h.participants rfl
    cases hn

end Verified

/-! ## Longer texts -/

section Longer

variable {rt : Runtime} {now : ℤ} {s t : String} {evidence : VerifiedEvidence}

/-- A part of a text is a part of it in lower case. -/
lemma toLowerCase_isInfix (h : s.toList <:+: t.toList) :
    rt.toLowerCase s <:+: rt.toLowerCase t := by
  obtain ⟨before, after, heq⟩ := h
  refine ⟨before.flatMap rt.lower, after.flatMap rt.lower, ?_⟩
  rw [Runtime.toLowerCase, Runtime.toLowerCase, ← heq, List.flatMap_append, List.flatMap_append]

/-- A longer text contains the keywords of a part of it. -/
lemma matchedKeywords_sublist (h : s.toList <:+: t.toList) :
    (matchedKeywords rt s evidence).Sublist (matchedKeywords rt t evidence) := by
  refine List.monotone_filter_right _ fun keyword hkeyword => ?_
  rw [decide_eq_true_eq] at hkeyword ⊢
  exact hkeyword.trans (toLowerCase_isInfix h)

/-- A text that contains another one has at least its score for the keywords. -/
lemma keywordScore_mono (h : s.toList <:+: t.toList) :
    keywordScore rt s evidence ≤ keywordScore rt t evidence :=
  ((matchedKeywords_sublist h).map getKeywordWeight).sum_le_sum fun _ _ => Nat.zero_le _

/-- A text that contains another one contains at least as many words of the topic. -/
lemma topicMatchCount_mono (h : s.toList <:+: t.toList) :
    topicMatchCount rt s evidence ≤ topicMatchCount rt t evidence := by
  refine List.countP_mono_left fun word _ hword => ?_
  rw [Bool.and_eq_true, decide_eq_true_eq, decide_eq_true_eq] at hword ⊢
  exact ⟨hword.1, hword.2.trans (toLowerCase_isInfix h)⟩

/-- **The confidence grows** with the score of the keywords and the words of the topic. -/
lemma calculateConfidence_mono {matched matched' score score' topic topic' total : ℕ}
    (hscore : score ≤ score') (htopic : topic ≤ topic') :
    calculateConfidence rt now matched score topic total evidence ≤
      calculateConfidence rt now matched' score' topic' total evidence := by
  have hkeywords : ((min (score * 10) 50 : ℕ) : ℚ) ≤ (min (score' * 10) 50 : ℕ) := by
    exact_mod_cast min_le_min_right 50 (Nat.mul_le_mul_right 10 hscore)
  have hratio : toDouble (topic / max total 1) ≤ toDouble (topic' / max total 1) :=
    toDouble_mono (by positivity)
      (div_le_div_of_nonneg_right (by exact_mod_cast htopic) (by positivity))
  have hratio0 : 0 ≤ toDouble (topic / max total 1) := toDouble_nonneg (by positivity)
  have htopics := toDouble_mono (mul_nonneg hratio0 (by norm_num : (0 : ℚ) ≤ 30))
    (mul_le_mul_of_nonneg_right hratio (by norm_num))
  have htopics0 := toDouble_nonneg (mul_nonneg hratio0 (by norm_num : (0 : ℚ) ≤ 30))
  have hsum := toDouble_mono (add_nonneg (Nat.cast_nonneg _) htopics0)
    (add_le_add hkeywords htopics)
  have hsum0 := toDouble_nonneg (add_nonneg (Nat.cast_nonneg (min (score * 10) 50)) htopics0)
  have hbonus (bonus : ℕ) {x y : ℚ} (hx : 0 ≤ x) (hxy : x ≤ y) :
      0 ≤ toDouble (x + bonus) ∧ toDouble (x + bonus) ≤ toDouble (y + bonus) :=
    ⟨toDouble_nonneg (by positivity), toDouble_mono (by positivity) (by linarith)⟩
  obtain ⟨hsource0, hsource⟩ := hbonus (getSourceTypeBonus evidence.sourceType) hsum0 hsum
  refine min_le_min_right _ ?_
  rw [round_eq, round_eq]
  refine Int.floor_le_floor (add_le_add_left ?_ _)
  exact (hbonus _ hsource0 hsource).2

/-- The confidence in an evidence is at least as high. -/
lemma confidenceFor_mono (h : s.toList <:+: t.toList) :
    confidenceFor rt now s evidence ≤ confidenceFor rt now t evidence :=
  calculateConfidence_mono (keywordScore_mono h) (topicMatchCount_mono h)

/-- A longer text fits what a part of it fits. -/
lemma Fits.mono (h : s.toList <:+: t.toList) (hfits : Fits rt now s evidence) :
    Fits rt now t evidence :=
  ⟨hfits.1.trans (confidenceFor_mono h),
    hfits.2.trans_le (matchedKeywords_sublist h).length_le⟩

/-- **A longer text finds what a part of it finds**, with at least the same confidence and
keywords; and every list of results is sorted, with confidences between 50 and 100. -/
theorem findRelevantEvidence_mono (rt : Runtime) (config : OpinionConfig) (now : ℤ)
    (repository : Repository) {s t : String} (hst : s.toList <:+: t.toList)
    {results : List EvidenceMatchResult}
    (h : findRelevantEvidence rt config now repository s = some results) :
    (∃ results', findRelevantEvidence rt config now repository t = some results' ∧
      ∀ r ∈ results, ∃ r' ∈ results', r'.evidence = r.evidence ∧
        r.confidence ≤ r'.confidence ∧ r.matchedKeywords ⊆ r'.matchedKeywords) ∧
    results.Pairwise (fun r r' => r'.confidence ≤ r.confidence) ∧
    ∀ r ∈ results, 50 ≤ r.confidence ∧ r.confidence ≤ 100 := by
  obtain ⟨hall, hresults⟩ := findRelevantEvidence_eq_some.mp h
  refine ⟨⟨_, findRelevantEvidence_eq_some.mpr ⟨hall, rfl⟩, fun r hr => ?_⟩, ?_, fun r hr => ?_⟩
  · obtain ⟨e, he, hvalid, hfits, rfl⟩ := (mem_results h).mp hr
    refine ⟨resultFor rt now t e, ?_, rfl, confidenceFor_mono hst,
      (matchedKeywords_sublist hst).subset⟩
    exact (mem_results (findRelevantEvidence_eq_some.mpr ⟨hall, rfl⟩)).mpr
      ⟨e, he, hvalid, hfits.mono hst, rfl⟩
  · have htotal : Std.Total fun a b : EvidenceMatchResult => b.confidence ≤ a.confidence :=
      ⟨fun a b => le_total b.confidence a.confidence⟩
    have htrans : IsTrans _ fun a b : EvidenceMatchResult => b.confidence ≤ a.confidence :=
      ⟨fun _ _ _ hab hbc => hbc.trans hab⟩
    rw [hresults]
    exact List.pairwise_insertionSort _ _
  · obtain ⟨e, -, -, hfits, rfl⟩ := (mem_results h).mp hr
    exact ⟨hfits.1, min_le_right _ _⟩

/-- What is found for a word is found for a question with it. -/
theorem findRelevantEvidence_mono_word :
    ∃ results, findRelevantEvidence plainRuntime DEFAULT_OPINION_CONFIG 1767225600000
        (Repository.afterAll ∅ [.add undated, .add uncounted]) "TypeScript" = some results ∧
      (∃ results', findRelevantEvidence plainRuntime DEFAULT_OPINION_CONFIG 1767225600000
          (Repository.afterAll ∅ [.add undated, .add uncounted]) "Why TypeScript?" =
            some results' ∧
        ∀ r ∈ results, ∃ r' ∈ results', r'.evidence = r.evidence ∧
          r.confidence ≤ r'.confidence ∧ r.matchedKeywords ⊆ r'.matchedKeywords) ∧
      results.Pairwise (fun r r' => r'.confidence ≤ r.confidence) ∧
      ∀ r ∈ results, 50 ≤ r.confidence ∧ r.confidence ≤ 100 := by
  obtain ⟨results, hresults⟩ : ∃ results, findRelevantEvidence plainRuntime DEFAULT_OPINION_CONFIG
      1767225600000 (Repository.afterAll ∅ [.add undated, .add uncounted]) "TypeScript" =
        some results :=
    Option.isSome_iff_exists.mp (by decide +kernel)
  exact ⟨results, hresults, findRelevantEvidence_mono plainRuntime DEFAULT_OPINION_CONFIG
    1767225600000 _ (by decide) hresults⟩

end Longer

end Evidence
