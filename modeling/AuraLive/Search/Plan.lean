import AuraLive.Intent.TimerCommands
import AuraLive.Search.Service

set_option relaxedAutoImplicit false
set_option autoImplicit false

/-!
# Plans of searches

`buildSearchPlan` of `llm/search.service.ts` decides what is searched for: nothing where the model
can answer by itself or the text says too little, else a query and a type, by the first keyword of
the first category that the text has.

## Main definitions

* `Search.CATEGORY_KEYWORDS`, `LOCATIONS`, `LLM_ANSWERABLE_PATTERNS` — the tables.
* `Search.buildSearchPlan` — the plan for a text.
* `Search.Planned` — a plan that can be searched for.

## Main results

* `Search.plan_cases` — a plan is empty or can be searched for, and its key is that of the search.
* `Search.buildSearchPlan_category_iff` — which texts lead to which category.

## Design

The conversion to lower case is a parameter. What is matched is a list of characters, as in the
commands for timers.
-/

namespace Search

open Foundations Regex Spacing VoiceBot Intent

/-! ## Tables -/

/-- An entry of `CATEGORY_KEYWORDS`. -/
structure Category where
  name : String
  keywords : List String
  searchType : NaverType

/-- `MEANINGLESS_KEYWORDS`. -/
def MEANINGLESS_KEYWORDS : List String :=
  ["어", "음", "그", "저", "아", "응", "네", "예", "뭐", "야", ".", "..", "...", "?", "!", ","]

/-- `GREETING_KEYWORDS`. -/
def GREETING_KEYWORDS : List String :=
  ["안녕", "안녕하세요", "안녕하십니까", "반가워", "반갑습니다", "하이", "헬로", "굿모닝", "굿나잇",
    "좋은 아침", "좋은 저녁", "좋은 하루", "수고", "수고해", "수고하세요", "고마워", "고맙습니다",
    "감사합니다", "잘자", "잘가", "바이", "바이바이", "또봐", "다음에"]

/-- `CATEGORY_KEYWORDS`. -/
def CATEGORY_KEYWORDS : List Category :=
  [⟨"카페", ["카페", "커피", "커피숍", "카페테리아", "스타벅스", "투썸", "이디야", "할리스", "블루보틀",
      "카공"], .localSearch⟩,
    ⟨"맛집", ["맛집", "식당", "레스토랑", "밥집", "음식점", "맛있는", "먹을만한", "저녁", "점심", "아침",
      "브런치"], .localSearch⟩,
    ⟨"술집", ["술집", "바", "포차", "호프", "이자카야", "와인바", "칵테일", "소주", "맥주", "회식"],
      .localSearch⟩,
    ⟨"분식", ["분식", "떡볶이", "김밥", "라면", "튀김", "순대", "어묵"], .localSearch⟩,
    ⟨"치킨", ["치킨", "BBQ", "BHC", "교촌", "굽네", "네네", "페리카나"], .localSearch⟩,
    ⟨"피자", ["피자", "도미노", "피자헛", "파파존스", "미스터피자"], .localSearch⟩,
    ⟨"빵집", ["빵집", "베이커리", "제과점", "빵", "케이크", "파리바게뜨", "뚜레쥬르", "성심당"],
      .localSearch⟩,
    ⟨"디저트", ["디저트", "케이크", "마카롱", "아이스크림", "젤라또", "와플", "크로플", "타르트"],
      .localSearch⟩,
    ⟨"쇼핑", ["쇼핑", "백화점", "마트", "아울렛", "몰", "매장", "가게", "상점"], .localSearch⟩,
    ⟨"팝업", ["팝업", "팝업스토어", "팝업 스토어", "한정", "오픈"], .localSearch⟩,
    ⟨"전시", ["전시", "전시회", "갤러리", "미술관", "박물관", "아트"], .localSearch⟩,
    ⟨"날씨", ["날씨", "기온", "온도", "비", "눈", "바람", "흐림", "맑음", "습도", "미세먼지", "우산",
      "더워", "추워", "덥", "춥", "기상", "일기예보"], .news⟩,
    ⟨"뉴스", ["뉴스", "소식", "기사", "속보", "이슈", "사건", "사고"], .news⟩,
    ⟨"주식", ["주식", "주가", "코스피", "코스닥", "나스닥", "증시", "투자", "종목"], .news⟩,
    ⟨"스포츠", ["스포츠", "축구", "야구", "농구", "배구", "경기", "결과", "스코어", "승패"], .news⟩,
    ⟨"영화", ["영화", "개봉", "상영", "박스오피스", "영화관", "CGV", "롯데시네마", "메가박스"], .news⟩,
    ⟨"백과", ["무엇인가", "정의", "의미", "개념", "역사", "원리", "효능", "효과", "부작용", "성분",
      "알려줘", "설명해"], .encyc⟩]

/-- `HYBRID_CATEGORIES`. -/
def HYBRID_CATEGORIES : List String := ["팝업", "전시", "영화"]

/-- `LOCATIONS`. -/
def LOCATIONS : List String :=
  ["서울", "부산", "대구", "인천", "광주", "대전", "울산", "세종", "경기", "강원", "충북", "충남",
    "전북", "전남", "경북", "경남", "제주", "강남", "홍대", "신촌", "잠실", "여의도", "판교", "성수",
    "이태원", "명동", "종로", "압구정", "청담", "삼성", "역삼", "선릉", "건대", "합정", "망원", "연남",
    "을지로", "성북", "혜화", "대학로", "분당", "일산", "수원", "용인", "화성", "평택", "안양", "부천"]

/-- `.*`: anything on the same line. -/
def anything : Regex Char :=
  .star (.char fun c => !"\n\r\u2028\u2029".toList.contains c)

/-- One of some words. -/
def words (ws : List String) : Regex Char := oneOfWords (ws.map String.toList)

/-- `LLM_ANSWERABLE_PATTERNS`. -/
def LLM_ANSWERABLE_PATTERNS : List (Regex Char) :=
  [.concat [words ["노래"], anything, words ["추천", "알려", "뭐", "좋아"]],
    .concat [words ["음악"], anything, words ["추천", "알려", "뭐", "좋아"]],
    .concat [words ["책"], anything, words ["추천", "알려", "뭐"]],
    .concat [words ["드라마"], anything, words ["추천", "알려"]],
    .concat [words ["게임"], anything, words ["추천", "알려"]],
    .concat [words ["운동"], anything, words ["추천", "알려", "방법"]],
    .concat [words ["어떻게"], anything, words ["생각"]],
    .concat [anything, words ["에 대해"], anything, words ["어떻게"]],
    .concat [anything, words ["란"], spaces, words ["뭐"]],
    .concat [anything, words ["가"], spaces, words ["뭐야"]],
    .concat [anything, words ["이"], spaces, words ["뭐야"]],
    .concat [words ["뭐"], anything, words ["할까"]],
    words ["심심한데"],
    .concat [words ["재밌는"], spaces, words ["거", "것", "이야기"]],
    words ["농담", "유머", "웃긴"]]

/-! ## Texts -/

/-- `text.includes(w)`. -/
def includes (text w : Text) : Bool := text.tails.any fun t => w.isPrefixOf t

/-- Matches are removed. -/
def without (pattern : Regex Char) (text : Text) : Text := pattern.replaceAll (fun _ => []) text

/-- `normalizeSearchQuery`. -/
def normalizeSearchQuery (rawQuery : Text) : Text :=
  let wakeWord : Regex Char := .concat [atStart,
    .oneOf [.concat [words ["아우라"], .opt (words ["야"])],
      .concat [words ["헤이"], spaces, words ["아우라"]],
      .concat [words ["아울라"], .opt (words ["야"])],
      .concat [words ["아우나"], .opt (words ["야"])],
      .concat [words ["오우라"], .opt (words ["야"])]], spaces]
  let particle : Regex Char := .concat [atStart,
    words ["와", "과", "그리고", "또", "좀", "아", "어", "야"], someSpaces]
  let request : Regex Char := .concat [wordBoundary,
    words ["추천해줘", "추천해 줘", "알려줘", "알려 줘", "찾아줘", "찾아 줘", "보여줘", "보여 줘"],
    wordBoundary]
  normalize isJsSpace ' '
    (without request (without particle (without wakeWord (trim isJsSpace rawQuery))))

/-- `text.replace(/[을를이가은는에서의으로]/g, ' ')`, then without some words, and normalised. -/
def cleaned (requests : List String) (text : Text) : Text :=
  normalize isJsSpace ' ' (without (words requests)
    (text.map fun c => if "을를이가은는에서의으로".toList.contains c then ' ' else c))

/-- `isMeaninglessQuery`. -/
def isMeaninglessQuery (query : Text) : Bool :=
  let trimmed := trim isJsSpace query
  trimmed.isEmpty ||
    ((collapse isJsSpace ' ' false trimmed).splitOn ' ').all fun word =>
      let cleaned := word.filter fun c => !".,?!".toList.contains c
      cleaned.isEmpty || (MEANINGLESS_KEYWORDS.map String.toList).contains cleaned

/-- The code units of a text. -/
def units (text : Text) : ℕ := jsLength (String.ofList text)

section Plan

variable (toLowerCase : Text → Text)

/-- `isGreeting`. -/
def isGreeting (query : Text) : Bool :=
  let trimmed := toLowerCase (trim isJsSpace query)
  (GREETING_KEYWORDS.any fun greeting =>
    trimmed = greeting.toList ∨ trimmed = greeting.toList ++ ['요'] ∨
      trimmed = greeting.toList ++ ['용']) ||
    (decide (units trimmed ≤ 5) &&
      GREETING_KEYWORDS.any fun greeting => greeting.toList.isPrefixOf trimmed)

/-- `extractLocation`. -/
def extractLocation (text : Text) : Option String :=
  LOCATIONS.find? fun loc => includes text loc.toList

/-! ## Plans -/

/-- What is searched for. -/
structure SearchPlan where
  query : String
  cacheKey : String
  searchType : SearchType
  category : Option String
  deriving DecidableEq

/-- Nothing is searched for. -/
def noPlan : SearchPlan := ⟨"", "", .none, none⟩

/-- A plan with the key that belongs to it. -/
def planOf (query : String) (searchType : SearchType) (category : String) : SearchPlan :=
  ⟨query, searchType.name ++ "|" ++ query, searchType, some category⟩

/-- The first category of which the text has a keyword, with the keyword. -/
def matchCategory (lowerBase : Text) : Option (Category × String) :=
  CATEGORY_KEYWORDS.findSome? fun category =>
    (category.keywords.find? fun keyword =>
      includes lowerBase (toLowerCase keyword.toList)).map (category, ·)

/-- The plan without a category. -/
def generalPlan (base : Text) : SearchPlan :=
  let cleanedQuery :=
    cleaned ["알려줘", "추천해줘", "찾아줘", "검색해줘", "에 대해", "대해서"] base
  if isMeaninglessQuery cleanedQuery then noPlan
  else if isGreeting toLowerCase cleanedQuery then noPlan
  else if cleanedQuery.countP (fun c => '가' ≤ c ∧ c ≤ '힣') < 2 then noPlan
  else planOf (String.ofList cleanedQuery) (.naver .web) "일반"

/-- The type of the search for a category. -/
def Category.searches (category : Category) : SearchType :=
  if HYBRID_CATEGORIES.contains category.name then .hybrid else .naver category.searchType

/-- The query for a category. -/
def categoryQuery (base : Text) (category : Category) (matchedKeyword : String) : String :=
  let location := (extractLocation base).getD "서울"
  if category.name = "날씨" then
    let timeWord :=
      if includes base "내일".toList then "내일"
      else if includes base "모레".toList then "모레"
      else if includes base "이번주".toList then "이번주"
      else "오늘"
    location ++ " " ++ timeWord ++ " 날씨"
  else if category.searches = .naver .localSearch ∨ category.searches = .hybrid then
    location ++ " " ++ category.name
  else
    match cleaned ["알려줘", "추천해줘", "찾아줘", "검색해줘"] base with
    | [] => matchedKeyword
    | query => String.ofList query

/-- The plan of a category. -/
def categoryPlan (base : Text) (category : Category) (matchedKeyword : String) : SearchPlan :=
  planOf (categoryQuery base category matchedKeyword) category.searches category.name

/-- `normalizeSearchQuery(rawQuery) || rawQuery.trim()`. -/
def baseOf (rawQuery : Text) : Text :=
  match normalizeSearchQuery rawQuery with
  | [] => trim isJsSpace rawQuery
  | base => base

/-- `buildSearchPlan`. -/
def buildSearchPlan (rawQuery : Text) : SearchPlan :=
  let base := baseOf rawQuery
  let lowerBase := toLowerCase base
  let hasLocation := LOCATIONS.any fun loc => includes lowerBase (toLowerCase loc.toList)
  if !hasLocation && LLM_ANSWERABLE_PATTERNS.any (fun p => (p.exec lowerBase).isSome) then noPlan
  else
    match matchCategory toLowerCase lowerBase with
    | none => generalPlan toLowerCase base
    | some (category, keyword) => categoryPlan base category keyword

/-! ## What a plan is -/

/-- The type of a category of plans. -/
def typeOfCategory (name : String) : SearchType :=
  if name = "일반" then .naver .web
  else if HYBRID_CATEGORIES.contains name then .hybrid
  else ((CATEGORY_KEYWORDS.find? (·.name = name)).map fun c => .naver c.searchType).getD .none

/-- A plan that can be searched for: it has a query, the type of its category, and the key under
which `search` keeps what it finds. -/
structure Planned (plan : SearchPlan) : Prop where
  query : plan.query ≠ ""
  searches : plan.searchType ≠ .none
  key : plan.cacheKey = cacheKey plan.searchType plan.query
  category : ∃ name, plan.category = some name ∧ plan.searchType = typeOfCategory name

/-- What is appended to something is not empty. -/
lemma append_ne_empty {s t : String} (h : t ≠ "") : s ++ t ≠ "" := by
  intro hst
  have hlist := congrArg String.toList hst
  rw [String.toList_append] at hlist
  exact h (String.toList_injective (List.append_eq_nil_iff.mp hlist).2)

/-- The names and the keywords of the categories are not empty, and no other category has the same
name. -/
lemma category_spec : ∀ category ∈ CATEGORY_KEYWORDS,
    category.name ≠ "" ∧ category.name ≠ "일반" ∧ (∀ keyword ∈ category.keywords, keyword ≠ "") ∧
      (CATEGORY_KEYWORDS.find? (·.name = category.name)).map (·.searchType) =
        some category.searchType := by
  decide

/-- A category that is matched is one of the table, and its keyword is one of the category. -/
lemma matchCategory_spec {lowerBase : Text} {category : Category} {keyword : String}
    (h : matchCategory toLowerCase lowerBase = some (category, keyword)) :
    category ∈ CATEGORY_KEYWORDS ∧ keyword ∈ category.keywords := by
  obtain ⟨c, hc, hfound⟩ := List.exists_of_findSome?_eq_some h
  obtain ⟨k, hk, heq⟩ := Option.map_eq_some_iff.mp hfound
  obtain ⟨rfl, rfl⟩ := Prod.mk.inj heq
  exact ⟨hc, List.mem_of_find?_eq_some hk⟩

/-- The plan without a category. -/
lemma generalPlan_cases (base : Text) :
    generalPlan toLowerCase base = noPlan ∨ Planned (generalPlan toLowerCase base) := by
  simp only [generalPlan]
  split
  · exact .inl rfl
  · split
    · exact .inl rfl
    · split
      · exact .inl rfl
      · rename_i hletters
        refine .inr ⟨fun hempty => hletters ?_, by simp [planOf], rfl, "일반", rfl, rfl⟩
        have hnil := congrArg String.toList hempty
        simp only [planOf, String.toList_ofList] at hnil
        rw [hnil]
        decide

/-- The query for a category is not empty. -/
lemma categoryQuery_ne_empty (base : Text) {category : Category} {keyword : String}
    (hname : category.name ≠ "") (hkeyword : keyword ≠ "") :
    categoryQuery base category keyword ≠ "" := by
  simp only [categoryQuery]
  split
  · exact append_ne_empty (by decide)
  · split
    · exact append_ne_empty hname
    · split
      · exact hkeyword
      · rename_i query hquery
        intro hempty
        exact hquery (by simpa using congrArg String.toList hempty)

/-- The plan of a category. -/
lemma planned_categoryPlan (base : Text) {category : Category} {keyword : String}
    (hcategory : category ∈ CATEGORY_KEYWORDS) (hkeyword : keyword ∈ category.keywords) :
    Planned (categoryPlan base category keyword) := by
  obtain ⟨hname, hgeneral, hkeywords, hfind⟩ := category_spec category hcategory
  refine ⟨categoryQuery_ne_empty base hname (hkeywords keyword hkeyword), ?_, rfl, category.name,
    rfl, ?_⟩
  · simp only [categoryPlan, planOf, Category.searches]
    split <;> simp
  · simp only [categoryPlan, planOf, Category.searches, typeOfCategory, if_neg hgeneral]
    split
    · rfl
    · obtain ⟨found, hfound, htype⟩ := Option.map_eq_some_iff.mp hfind
      rw [hfound, Option.map_some, Option.getD_some, htype]

/-- **Plans.** For every text nothing is searched for, or a query that is not empty, with the type
of its category, under the key of that search. -/
theorem plan_cases (rawQuery : Text) :
    buildSearchPlan toLowerCase rawQuery = noPlan ∨
      Planned (buildSearchPlan toLowerCase rawQuery) := by
  simp only [buildSearchPlan]
  split
  · exact .inl rfl
  · split
    · exact generalPlan_cases toLowerCase _
    · rename_i category keyword hmatch
      obtain ⟨hcategory, hkeyword⟩ := matchCategory_spec toLowerCase hmatch
      exact .inr (planned_categoryPlan _ hcategory hkeyword)

/-! ## Which texts lead to which category -/

/-- The category without a keyword. -/
lemma generalPlan_category (base : Text) :
    (generalPlan toLowerCase base).category = none ∨
      (generalPlan toLowerCase base).category = some "일반" := by
  simp only [generalPlan]
  repeat' split
  · exact .inl rfl
  · exact .inl rfl
  · exact .inl rfl
  · exact .inr rfl

/-- The keywords in the order in which they are looked for, with their categories. -/
def allKeywords : List (Category × String) :=
  CATEGORY_KEYWORDS.flatMap fun category => category.keywords.map (category, ·)

/-- What is matched is the first keyword that the text has. -/
lemma matchCategory_eq_find? (lowerBase : Text) :
    matchCategory toLowerCase lowerBase =
      allKeywords.find? fun entry => includes lowerBase (toLowerCase entry.2.toList) := by
  unfold matchCategory allKeywords
  induction CATEGORY_KEYWORDS with
  | nil => rfl
  | cons category categories ih =>
    rw [List.flatMap_cons, List.find?_append, List.find?_map, List.findSome?_cons, ih]
    simp only [Function.comp_def]
    cases category.keywords.find? fun keyword =>
        includes lowerBase (toLowerCase keyword.toList) with
    | none => rfl
    | some keyword => rfl

/-- The first keyword that a text has. -/
lemma matchCategory_eq_some_iff {lowerBase : Text} {entry : Category × String} :
    matchCategory toLowerCase lowerBase = some entry ↔
      ∃ before after, allKeywords = before ++ entry :: after ∧
        includes lowerBase (toLowerCase entry.2.toList) = true ∧
        ∀ earlier ∈ before, includes lowerBase (toLowerCase earlier.2.toList) = false := by
  rw [matchCategory_eq_find?, List.find?_eq_some_iff_append]
  constructor
  · rintro ⟨hentry, before, after, hsplit, hbefore⟩
    exact ⟨before, after, hsplit, hentry, fun earlier h => by simpa using hbefore earlier h⟩
  · rintro ⟨before, after, hsplit, hentry, hbefore⟩
    exact ⟨hentry, before, after, hsplit, fun earlier h => by simpa using hbefore earlier h⟩

/-- **Which texts lead to which category.** A text leads to a category of the table if and only if
it is not left to the model, and the first keyword that it has, in the order of the table, is one of
this category.

**Proof sketch.** What is left to the model has no category, and what has no keyword has none or the
general one. Otherwise the category is that of the pair that `matchCategory` finds, which is the
first one of the table whose keyword the text has (`matchCategory_eq_some_iff`). -/
theorem buildSearchPlan_category_iff (rawQuery : Text) {name : String} (hname : name ≠ "일반") :
    (buildSearchPlan toLowerCase rawQuery).category = some name ↔
      ((LOCATIONS.any fun loc =>
          includes (toLowerCase (baseOf rawQuery)) (toLowerCase loc.toList)) = true ∨
        ∀ pattern ∈ LLM_ANSWERABLE_PATTERNS,
          pattern.exec (toLowerCase (baseOf rawQuery)) = none) ∧
      ∃ entry before after, entry.1.name = name ∧ allKeywords = before ++ entry :: after ∧
        includes (toLowerCase (baseOf rawQuery)) (toLowerCase entry.2.toList) = true ∧
        ∀ earlier ∈ before,
          includes (toLowerCase (baseOf rawQuery)) (toLowerCase earlier.2.toList) = false := by
  have hgeneral : (generalPlan toLowerCase (baseOf rawQuery)).category ≠ some name := by
    rcases generalPlan_category toLowerCase (baseOf rawQuery) with h | h <;> rw [h]
    · simp
    · exact fun heq => hname (Option.some.inj heq).symm
  have hleft : (!(LOCATIONS.any fun loc =>
          includes (toLowerCase (baseOf rawQuery)) (toLowerCase loc.toList)) &&
        LLM_ANSWERABLE_PATTERNS.any fun p =>
          (p.exec (toLowerCase (baseOf rawQuery))).isSome) = false ↔
      (LOCATIONS.any fun loc =>
          includes (toLowerCase (baseOf rawQuery)) (toLowerCase loc.toList)) = true ∨
        ∀ pattern ∈ LLM_ANSWERABLE_PATTERNS,
          pattern.exec (toLowerCase (baseOf rawQuery)) = none := by
    simp only [Bool.and_eq_false_iff, Bool.not_eq_false', List.any_eq_false,
      Option.isSome_iff_ne_none, ne_eq, not_not]
  have hfirst : (∃ entry before after, entry.1.name = name ∧
        allKeywords = before ++ entry :: after ∧
        includes (toLowerCase (baseOf rawQuery)) (toLowerCase entry.2.toList) = true ∧
        ∀ earlier ∈ before,
          includes (toLowerCase (baseOf rawQuery)) (toLowerCase earlier.2.toList) = false) ↔
      ∃ entry, entry.1.name = name ∧
        matchCategory toLowerCase (toLowerCase (baseOf rawQuery)) = some entry := by
    simp only [matchCategory_eq_some_iff, exists_and_left]
  rw [← hleft, hfirst]
  simp only [buildSearchPlan]
  split
  · rename_i hmodel
    simp [noPlan, hmodel]
  · rename_i hmodel
    rw [Bool.not_eq_true] at hmodel
    rw [hmodel, eq_self_iff_true, true_and]
    split
    · rename_i hnone
      rw [hnone]
      exact iff_of_false hgeneral (by simp)
    · rename_i category keyword hmatch
      rw [hmatch]
      constructor
      · exact fun h => ⟨(category, keyword), Option.some.inj h, rfl⟩
      · rintro ⟨entry, hentry, heq⟩
        obtain rfl := Option.some.inj heq
        exact congrArg some hentry

end Plan

end Search
