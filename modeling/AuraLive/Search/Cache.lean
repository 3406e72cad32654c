import AuraLive.Foundations.Unicode
import AuraLive.Search.Service

set_option relaxedAutoImplicit false
set_option autoImplicit false

/-!
# The cache of searches

Several searches wait at the same time, replies come in any order and late, and timers fire. The
cache of `llm/search.service.ts` nevertheless holds what the last search with the same type and the
same query has found, and only for five minutes; failures are never kept; and every call returns
once, with results that Naver has given for its own query.

## Main definitions

* `Search.Log.known` — what is to be answered without a search.
* `Search.CacheExact` — a call is answered at once exactly then, and with that.
* `Search.ReturnsOnce` — the calls that do not wait any more have returned once.
* `Search.Grounded` — where the results of all answers come from.

## Main results

* `Search.moves_of_handle` — what a step does.
* `Search.cacheKey_inj` — different searches have different keys.
* `Search.cache_exact` — the cache is exact at every step of every run.
* `Search.returns_once` — so much for the calls, in every state of every run.
* `Search.answers_grounded` — so much for the answers.
-/

namespace Search

open Foundations VoiceBot

/-! ## What is to hold -/

/-- The last search of a type for a query that has been executed. -/
def Log.last (log : Log) (searchType : SearchType) (query : String) : Option Answer :=
  log.executed.find? fun p => p.searchType = searchType ∧ p.query = query

/-- What is answered without a search: nothing where nothing is to be searched for, and what has
been found in the last five minutes. -/
def Log.known (log : Log) (searchType : SearchType) (query : String) (now : ℕ) :
    Option (List SearchResult) :=
  if searchType = .none then some []
  else ((log.last searchType query).filter fun p => now ≤ p.time + SEARCH_CACHE_TTL_MS).map
    (·.results)

/-- A call is answered at once exactly with what is known, and waits if nothing is. -/
def CacheExact (x : SearchService × Log) : Event → Prop
  | .search query searchType now => x.2.clock ≤ now →
    (x.1.search query searchType now).2 =
      ((x.2.known searchType query now).map Outcome.returned).getD .pending
  | _ => True

/-- A call that has waited and does not wait any more has returned once, one that waits has not. -/
def ReturnsOnce (x : SearchService × Log) : Prop :=
  ∀ i, x.2.answered.countP (·.call = some i) =
    if i < x.1.calls.next ∧ x.1.calls.get i = none then 1 else 0

/-- A result comes from an item of a reply to a request for the same query, up to what the news
say. -/
def Log.Found (log : Log) (a : Answer) (r : SearchResult) : Prop :=
  ∃ q ∈ log.replied, q.query = a.query ∧ q.time ≤ a.time ∧
    (∃ request ∈ a.searchType.requests a.query, request.type = q.type) ∧
    ∃ item ∈ q.items, r = { item.result q.type with newsHighlight := r.newsHighlight }

/-- An answer has at most three results; if it has any, they are those of a search of the same type
for the same query in the last five minutes, and come from replies of Naver to it. -/
structure Grounded (log : Log) (a : Answer) : Prop where
  few : a.results.length ≤ 3
  recent : a.results ≠ [] → ∃ p ∈ log.executed, p.searchType = a.searchType ∧ p.query = a.query ∧
    p.results = a.results ∧ p.time ≤ a.time ∧ a.time ≤ p.time + SEARCH_CACHE_TTL_MS
  found : ∀ r ∈ a.results, log.Found a r

/-! ## Keys -/

/-- The name of a type has no bar. -/
lemma bar_notMem_name (searchType : SearchType) : '|' ∉ searchType.name.toList := by
  rcases searchType with type | _ | _
  · cases type <;> decide
  · decide
  · decide

/-- Types have different names. -/
lemma name_inj {searchType searchType' : SearchType}
    (h : searchType.name = searchType'.name) : searchType = searchType' := by
  rcases searchType with type | _ | _ <;> rcases searchType' with type' | _ | _ <;>
    first | rfl | (cases type <;> cases type' <;> first | rfl | exact absurd h (by decide)) |
      (cases type <;> exact absurd h (by decide)) | (cases type' <;> exact absurd h (by decide)) |
      exact absurd h (by decide)

/-- **Different searches have different keys.** -/
lemma cacheKey_inj {searchType searchType' : SearchType} {query query' : String} :
    cacheKey searchType query = cacheKey searchType' query' ↔
      searchType = searchType' ∧ query = query' := by
  refine ⟨fun h => ?_, fun ⟨ht, hq⟩ => by rw [ht, hq]⟩
  have hlists : searchType.name.toList ++ '|' :: query.toList =
      searchType'.name.toList ++ '|' :: query'.toList := by
    have := congrArg String.toList h
    simpa [cacheKey] using this
  obtain ⟨hname, hquery⟩ := (append_separator_left_inj (bar_notMem_name searchType)
    (bar_notMem_name searchType')).mp hlists
  exact ⟨name_inj (String.toList_injective hname), String.toList_injective hquery⟩

/-! ## Steps -/

/-- The call that an event is about, if it has a number. -/
def Event.call : Event → Option ℕ
  | .search _ _ _ => none
  | .naver call _ _ _ | .timeout call _ => some call

/-- What an event can do. -/
inductive Moves (s : SearchService) : Event → SearchService → Outcome → Prop
  /-- Nothing is to be searched for. -/
  | nothing (query : String) (now : ℕ) : Moves s (.search query .none now) s (.returned [])
  /-- The cache knows. -/
  | hit {query : String} {searchType : SearchType} {now : ℕ} {entry : CacheEntry}
      (htype : searchType ≠ .none)
      (hentry : s.searchCache.get (cacheKey searchType query) = some entry)
      (hfresh : now ≤ entry.expiresAt) :
      Moves s (.search query searchType now) s (.returned entry.results)
  /-- The cache does not know, or not any more. -/
  | miss {query : String} {searchType : SearchType} {now : ℕ} (htype : searchType ≠ .none)
      (hentry : ∀ entry, s.searchCache.get (cacheKey searchType query) = some entry →
        entry.expiresAt < now) :
      Moves s (.search query searchType now)
        ⟨s.searchCache.delete (cacheKey searchType query),
          s.calls.enter ⟨query, searchType, now, ∅⟩⟩ .pending
  /-- The call does not wait any more. -/
  | late {e : Event} {call : ℕ} (hcall : e.call = some call) (hget : s.calls.get call = none) :
      Moves s e s .pending
  /-- A reply, but not the last one. -/
  | collected {call now : ℕ} {type : NaverType} {items : List NaverItem} {execution : Execution}
      (hget : s.calls.get call = some execution) (hawaits : execution.awaits type) :
      Moves s (.naver call type (.ok items) now)
        { s with calls := s.calls.amend call (execution.reply type items) } .pending
  /-- The last reply. -/
  | executed {call now : ℕ} {type : NaverType} {items : List NaverItem} {execution : Execution}
      {results : List SearchResult} (hget : s.calls.get call = some execution)
      (hawaits : execution.awaits type)
      (hresults : (execution.reply type items).results = some results) :
      Moves s (.naver call type (.ok items) now)
        ⟨s.searchCache.set (cacheKey execution.searchType execution.query)
          ⟨now + SEARCH_CACHE_TTL_MS, results⟩, s.calls.remove call⟩ (.executed results)
  /-- An error, or the timer. -/
  | failed {e : Event} {call : ℕ} {execution : Execution} (hcall : e.call = some call)
      (hget : s.calls.get call = some execution) (hreplied : s.replied e = none) :
      Moves s e { s with calls := s.calls.remove call } (.returned [])

variable {hasKeys : Bool} {s s' : SearchService} {log : Log} {e : Event} {outcome : Outcome}

/-- What a call up to its `await` does. -/
lemma moves_search (query : String) (searchType : SearchType) (now : ℕ) :
    Moves s (.search query searchType now) (s.search query searchType now).1
      (s.search query searchType now).2 := by
  unfold SearchService.search
  by_cases htype : searchType = .none
  · subst htype
    exact .nothing query now
  · rw [if_neg htype]
    unfold SearchService.getCachedSearch
    cases hentry : s.searchCache.get (cacheKey searchType query) with
    | none => exact .miss htype fun entry h => absurd (hentry.symm.trans h) (by simp)
    | some entry =>
      by_cases hexpired : entry.expiresAt < now
      · simp only [if_pos hexpired]
        refine .miss htype fun other hother => ?_
        obtain rfl := Option.some.inj (hentry.symm.trans hother)
        exact hexpired
      · simp only [if_neg hexpired]
        exact .hit htype hentry (not_lt.mp hexpired)

/-- What a reply does. -/
lemma moves_naver {call now : ℕ} {type : NaverType} {reply : Except String (List NaverItem)}
    (h : s.naver call type reply now = some (s', outcome)) :
    Moves s (.naver call type reply now) s' outcome := by
  unfold SearchService.naver at h
  cases hget : s.calls.get call with
  | none =>
    rw [hget] at h
    cases h
    exact .late rfl hget
  | some execution =>
    rw [hget] at h
    dsimp only at h
    split at h
    · rename_i hawaits
      cases reply with
      | error message =>
        cases h
        exact .failed rfl hget rfl
      | ok items =>
        dsimp only at h
        split at h
        · cases h
          exact .collected hget hawaits
        · rename_i results hresults
          cases h
          exact @Moves.executed s call now type items execution results hget hawaits hresults
    · cases h

/-- What the timer does. -/
lemma moves_timeout {call now : ℕ} (h : s.timeout call now = some (s', outcome)) :
    Moves s (.timeout call now) s' outcome := by
  unfold SearchService.timeout at h
  cases hget : s.calls.get call with
  | none =>
    rw [hget] at h
    cases h
    exact .late rfl hget
  | some execution =>
    rw [hget] at h
    dsimp only at h
    split at h
    · cases h
      exact .failed rfl hget rfl
    · cases h

/-- **What a step does.** -/
lemma moves_of_handle (h : s.handle hasKeys e = some (s', outcome)) : Moves s e s' outcome := by
  cases e with
  | search query searchType now =>
    have hmoves := moves_search (s := s) query searchType now
    rw [Option.some.inj h] at hmoves
    exact hmoves
  | naver call type reply now =>
    simp only [SearchService.handle] at h
    split at h
    · exact moves_naver h
    · cases h
  | timeout call now => exact moves_timeout h

/-- A step of the service with its log. -/
lemma moves_of_step {x' : SearchService × Log} (h : (searches hasKeys).step (s, log) e = some x') :
    log.clock ≤ e.time ∧ ∃ outcome, Moves s e x'.1 outcome ∧ x'.2 = log.after s e outcome := by
  simp only [searches] at h
  split at h
  · rename_i hclock
    obtain ⟨r, hr, rfl⟩ := Option.map_eq_some_iff.mp h
    exact ⟨hclock, r.2, moves_of_handle hr, rfl⟩
  · cases h

/-- The answer of a call that has waited. -/
lemma answer_of_call {call : ℕ} {execution : Execution} (hcall : e.call = some call)
    (hget : s.calls.get call = some execution) (results : List SearchResult) :
    s.answer results e =
      some ⟨some call, execution.query, execution.searchType, results, e.time⟩ := by
  cases e with
  | search query searchType now => cases hcall
  | naver c type reply now =>
    obtain rfl := Option.some.inj hcall
    simp [SearchService.answer, hget, Event.time]
  | timeout c now =>
    obtain rfl := Option.some.inj hcall
    simp [SearchService.answer, hget, Event.time]

/-! ## The cache holds what has been found last -/

/-- The entries of the cache are what the last searches have found, and only entries that are no
longer used are missing. -/
structure Mirrors (x : SearchService × Log) : Prop where
  written : ∀ searchType query entry,
    x.1.searchCache.get (cacheKey searchType query) = some entry →
    ∃ p, x.2.last searchType query = some p ∧ p.results = entry.results ∧
      p.time + SEARCH_CACHE_TTL_MS = entry.expiresAt
  kept : ∀ searchType query p, x.2.last searchType query = some p →
    (x.1.searchCache.get (cacheKey searchType query)).isSome = true ∨
      p.time + SEARCH_CACHE_TTL_MS < x.2.clock

/-- The last search of a type for a query, after one has been executed. -/
lemma last_cons (p : Answer) (log : Log) (replied : List Replied) (answered : List Answer)
    (clock : ℕ) (searchType : SearchType) (query : String) :
    (⟨replied, p :: log.executed, answered, clock⟩ : Log).last searchType query =
      if p.searchType = searchType ∧ p.query = query then some p
      else log.last searchType query := by
  unfold Log.last
  rw [List.find?_cons]
  by_cases h : p.searchType = searchType ∧ p.query = query
  · simp [h]
  · rw [if_neg h, decide_eq_false h]

/-- What the last search of a type for a query is. -/
lemma last_spec {searchType : SearchType} {query : String} {p : Answer}
    (h : log.last searchType query = some p) :
    p ∈ log.executed ∧ p.searchType = searchType ∧ p.query = query :=
  ⟨List.mem_of_find?_eq_some h, by simpa using List.find?_some h⟩

/-- An event that leaves the cache alone, up to entries that are no longer used. -/
lemma Mirrors.of_deleted (h : Mirrors (s, log)) {log' : Log}
    (hexecuted : log'.executed = log.executed) (hclock : log.clock ≤ log'.clock)
    (hcache : ∀ key, s'.searchCache.get key = s.searchCache.get key ∨
      s'.searchCache.get key = none ∧
        ∀ entry, s.searchCache.get key = some entry → entry.expiresAt < log'.clock) :
    Mirrors (s', log') := by
  have hlast : ∀ searchType query, log'.last searchType query = log.last searchType query := by
    intro searchType query
    unfold Log.last
    rw [hexecuted]
  constructor
  · intro searchType query entry hentry
    dsimp only at hentry ⊢
    rw [hlast]
    rcases hcache (cacheKey searchType query) with hsame | ⟨hnone, -⟩
    · exact h.written searchType query entry (hsame ▸ hentry)
    · rw [hnone] at hentry
      cases hentry
  · intro searchType query p hp
    dsimp only at hp ⊢
    rw [hlast] at hp
    rcases h.kept searchType query p hp with hsome | hold
    · rcases hcache (cacheKey searchType query) with hsame | ⟨-, hexpired⟩
      · exact .inl (by rw [hsame]; exact hsome)
      · obtain ⟨entry, hentry⟩ := Option.isSome_iff_exists.mp hsome
        obtain ⟨q, hq, -, htime⟩ := h.written searchType query entry hentry
        obtain rfl := Option.some.inj (hq.symm.trans hp)
        exact .inr (htime ▸ hexpired entry hentry)
    · exact .inr (hold.trans_le hclock)

/-- What has been found goes to the cache. -/
lemma Mirrors.executed (h : Mirrors (s, log)) (p : Answer) (replied : List Replied)
    (answered : List Answer) (hclock : log.clock ≤ p.time)
    (hcache : s'.searchCache = s.searchCache.set (cacheKey p.searchType p.query)
      ⟨p.time + SEARCH_CACHE_TTL_MS, p.results⟩) :
    Mirrors (s', ⟨replied, p :: log.executed, answered, p.time⟩) := by
  constructor
  · intro searchType query entry hentry
    dsimp only at hentry ⊢
    rw [hcache, JsMap.get_set] at hentry
    rw [last_cons]
    by_cases hkey : p.searchType = searchType ∧ p.query = query
    · rw [if_pos (cacheKey_inj.mpr hkey)] at hentry
      cases hentry
      exact ⟨p, if_pos hkey, rfl, rfl⟩
    · rw [if_neg (mt cacheKey_inj.mp hkey)] at hentry
      rw [if_neg hkey]
      exact h.written searchType query entry hentry
  · intro searchType query q hq
    dsimp only
    rw [last_cons] at hq
    rw [hcache, JsMap.get_set]
    by_cases hkey : p.searchType = searchType ∧ p.query = query
    · exact .inl (by rw [if_pos (cacheKey_inj.mpr hkey)]; rfl)
    · rw [if_neg hkey] at hq
      rw [if_neg (mt cacheKey_inj.mp hkey)]
      rcases h.kept searchType query q hq with hsome | hold
      · exact .inl hsome
      · exact .inr (hold.trans_le hclock)

/-- **The cache mirrors the searches** after every step. -/
lemma mirrors_step {x x' : SearchService × Log} (h : Mirrors x)
    (hstep : (searches hasKeys).step x e = some x') : Mirrors x' := by
  obtain ⟨s, log⟩ := x
  obtain ⟨s', log'⟩ := x'
  obtain ⟨hclock, outcome, hmoves, hlog⟩ := moves_of_step hstep
  dsimp only at hmoves hlog
  subst hlog
  cases hmoves with
  | nothing query now => exact h.of_deleted rfl hclock fun key => .inl rfl
  | hit htype hentry hfresh => exact h.of_deleted rfl hclock fun key => .inl rfl
  | miss htype hentry =>
    refine h.of_deleted rfl hclock fun key => ?_
    dsimp only
    rw [JsMap.get_delete]
    split
    · rename_i hkey
      exact .inr ⟨rfl, hkey ▸ hentry⟩
    · exact .inl rfl
  | late hcall hget => exact h.of_deleted rfl hclock fun key => .inl rfl
  | collected hget hawaits => exact h.of_deleted rfl hclock fun key => .inl rfl
  | @executed call now type items execution results hget hawaits hresults =>
    have hanswer : s.answer results (.naver call type (.ok items) now) =
        some ⟨some call, execution.query, execution.searchType, results, now⟩ :=
      answer_of_call rfl hget results
    simp only [Log.after, hanswer]
    exact h.executed _ _ _ hclock rfl
  | failed hcall hget hreplied => exact h.of_deleted rfl hclock fun key => .inl rfl

/-- The cache is empty at the start. -/
lemma mirrors_init : Mirrors (searches hasKeys).init := by
  constructor
  · intro searchType query entry hentry
    cases hentry
  · intro searchType query p hp
    cases hp

/-- A call is answered with what is known. -/
lemma Mirrors.exact (h : Mirrors (s, log)) (query : String) (searchType : SearchType) (now : ℕ)
    (hclock : log.clock ≤ now) :
    (s.search query searchType now).2 =
      ((log.known searchType query now).map Outcome.returned).getD .pending := by
  have hmoves := moves_search (s := s) query searchType now
  generalize s.search query searchType now = r at hmoves
  obtain ⟨s', outcome⟩ := r
  unfold Log.known
  cases hmoves with
  | nothing query now => rfl
  | @hit _ _ _ entry htype hentry hfresh =>
    obtain ⟨p, hp, hresults, htime⟩ := h.written searchType query entry hentry
    dsimp only at hp
    rw [if_neg htype, hp, Option.filter_some, if_pos (by simpa [htime] using hfresh)]
    simp [hresults]
  | miss htype hentry =>
    rw [if_neg htype]
    cases hp : log.last searchType query with
    | none => rfl
    | some p =>
      -- the entry is there and has expired, or has been deleted when it had expired
      have hexpired : p.time + SEARCH_CACHE_TTL_MS < now := by
        rcases h.kept searchType query p hp with hsome | hold
        · obtain ⟨entry, hget⟩ := Option.isSome_iff_exists.mp hsome
          obtain ⟨q, hq, -, htime⟩ := h.written searchType query entry hget
          obtain rfl := Option.some.inj (hq.symm.trans hp)
          exact htime ▸ hentry entry hget
        · exact hold.trans_le hclock
      rw [Option.filter_some, if_neg (by simpa using hexpired)]
      rfl
  | late hcall hget => cases hcall
  | failed hcall hget hreplied => cases hcall

/-- **The cache is exact.** At every step of every run a call is answered at once exactly if nothing
is to be searched for or a search of the same type for the same query has been executed in the last
five minutes, and then with what the last such search has found. -/
theorem cache_exact (hasKeys : Bool) (es : List Event) :
    (searches hasKeys).AllSteps CacheExact (searches hasKeys).init es := by
  refine EventSystem.allSteps_of_invariant (I := Mirrors) (C := fun _ _ => True)
    (fun x e x' hx _ hstep => mirrors_step hx hstep) (fun x e hx _ => ?_) mirrors_init
    (EventSystem.allSteps_true _ _)
  cases e with
  | search query searchType now => exact hx.exact query searchType now
  | naver call type reply now => trivial
  | timeout call now => trivial

/-! ## Calls return once -/

/-- A call that does not wait is not counted. -/
lemma ReturnsOnce.at_once (h : ReturnsOnce (s, log)) {log' : Log} (a : Answer)
    (hanswered : log'.answered = a :: log.answered) (ha : a.call = none) :
    ReturnsOnce (s, log') := by
  intro i
  dsimp only
  rw [hanswered, List.countP_cons_of_neg (by simp [ha])]
  exact h i

/-- A call that has waited returns. -/
lemma ReturnsOnce.returned (h : ReturnsOnce (s, log)) {call : ℕ} {execution : Execution}
    (hcall : e.call = some call) (hget : s.calls.get call = some execution) {log' : Log}
    (results : List SearchResult) (hcalls : s'.calls = s.calls.remove call)
    (hanswered : log'.answered = (s.answer results e).toList ++ log.answered) :
    ReturnsOnce (s', log') := by
  rw [answer_of_call hcall hget] at hanswered
  generalize ha : (⟨some call, execution.query, execution.searchType, results, e.time⟩ : Answer) = a
    at hanswered
  have hacall : a.call = some call := ha ▸ rfl
  intro i
  have hi := h i
  dsimp only at hi ⊢
  rw [hanswered, hcalls, Ledger.get_remove, Ledger.remove_next, Option.toList_some,
    List.singleton_append]
  by_cases hi' : call = i
  · subst hi'
    rw [List.countP_cons_of_pos (by simp [hacall]), hi, if_neg (by simp [hget]), if_pos rfl,
      if_pos ⟨Ledger.lt_next_of_get hget, rfl⟩]
  · rw [List.countP_cons_of_neg (by simp [hacall, hi']), hi, if_neg hi']

/-- **Calls return once**, also after another step. -/
lemma returnsOnce_step {x x' : SearchService × Log} (h : ReturnsOnce x)
    (hstep : (searches hasKeys).step x e = some x') : ReturnsOnce x' := by
  obtain ⟨s, log⟩ := x
  obtain ⟨s', log'⟩ := x'
  obtain ⟨-, outcome, hmoves, hlog⟩ := moves_of_step hstep
  dsimp only at hmoves hlog
  subst hlog
  cases hmoves with
  | nothing query now => exact h.at_once _ rfl rfl
  | hit htype hentry hfresh => exact h.at_once _ rfl rfl
  | miss htype hentry =>
    intro i
    have hi := h i
    simp only [Log.after] at hi ⊢
    rw [hi, Ledger.get_enter, Ledger.enter_next]
    by_cases hnext : s.calls.next = i
    · subst hnext
      rw [if_neg fun hlt => Nat.lt_irrefl _ hlt.1, if_pos rfl, if_neg fun hnone => by cases hnone.2]
    · rw [if_neg hnext]
      have hiff : i < s.calls.next ↔ i < s.calls.next + 1 := by omega
      exact if_congr (and_congr_left' hiff) rfl rfl
  | late hcall hget => exact h
  | @collected call now type items execution hget hawaits =>
    intro i
    have hi := h i
    simp only [Log.after] at hi ⊢
    rw [hi, Ledger.get_amend, Ledger.amend, Ledger.modify_next]
    by_cases hcall : call = i
    · subst hcall
      simp [hget]
    · rw [if_neg hcall]
  | @executed call now type items execution results hget hawaits hresults =>
    exact h.returned rfl hget results rfl rfl
  | failed hcall hget hreplied =>
    exact h.returned hcall hget [] rfl rfl

/-- **Calls return once.** In every state of every run the calls that have waited and do not wait
any more have returned exactly once, and those that wait have not returned. -/
theorem returns_once (hasKeys : Bool) (es : List Event) :
    (searches hasKeys).AllStates ReturnsOnce (searches hasKeys).init es :=
  EventSystem.allStates_of_invariant (I := ReturnsOnce) (C := fun _ _ => True)
    (fun _ _ _ hx _ hstep => returnsOnce_step hx hstep) (fun _ hx => hx)
    (fun i => by simp [searches, Ledger.empty]) (EventSystem.allSteps_true _ _)

/-! ## Where the results come from -/

/-- What is merged is a place, up to what the news say, or news. -/
lemma mem_mergeHybridResults {newsResults localResults : List SearchResult} {r : SearchResult}
    (h : r ∈ mergeHybridResults newsResults localResults) :
    (∃ r' ∈ localResults, r = { r' with newsHighlight := r.newsHighlight }) ∨
      r ∈ newsResults := by
  unfold mergeHybridResults at h
  have hfold := List.mem_of_mem_take h
  have hprimary : ∀ highlight : Option String, ∀ r ∈ (localResults.take 1).map (fun primary =>
      { primary with newsHighlight := highlight }),
      ∃ r' ∈ localResults, r = { r' with newsHighlight := r.newsHighlight } := by
    intro highlight r hr
    obtain ⟨r', hr', rfl⟩ := List.mem_map.mp hr
    exact ⟨r', List.mem_of_mem_take hr', rfl⟩
  cases newsResults with
  | nil => exact .inl (hprimary _ r hfold)
  | cons news rest =>
    simp only [List.take_succ_cons, List.take_zero, List.foldl_cons, List.foldl_nil] at hfold
    split at hfold
    · exact .inl (hprimary _ r hfold)
    · rcases List.mem_append.mp hfold with hplace | hnews
      · exact .inl (hprimary _ r hplace)
      · rw [List.mem_singleton.mp hnews]
        exact .inr List.mem_cons_self

/-- An execution has at most three results. -/
lemma length_results_le {execution : Execution} {results : List SearchResult}
    (h : execution.results = some results) : results.length ≤ 3 := by
  unfold Execution.results at h
  split at h
  · obtain ⟨all, -, rfl⟩ := Option.map_eq_some_iff.mp h
    exact List.length_take_le _ _
  · obtain ⟨newsResults, -, h⟩ := Option.bind_eq_some_iff.mp h
    obtain ⟨localResults, -, rfl⟩ := Option.map_eq_some_iff.mp h
    exact List.length_take_le _ _
  · cases h

/-- A result comes from the reply to a request of the search, up to what the news say. -/
lemma exists_reply_of_mem_results {execution : Execution} {results : List SearchResult}
    (h : execution.results = some results) {r : SearchResult} (hr : r ∈ results) :
    ∃ type found, execution.replies.get type = some found ∧
      (∃ request ∈ execution.searchType.requests execution.query, request.type = type) ∧
      ∃ r' ∈ found, r = { r' with newsHighlight := r.newsHighlight } := by
  unfold Execution.results at h
  cases htype : execution.searchType with
  | naver type =>
    rw [htype] at h
    obtain ⟨all, hall, rfl⟩ := Option.map_eq_some_iff.mp h
    exact ⟨type, all, hall, ⟨_, List.mem_singleton_self _, rfl⟩, r, List.mem_of_mem_take hr, rfl⟩
  | hybrid =>
    rw [htype] at h
    obtain ⟨newsResults, hnews, h⟩ := Option.bind_eq_some_iff.mp h
    obtain ⟨localResults, hlocal, rfl⟩ := Option.map_eq_some_iff.mp h
    rcases mem_mergeHybridResults hr with hplace | hnew
    · exact ⟨.localSearch, localResults, hlocal,
        ⟨_, List.mem_cons_of_mem _ (List.mem_singleton_self _), rfl⟩, hplace⟩
    · exact ⟨.news, newsResults, hnews, ⟨_, List.mem_cons_self, rfl⟩, r, hnew, rfl⟩
  | none =>
    rw [htype] at h
    cases h

/-- What the replies that a call has got so far are. -/
def Execution.Sourced (execution : Execution) (log : Log) : Prop :=
  ∀ type found, execution.replies.get type = some found →
    ∃ q ∈ log.replied, q.query = execution.query ∧ q.type = type ∧ q.time ≤ log.clock ∧
      found = searchWithNaver type q.items

/-- Where the results of everything in the log and of the calls that wait come from. -/
structure Sourced (x : SearchService × Log) : Prop where
  waiting : ∀ i execution, x.1.calls.get i = some execution → execution.Sourced x.2
  executed : ∀ p ∈ x.2.executed, p.time ≤ x.2.clock ∧ p.results.length ≤ 3 ∧
    ∀ r ∈ p.results, x.2.Found p r
  answered : ∀ a ∈ x.2.answered, Grounded x.2 a

/-- The log grows. -/
structure Log.Grows (log log' : Log) : Prop where
  replied : ∀ q ∈ log.replied, q ∈ log'.replied
  executed : ∀ p ∈ log.executed, p ∈ log'.executed
  clock : log.clock ≤ log'.clock

section Grows

variable {log' : Log}

/-- The log grows at every event. -/
lemma grows_after (s : SearchService) (outcome : Outcome) (hclock : log.clock ≤ e.time) :
    log.Grows (log.after s e outcome) := by
  cases outcome with
  | pending => exact ⟨fun q => List.mem_append_right _, fun p => id, hclock⟩
  | returned results => exact ⟨fun q => List.mem_append_right _, fun p => id, hclock⟩
  | executed results =>
    exact ⟨fun q => List.mem_append_right _, fun p => List.mem_append_right _, hclock⟩

/-- What has been found stays found. -/
lemma Log.Found.mono (hgrows : log.Grows log') {a : Answer} {r : SearchResult}
    (h : log.Found a r) : log'.Found a r := by
  obtain ⟨q, hq, hrest⟩ := h
  exact ⟨q, hgrows.replied q hq, hrest⟩

/-- The answers stay grounded. -/
lemma Grounded.mono (hgrows : log.Grows log') {a : Answer} (h : Grounded log a) :
    Grounded log' a where
  few := h.few
  recent hne := by
    obtain ⟨p, hp, hrest⟩ := h.recent hne
    exact ⟨p, hgrows.executed p hp, hrest⟩
  found r hr := (h.found r hr).mono hgrows

/-- The replies stay. -/
lemma Execution.Sourced.mono (hgrows : log.Grows log') {execution : Execution}
    (h : execution.Sourced log) : execution.Sourced log' := by
  intro type found hfound
  obtain ⟨q, hq, hquery, htype, htime, hitems⟩ := h type found hfound
  exact ⟨q, hgrows.replied q hq, hquery, htype, htime.trans hgrows.clock, hitems⟩

/-- A call that gets another reply. -/
lemma Execution.Sourced.reply (hgrows : log.Grows log') {execution : Execution}
    (h : execution.Sourced log) (type : NaverType) (items : List NaverItem) {time : ℕ}
    (htime : time ≤ log'.clock) (hmem : ⟨execution.query, type, items, time⟩ ∈ log'.replied) :
    (execution.reply type items).Sourced log' := by
  unfold Execution.reply
  exact JsMap.forall_get_set ⟨_, hmem, rfl, rfl, htime, rfl⟩ fun type' found _ hfound =>
    h.mono hgrows type' found hfound

/-- What an executed search has found. -/
lemma Execution.Sourced.found {execution : Execution} (h : execution.Sourced log)
    {results : List SearchResult} (hresults : execution.results = some results)
    (call : Option ℕ) : ∀ r ∈ results,
      log.Found ⟨call, execution.query, execution.searchType, results, log.clock⟩ r := by
  intro r hr
  obtain ⟨type, found, hget, hrequest, r', hr', hrr'⟩ := exists_reply_of_mem_results hresults hr
  obtain ⟨q, hq, hquery, rfl, htime, rfl⟩ := h type found hget
  obtain ⟨item, hitem, rfl⟩ := List.mem_map.mp hr'
  exact ⟨q, hq, hquery, htime, hrequest, item, hitem, hrr'⟩

/-- An answer without results. -/
lemma grounded_nil (log : Log) {a : Answer} (h : a.results = []) : Grounded log a where
  few := by simp [h]
  recent hne := absurd h hne
  found r hr := by simp [h] at hr

/-- A step that neither replies nor executes. -/
lemma Sourced.of_grows {x : SearchService × Log} (h : Sourced x) (hgrows : x.2.Grows log')
    (hcalls : ∀ i execution, s'.calls.get i = some execution →
      x.1.calls.get i = some execution ∨ execution.Sourced log')
    (hexecuted : log'.executed = x.2.executed)
    (hanswered : ∀ a ∈ log'.answered, a ∈ x.2.answered ∨ Grounded log' a) :
    Sourced (s', log') where
  waiting i execution hget :=
    (hcalls i execution hget).elim (fun hold => (h.waiting i execution hold).mono hgrows) id
  executed p hp := by
    obtain ⟨htime, hlength, hfound⟩ := h.executed p (hexecuted ▸ hp)
    exact ⟨htime.trans hgrows.clock, hlength, fun r hr => (hfound r hr).mono hgrows⟩
  answered a ha := (hanswered a ha).elim (fun hold => (h.answered a hold).mono hgrows) id

end Grows

/-- The log after an event that brings no reply and answers a call. -/
lemma after_returned (hreplied : s.replied e = none) {results : List SearchResult} {a : Answer}
    (ha : s.answer results e = some a) :
    log.after s e (.returned results) =
      ⟨log.replied, log.executed, a :: log.answered, e.time⟩ := by
  simp [Log.after, hreplied, ha]

/-- **Everything comes from replies of Naver**, also after another step.

**Proof sketch.** The log only grows, so what was sourced stays so (`Sourced.of_grows`), and each
case looks at what the step adds. A hit answers with the results of the last search that was
executed for its key, which the cache mirrors, and these were sourced then. A new search has found
nothing yet. A reply adds its own items to the call that has asked for them, whose results are from
this reply and earlier ones when the call is answered. A failure answers with nothing. -/
lemma sourced_step {x x' : SearchService × Log} (hmirrors : Mirrors x) (h : Sourced x)
    (hstep : (searches hasKeys).step x e = some x') : Sourced x' := by
  obtain ⟨s, log⟩ := x
  obtain ⟨s', log'⟩ := x'
  obtain ⟨hclock, outcome, hmoves, hlog⟩ := moves_of_step hstep
  dsimp only at hmoves hlog
  subst hlog
  have hgrows : log.Grows (log.after s e outcome) := grows_after s outcome hclock
  cases hmoves with
  | nothing query now =>
    refine h.of_grows hgrows (fun i execution => .inl) rfl fun a ha => ?_
    rcases List.mem_cons.mp ha with rfl | hold
    · exact .inr (grounded_nil _ rfl)
    · exact .inl hold
  | @hit query searchType now entry htype hentry hfresh =>
    refine h.of_grows hgrows (fun i execution => .inl) rfl fun a ha => ?_
    rcases List.mem_cons.mp ha with rfl | hold
    · -- the entry holds what the last search has found
      obtain ⟨p, hp, hresults, htime⟩ := hmirrors.written searchType query entry hentry
      obtain ⟨hmem, hsearchType, hquery⟩ := last_spec hp
      obtain ⟨hpclock, hlength, hfound⟩ := h.executed p hmem
      refine .inr ⟨hresults ▸ hlength, fun _ => ?_, fun r hr => ?_⟩
      · exact ⟨p, hgrows.executed p hmem, hsearchType, hquery, hresults,
          hpclock.trans hclock, htime ▸ hfresh⟩
      · obtain ⟨q, hq, hqquery, hqtime, hrequest, hitem⟩ :=
          (hfound r (hresults ▸ hr)).mono hgrows
        subst hsearchType hquery
        exact ⟨q, hq, hqquery, hqtime.trans (hpclock.trans hclock), hrequest, hitem⟩
    · exact .inl hold
  | miss htype hentry =>
    refine h.of_grows hgrows (fun i execution hget => ?_) rfl fun a ha => .inl ha
    rw [Ledger.get_enter] at hget
    split at hget
    · cases hget
      exact .inr fun type found hfound => absurd hfound (by simp)
    · exact .inl hget
  | late hcall hget => exact h.of_grows hgrows (fun i execution => .inl) rfl fun a ha => .inl ha
  | @collected call now type items execution hget hawaits =>
    refine h.of_grows hgrows (fun i other hother => ?_) rfl fun a ha => .inl ha
    rw [Ledger.get_amend] at hother
    split at hother
    · rename_i hcall
      subst hcall
      rw [hget] at hother
      obtain rfl := Option.some.inj hother
      refine .inr ((h.waiting _ execution hget).reply hgrows type items le_rfl ?_)
      simp [Log.after, SearchService.replied, hget, Event.time]
    · exact .inl hother
  | @executed call now type items execution results hget hawaits hresults =>
    have hsourced : (execution.reply type items).Sourced
        (log.after s (.naver call type (.ok items) now) (.executed results)) := by
      refine (h.waiting call execution hget).reply hgrows type items le_rfl ?_
      simp [Log.after, SearchService.replied, hget, Event.time]
    have hanswer : s.answer results (.naver call type (.ok items) now) =
        some ⟨some call, execution.query, execution.searchType, results, now⟩ :=
      answer_of_call rfl hget results
    have hfound := hsourced.found hresults (some call)
    have hlength := length_results_le hresults
    have hexecuted : ∀ p ∈
        (log.after s (.naver call type (.ok items) now) (.executed results)).executed,
        p ∈ log.executed ∨
          p = ⟨some call, execution.query, execution.searchType, results, now⟩ := by
      intro p hp
      simp only [Log.after, hanswer] at hp
      exact (List.mem_cons.mp hp).symm
    refine ⟨fun i other hother => ?_, fun p hp => ?_, fun a ha => ?_⟩
    · exact (h.waiting i other (Ledger.get_of_get_remove _ hother).2).mono hgrows
    · rcases hexecuted p hp with hold | rfl
      · obtain ⟨htime, hfew, hfounds⟩ := h.executed p hold
        exact ⟨htime.trans hclock, hfew, fun r hr => (hfounds r hr).mono hgrows⟩
      · exact ⟨le_rfl, hlength, hfound⟩
    · simp only [Log.after, hanswer] at ha
      rcases List.mem_cons.mp ha with rfl | hold
      · refine ⟨hlength, fun _ => ⟨_, ?_, rfl, rfl, rfl, le_rfl, Nat.le_add_right _ _⟩, hfound⟩
        simp only [Log.after, hanswer]
        exact List.mem_cons_self
      · exact (h.answered a hold).mono hgrows
  | failed hcall hget hreplied =>
    refine h.of_grows hgrows (fun i execution hother => ?_) rfl fun a ha => ?_
    · exact .inl (Ledger.get_of_get_remove _ hother).2
    · rw [after_returned hreplied (answer_of_call hcall hget [])] at ha ⊢
      rcases List.mem_cons.mp ha with rfl | hold
      · exact .inr (grounded_nil _ rfl)
      · exact .inl hold

/-- **Answers are grounded.** In every run every call returns at most three results; they are those
of a search of the same type for the same query that has been executed in the last five minutes, and
each comes from an item of a reply of Naver to a request for that query. -/
theorem answers_grounded (hasKeys : Bool) (es : List Event) :
    (searches hasKeys).AllStates (fun x => ∀ a ∈ x.2.answered, Grounded x.2 a)
      (searches hasKeys).init es := by
  refine EventSystem.allStates_of_invariant (I := fun x => Mirrors x ∧ Sourced x)
    (C := fun _ _ => True)
    (fun x e x' hx _ hstep => ⟨mirrors_step hx.1 hstep, sourced_step hx.1 hx.2 hstep⟩)
    (fun x hx => hx.2.answered) ⟨mirrors_init, ?_⟩ (EventSystem.allSteps_true _ _)
  refine ⟨fun i execution hget => ?_, fun p hp => ?_, fun a ha => ?_⟩
  · cases hget
  · cases hp
  · cases ha

end Search
