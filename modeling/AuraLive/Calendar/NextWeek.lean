import AuraLive.Foundations.JsDate
import AuraLive.Foundations.Unicode
import AuraLive.VoiceBot.State

set_option relaxedAutoImplicit false
set_option autoImplicit false

/-!
# Next week

Two services read `다음주`. `LlmService.extractDate` returns one date for it, and
`CalendarService.getNextWeekRange` the time from Monday at nine to Friday at eighteen o'clock.

## Main definitions

* `Calendar.extractDate` — the date in a text, as `YYYY-MM-DD`.
* `Calendar.getNextWeekRange` — the working days of next week.
* `Calendar.SameWeek` — the date is one of the days of the range.

## Main results

* `Calendar.formatDay_injective` — a date is written for one day only.
* `Calendar.not_sameWeek` — the date is never in the range, in every time zone and at any time: it
  is the Sunday after it.
-/

namespace Calendar

open Foundations JsDate VoiceBot

/-! ## Dates in texts -/

/-- `RELATIVE_DATES`. -/
def RELATIVE_DATES : List (String × ℤ) := [("오늘", 0), ("내일", 1), ("모레", 2), ("글피", 3)]

/-- `s.padStart(2, '0')`. -/
def padStart (s : String) : String := String.ofList (s.toList.leftpad 2 '0')

/-- The text of a day. -/
def formatDay (d : ℤ) : String :=
  toString (yearOf d) ++ "-" ++ padStart (toString ((monthOf d : ℤ) + 1)) ++ "-" ++
    padStart (toString (dateOf d))

/-- `formatDate`, also of an invalid date. -/
def formatDate (zone : TimeZone) : Option ℤ → String
  | none => "NaN-NaN-NaN"
  | some t => formatDay (zone.localDay t)

/-- The digits at the start of a text, at most `n` of them, and the rest. -/
def takeDigits : ℕ → List Char → List Char × List Char
  | n + 1, c :: cs =>
    if c.isDigit then
      let (digits, rest) := takeDigits n cs
      (c :: digits, rest)
    else ([], c :: cs)
  | _, cs => ([], cs)

/-- `parseInt` of some digits. -/
def parseInt (digits : String) : ℕ :=
  digits.toList.foldl (fun n c => 10 * n + (c.toNat - 48)) 0

/-- The start of a text matches `(\d{1,2})월\s*(\d{1,2})일`. -/
def monthAndDay (cs : List Char) : Option (String × String) :=
  match takeDigits 2 cs with
  | (month, '월' :: rest) =>
    match takeDigits 2 (rest.dropWhile isJsSpace) with
    | (day, '일' :: _) =>
      if month ≠ [] ∧ day ≠ [] then some (String.ofList month, String.ofList day) else none
    | _ => none
  | _ => none

/-- The start of a text matches `(\d{4})년\s*(\d{1,2})월\s*(\d{1,2})일`. -/
def yearMonthAndDay (cs : List Char) : Option (String × String × String) :=
  match takeDigits 4 cs with
  | (year, '년' :: rest) =>
    if year.length = 4 then
      (monthAndDay (rest.dropWhile isJsSpace)).map fun md => (String.ofList year, md)
    else none
  | _ => none

/-- `LlmService.extractDate`, where `today` is the present instant. -/
def extractDate (zone : TimeZone) (today : ℤ) (text : String) : Option String :=
  match RELATIVE_DATES.find? fun e => jsIncludes text e.1 with
  | some (_, days) => some (formatDate zone (zone.setDate today (zone.getDate today + days)))
  | none =>
    if jsIncludes text "다음주" || jsIncludes text "다음 주" then
      let daysUntilMonday := (7 - zone.getDay today) % 7 + 7
      some (formatDate zone (zone.setDate today (zone.getDate today + daysUntilMonday)))
    else
      match text.toList.tails.findSome? yearMonthAndDay with
      | some (year, month, day) => some (year ++ "-" ++ padStart month ++ "-" ++ padStart day)
      | none =>
        match text.toList.tails.findSome? monthAndDay with
        | none => none
        | some (m, d) =>
          let month := (parseInt m : ℤ)
          let day := (parseInt d : ℤ)
          let target := zone.ofDate (zone.getFullYear today) (month - 1) day
          -- a date of this year that is over is one of the next
          let year := if target.any (· < today) then zone.getFullYear today + 1
            else zone.getFullYear today
          some (toString year ++ "-" ++ padStart (toString month) ++ "-" ++ padStart (toString day))

/-- `CalendarService.getNextWeekRange`: the instants that `toISOString` writes down. It throws for
an invalid date. -/
def getNextWeekRange (zone : TimeZone) (now : ℤ) : Option (ℤ × ℤ) := do
  let days := (1 + 7 - zone.getDay now) % 7
  let monday ← zone.setDate now (zone.getDate now + if days ≠ 0 then days else 7)
  let nextMonday ← zone.setHours monday 9 0 0 0
  let friday ← zone.setDate nextMonday (zone.getDate nextMonday + 4)
  let nextFriday ← zone.setHours friday 18 0 0 0
  return (nextMonday, nextFriday)

/-- The date is that of a local day between the ends of the range. -/
def Within (zone : TimeZone) (date : String) (range : ℤ × ℤ) : Prop :=
  ∃ d, zone.localDay range.1 ≤ d ∧ d ≤ zone.localDay range.2 ∧ date = formatDay d

/-- Both services mean the same week: the date of the text is within the range. -/
def SameWeek (zone : TimeZone) (now : ℤ) (text : String) : Prop :=
  ∃ date range, extractDate zone now text = some date ∧ getNextWeekRange zone now = some range ∧
    Within zone date range

/-! ## A date is written for one day -/

/-- Different integers are written differently. -/
lemma toString_int_inj {a b : ℤ} (h : toString a = toString b) : a = b := by
  -- a sign tells negative numbers from the others
  have hsign : ∀ m n : ℕ, toString (n : ℤ) ≠ toString (Int.negSucc m) := by
    intro m n heq
    refine notMem_utf16_toString (show '-'.isDigit = false by decide) n ?_
    rw [show toString n = "-" ++ toString (m + 1) from heq, utf16, String.toList_append,
      List.flatMap_append]
    exact List.mem_append_left _ (by decide)
  cases a with
  | ofNat m =>
    cases b with
    | ofNat n => rw [utf16_toString_inj.mp (congrArg utf16 (show toString m = toString n from h))]
    | negSucc n => exact absurd h (hsign n m)
  | negSucc m =>
    cases b with
    | ofNat n => exact absurd h.symm (hsign m n)
    | negSucc n =>
      have hdigits : toString (m + 1) = toString (n + 1) := by
        have hneg : "-" ++ toString (m + 1) = "-" ++ toString (n + 1) := h
        exact String.append_right_inj _ |>.mp hneg
      have hmn := utf16_toString_inj.mp (congrArg utf16 hdigits)
      rw [Nat.succ_injective hmn]

/-- A number of at most two digits is read back, and has digits only. -/
lemma padStart_of_lt : ∀ n : ℕ, n < 32 → parseInt (padStart (toString (n : ℤ))) = n ∧
    (padStart (toString (n : ℤ))).toList.all Char.isDigit = true := by
  decide +kernel

/-- Numbers of two digits are told apart. -/
lemma padStart_inj {a b : ℤ} (ha : 0 ≤ a ∧ a < 32) (hb : 0 ≤ b ∧ b < 32)
    (h : padStart (toString a) = padStart (toString b)) : a = b := by
  obtain ⟨m, rfl⟩ := Int.eq_ofNat_of_zero_le ha.1
  obtain ⟨n, rfl⟩ := Int.eq_ofNat_of_zero_le hb.1
  have hm := (padStart_of_lt m (by omega)).1
  have hn := (padStart_of_lt n (by omega)).1
  rw [h] at hm
  rw [← hm, hn]

/-- A number of two digits has no other characters. -/
lemma notMem_padStart {a : ℤ} (ha : 0 ≤ a ∧ a < 32) {c : Char} (hc : c.isDigit = false) :
    c ∉ (padStart (toString a)).toList := by
  obtain ⟨m, rfl⟩ := Int.eq_ofNat_of_zero_le ha.1
  intro hmem
  have hdigit := List.all_eq_true.mp (padStart_of_lt m (by omega)).2 c hmem
  rw [hc] at hdigit
  cases hdigit

/-- In particular no separator. -/
lemma dash_notMem_padStart {a : ℤ} (ha : 0 ≤ a ∧ a < 32) :
    '-' ∉ (padStart (toString a)).toList :=
  notMem_padStart ha (by decide)

/-- The characters of a date. -/
lemma toList_formatDay (d : ℤ) : (formatDay d).toList =
    ((toString (yearOf d)).toList ++ '-' :: (padStart (toString ((monthOf d : ℤ) + 1))).toList) ++
      '-' :: (padStart (toString (dateOf d))).toList := by
  simp [formatDay, String.toList_append]

/-- The number of a month has two digits. -/
lemma month_range (d : ℤ) : 0 ≤ (monthOf d : ℤ) + 1 ∧ (monthOf d : ℤ) + 1 < 32 := by
  have h := (monthOf_spec d).1
  omega

/-- A date has two digits. -/
lemma date_range (d : ℤ) : 0 ≤ dateOf d ∧ dateOf d < 32 := by
  have h := dateOf_range d
  omega

/-- **A date is written for one day only.**

**Proof sketch.** The last two separators of the text cut it into the year, the month and the date,
since months and dates have no sign. These determine the day. -/
theorem formatDay_injective {d d' : ℤ} (h : formatDay d = formatDay d') : d = d' := by
  have hlist := congrArg String.toList h
  rw [toList_formatDay, toList_formatDay, append_separator_right_inj
    (dash_notMem_padStart (date_range d)) (dash_notMem_padStart (date_range d')),
    append_separator_right_inj (dash_notMem_padStart (month_range d))
    (dash_notMem_padStart (month_range d'))] at hlist
  obtain ⟨⟨hyear, hmonth⟩, hdate⟩ := hlist
  have hm := padStart_inj (month_range d) (month_range d') (String.toList_inj.mp hmonth)
  exact eq_of_dates_eq (toString_int_inj (String.toList_inj.mp hyear)) (by omega)
    (padStart_inj (date_range d) (date_range d') (String.toList_inj.mp hdate))

/-- An invalid date is not the text of a day. -/
lemma formatDay_ne_nan (d : ℤ) : formatDay d ≠ "NaN-NaN-NaN" := by
  intro h
  have hlist := congrArg String.toList h
  rw [toList_formatDay, show "NaN-NaN-NaN".toList = "NaN-NaN".toList ++ '-' :: "NaN".toList by
    decide +kernel, append_separator_right_inj (dash_notMem_padStart (date_range d))
    (by decide +kernel)] at hlist
  refine notMem_padStart (date_range d) (show 'N'.isDigit = false by decide) ?_
  rw [hlist.2]
  decide

/-! ## The two weeks -/

/-- The date is six days after the Monday of the range. -/
lemma days_until (zone : TimeZone) (now : ℤ) :
    (7 - zone.getDay now) % 7 + 7 =
      (if (1 + 7 - zone.getDay now) % 7 ≠ 0 then (1 + 7 - zone.getDay now) % 7 else 7) + 6 := by
  have hday : 0 ≤ zone.getDay now ∧ zone.getDay now < 7 := by
    unfold TimeZone.getDay weekDay
    omega
  split <;> omega

/-- The range ends at most five days after its Monday was to be, whatever gaps there are.

**Proof sketch.** Each of the four setters may move the day to the next one. Days that are moved are
a week apart, so this happens at most once. -/
lemma localDay_of_getNextWeekRange {zone : TimeZone} {now : ℤ} {range : ℤ × ℤ}
    (h : getNextWeekRange zone now = some range) :
    zone.localDay range.2 ≤ zone.localDay now +
      (if (1 + 7 - zone.getDay now) % 7 ≠ 0 then (1 + 7 - zone.getDay now) % 7 else 7) + 5 := by
  simp only [getNextWeekRange, Option.bind_eq_bind, Option.bind_eq_some_iff, Option.pure_def,
    Option.some.injEq] at h
  obtain ⟨monday, hmonday, nextMonday, hnine, friday, hfriday, nextFriday, heighteen, rfl⟩ := h
  generalize (if (1 + 7 - zone.getDay now) % 7 ≠ 0 then (1 + 7 - zone.getDay now) % 7 else 7) = n
    at hmonday ⊢
  have hset := TimeZone.setDate_getDate_add hmonday
  have h₁ : zone.DaysAfter (zone.localDay now + n) 0 (zone.localDay monday) := by
    rcases hset with hset | ⟨hset, hmoves⟩
    · exact .inl (by omega)
    · exact .inr ⟨by omega, _, hmoves, by omega, by omega⟩
  have h₂ := h₁.add (n := 0) (by omega) (by omega) (by omega)
    (by simpa using TimeZone.setHours_day (by decide) (by decide) hnine)
  have h₃ := h₂.add (by omega) (by omega) (by omega) (TimeZone.setDate_getDate_add hfriday)
  have h₄ := h₃.add (n := 0) (by omega) (by omega) (by omega)
    (by simpa using TimeZone.setHours_day (by decide) (by decide) heighteen)
  rcases h₄ with h₄ | ⟨h₄, -⟩
  · dsimp only
    omega
  · dsimp only
    omega

/-- **The two services never mean the same week.** For every time zone and every present instant,
the date of a text with `다음주` and none of the relative dates is not within the range.

**Proof sketch.** The date is that of the Sunday six days after the Monday of the range, or of the
day after it; the range ends on Friday or, if a day was left out, on Saturday. -/
theorem not_sameWeek (zone : TimeZone) (now : ℤ) (text : String)
    (hnext : jsIncludes text "다음주" = true)
    (hother : ∀ e ∈ RELATIVE_DATES, jsIncludes text e.1 = false) :
    ¬ SameWeek zone now text := by
  rintro ⟨date, range, hdate, hrange, d, -, hle, rfl⟩
  have hnone : (RELATIVE_DATES.find? fun e => jsIncludes text e.1) = none := by
    rw [List.find?_eq_none]
    intro e he
    simp [hother e he]
  simp only [extractDate, hnone, hnext, Bool.true_or, if_true, Option.some.injEq] at hdate
  cases htarget : zone.setDate now (zone.getDate now + ((7 - zone.getDay now) % 7 + 7)) with
  | none =>
    rw [htarget] at hdate
    exact formatDay_ne_nan d hdate.symm
  | some target =>
    rw [htarget] at hdate
    have hd := formatDay_injective hdate
    have hend := localDay_of_getNextWeekRange hrange
    have hset := TimeZone.setDate_getDate_add htarget
    rw [days_until] at hset
    omega

/-- The time in Seoul. -/
def seoul : TimeZone := .fixed 32400000

/-- The fifteenth of January 2025, a Wednesday, at nine o'clock in Seoul. -/
def wednesday : ℤ := 1736899200000

/-- The services do not mean the same week for a request that only mentions next week. -/
theorem not_sameWeek_seoul :
    jsIncludes "다음주 회의 잡아줘" "다음주" = true ∧
      ¬ SameWeek seoul wednesday "다음주 회의 잡아줘" :=
  ⟨by decide +kernel, not_sameWeek seoul wednesday "다음주 회의 잡아줘" (by decide +kernel)
    (by decide +kernel)⟩

/-- **Sunday the 26th is not within Monday the 20th and Friday the 24th.** -/
theorem date_after_range :
    extractDate seoul wednesday "다음주 회의 잡아줘" = some "2025-01-26" ∧
    (getNextWeekRange seoul wednesday).map
      (fun range => (formatDate seoul (some range.1), formatDate seoul (some range.2))) =
        some ("2025-01-20", "2025-01-24") ∧
    ¬ SameWeek seoul wednesday "다음주 회의 잡아줘" := by
  have hdate : extractDate seoul wednesday "다음주 회의 잡아줘" = some "2025-01-26" := by
    decide +kernel
  have hrange : getNextWeekRange seoul wednesday = some (1737331200000, 1737709200000) := by
    decide +kernel
  refine ⟨hdate, by decide +kernel, ?_⟩
  rintro ⟨date, range, hdate', hrange', d, hle, hge, rfl⟩
  obtain rfl := Option.some.inj (hrange.symm.trans hrange')
  have hday : formatDay 20114 = formatDay d :=
    (show formatDay 20114 = "2025-01-26" by decide +kernel).trans
      (Option.some.inj (hdate.symm.trans hdate'))
  obtain rfl := formatDay_injective hday
  exact absurd hge (by decide)

end Calendar
