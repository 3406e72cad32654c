import AuraLive.Calendar.TimeExpressions

set_option relaxedAutoImplicit false
set_option autoImplicit false

/-!
# Appointments by voice

`LlmService.handleCalendarRequest` makes an event of an utterance. The start is the text of the date
and the time; the end is an hour later, as a `Date` of the server's time zone, written in UTC. Both
are labelled with the time zone of Seoul.

## Main definitions

* `Calendar.extractTitle` — the title in a text, without the words for a date and a time.
* `Calendar.eventTimes` — the start and the end of an event.
* `Calendar.handleCalendarRequest` — the event that is inserted, and the reply.
* `Calendar.IsHour` — an event lasts one hour, from a time that exists and was meant.

## Main results

* `Calendar.start_eq_dateTime_iff` — when the text of the start is a date and a time that exist.
* `Calendar.end_of_eventTimes` — the end is off by the offset of the server.
* `Calendar.isHour_iff` — an event with a time lasts one hour exactly if the server is at UTC, the
  date exists, the numbers of the time fit, and the hour does not run into the year 10000.
* `Calendar.seoul_ends_before_start` — on a server in Seoul an event ends before it starts.

## Design

* **Other texts.** If the date or the time does not exist, the language leaves open what `new Date`
  makes of the text; the start is not valid then, whatever it makes of it.
* **The calendar.** The calendar API is a parameter; it may fail.
-/

namespace Calendar

open Foundations JsDate VoiceBot

/-! ## The title -/

section Patterns

/-- What follows some digits at the start of a text: at least `least` and at most `most`. -/
def dropDigits (least most : ℕ) (cs : List Char) : Option (List Char) :=
  if least ≤ (takeDigits most cs).1.length then some (takeDigits most cs).2 else none

/-- What follows one of some words at the start of a text. -/
def dropAny (words : List String) (cs : List Char) : Option (List Char) :=
  words.findSome? fun word => dropWord word.toList cs

/-- What follows one of some words, if one of them is there. -/
def dropOptional (words : List String) (cs : List Char) : List Char :=
  (dropAny words cs).getD cs

/-- `\s*`. -/
def dropSpaces (cs : List Char) : List Char := cs.dropWhile isJsSpace

/-- `\d{1,2}시\s*\d*분?`. -/
def dropTime (cs : List Char) : Option (List Char) := do
  let cs ← dropDigits 1 2 cs
  let cs ← dropWord "시".toList cs
  return dropOptional ["분"] ((dropSpaces cs).dropWhile Char.isDigit)

/-- The patterns that `extractTitle` removes, in this order. Each gives what follows a match. -/
def titlePatterns : List (List Char → Option (List Char)) := [
  -- `\d{4}년\s*`
  fun cs => do
    let cs ← dropDigits 4 4 cs
    let cs ← dropWord "년".toList cs
    return dropSpaces cs,
  -- `\d{1,2}월\s*\d{1,2}일`
  fun cs => do
    let cs ← dropDigits 1 2 cs
    let cs ← dropWord "월".toList cs
    let cs ← dropDigits 1 2 (dropSpaces cs)
    dropWord "일".toList cs,
  dropAny ["오늘", "내일", "모레", "다음주", "다음 주"],
  fun cs => do
    let cs ← dropWord "오전".toList cs
    dropTime (dropSpaces cs),
  fun cs => do
    let cs ← dropWord "오후".toList cs
    dropTime (dropSpaces cs),
  dropTime,
  -- `\d{1,2}:\d{2}`
  fun cs => do
    let cs ← dropDigits 1 2 cs
    let cs ← dropWord ":".toList cs
    dropDigits 2 2 cs,
  -- `일정\s*(?:잡아|추가|등록|넣어)(?:줘|줄래|줄 수 있어)?`
  fun cs => do
    let cs ← dropWord "일정".toList cs
    let cs ← dropAny ["잡아", "추가", "등록", "넣어"] (dropSpaces cs)
    return dropOptional ["줘", "줄래", "줄 수 있어"] cs,
  -- `캘린더에?\s*(?:추가|등록|넣어)(?:줘)?`
  fun cs => do
    let cs ← dropWord "캘린더".toList cs
    let cs ← dropAny ["추가", "등록", "넣어"] (dropSpaces (dropOptional ["에"] cs))
    return dropOptional ["줘"] cs,
  -- `(?:잡아|추가|등록|넣어)(?:줘)?`
  fun cs => do
    let cs ← dropAny ["잡아", "추가", "등록", "넣어"] cs
    return dropOptional ["줘"] cs,
  -- `에\s*$`
  fun cs => do
    let cs ← dropWord "에".toList cs
    if dropSpaces cs = [] then some [] else none,
  -- `아우라야?|헤이\s*아우라`
  fun cs =>
    match dropWord "아우라".toList cs with
    | some cs => some (dropOptional ["야"] cs)
    | none => do
      let cs ← dropWord "헤이".toList cs
      dropWord "아우라".toList (dropSpaces cs)]

/-- `text.replace(pattern, '')`, for all matches: after a match, its other characters are skipped.
-/
def removeAll (pattern : List Char → Option (List Char)) : ℕ → List Char → List Char
  | _, [] => []
  | skip + 1, _ :: cs => removeAll pattern skip cs
  | 0, c :: cs =>
    match pattern (c :: cs) with
    | some rest => removeAll pattern (cs.length - rest.length) cs
    | none => c :: removeAll pattern 0 cs

end Patterns

/-- `LlmService.extractTitle`. -/
def extractTitle (text : String) : String :=
  let cleaned := jsTrim (String.ofList
    (titlePatterns.foldl (fun cs pattern => removeAll pattern 0 cs) text.toList))
  if cleaned = "" then "회의" else cleaned

/-! ## The event -/

/-- `calendar_v3.Schema$EventDateTime`. -/
structure EventDateTime where
  dateTime : Option String
  timeZone : Option String
  date : Option String
  deriving DecidableEq

/-- The body of a request to the calendar. -/
structure CalendarEvent where
  summary : String
  description : String
  start : EventDateTime
  end_ : EventDateTime
  deriving DecidableEq

/-- A time of an event, in Seoul. -/
def inSeoul (dateTime : String) : EventDateTime := ⟨some dateTime, some "Asia/Seoul", none⟩

/-- The text of the start. -/
def startDateTime (date time : String) : String := date ++ "T" ++ time ++ ":00"

/-- The start and the end of an event, `none` if `toISOString` throws. -/
def eventTimes (zone : TimeZone) (other : List Char → Option ℤ) (date : String) :
    Option String → Option (EventDateTime × EventDateTime)
  | some time => do
    let endDate ← zone.parse other (startDateTime date time).toList
    let endDate ← zone.setMinutes endDate (zone.getMinutes endDate + 60)
    return (inSeoul (startDateTime date time),
      inSeoul (String.ofList ((toISOString endDate).take 19)))
  | none => some (⟨none, none, some date⟩, ⟨none, none, some date⟩)

/-- The start of a text matches `(\d{4})-(\d{2})-(\d{2})`: the month and the date. -/
def writtenDay (cs : List Char) : Option (String × String) :=
  match takeDigits 4 cs with
  | (year, '-' :: rest) =>
    match takeDigits 2 rest with
    | (month, '-' :: rest) =>
      let day := (takeDigits 2 rest).1
      if year.length = 4 ∧ month.length = 2 ∧ day.length = 2 then
        some (String.ofList month, String.ofList day)
      else none
    | _ => none
  | _ => none

/-- The reply to an event that was inserted. -/
def insertedReply (title date : String) (time : Option String) : String :=
  let dateStr :=
    match date.toList.tails.findSome? writtenDay with
    | some (month, day) => toString (parseInt month) ++ "월 " ++ toString (parseInt day) ++ "일"
    | none => date
  let timeStr := (time.map (" " ++ ·)).getD ""
  "네, \"" ++ title ++ "\" 일정을 " ++ dateStr ++ timeStr ++ "에 추가했습니다."

/-- `LlmService.handleCalendarRequest`: the event that is inserted, if any, and the reply. -/
def handleCalendarRequest (zone : TimeZone) (other : List Char → Option ℤ) (today : ℤ)
    (calendar : Option (CalendarEvent → Except String Unit)) (text : String) :
    Option CalendarEvent × String :=
  match calendar with
  | none => (none, "캘린더 서비스가 초기화되지 않았습니다.")
  | some insert =>
    match extractDate zone today text with
    | none =>
      (none, "날짜를 인식하지 못했습니다. \"1월 15일\" 또는 \"내일\" 같은 형식으로 말씀해주세요.")
    | some date =>
      let time := extractTime text
      let title := extractTitle text
      match eventTimes zone other date time with
      | none => (none, "일정 추가에 실패했습니다: Invalid time value")
      | some (start, end_) =>
        let event := ⟨title, "AURA 회의 중 생성됨", start, end_⟩
        match insert event with
        | .error message => (some event, "일정 추가에 실패했습니다: " ++ message)
        | .ok () => (some event, insertedReply title date time)

/-- An event lasts one hour: its start is the text of a time of a day that exists, in Seoul, with
the hour that the text means, and its end is the text of the time an hour later, in Seoul. -/
def IsHour (text : String) (event : CalendarEvent) : Prop :=
  ∃ t : ℤ, ∃ e : TimeExpression, timeExpression text = some e ∧ hourOf t = e.hourOfDay ∧
    0 ≤ yearOf (day t) ∧ yearOf (day (t + 3600000)) ≤ 9999 ∧
    event.start = inSeoul (String.ofList (dateTime t)) ∧
    event.end_ = inSeoul (String.ofList (dateTime (t + 3600000)))

/-! ## The texts of an event -/

/-- What is inserted has the times of the date and the time in the text. -/
lemma eventTimes_of_inserted {zone : TimeZone} {other : List Char → Option ℤ} {today : ℤ}
    {insert : CalendarEvent → Except String Unit} {text : String} {event : CalendarEvent}
    (h : (handleCalendarRequest zone other today (some insert) text).1 = some event) :
    ∃ date, extractDate zone today text = some date ∧
      eventTimes zone other date (extractTime text) = some (event.start, event.end_) := by
  unfold handleCalendarRequest at h
  dsimp only at h
  split at h
  case h_1 => cases h
  case h_2 date hdate =>
    split at h
    case h_1 => cases h
    case h_2 start end_ htimes =>
      refine ⟨date, hdate, ?_⟩
      split at h <;> obtain rfl := Option.some.inj h <;> exact htimes

/-- The text of a start is the one of a date and a time exactly if the parts are. -/
lemma start_eq_dateTime_iff (date : String) {time : String} {hour minute : ℕ} (hhour : hour < 100)
    (hminute : minute < 100) (htime : time.toList = padded 2 hour ++ ':' :: padded 2 minute)
    (t : ℤ) :
    (startDateTime date time).toList = dateTime t ↔
      date.toList = isoDay (day t) ∧ hour = hourOf t ∧ minute = minuteOf t ∧ 0 = secondOf t := by
  have htext : (startDateTime date time).toList =
      date.toList ++ 'T' :: ((padded 2 hour ++ ':' :: padded 2 minute) ++ ':' :: padded 2 0) := by
    have hseconds : ":00".toList = ':' :: padded 2 0 := by decide
    have hletter : "T".toList = ['T'] := rfl
    rw [startDateTime, String.toList_append, String.toList_append, String.toList_append, htime,
      hseconds, hletter]
    simp only [List.append_assoc, List.cons_append, List.nil_append]
  rw [htext, dateTime]
  constructor
  · intro h
    have hlength : ('T' :: ((padded 2 hour ++ ':' :: padded 2 minute) ++
        ':' :: padded 2 0)).length = ('T' :: clock t).length := by
      rw [List.length_cons, List.length_cons, length_clock, List.length_append, List.length_append,
        List.length_cons, List.length_cons, length_padded (by decide) (by omega),
        length_padded (by decide) (by omega), length_padded (by decide) (by omega)]
    obtain ⟨hdate, hclock⟩ := List.append_inj' h hlength
    obtain ⟨hfront, hsecond⟩ := (append_separator_right_inj (notMem_padded rfl)
      (notMem_padded rfl)).mp (List.cons.inj hclock).2
    obtain ⟨hh, hm⟩ := (append_separator_left_inj (notMem_padded rfl) (notMem_padded rfl)).mp hfront
    exact ⟨hdate, padded_inj hh, padded_inj hm, padded_inj hsecond⟩
  · rintro ⟨hdate, rfl, rfl, hsecond⟩
    rw [hdate, clock, hourAndMinute, ← hsecond]

/-- **The end is off by the offset of the server.** If the start is the text of a time that exists,
the end is the text of the instant that is an hour later for a clock at UTC, less the offset. -/
theorem end_of_eventTimes {server : UtcOffset} {other : List Char → Option ℤ} {date time : String}
    {start end_ : EventDateTime} {t : ℤ} (h0 : 0 ≤ yearOf (day t)) (hle : yearOf (day t) ≤ 9999)
    (htext : (startDateTime date time).toList = dateTime t)
    (h : eventTimes server.zone other date (some time) = some (start, end_)) :
    end_ = inSeoul (String.ofList ((toISOString
      (t / 1000 * 1000 + 3600000 - server.minutes * 60000)).take 19)) := by
  have hclip : ∀ {x y : ℤ}, timeClip x = some y → y = x := by
    intro x y hxy
    unfold timeClip at hxy
    split at hxy
    case isTrue => exact (Option.some.inj hxy).symm
    case isFalse => cases hxy
  unfold eventTimes at h
  simp only [Option.bind_eq_bind, Option.bind_eq_some_iff, Option.pure_def, Option.some.injEq,
    Prod.mk.injEq] at h
  obtain ⟨t₀, hparse, t₁, hset, -, rfl⟩ := h
  rw [TimeZone.parse, htext, readDateTime_dateTime h0 hle] at hparse
  have ht₀ := hclip hparse
  rw [TimeZone.setMinutes_getMinutes_add] at hset
  have ht₁ := hclip hset
  rw [server.utc_zone] at ht₀ ht₁
  rw [server.localTime_zone] at ht₁
  have heq : t₁ = t / 1000 * 1000 + 3600000 - server.minutes * 60000 := by omega
  rw [heq]

/-- A start with a time comes from a time in the text. -/
lemma extractTime_of_timed {zone : TimeZone} {other : List Char → Option ℤ} {date : String}
    {time : Option String} {start end_ : EventDateTime} (htimed : start.dateTime.isSome = true)
    (h : eventTimes zone other date time = some (start, end_)) :
    ∃ time', time = some time' ∧ start = inSeoul (startDateTime date time') := by
  cases time with
  | none =>
    obtain ⟨rfl, -⟩ := Prod.mk.inj (Option.some.inj h)
    cases htimed
  | some time =>
    unfold eventTimes at h
    simp only [Option.bind_eq_bind, Option.bind_eq_some_iff, Option.pure_def, Option.some.injEq,
      Prod.mk.injEq] at h
    obtain ⟨t₀, -, t₁, -, rfl, -⟩ := h
    exact ⟨time, rfl, rfl⟩

/-- Years do not go back. -/
lemma yearOf_day_mono {t t' : ℤ} (h : t ≤ t') : yearOf (day t) ≤ yearOf (day t') := by
  refine yearOf_mono ?_
  unfold day msPerDay
  omega

/-- The day an hour later. -/
lemma day_add_hour (t : ℤ) :
    day (t + 3600000) = if hourOf t = 23 then day t + 1 else day t := by
  unfold day hourOf timeWithinDay msPerDay
  omega

/-- Times in Seoul are the same if their texts are. -/
lemma inSeoul_ofList_inj {cs cs' : List Char} :
    inSeoul (String.ofList cs) = inSeoul (String.ofList cs') ↔ cs = cs' := by
  simp only [inSeoul, EventDateTime.mk.injEq, Option.some.injEq, and_true, String.ofList_inj]

/-- **When an event with a time lasts one hour.** For every server, every present instant and every
text for which an event with a time is inserted: the start is a time that exists and is meant, and
the end is sixty minutes later, exactly if the date in the text exists, the numbers of the time fit,
the hour ends before the year 10000, and the server is at UTC.

**Proof sketch.** The text of the start is the one of an existing time if the date and the numbers
are. The end is then off by the offset of the server, and texts are equal only within a second. -/
theorem isHour_iff (server : UtcOffset) (other : List Char → Option ℤ) (today : ℤ)
    (insert : CalendarEvent → Except String Unit) (text : String) (event : CalendarEvent)
    (h : (handleCalendarRequest server.zone other today (some insert) text).1 = some event)
    (htimed : event.start.dateTime.isSome = true) :
    IsHour text event ↔
      ∃ date d time, dateExpression text = some date ∧ date.Names server.zone today d ∧
        timeExpression text = some time ∧ time.Fits ∧
        (time.hourOfDay = 23 → yearOf (d + 1) ≤ 9999) ∧ server.minutes = 0 := by
  obtain ⟨dateText, hdateText, htimes⟩ := eventTimes_of_inserted h
  obtain ⟨timeText, htimeText, hstart⟩ := extractTime_of_timed htimed htimes
  rw [htimeText] at htimes
  rw [extractDate_eq] at hdateText
  obtain ⟨date, hdate, hwrite⟩ := Option.map_eq_some_iff.mp hdateText
  have hnames := toList_write_eq_isoDay_iff server.zone today (wellFormed_of_dateExpression hdate)
  rw [hwrite] at hnames
  have hwritten := extractTime_writtenAs text
  rw [htimeText] at hwritten
  obtain ⟨time, htime, htimeWrite⟩ := Option.map_eq_some_iff.mp hwritten.1.symm
  obtain ⟨hhour, hminute⟩ := hwritten.2 time htime
  have hstartText := start_eq_dateTime_iff dateText hhour hminute htimeWrite.symm
  constructor
  · rintro ⟨t, e, he, hmeant, h0, hle, ht, hend⟩
    obtain rfl : time = e := Option.some.inj (htime.symm.trans he)
    have hle' : yearOf (day t) ≤ 9999 := Int.le_trans (yearOf_day_mono (by omega)) hle
    have htext : (startDateTime dateText timeText).toList = dateTime t := by
      rw [hstart] at ht
      rw [← String.toList_ofList (l := dateTime t)]
      exact congrArg String.toList (Option.some.inj (EventDateTime.mk.inj ht).1)
    obtain ⟨hday, hh, hm, -⟩ := (hstartText t).mp htext
    obtain ⟨hrange, hrange', -, -⟩ := time_range t
    refine ⟨date, day t, time, hdate, (hnames (day t)).mp ⟨hday, h0, hle'⟩, htime,
      time.fits_iff.mpr ⟨by omega, by omega, by omega⟩, fun hlast => ?_, ?_⟩
    · have hnext : day (t + 3600000) = day t + 1 := by
        rw [day_add_hour, if_pos (hmeant.trans hlast)]
      rwa [← hnext]
    · rw [end_of_eventTimes h0 hle' htext htimes, inSeoul_ofList_inj] at hend
      have h0' : 0 ≤ yearOf (day (t + 3600000)) :=
        Int.le_trans h0 (yearOf_day_mono (by omega))
      have hseconds := eq_of_take_toISOString h0' hle hend
      omega
  · rintro ⟨date', d, e, hdate', hd, he, hfits, hlast, hutc⟩
    obtain rfl : date = date' := Option.some.inj (hdate.symm.trans hdate')
    obtain rfl : time = e := Option.some.inj (htime.symm.trans he)
    obtain ⟨hle, hminute', hmeant⟩ := time.fits_iff.mp hfits
    obtain ⟨hday, h0, hyear⟩ := (hnames d).mpr hd
    obtain ⟨hpd, hph, hpm, hps⟩ := parts_makeDate hle hminute' d
    generalize ht : makeDate d (makeTime time.writtenHour time.minute 0 0) = t at hpd hph hpm hps
    have htext : (startDateTime dateText timeText).toList = dateTime t :=
      (hstartText t).mpr ⟨hpd.symm ▸ hday, hph.symm, hpm.symm, hps.symm⟩
    have hend := end_of_eventTimes (hpd.symm ▸ h0) (hpd.symm ▸ hyear) htext htimes
    -- the hour ends on the same day, or at the latest on the next one
    have hend0 : 0 ≤ yearOf (day (t + 3600000)) :=
      Int.le_trans (hpd.symm ▸ h0) (yearOf_day_mono (by omega))
    have hend9999 : yearOf (day (t + 3600000)) ≤ 9999 := by
      rw [day_add_hour, hpd]
      split
      · rename_i h23
        exact hlast (by omega)
      · exact hyear
    refine ⟨t, time, htime, by omega, hpd.symm ▸ h0, hend9999, ?_, ?_⟩
    · rw [hstart, ← htext, String.ofList_toList]
    · have hwhole : t / 1000 * 1000 + 3600000 - server.minutes * 60000 = t + 3600000 := by
        have hmultiple := ht
        unfold makeDate makeTime msPerDay at hmultiple
        omega
      rw [hend, hwhole, take_toISOString hend0 hend9999]

/-- A server at UTC. -/
def utc : UtcOffset := ⟨0, by decide⟩

/-- A server in Seoul. -/
def seoulOffset : UtcOffset := ⟨540, by decide⟩

/-- On a server at UTC, an event at three in the afternoon lasts until four. -/
theorem isHour_iff_at_utc :
    IsHour "내일 오후 3시 회의 일정 잡아줘" ⟨"회의", "AURA 회의 중 생성됨",
      inSeoul "2025-01-16T15:00:00", inSeoul "2025-01-16T16:00:00"⟩ :=
  (isHour_iff utc (fun _ => none) wednesday (fun _ => .ok ()) "내일 오후 3시 회의 일정 잡아줘"
    ⟨"회의", "AURA 회의 중 생성됨", inSeoul "2025-01-16T15:00:00", inSeoul "2025-01-16T16:00:00"⟩
    (by decide +kernel) rfl).mpr
    ⟨.inDays 1, 20104, ⟨some .pm, false, 3, 0⟩, by decide +kernel,
      ⟨by decide +kernel, by decide +kernel, by decide +kernel⟩, by decide +kernel,
      (TimeExpression.fits_iff _).mpr (by decide), by decide, rfl⟩

/-- **An event that ends before it starts.** On a server in Seoul, an event at three in the
afternoon ends at seven in the morning. -/
theorem seoul_ends_before_start :
    (handleCalendarRequest seoulOffset.zone (fun _ => none) wednesday (some fun _ => .ok ())
      "내일 오후 3시 회의 일정 잡아줘").1 = some ⟨"회의", "AURA 회의 중 생성됨",
        inSeoul "2025-01-16T15:00:00", inSeoul "2025-01-16T07:00:00"⟩ ∧
    ¬ IsHour "내일 오후 3시 회의 일정 잡아줘" ⟨"회의", "AURA 회의 중 생성됨",
      inSeoul "2025-01-16T15:00:00", inSeoul "2025-01-16T07:00:00"⟩ := by
  refine ⟨by decide +kernel, ?_⟩
  rintro ⟨t, e, -, -, -, -, hstart, hend⟩
  have hthree : String.ofList (dateTime 1737039600000) = "2025-01-16T15:00:00" := by decide +kernel
  have hseven : String.ofList (dateTime 1737010800000) = "2025-01-16T07:00:00" := by decide +kernel
  rw [← hthree] at hstart
  rw [← hseven] at hend
  have hs := dateTime_inj (inSeoul_ofList_inj.mp hstart)
  have he := dateTime_inj (inSeoul_ofList_inj.mp hend)
  omega

end Calendar
