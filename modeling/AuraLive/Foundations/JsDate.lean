import Mathlib.Algebra.Ring.Int.Defs
import Mathlib.Data.Int.Basic
import Mathlib.Data.List.Basic
import Mathlib.Tactic.Common

set_option relaxedAutoImplicit false
set_option autoImplicit false

/-!
# Dates

The `Date` of ECMAScript: time values in milliseconds since 1970, the proleptic Gregorian calendar,
and a time zone, which is a parameter.

## Main definitions

* `Foundations.JsDate.yearOf`, `monthOf`, `dateOf`, `weekDay` — the calendar of day numbers.
* `Foundations.JsDate.makeDay` — the day number of a year, a month and a date, which may be out of
  range.
* `Foundations.JsDate.TimeZone` — a time zone, with what is known of its local times.
* `Foundations.JsDate.TimeZone.setDate`, `setHours` — the setters, which may make a date invalid.

## Main results

* `Foundations.JsDate.makeDay_dateOf_add` — adding to the date adds days, over the ends of months
  and years.
* `Foundations.JsDate.TimeZone.setDate_getDate_add`, `setHours_day` — the local day after a setter.
* `Foundations.JsDate.TimeZone.DaysAfter.add` — the local day after several of them.

## Design

* **Gaps.** A local time that a change of the offset leaves out is moved forward by the length of
  the gap, so its day may become the next one. This happens when a whole day is left out, or a gap
  contains midnight. Two such gaps are at least a week apart.
-/

namespace Foundations

namespace JsDate

/-! ## Days -/

/-- The milliseconds of a day. -/
def msPerDay : ℤ := 86400000

/-- The number of the day of a time value. -/
def day (t : ℤ) : ℤ := t / msPerDay

/-- The milliseconds since the start of the day. -/
def timeWithinDay (t : ℤ) : ℤ := t % msPerDay

/-- The time value of a time of a day. -/
def makeDate (day time : ℤ) : ℤ := day * msPerDay + time

/-- The milliseconds of an hour, a minute, a second and milliseconds. -/
def makeTime (hour minute second ms : ℤ) : ℤ :=
  hour * 3600000 + minute * 60000 + second * 1000 + ms

/-- The day of a time of a day. -/
lemma day_makeDate (d : ℤ) {time : ℤ} (h : 0 ≤ time) (hlt : time < msPerDay) :
    day (makeDate d time) = d := by
  unfold day makeDate msPerDay at *
  omega

/-- The time within a day is one. -/
lemma timeWithinDay_range (t : ℤ) : 0 ≤ timeWithinDay t ∧ timeWithinDay t < msPerDay := by
  unfold timeWithinDay msPerDay
  omega

/-- The day of the week, from Sunday on. -/
def weekDay (d : ℤ) : ℤ := (d + 4) % 7

/-! ## The calendar -/

/-- The number of the first day of a year. -/
def dayFromYear (y : ℤ) : ℤ :=
  365 * (y - 1970) + (y - 1969) / 4 - (y - 1901) / 100 + (y - 1601) / 400

/-- The year of a day: the mean length of a year gives it up to one. -/
def yearOf (d : ℤ) : ℤ :=
  let y := 1970 + d * 400 / 146097
  if d < dayFromYear y then y - 1 else if dayFromYear (y + 1) ≤ d then y + 1 else y

/-- A day is not before its year. -/
lemma dayFromYear_yearOf_le (d : ℤ) : dayFromYear (yearOf d) ≤ d := by
  unfold yearOf dayFromYear
  dsimp only
  split
  · omega
  · split <;> omega

/-- A day is before the next year. -/
lemma lt_dayFromYear_yearOf_add_one (d : ℤ) : d < dayFromYear (yearOf d + 1) := by
  unfold yearOf
  dsimp only
  split
  · rwa [Int.sub_add_cancel]
  · unfold dayFromYear at *
    split <;> omega

/-- One in a leap year, else zero. -/
def leapDay (y : ℤ) : ℤ := dayFromYear (y + 1) - dayFromYear y - 365

/-- A year has 365 or 366 days. -/
lemma leapDay_range (y : ℤ) : 0 ≤ leapDay y ∧ leapDay y ≤ 1 := by
  unfold leapDay dayFromYear
  omega

/-- The lengths of the months. -/
def monthLengths (y : ℤ) : List ℤ :=
  [31, 28 + leapDay y, 31, 30, 31, 30, 31, 31, 30, 31, 30, 31]

/-- The days of a year before a month. -/
def monthStart (y : ℤ) (m : ℕ) : ℤ := ((monthLengths y).take m).sum

/-- The day within its year. -/
def dayWithinYear (d : ℤ) : ℤ := d - dayFromYear (yearOf d)

/-- Which of some periods, one after the other, a day is in. -/
def periodOf : ℤ → List ℤ → ℕ
  | _, [] => 0
  | k, n :: ns => if k < n then 0 else periodOf (k - n) ns + 1

/-- The month of a day, from zero on. -/
def monthOf (d : ℤ) : ℕ := periodOf (dayWithinYear d) (monthLengths (yearOf d))

/-- The date of a day, from one on. -/
def dateOf (d : ℤ) : ℤ := dayWithinYear d - monthStart (yearOf d) (monthOf d) + 1

/-- The day of a year, a month and a date. Months and dates out of range run into other years and
months. -/
def makeDay (y m date : ℤ) : ℤ :=
  dayFromYear (y + m / 12) + monthStart (y + m / 12) (m % 12).toNat + date - 1

/-- A day that is in some period is not before its start, nor after its end. -/
lemma periodOf_spec {bound : ℤ} : ∀ {l : List ℤ} {k : ℤ}, (∀ n ∈ l, n ≤ bound) → 0 ≤ k →
    k < l.sum → periodOf k l < l.length ∧ (l.take (periodOf k l)).sum ≤ k ∧
      k < (l.take (periodOf k l)).sum + bound
  | [], k, _, h0, hk => by
    rw [List.sum_nil] at hk
    omega
  | n :: l, k, hl, h0, hk => by
    rw [List.sum_cons] at hk
    unfold periodOf
    split
    · have hn := hl n List.mem_cons_self
      simp only [List.length_cons, List.take_zero, List.sum_nil]
      omega
    · obtain ⟨hlen, hle, hlt⟩ := periodOf_spec (l := l) (k := k - n)
        (fun x hx => hl x (List.mem_cons_of_mem n hx)) (by omega) (by omega)
      simp only [List.length_cons, List.take_succ_cons, List.sum_cons]
      omega

/-- A day is in its month, which has at most 31 days. -/
lemma monthOf_spec (d : ℤ) : monthOf d < 12 ∧
    monthStart (yearOf d) (monthOf d) ≤ dayWithinYear d ∧
    dayWithinYear d < monthStart (yearOf d) (monthOf d) + 31 := by
  have hl := leapDay_range (yearOf d)
  have hstart := dayFromYear_yearOf_le d
  have hend := lt_dayFromYear_yearOf_add_one d
  have hsum : (monthLengths (yearOf d)).sum = 365 + leapDay (yearOf d) := by
    simp only [monthLengths, List.sum_cons, List.sum_nil]
    omega
  refine periodOf_spec ?_ ?_ ?_
  · intro n hn
    simp only [monthLengths, List.mem_cons, List.not_mem_nil, or_false] at hn
    omega
  · unfold dayWithinYear
    omega
  · rw [hsum]
    unfold dayWithinYear leapDay
    omega

/-- A date is one of thirty-one. -/
lemma dateOf_range (d : ℤ) : 1 ≤ dateOf d ∧ dateOf d ≤ 31 := by
  obtain ⟨-, hle, hlt⟩ := monthOf_spec d
  unfold dateOf
  omega

/-- **Adding to the date adds days**, also over the end of the month or the year. -/
theorem makeDay_dateOf_add (d n : ℤ) : makeDay (yearOf d) (monthOf d) (dateOf d + n) = d + n := by
  have hlt := (monthOf_spec d).1
  have hdiv : (monthOf d : ℤ) / 12 = 0 := by omega
  have hmod : ((monthOf d : ℤ) % 12).toNat = monthOf d := by omega
  unfold makeDay dateOf dayWithinYear
  rw [hdiv, hmod, Int.add_zero]
  omega

/-- Days with the same year, month and date are the same. -/
lemma eq_of_dates_eq {d d' : ℤ} (hy : yearOf d = yearOf d') (hm : monthOf d = monthOf d')
    (hd : dateOf d = dateOf d') : d = d' := by
  have h := makeDay_dateOf_add d 0
  rw [hy, hm, hd, makeDay_dateOf_add] at h
  omega

/-! ## Time zones -/

/-- A time zone: the local time of an instant, and the instant that is meant by a local time. A
local time that does not exist is moved forward, at most to the next day. -/
structure TimeZone where
  /-- `LocalTime(t)`. -/
  localTime : ℤ → ℤ
  /-- `UTC(t)`. -/
  utc : ℤ → ℤ
  /-- The day of a local time stays, or becomes the next one. -/
  day_stays_or_next : ∀ t, day (localTime (utc t)) = day t ∨ day (localTime (utc t)) = day t + 1
  /-- Two days of which a time is moved to the next day are at least a week apart. -/
  moved_apart : ∀ t t', day (localTime (utc t)) = day t + 1 →
    day (localTime (utc t')) = day t' + 1 → day t < day t' → day t + 7 ≤ day t'

/-- The time values of a `Date`: up to a hundred million days from 1970. Others are `NaN`. -/
def timeClip (t : ℤ) : Option ℤ :=
  if -8640000000000000 ≤ t ∧ t ≤ 8640000000000000 then some t else none

namespace TimeZone

variable (zone : TimeZone)

/-- The local day of an instant. -/
def localDay (t : ℤ) : ℤ := day (zone.localTime t)

/-- `getDay()`. -/
def getDay (t : ℤ) : ℤ := weekDay (zone.localDay t)

/-- `getDate()`. -/
def getDate (t : ℤ) : ℤ := dateOf (zone.localDay t)

/-- `getMonth()`. -/
def getMonth (t : ℤ) : ℕ := monthOf (zone.localDay t)

/-- `getFullYear()`. -/
def getFullYear (t : ℤ) : ℤ := yearOf (zone.localDay t)

/-- `setDate(date)`. -/
def setDate (t date : ℤ) : Option ℤ :=
  timeClip (zone.utc (makeDate (makeDay (zone.getFullYear t) (zone.getMonth t) date)
    (timeWithinDay (zone.localTime t))))

/-- `setHours(hour, minute, second, ms)`. -/
def setHours (t hour minute second ms : ℤ) : Option ℤ :=
  timeClip (zone.utc (makeDate (zone.localDay t) (makeTime hour minute second ms)))

/-- `new Date(year, month, date)`, where two digits of a year stand for the last century. -/
def ofDate (year month date : ℤ) : Option ℤ :=
  timeClip (zone.utc (makeDate
    (makeDay (if 0 ≤ year ∧ year ≤ 99 then 1900 + year else year) month date) 0))

/-- Some time of the day is moved to the next day. -/
def Moves (d : ℤ) : Prop := ∃ t, day t = d ∧ zone.localDay (zone.utc t) = d + 1

variable {zone}

/-- Days with times that are moved are at least a week apart. -/
lemma Moves.apart {d d' : ℤ} (h : zone.Moves d) (h' : zone.Moves d') (hlt : d < d') :
    d + 7 ≤ d' := by
  obtain ⟨t, rfl, ht⟩ := h
  obtain ⟨t', rfl, ht'⟩ := h'
  exact zone.moved_apart t t' ht ht' hlt

/-- The local day of the instant that is meant by a time of a day. -/
lemma localDay_of_timeClip {d time t : ℤ} (h0 : 0 ≤ time) (hlt : time < msPerDay)
    (h : timeClip (zone.utc (makeDate d time)) = some t) :
    zone.localDay t = d ∨ zone.localDay t = d + 1 ∧ zone.Moves d := by
  unfold timeClip at h
  split at h
  case isFalse => cases h
  obtain rfl := Option.some.inj h
  have hday := day_makeDate d h0 hlt
  rcases zone.day_stays_or_next (makeDate d time) with hstay | hnext
  · exact .inl (hstay.trans hday)
  · rw [hday] at hnext
    exact .inr ⟨hnext, makeDate d time, hday, hnext⟩

/-- **The day after `setDate(getDate() + n)`**: `n` days later, or the day after that. -/
lemma setDate_getDate_add {t t' n : ℤ} (h : zone.setDate t (zone.getDate t + n) = some t') :
    zone.localDay t' = zone.localDay t + n ∨
      zone.localDay t' = zone.localDay t + n + 1 ∧ zone.Moves (zone.localDay t + n) := by
  have hrange := timeWithinDay_range (zone.localTime t)
  unfold setDate getFullYear getMonth getDate at h
  rw [makeDay_dateOf_add] at h
  exact localDay_of_timeClip hrange.1 hrange.2 h

/-- **The day after `setHours`**: the same, or the next one. -/
lemma setHours_day {t t' hour minute second ms : ℤ} (h0 : 0 ≤ makeTime hour minute second ms)
    (hlt : makeTime hour minute second ms < msPerDay)
    (h : zone.setHours t hour minute second ms = some t') :
    zone.localDay t' = zone.localDay t ∨
      zone.localDay t' = zone.localDay t + 1 ∧ zone.Moves (zone.localDay t) :=
  localDay_of_timeClip h0 hlt h

/-- A local day is `i` days after another one, or one more if a day since then is moved. -/
def DaysAfter (zone : TimeZone) (base i d : ℤ) : Prop :=
  d = base + i ∨ d = base + i + 1 ∧ ∃ m, zone.Moves m ∧ base ≤ m ∧ m ≤ base + i

/-- A setter that adds `n` days adds them to the distance, within a week.

**Proof sketch.** If a day was moved before, the new one is less than a week later and is not
moved. -/
lemma DaysAfter.add {base i n d d' : ℤ} (h : zone.DaysAfter base i d) (hi : 0 ≤ i) (hn : 0 ≤ n)
    (hweek : i + n < 6) (h' : d' = d + n ∨ d' = d + n + 1 ∧ zone.Moves (d + n)) :
    zone.DaysAfter base (i + n) d' := by
  rcases h with h | ⟨h, m, hm, hbase, hlast⟩
  · rcases h' with h' | ⟨h', hmoves⟩
    · exact .inl (by omega)
    · exact .inr ⟨by omega, d + n, hmoves, by omega, by omega⟩
  · rcases h' with h' | ⟨h', hmoves⟩
    · exact .inr ⟨by omega, m, hm, hbase, by omega⟩
    · have hapart := hm.apart hmoves (by omega)
      omega

end TimeZone

/-- A zone with a fixed offset from UTC. -/
def TimeZone.fixed (offset : ℤ) : TimeZone where
  localTime t := t + offset
  utc t := t - offset
  day_stays_or_next t := by simp
  moved_apart t t' h _ _ := by
    rw [Int.sub_add_cancel] at h
    omega

end JsDate

end Foundations
