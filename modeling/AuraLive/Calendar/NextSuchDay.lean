import AuraLive.Calendar.DateExpressions
import Mathlib.Order.Bounds.Basic

set_option relaxedAutoImplicit false
set_option autoImplicit false

/-!
# The next such day

A text with `M월 D일` should mean the next day with this month and date, today included. `extractDate`
takes the present year, or the next one if the midnight of the day is over, and does not ask whether
the day exists.

## Main definitions

* `Calendar.Upcoming` — the days from today on with a month and a date.
* `Calendar.MeansNext` — a result is the text of the first of them, or `null` if there are none.
* `Calendar.YearFits` — the year that `extractDate` takes is the one of the first such day.

## Main results

* `Calendar.isLeast_upcoming_iff` — the first such day is in the first year that has one left.
* `Calendar.extractDate_next_iff` — the result is the next such day exactly if the year fits.
* `Calendar.today_next_year` — on the fifteenth of January, `1월 15일` is the fifteenth of January of
  the next year.

## Design

In most time zones midnight of a day is over exactly from this midnight on. Where clocks are set
back over midnight it may be over on the day before, so the condition is about the midnight.
-/

namespace Calendar

open Foundations JsDate VoiceBot

/-! ## The days to come -/

/-- The days from today on with a month and a date. -/
def Upcoming (today month date : ℤ) : Set ℤ :=
  {d | today ≤ d ∧ (monthOf d : ℤ) + 1 = month ∧ dateOf d = date}

/-- A result is the text of the first of these days, or `null` if there are none. -/
def MeansNext (today month date : ℤ) : Option String → Prop
  | some text => ∃ d, IsLeast (Upcoming today month date) d ∧ text = formatDay d
  | none => Upcoming today month date = ∅

/-- The year that is taken has the first such day: the midnight in this year is not over and the
date is one of this year, not before today; or it is over, and the date is one of next year, while
this year has no such day left. -/
def YearFits (zone : TimeZone) (now month date : ℤ) : Prop :=
  (¬ MidnightOver zone now month date ∧
    ∃ d, civilDay (zone.getFullYear now) month date = some d ∧ zone.localDay now ≤ d) ∨
  (MidnightOver zone now month date ∧
    (∃ d, civilDay (zone.getFullYear now + 1) month date = some d) ∧
    ∀ d, civilDay (zone.getFullYear now) month date = some d → d < zone.localDay now)

/-- **The first such day** is in the first year that has such a day left. -/
theorem isLeast_upcoming_iff {today month date d : ℤ} :
    IsLeast (Upcoming today month date) d ↔
      today ≤ d ∧ civilDay (yearOf d) month date = some d ∧
        ∀ y d', y < yearOf d → civilDay y month date = some d' → d' < today := by
  constructor
  · rintro ⟨⟨htoday, hm, hd⟩, hleast⟩
    refine ⟨htoday, civilDay_eq_some.mpr ⟨rfl, hm, hd⟩, fun y d' hy hd' => ?_⟩
    obtain ⟨rfl, hm', hdate'⟩ := civilDay_eq_some.mp hd'
    by_contra hge
    -- a day of an earlier year that is left would come first
    have hle := hleast ⟨Int.not_lt.mp hge, hm', hdate'⟩
    have hlt := lt_of_yearOf_lt hy
    omega
  · rintro ⟨htoday, hday, hbefore⟩
    obtain ⟨-, hm, hd⟩ := civilDay_eq_some.mp hday
    refine ⟨⟨htoday, hm, hd⟩, ?_⟩
    rintro d' ⟨htoday', hm', hd'⟩
    rcases Int.lt_trichotomy (yearOf d') (yearOf d) with hlt | heq | hgt
    · have hover := hbefore _ _ hlt (civilDay_eq_some.mpr ⟨rfl, hm', hd'⟩)
      omega
    · exact Int.le_of_eq (eq_of_dates_eq heq.symm (by omega) (by omega))
    · exact Int.le_of_lt (lt_of_yearOf_lt hgt)

/-- Of the years before one of a day to come, only those from this year on have days left. -/
lemma before_of_le {today month date y : ℤ}
    (h : ∀ d, yearOf today ≤ y → civilDay y month date = some d → d < today) {d : ℤ}
    (hd : civilDay y month date = some d) : d < today := by
  by_cases hy : yearOf today ≤ y
  · exact h d hy hd
  · obtain ⟨rfl, -, -⟩ := civilDay_eq_some.mp hd
    exact lt_of_yearOf_lt (Int.not_le.mp hy)

/-! ## What is extracted -/

/-- The text is the one of the day that the year has. -/
lemma write_monthDay_eq_iff (zone : TimeZone) (now : ℤ) (month day : String) (d : ℤ) :
    (DateExpression.monthDay month day).write zone now = formatDay d ↔
      civilDay (assumedYear zone now (parseInt month) (parseInt day)) (parseInt month)
        (parseInt day) = some d := by
  have hdate := dateOf_range d
  rw [← String.toList_inj, toList_write_monthDay, toList_formatDay_eq,
    append_dashes_inj (notMem_padded rfl) (notMem_padded rfl) (notMem_padded rfl)
      (notMem_padded rfl), civilDay_eq_some]
  constructor
  · rintro ⟨hyear, hm, hd⟩
    have hyear' := toString_int_inj (String.toList_inj.mp hyear)
    have hm' := padded_inj hm
    have hd' := padded_inj hd
    exact ⟨hyear'.symm, by omega, by omega⟩
  · rintro ⟨hyear, hm, hd⟩
    have hm' : parseInt month = monthOf d + 1 := by omega
    have hd' : parseInt day = (dateOf d).toNat := by omega
    rw [hyear, hm', hd']
    exact ⟨rfl, rfl, rfl⟩

/-- The first such day is in the year that is taken exactly if the year fits. -/
lemma yearFits_iff (zone : TimeZone) (now month date : ℤ) :
    (∃ d, IsLeast (Upcoming (zone.localDay now) month date) d ∧
      civilDay (assumedYear zone now month date) month date = some d) ↔
      YearFits zone now month date := by
  unfold YearFits assumedYear
  by_cases hover : MidnightOver zone now month date
  · rw [if_pos hover]
    constructor
    · rintro ⟨d, hleast, hday⟩
      obtain ⟨-, -, hbefore⟩ := isLeast_upcoming_iff.mp hleast
      obtain ⟨hyear, -, -⟩ := civilDay_eq_some.mp hday
      exact .inr ⟨hover, ⟨d, hday⟩, fun d' hd' => hbefore _ _ (by omega) hd'⟩
    · rintro (⟨hnot, -⟩ | ⟨-, ⟨d, hday⟩, hthis⟩)
      · exact absurd hover hnot
      obtain ⟨hyear, -, -⟩ := civilDay_eq_some.mp hday
      have hlater : zone.localDay now < d := lt_of_yearOf_lt (by
        rw [hyear]
        exact Int.lt_add_one_of_le (Int.le_refl _))
      refine ⟨d, isLeast_upcoming_iff.mpr ⟨Int.le_of_lt hlater, hyear.symm ▸ hday, ?_⟩, hday⟩
      intro y d' hy hd'
      refine before_of_le (fun d'' hge hd'' => ?_) hd'
      have hsame : y = zone.getFullYear now := by
        unfold TimeZone.getFullYear at *
        omega
      rw [hsame] at hd''
      exact hthis d'' hd''
  · rw [if_neg hover]
    constructor
    · rintro ⟨d, hleast, hday⟩
      exact .inl ⟨hover, d, hday, (isLeast_upcoming_iff.mp hleast).1⟩
    · rintro (⟨-, d, hday, hle⟩ | ⟨hyes, -⟩)
      · obtain ⟨hyear, -, -⟩ := civilDay_eq_some.mp hday
        refine ⟨d, isLeast_upcoming_iff.mpr ⟨hle, hyear.symm ▸ hday, ?_⟩, hday⟩
        intro y d' hy hd'
        refine before_of_le (fun d'' hge _ => ?_) hd'
        unfold TimeZone.getFullYear at *
        omega
      · exact absurd hyes hover

/-- **When `M월 D일` means the next such day.** For every time zone, every present instant and every
text whose date expression is a month and a day, the result is the text of the first such day from
today on, or `null` if there is none, exactly if the year fits.

**Proof sketch.** The result is never `null`. It is the text of a day exactly if the year that is
taken has the date; and this is the first such day if no year before has one left. -/
theorem extractDate_next_iff (zone : TimeZone) (now : ℤ) (text month day : String)
    (h : dateExpression text = some (.monthDay month day)) :
    MeansNext (zone.localDay now) (parseInt month) (parseInt day) (extractDate zone now text) ↔
      YearFits zone now (parseInt month) (parseInt day) := by
  rw [extractDate_eq, h, Option.map_some, MeansNext, ← yearFits_iff]
  exact exists_congr fun d => and_congr_right fun _ => write_monthDay_eq_iff zone now month day d

/-- In January, the first of March is the one of the same year. -/
theorem extractDate_next_iff_march :
    MeansNext (seoul.localDay wednesday) 3 1 (extractDate seoul wednesday "3월 1일 회의 잡아줘") :=
  (extractDate_next_iff seoul wednesday "3월 1일 회의 잡아줘" "3" "1" (by decide +kernel)).mpr
    (.inl ⟨by decide +kernel, 20148, by decide +kernel, by decide +kernel⟩)

/-- **Today's date is the one of next year.** At nine o'clock on the fifteenth of January 2025. -/
theorem today_next_year :
    dateExpression "1월 15일 회의 잡아줘" = some (.monthDay "1" "15") ∧
    formatDate seoul (some wednesday) = "2025-01-15" ∧
    extractDate seoul wednesday "1월 15일 회의 잡아줘" = some "2026-01-15" ∧
    ¬ MeansNext (seoul.localDay wednesday) (parseInt "1") (parseInt "15")
      (extractDate seoul wednesday "1월 15일 회의 잡아줘") := by
  have hdate : extractDate seoul wednesday "1월 15일 회의 잡아줘" = some "2026-01-15" := by
    decide +kernel
  refine ⟨by decide +kernel, by decide +kernel, hdate, ?_⟩
  rw [hdate]
  rintro ⟨d, ⟨-, hleast⟩, htext⟩
  have hday : formatDay 20468 = formatDay d :=
    (show formatDay 20468 = "2026-01-15" by decide +kernel).trans htext
  obtain rfl := formatDay_injective hday
  -- today is such a day
  have hle := hleast (show (20103 : ℤ) ∈ Upcoming _ _ _ by
    refine ⟨?_, ?_, ?_⟩ <;> decide +kernel)
  exact absurd hle (by decide)

end Calendar
