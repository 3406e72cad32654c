import AuraLive.Calendar.NextWeek
import AuraLive.Foundations.JsDateText

set_option relaxedAutoImplicit false
set_option autoImplicit false

/-!
# Date expressions

`LlmService.extractDate` finds an expression for a date in a text and writes the date down. The text
of a full date is the one in the utterance, whether the date exists or not.

## Main definitions

* `Calendar.DateExpression`, `dateExpression` — the expressions, and the one that is found.
* `Calendar.DateExpression.write` — the text of the date.
* `Calendar.DateExpression.Names` — an expression names a day that exists, in a year of four digits.

## Main results

* `Calendar.extractDate_eq` — the extraction is both, one after the other.
* `Calendar.wellFormed_of_dateExpression` — the numbers of an expression are digits.
* `Calendar.toList_write_eq_isoDay_iff` — the text is the one of a day exactly if the expression
  names the day.
-/

namespace Calendar

open Foundations JsDate VoiceBot

/-! ## Expressions -/

/-- An expression for a date. The numbers are those of the text. -/
inductive DateExpression where
  /-- `오늘`, `내일`, `모레` or `글피`. -/
  | inDays (days : ℤ)
  /-- `다음주`. -/
  | nextWeek
  /-- `YYYY년 MM월 DD일`. -/
  | fullDate (year month day : String)
  /-- `MM월 DD일`. -/
  | monthDay (month day : String)
  deriving DecidableEq

/-- The expression that `extractDate` finds. -/
def dateExpression (text : String) : Option DateExpression :=
  match RELATIVE_DATES.find? fun e => jsIncludes text e.1 with
  | some (_, days) => some (.inDays days)
  | none =>
    if jsIncludes text "다음주" || jsIncludes text "다음 주" then some .nextWeek
    else
      match text.toList.tails.findSome? yearMonthAndDay with
      | some (year, month, day) => some (.fullDate year month day)
      | none => (text.toList.tails.findSome? monthAndDay).map fun (month, day) =>
          .monthDay month day

/-- Midnight of a day of this year is over: `target < today`. -/
def MidnightOver (zone : TimeZone) (today month day : ℤ) : Prop :=
  (zone.ofDate (zone.getFullYear today) (month - 1) day).any (· < today) = true

instance (zone : TimeZone) (today month day : ℤ) : Decidable (MidnightOver zone today month day) :=
  inferInstanceAs (Decidable (_ = true))

/-- The year that is meant if a text has none. -/
def assumedYear (zone : TimeZone) (today month day : ℤ) : ℤ :=
  if MidnightOver zone today month day then zone.getFullYear today + 1 else zone.getFullYear today

namespace DateExpression

variable (zone : TimeZone) (today : ℤ)

/-- The text of the date. -/
def write : DateExpression → String
  | inDays days => formatDate zone (zone.setDate today (zone.getDate today + days))
  | nextWeek => formatDate zone
      (zone.setDate today (zone.getDate today + ((7 - zone.getDay today) % 7 + 7)))
  | fullDate year month day => year ++ "-" ++ padStart month ++ "-" ++ padStart day
  | monthDay month day =>
    toString (assumedYear zone today (parseInt month) (parseInt day)) ++ "-" ++
      padStart (toString (parseInt month : ℤ)) ++ "-" ++ padStart (toString (parseInt day : ℤ))

/-- A day that is reached from today is named if its year has four digits. -/
def Reaches (d : ℤ) (target : Option ℤ) : Prop :=
  target.map zone.localDay = some d ∧ 1000 ≤ yearOf d ∧ yearOf d ≤ 9999

/-- An expression names a day: the day exists, and its year has four digits. -/
def Names (d : ℤ) : DateExpression → Prop
  | inDays days => Reaches zone d (zone.setDate today (zone.getDate today + days))
  | nextWeek => Reaches zone d
      (zone.setDate today (zone.getDate today + ((7 - zone.getDay today) % 7 + 7)))
  | fullDate year month day =>
    civilDay (parseInt year) (parseInt month) (parseInt day) = some d
  | monthDay month day =>
    civilDay (assumedYear zone today (parseInt month) (parseInt day)) (parseInt month)
      (parseInt day) = some d ∧ 1000 ≤ yearOf d ∧ yearOf d ≤ 9999

end DateExpression

/-- **`extractDate` writes down the expression it finds.** -/
theorem extractDate_eq (zone : TimeZone) (today : ℤ) (text : String) :
    extractDate zone today text = (dateExpression text).map (·.write zone today) := by
  unfold extractDate dateExpression
  cases RELATIVE_DATES.find? fun e => jsIncludes text e.1 with
  | some e => rfl
  | none =>
    dsimp only
    split
    · rfl
    · cases text.toList.tails.findSome? yearMonthAndDay with
      | some ymd => rfl
      | none =>
        cases text.toList.tails.findSome? monthAndDay with
        | none => rfl
        | some md => rfl

/-! ## Numbers in texts -/

/-- A text of at most `k` digits, and at least one. -/
structure IsNumber (k : ℕ) (s : String) : Prop where
  ne_nil : s.toList ≠ []
  length_le : s.toList.length ≤ k
  digits : ∀ c ∈ s.toList, c.isDigit = true

/-- `parseInt` is the value of the digits. -/
lemma parseInt_eq (s : String) : parseInt s = digitsValue s.toList := by
  rw [digitsValue, Nat.ofDigitChars_eq_foldl]
  rfl

/-- A number of two digits. -/
lemma IsNumber.parseInt_lt {s : String} (h : IsNumber 2 s) : parseInt s < 100 := by
  have hlt := digitsValue_lt h.digits
  have hle : 10 ^ s.toList.length ≤ 10 ^ 2 := Nat.pow_le_pow_right (by decide) h.length_le
  rw [parseInt_eq]
  omega

/-- The digits that are taken. -/
lemma takeDigits_spec : ∀ (n : ℕ) (cs : List Char),
    (takeDigits n cs).1.length ≤ n ∧ ∀ c ∈ (takeDigits n cs).1, c.isDigit = true
  | 0, cs => by simp [takeDigits]
  | n + 1, [] => by simp [takeDigits]
  | n + 1, c :: cs => by
    obtain ⟨hlength, hdigits⟩ := takeDigits_spec n cs
    unfold takeDigits
    split
    case isTrue hc =>
      dsimp only
      refine ⟨Nat.succ_le_succ hlength, fun d hd => ?_⟩
      rcases List.mem_cons.mp hd with rfl | hd
      · exact hc
      · exact hdigits d hd
    case isFalse => simp

/-- Digits that are taken make a number. -/
lemma isNumber_takeDigits {n : ℕ} {cs digits rest : List Char}
    (h : takeDigits n cs = (digits, rest)) (hne : digits ≠ []) :
    IsNumber n (String.ofList digits) := by
  have hspec := takeDigits_spec n cs
  rw [h] at hspec
  exact ⟨by rwa [String.toList_ofList], by rw [String.toList_ofList]; exact hspec.1,
    by rw [String.toList_ofList]; exact hspec.2⟩

/-- The numbers of a month and a day. -/
lemma isNumber_of_monthAndDay {cs : List Char} {month day : String}
    (h : monthAndDay cs = some (month, day)) : IsNumber 2 month ∧ IsNumber 2 day := by
  unfold monthAndDay at h
  split at h
  case h_2 => cases h
  case h_1 m rest hm =>
    split at h
    case h_2 => cases h
    case h_1 d rest' hd =>
      split at h
      case isFalse => cases h
      case isTrue hne =>
        obtain ⟨rfl, rfl⟩ := Prod.mk.inj (Option.some.inj h)
        exact ⟨isNumber_takeDigits hm hne.1, isNumber_takeDigits hd hne.2⟩

/-- The numbers of a full date: the year has four digits. -/
lemma isNumber_of_yearMonthAndDay {cs : List Char} {year month day : String}
    (h : yearMonthAndDay cs = some (year, month, day)) :
    (IsNumber 4 year ∧ year.toList.length = 4) ∧ IsNumber 2 month ∧ IsNumber 2 day := by
  unfold yearMonthAndDay at h
  split at h
  case h_2 => cases h
  case h_1 y rest hy =>
    split at h
    case isFalse => cases h
    case isTrue hlength =>
      obtain ⟨md, hmd, heq⟩ := Option.map_eq_some_iff.mp h
      obtain ⟨rfl, rfl⟩ := Prod.mk.inj heq
      refine ⟨⟨isNumber_takeDigits hy ?_, by rwa [String.toList_ofList]⟩,
        isNumber_of_monthAndDay hmd⟩
      rintro rfl
      cases hlength

/-- The numbers of an expression are digits. -/
def DateExpression.WellFormed : DateExpression → Prop
  | inDays _ => True
  | nextWeek => True
  | fullDate year month day =>
    (IsNumber 4 year ∧ year.toList.length = 4) ∧ IsNumber 2 month ∧ IsNumber 2 day
  | monthDay month day => IsNumber 2 month ∧ IsNumber 2 day

/-- **The expression that is found has numbers.** -/
theorem wellFormed_of_dateExpression {text : String} {e : DateExpression}
    (h : dateExpression text = some e) : e.WellFormed := by
  unfold dateExpression at h
  split at h
  case h_1 => rw [← Option.some.inj h]; trivial
  case h_2 =>
    split at h
    case isTrue => rw [← Option.some.inj h]; trivial
    case isFalse =>
      split at h
      case h_1 year month day hfind =>
        rw [← Option.some.inj h]
        obtain ⟨cs, -, hcs⟩ := List.exists_of_findSome?_eq_some hfind
        exact isNumber_of_yearMonthAndDay hcs
      case h_2 =>
        obtain ⟨⟨month, day⟩, hfind, rfl⟩ := Option.map_eq_some_iff.mp h
        obtain ⟨cs, -, hcs⟩ := List.exists_of_findSome?_eq_some hfind
        exact isNumber_of_monthAndDay hcs

/-! ## Texts of days -/

/-- The text of a number. -/
lemma toList_toString (n : ℕ) : (toString (n : ℤ)).toList = Nat.toDigits 10 n := by
  rw [show toString (n : ℤ) = toString n from rfl, Nat.toString_eq_ofList_toDigits,
    String.toList_ofList]

/-- A number that is written with two digits. -/
lemma toList_padStart_toString (n : ℕ) : (padStart (toString (n : ℤ))).toList = padded 2 n := by
  rw [padStart, String.toList_ofList, toList_toString, padded]

/-- A number that is copied with two digits. -/
lemma IsNumber.toList_padStart {s : String} (h : IsNumber 2 s) :
    (padStart s).toList = padded 2 (parseInt s) := by
  rw [padStart, String.toList_ofList, leftpad_eq_padded h.digits h.ne_nil h.length_le, parseInt_eq]

/-- The text of a year is the one of the format if it has four digits. -/
lemma toList_toString_eq_isoYear_iff {y y' : ℤ} (h : 0 ≤ y') (hle : y' ≤ 9999) :
    (toString y).toList = isoYear y' ↔ y = y' ∧ 1000 ≤ y' := by
  rw [isoYear_of_le h hle]
  cases y with
  | negSucc m =>
    refine ⟨fun heq => ?_, fun heq => by omega⟩
    have hminus : '-' ∈ (toString (Int.negSucc m)).toList := by
      rw [show toString (Int.negSucc m) = "-" ++ toString (m + 1) from rfl, String.toList_append]
      exact List.mem_append_left _ (by decide)
    rw [heq] at hminus
    exact absurd hminus (notMem_padded rfl)
  | ofNat n =>
    rw [Int.ofNat_eq_natCast, toList_toString]
    have hshort := Nat.length_toDigits_le_iff (b := 10) (n := n) (k := 3) (by decide) (by decide)
    constructor
    · intro heq
      have hvalue := congrArg digitsValue heq
      rw [digitsValue_padded, digitsValue, Nat.ofDigitChars_ten_toDigits] at hvalue
      have hlength := congrArg List.length heq
      rw [length_padded (by decide) (by omega)] at hlength
      omega
    · rintro ⟨heq, hge⟩
      have hn : y'.toNat = n := by omega
      have hzero : 4 - (Nat.toDigits 10 n).length = 0 := by omega
      rw [hn, padded, List.leftpad, hzero, List.replicate_zero, List.nil_append]

/-- The text of a day, as a year and two numbers. -/
lemma toList_formatDay_eq (d : ℤ) : (formatDay d).toList = (toString (yearOf d)).toList ++
    '-' :: (padded 2 (monthOf d + 1) ++ '-' :: padded 2 (dateOf d).toNat) := by
  have hdate : dateOf d = ((dateOf d).toNat : ℤ) := by
    have h := dateOf_range d
    omega
  have hmonth : (monthOf d : ℤ) + 1 = ((monthOf d + 1 : ℕ) : ℤ) := by omega
  rw [toList_formatDay, hmonth, toList_padStart_toString, hdate, toList_padStart_toString,
    ← hdate, List.append_assoc, List.cons_append]

/-- A year and two numbers are the text of a day if they are its year, its month and its date. -/
lemma append_eq_isoDay_iff {year : List Char} {m date : ℕ} {d : ℤ} :
    year ++ '-' :: (padded 2 m ++ '-' :: padded 2 date) = isoDay d ↔
      year = isoYear (yearOf d) ∧ (monthOf d : ℤ) + 1 = m ∧ dateOf d = date := by
  have hdate := dateOf_range d
  rw [isoDay, append_dashes_inj (notMem_padded rfl) (notMem_padded rfl) (notMem_padded rfl)
    (notMem_padded rfl)]
  refine and_congr_right fun _ => ?_
  constructor
  · rintro ⟨hm, hd⟩
    have hm' := padded_inj hm
    have hd' := padded_inj hd
    omega
  · rintro ⟨hm, hd⟩
    have hm' : m = monthOf d + 1 := by omega
    have hd' : date = (dateOf d).toNat := by omega
    rw [hm', hd']
    exact ⟨rfl, rfl⟩

/-- The text of a day that is reached is the one in the format if its year has four digits. -/
lemma toList_formatDate_eq_isoDay_iff (zone : TimeZone) (target : Option ℤ) {d : ℤ}
    (h : 0 ≤ yearOf d) (hle : yearOf d ≤ 9999) :
    (formatDate zone target).toList = isoDay d ↔
      target.map zone.localDay = some d ∧ 1000 ≤ yearOf d := by
  cases target with
  | none =>
    refine ⟨fun heq => ?_, fun ⟨hnone, _⟩ => by cases hnone⟩
    have hmem : 'N' ∈ (formatDate zone none).toList := show 'N' ∈ "NaN-NaN-NaN".toList by decide
    rw [heq] at hmem
    exact absurd hmem (notMem_isoDay rfl (by decide) (by decide))
  | some t =>
    rw [formatDate, toList_formatDay_eq, append_eq_isoDay_iff,
      toList_toString_eq_isoYear_iff h hle, Option.map_some, Option.some.injEq]
    have hrange := dateOf_range (zone.localDay t)
    constructor
    · rintro ⟨⟨hy, hge⟩, hm, hd⟩
      exact ⟨eq_of_dates_eq hy (by omega) (by omega), hge⟩
    · rintro ⟨rfl, hge⟩
      exact ⟨⟨rfl, hge⟩, by omega, by omega⟩

/-- In particular, if the expression reaches it. -/
lemma toList_formatDate_iff_reaches (zone : TimeZone) (target : Option ℤ) (d : ℤ) :
    ((formatDate zone target).toList = isoDay d ∧ 0 ≤ yearOf d ∧ yearOf d ≤ 9999) ↔
      DateExpression.Reaches zone d target := by
  constructor
  · rintro ⟨htext, h, hle⟩
    obtain ⟨htarget, hge⟩ := (toList_formatDate_eq_isoDay_iff zone target h hle).mp htext
    exact ⟨htarget, hge, hle⟩
  · rintro ⟨htarget, hge, hle⟩
    have h : 0 ≤ yearOf d := by omega
    exact ⟨(toList_formatDate_eq_isoDay_iff zone target h hle).mpr ⟨htarget, hge⟩, h, hle⟩

/-- A year that is copied is the text of a year. -/
lemma toList_eq_isoYear_iff {year : String} (h : IsNumber 4 year) (hlength : year.toList.length = 4)
    {y : ℤ} (hy : 0 ≤ y) (hle : y ≤ 9999) : year.toList = isoYear y ↔ y = parseInt year := by
  have hyear : year.toList = padded 4 (parseInt year) := by
    rw [parseInt_eq, ← leftpad_eq_padded h.digits h.ne_nil h.length_le, List.leftpad, hlength,
      Nat.sub_self, List.replicate_zero, List.nil_append]
  rw [isoYear_of_le hy hle, hyear]
  constructor
  · intro heq
    have hvalue := padded_inj heq
    omega
  · rintro rfl
    rw [Int.toNat_natCast]

/-- The text of a full date. -/
lemma toList_write_fullDate (zone : TimeZone) (today : ℤ) {year month day : String}
    (hm : IsNumber 2 month) (hd : IsNumber 2 day) :
    ((DateExpression.fullDate year month day).write zone today).toList =
      year.toList ++ '-' :: (padded 2 (parseInt month) ++ '-' :: padded 2 (parseInt day)) := by
  rw [DateExpression.write]
  simp only [String.toList_append, hm.toList_padStart, hd.toList_padStart]
  simp

/-- The text of a month and a day, with a year. -/
lemma toList_write_monthDay (zone : TimeZone) (today : ℤ) (month day : String) :
    ((DateExpression.monthDay month day).write zone today).toList =
      (toString (assumedYear zone today (parseInt month) (parseInt day))).toList ++
        '-' :: (padded 2 (parseInt month) ++ '-' :: padded 2 (parseInt day)) := by
  rw [DateExpression.write]
  simp only [String.toList_append, toList_padStart_toString]
  simp

/-- **When the text is the one of a day.** The text that is written is the text of a day in a year
of four digits exactly if the expression names the day. -/
theorem toList_write_eq_isoDay_iff (zone : TimeZone) (today : ℤ) {e : DateExpression}
    (he : e.WellFormed) (d : ℤ) :
    ((e.write zone today).toList = isoDay d ∧ 0 ≤ yearOf d ∧ yearOf d ≤ 9999) ↔
      e.Names zone today d := by
  cases e with
  | inDays days => exact toList_formatDate_iff_reaches zone _ d
  | nextWeek => exact toList_formatDate_iff_reaches zone _ d
  | fullDate year month day =>
    obtain ⟨⟨hyear, hlength⟩, hm, hd⟩ := he
    rw [toList_write_fullDate zone today hm hd, append_eq_isoDay_iff, DateExpression.Names,
      civilDay_eq_some]
    constructor
    · rintro ⟨⟨htext, hmonth, hdate⟩, h, hle⟩
      exact ⟨(toList_eq_isoYear_iff hyear hlength h hle).mp htext, hmonth, hdate⟩
    · rintro ⟨hy, hmonth, hdate⟩
      have hlt := digitsValue_lt hyear.digits
      rw [← parseInt_eq, hlength] at hlt
      have h : 0 ≤ yearOf d ∧ yearOf d ≤ 9999 := by omega
      exact ⟨⟨(toList_eq_isoYear_iff hyear hlength h.1 h.2).mpr hy, hmonth, hdate⟩, h⟩
  | monthDay month day =>
    rw [toList_write_monthDay, append_eq_isoDay_iff, DateExpression.Names, civilDay_eq_some]
    constructor
    · rintro ⟨⟨htext, hmonth, hdate⟩, h, hle⟩
      obtain ⟨hy, hge⟩ := (toList_toString_eq_isoYear_iff h hle).mp htext
      exact ⟨⟨hy.symm, hmonth, hdate⟩, hge, hle⟩
    · rintro ⟨⟨hy, hmonth, hdate⟩, hge, hle⟩
      have h : 0 ≤ yearOf d := by omega
      exact ⟨⟨(toList_toString_eq_isoYear_iff h hle).mpr ⟨hy.symm, hge⟩, hmonth, hdate⟩, h, hle⟩

end Calendar
