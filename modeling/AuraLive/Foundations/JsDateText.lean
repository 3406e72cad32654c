import AuraLive.Foundations.JsDate
import AuraLive.Foundations.Unicode
import Mathlib.Algebra.Group.Nat.Defs
import Mathlib.Data.List.Induction
import Mathlib.Data.List.TakeWhile

set_option relaxedAutoImplicit false
set_option autoImplicit false

/-!
# Texts of dates

The texts that `toISOString` and `toTimeString` make of a `Date`, and the text of a local time that
`new Date` reads. Texts are lists of characters here.

## Main definitions

* `Foundations.JsDate.padded`, `digitsValue` — decimal numbers, with zeros in front.
* `Foundations.JsDate.civilDay` — the day of a year, a month and a date, if there is one.
* `Foundations.JsDate.toISOString`, `TimeZone.toTimeString` — the texts.
* `Foundations.JsDate.dateTime` — a date and a time, to the second.
* `Foundations.JsDate.TimeZone.parse` — `new Date(text)`.
* `Foundations.JsDate.UtcOffset` — an offset from UTC that is in use somewhere.

## Main results

* `Foundations.JsDate.eq_of_digitsValue_eq` — as many digits with the same value are the same.
* `Foundations.JsDate.isoDay_injective`, `hourAndMinute_inj`, `dateTime_inj` — a text is written for
  one day, minute or second.
* `Foundations.JsDate.readDateTime_dateTime` — what is written is read back.

## Design

* **Other texts.** The language leaves open what `new Date` makes of a text in no standard format,
  or with a date that does not exist. This is a parameter.
-/

namespace Foundations

namespace JsDate

/-! ## Numbers -/

/-- A number, with zeros in front to make at least `k` digits. -/
def padded (k n : ℕ) : List Char := (Nat.toDigits 10 n).leftpad k '0'

/-- The number that is written in digits. -/
def digitsValue (cs : List Char) : ℕ := Nat.ofDigitChars 10 cs 0

/-- Zeros in front do not change a number. -/
lemma digitsValue_leftpad (k : ℕ) (cs : List Char) :
    digitsValue (cs.leftpad k '0') = digitsValue cs := by
  rw [digitsValue, List.leftpad, Nat.ofDigitChars_append, Nat.ofDigitChars_replicate_zero,
    Nat.mul_zero, digitsValue]

/-- A number is read back. -/
@[simp] lemma digitsValue_padded (k n : ℕ) : digitsValue (padded k n) = n := by
  rw [padded, digitsValue_leftpad]
  exact Nat.ofDigitChars_ten_toDigits

/-- Different numbers are written differently. -/
lemma padded_inj {k n k' n' : ℕ} (h : padded k n = padded k' n') : n = n' := by
  rw [← digitsValue_padded k n, h, digitsValue_padded]

/-- A number that fits has the digits it is to have. -/
lemma length_padded {k n : ℕ} (hk : 0 < k) (hn : n < 10 ^ k) : (padded k n).length = k := by
  have hle := (Nat.length_toDigits_le_iff (b := 10) (by decide) hk).mpr hn
  rw [padded, List.length_leftpad]
  omega

/-- All characters of a number are digits. -/
lemma isDigit_of_mem_padded {k n : ℕ} {c : Char} (h : c ∈ padded k n) : c.isDigit = true := by
  rw [padded, List.leftpad, List.mem_append, List.mem_replicate] at h
  rcases h with ⟨-, rfl⟩ | h
  · rfl
  · exact Nat.isDigit_of_mem_toDigits (by decide) (Nat.le_refl 10) h

/-- No other character is in a number. -/
lemma notMem_padded {k n : ℕ} {c : Char} (hc : c.isDigit = false) : c ∉ padded k n := by
  intro h
  rw [isDigit_of_mem_padded h] at hc
  cases hc

/-- The last digit counts once, and the others ten times as much as without it. -/
lemma digitsValue_append_singleton (cs : List Char) (c : Char) :
    digitsValue (cs ++ [c]) = 10 * digitsValue cs + (c.toNat - 48) := by
  rw [digitsValue, Nat.ofDigitChars_append, Nat.ofDigitChars_cons, Nat.ofDigitChars_nil]
  rfl

/-- A digit is one of ten characters. -/
lemma toNat_of_isDigit {c : Char} (h : c.isDigit = true) : 48 ≤ c.toNat ∧ c.toNat ≤ 57 := by
  simp only [Char.isDigit, Bool.and_eq_true, decide_eq_true_eq] at h
  exact ⟨h.1, h.2⟩

/-- **As many digits with the same value are the same.**

**Proof sketch.** Induction from the right: the last digits are the remainders by ten. -/
theorem eq_of_digitsValue_eq : ∀ {cs cs' : List Char}, (∀ c ∈ cs, c.isDigit = true) →
    (∀ c ∈ cs', c.isDigit = true) → cs.length = cs'.length → digitsValue cs = digitsValue cs' →
    cs = cs' := by
  intro cs
  induction cs using List.reverseRecOn with
  | nil =>
    intro cs' _ _ hlength _
    exact (List.length_eq_zero_iff.mp hlength.symm).symm
  | append_singleton cs c ih =>
    intro cs' hcs hcs' hlength hvalue
    rcases List.eq_nil_or_concat' cs' with rfl | ⟨ds, d, rfl⟩
    · simp at hlength
    · rw [digitsValue_append_singleton, digitsValue_append_singleton] at hvalue
      have hc := toNat_of_isDigit (hcs c (by simp))
      have hd := toNat_of_isDigit (hcs' d (by simp))
      have hfront : cs = ds := by
        refine ih (fun x hx => hcs x (List.mem_append_left _ hx))
          (fun x hx => hcs' x (List.mem_append_left _ hx)) ?_ (by omega)
        simpa using hlength
      have hlast : c = d := Char.toNat_inj.mp (by omega)
      rw [hfront, hlast]

/-- Few digits make a small number. -/
lemma digitsValue_lt {cs : List Char} (h : ∀ c ∈ cs, c.isDigit = true) :
    digitsValue cs < 10 ^ cs.length := by
  induction cs using List.reverseRecOn with
  | nil => decide
  | append_singleton cs c ih =>
    have hc := toNat_of_isDigit (h c (by simp))
    have hcs := ih fun x hx => h x (List.mem_append_left _ hx)
    rw [digitsValue_append_singleton, List.length_append, List.length_singleton, Nat.pow_succ]
    omega

/-- Digits with zeros in front are the number with zeros in front. -/
lemma leftpad_eq_padded {k : ℕ} {cs : List Char} (h : ∀ c ∈ cs, c.isDigit = true) (hne : cs ≠ [])
    (hk : cs.length ≤ k) : cs.leftpad k '0' = padded k (digitsValue cs) := by
  have hpos := List.length_pos_iff.mpr hne
  have hlt := Nat.lt_of_lt_of_le (digitsValue_lt h) (Nat.pow_le_pow_right (by decide) hk)
  refine eq_of_digitsValue_eq ?_ (fun c hc => isDigit_of_mem_padded hc) ?_ ?_
  · intro c hc
    rw [List.leftpad, List.mem_append, List.mem_replicate] at hc
    rcases hc with ⟨-, rfl⟩ | hc
    · rfl
    · exact h c hc
  · rw [List.length_leftpad, length_padded (Nat.lt_of_lt_of_le hpos hk) hlt]
    omega
  · rw [digitsValue_leftpad, digitsValue_padded]

/-! ## Days -/

/-- The day of a year, a month from one on and a date, if it exists. -/
def civilDay (y m date : ℤ) : Option ℤ :=
  let d := makeDay y (m - 1) date
  if yearOf d = y ∧ (monthOf d : ℤ) + 1 = m ∧ dateOf d = date then some d else none

/-- A day has the date of which it is the day. -/
lemma civilDay_eq_some {y m date d : ℤ} :
    civilDay y m date = some d ↔ yearOf d = y ∧ (monthOf d : ℤ) + 1 = m ∧ dateOf d = date := by
  unfold civilDay
  constructor
  · intro h
    dsimp only at h
    split at h
    case isTrue hdate => rwa [← Option.some.inj h]
    case isFalse => cases h
  · rintro ⟨rfl, rfl, rfl⟩
    have hday : makeDay (yearOf d) ((monthOf d : ℤ) + 1 - 1) (dateOf d) = d := by
      have h := makeDay_dateOf_add d 0
      rw [Int.add_zero, Int.add_zero] at h
      rwa [Int.add_sub_cancel]
    dsimp only
    rw [hday, if_pos ⟨rfl, rfl, rfl⟩]

/-- Later years start later. -/
lemma dayFromYear_mono {y y' : ℤ} (h : y ≤ y') : dayFromYear y ≤ dayFromYear y' := by
  unfold dayFromYear
  omega

/-- A day of an earlier year is earlier. -/
lemma lt_of_yearOf_lt {d d' : ℤ} (h : yearOf d < yearOf d') : d < d' :=
  calc d < dayFromYear (yearOf d + 1) := lt_dayFromYear_yearOf_add_one d
    _ ≤ dayFromYear (yearOf d') := dayFromYear_mono h
    _ ≤ d' := dayFromYear_yearOf_le d'

/-- Years do not decrease from day to day. -/
lemma yearOf_mono {d d' : ℤ} (h : d ≤ d') : yearOf d ≤ yearOf d' := by
  by_contra hlt
  have hbefore := lt_of_yearOf_lt (Int.not_le.mp hlt)
  omega

/-- The sign of a year. -/
def yearSign (y : ℤ) : Char := if y < 0 then '-' else '+'

/-- The text of a year: four digits, or a sign and six digits. -/
def isoYear (y : ℤ) : List Char :=
  if 0 ≤ y ∧ y ≤ 9999 then padded 4 y.toNat else yearSign y :: padded 6 y.natAbs

/-- The text of a day. -/
def isoDay (d : ℤ) : List Char :=
  isoYear (yearOf d) ++ '-' :: (padded 2 (monthOf d + 1) ++ '-' :: padded 2 (dateOf d).toNat)

/-- A year of four digits. -/
lemma isoYear_of_le {y : ℤ} (h : 0 ≤ y) (hle : y ≤ 9999) : isoYear y = padded 4 y.toNat :=
  if_pos ⟨h, hle⟩

/-- The sign of a year says whether it is negative. -/
lemma yearSign_cases (y : ℤ) : y < 0 ∧ yearSign y = '-' ∨ 0 ≤ y ∧ yearSign y = '+' := by
  by_cases h : y < 0
  · exact .inl ⟨h, if_pos h⟩
  · exact .inr ⟨by omega, if_neg h⟩

/-- A sign is not a digit. -/
lemma isDigit_yearSign (y : ℤ) : (yearSign y).isDigit = false := by
  rcases yearSign_cases y with ⟨-, h⟩ | ⟨-, h⟩ <;> rw [h] <;> rfl

/-- The characters of a year are digits and signs. -/
lemma notMem_isoYear {y : ℤ} {c : Char} (hc : c.isDigit = false) (hminus : c ≠ '-')
    (hplus : c ≠ '+') : c ∉ isoYear y := by
  unfold isoYear
  split
  · exact notMem_padded hc
  · rw [List.mem_cons, not_or]
    refine ⟨?_, notMem_padded hc⟩
    rcases yearSign_cases y with ⟨-, h⟩ | ⟨-, h⟩
    · rwa [h]
    · rwa [h]

/-- Different years are written differently. -/
lemma isoYear_injective {y y' : ℤ} (h : isoYear y = isoYear y') : y = y' := by
  have hsign : ∀ (y : ℤ) (k n : ℕ) (cs : List Char), padded k n ≠ yearSign y :: cs := by
    intro y k n cs heq
    exact notMem_padded (isDigit_yearSign y) (heq ▸ List.mem_cons_self)
  by_cases hy : 0 ≤ y ∧ y ≤ 9999
  · by_cases hy' : 0 ≤ y' ∧ y' ≤ 9999
    · rw [isoYear, isoYear, if_pos hy, if_pos hy'] at h
      have hn := padded_inj h
      omega
    · rw [isoYear, isoYear, if_pos hy, if_neg hy'] at h
      exact absurd h (hsign y' _ _ _)
  · by_cases hy' : 0 ≤ y' ∧ y' ≤ 9999
    · rw [isoYear, isoYear, if_neg hy, if_pos hy'] at h
      exact absurd h.symm (hsign y _ _ _)
    · rw [isoYear, isoYear, if_neg hy, if_neg hy'] at h
      obtain ⟨hchar, hdigits⟩ := List.cons.inj h
      have hn := padded_inj hdigits
      rcases yearSign_cases y with ⟨hneg, hs⟩ | ⟨hpos, hs⟩ <;>
        rcases yearSign_cases y' with ⟨hneg', hs'⟩ | ⟨hpos', hs'⟩ <;> rw [hs, hs'] at hchar
      · omega
      · exact absurd hchar (by decide)
      · exact absurd hchar (by decide)
      · omega

/-- Dates cannot be told from the year before them in two ways. -/
lemma append_dashes_inj {a a' b b' c c' : List Char} (hb : '-' ∉ b) (hb' : '-' ∉ b')
    (hc : '-' ∉ c) (hc' : '-' ∉ c') :
    a ++ '-' :: (b ++ '-' :: c) = a' ++ '-' :: (b' ++ '-' :: c') ↔ a = a' ∧ b = b' ∧ c = c' := by
  have hassoc : ∀ x y z : List Char, x ++ '-' :: (y ++ '-' :: z) = (x ++ '-' :: y) ++ '-' :: z := by
    simp
  rw [hassoc, hassoc, append_separator_right_inj hc hc', append_separator_right_inj hb hb',
    and_assoc]

/-- **A text is written for one day.** -/
theorem isoDay_injective {d d' : ℤ} (h : isoDay d = isoDay d') : d = d' := by
  obtain ⟨hyear, hmonth, hdate⟩ := (append_dashes_inj (notMem_padded rfl) (notMem_padded rfl)
    (notMem_padded rfl) (notMem_padded rfl)).mp h
  have hm := padded_inj hmonth
  have hd := padded_inj hdate
  have hrange := dateOf_range d
  have hrange' := dateOf_range d'
  exact eq_of_dates_eq (isoYear_injective hyear) (by omega) (by omega)

/-- The characters of a day are digits and signs. -/
lemma notMem_isoDay {d : ℤ} {c : Char} (hc : c.isDigit = false) (hminus : c ≠ '-')
    (hplus : c ≠ '+') : c ∉ isoDay d := by
  simp only [isoDay, List.mem_append, List.mem_cons, not_or]
  exact ⟨notMem_isoYear hc hminus hplus, hminus, notMem_padded hc, hminus, notMem_padded hc⟩

/-! ## Times -/

/-- The hour of a time value. -/
def hourOf (t : ℤ) : ℕ := (timeWithinDay t / 3600000).toNat

/-- The minute of a time value. -/
def minuteOf (t : ℤ) : ℕ := (timeWithinDay t / 60000 % 60).toNat

/-- The second of a time value. -/
def secondOf (t : ℤ) : ℕ := (timeWithinDay t / 1000 % 60).toNat

/-- The milliseconds of a time value. -/
def msOf (t : ℤ) : ℕ := (timeWithinDay t % 1000).toNat

/-- A day has twenty-four hours of sixty minutes. -/
lemma time_range (t : ℤ) :
    hourOf t < 24 ∧ minuteOf t < 60 ∧ secondOf t < 60 ∧ msOf t < 1000 := by
  have h := timeWithinDay_range t
  unfold hourOf minuteOf secondOf msOf msPerDay at *
  omega

/-- A time value is made of its parts. -/
lemma makeDate_makeTime (t : ℤ) :
    makeDate (day t) (makeTime (hourOf t) (minuteOf t) (secondOf t) (msOf t)) = t := by
  unfold makeDate makeTime hourOf minuteOf secondOf msOf timeWithinDay day msPerDay
  omega

/-- The parts of a time of a day. -/
lemma parts_makeDate {hour minute : ℕ} (hhour : hour ≤ 23) (hminute : minute ≤ 59) (d : ℤ) :
    day (makeDate d (makeTime hour minute 0 0)) = d ∧
      hourOf (makeDate d (makeTime hour minute 0 0)) = hour ∧
      minuteOf (makeDate d (makeTime hour minute 0 0)) = minute ∧
      secondOf (makeDate d (makeTime hour minute 0 0)) = 0 := by
  unfold day hourOf minuteOf secondOf timeWithinDay makeDate makeTime msPerDay
  omega

/-- `HH:mm`. -/
def hourAndMinute (t : ℤ) : List Char := padded 2 (hourOf t) ++ ':' :: padded 2 (minuteOf t)

/-- `HH:mm:ss`. -/
def clock (t : ℤ) : List Char := hourAndMinute t ++ ':' :: padded 2 (secondOf t)

/-- `toISOString()`. -/
def toISOString (t : ℤ) : List Char :=
  isoDay (day t) ++ 'T' :: (clock t ++ '.' :: (padded 3 (msOf t) ++ ['Z']))

/-- A date and a time, to the second. -/
def dateTime (t : ℤ) : List Char := isoDay (day t) ++ 'T' :: clock t

/-- `HH:mm` is written for one minute of the day. -/
lemma hourAndMinute_inj {t t' : ℤ} (h : hourAndMinute t = hourAndMinute t') :
    hourOf t = hourOf t' ∧ minuteOf t = minuteOf t' := by
  obtain ⟨hhour, hminute⟩ :=
    (append_separator_left_inj (notMem_padded rfl) (notMem_padded rfl)).mp h
  exact ⟨padded_inj hhour, padded_inj hminute⟩

/-- The length of `HH:mm`. -/
lemma length_hourAndMinute (t : ℤ) : (hourAndMinute t).length = 5 := by
  obtain ⟨hh, hm, -, -⟩ := time_range t
  rw [hourAndMinute, List.length_append, List.length_cons, length_padded (by decide) (by omega),
    length_padded (by decide) (by omega)]

/-- The length of `HH:mm:ss`. -/
lemma length_clock (t : ℤ) : (clock t).length = 8 := by
  obtain ⟨-, -, hs, -⟩ := time_range t
  rw [clock, List.length_append, List.length_cons, length_hourAndMinute,
    length_padded (by decide) (by omega)]

/-- `HH:mm:ss` is written for one second of the day. -/
lemma clock_inj {t t' : ℤ} (h : clock t = clock t') :
    hourOf t = hourOf t' ∧ minuteOf t = minuteOf t' ∧ secondOf t = secondOf t' := by
  obtain ⟨hfront, hsecond⟩ :=
    (append_separator_right_inj (notMem_padded rfl) (notMem_padded rfl)).mp h
  obtain ⟨hhour, hminute⟩ := hourAndMinute_inj hfront
  exact ⟨hhour, hminute, padded_inj hsecond⟩

/-- **A date and a time are written for one second.** -/
theorem dateTime_inj {t t' : ℤ} (h : dateTime t = dateTime t') : t / 1000 = t' / 1000 := by
  obtain ⟨hdays, hclock⟩ := (append_separator_left_inj
    (notMem_isoDay rfl (by decide) (by decide)) (notMem_isoDay rfl (by decide) (by decide))).mp h
  have hday := isoDay_injective hdays
  obtain ⟨hhour, hminute, hsecond⟩ := clock_inj hclock
  have ht := makeDate_makeTime t
  have ht' := makeDate_makeTime t'
  obtain ⟨-, -, -, hms⟩ := time_range t
  obtain ⟨-, -, -, hms'⟩ := time_range t'
  rw [hday, hhour, hminute, hsecond] at ht
  unfold makeDate makeTime msPerDay at ht ht'
  omega

/-- The date of an instant ends before the `T`. -/
lemma takeWhile_toISOString (t : ℤ) : (toISOString t).takeWhile (· ≠ 'T') = isoDay (day t) := by
  have hnot : ∀ c ∈ isoDay (day t), decide (c ≠ 'T') = true := by
    intro c hc
    refine decide_eq_true fun heq => ?_
    exact notMem_isoDay rfl (by decide) (by decide) (heq ▸ hc)
  rw [toISOString, List.takeWhile_append_of_pos hnot, List.takeWhile_cons_of_neg (by decide),
    List.append_nil]

/-- The length of a day of a year of four digits. -/
lemma length_isoDay {d : ℤ} (h : 0 ≤ yearOf d) (hle : yearOf d ≤ 9999) :
    (isoDay d).length = 10 := by
  have hm := (monthOf_spec d).1
  have hd := dateOf_range d
  rw [isoDay, isoYear_of_le h hle, List.length_append, List.length_cons, List.length_append,
    List.length_cons, length_padded (by decide) (by omega), length_padded (by decide) (by omega),
    length_padded (by decide) (by omega)]

/-- In the years of four digits, the text of an instant starts with its date and time. -/
lemma take_toISOString {t : ℤ} (h : 0 ≤ yearOf (day t)) (hle : yearOf (day t) ≤ 9999) :
    (toISOString t).take 19 = dateTime t := by
  have hlength : (dateTime t).length = 19 := by
    rw [dateTime, List.length_append, List.length_cons, length_isoDay h hle, length_clock]
  have happend : toISOString t = dateTime t ++ '.' :: (padded 3 (msOf t) ++ ['Z']) := by
    simp [toISOString, dateTime]
  rw [happend, ← hlength, List.take_left]

/-- Only such an instant has a text that starts with a date and time of these years. -/
lemma eq_of_take_toISOString {t t' : ℤ} (h : 0 ≤ yearOf (day t')) (hle : yearOf (day t') ≤ 9999)
    (ht : (toISOString t).take 19 = dateTime t') : t / 1000 = t' / 1000 := by
  by_cases hyear : 0 ≤ yearOf (day t) ∧ yearOf (day t) ≤ 9999
  · rw [take_toISOString hyear.1 hyear.2] at ht
    exact dateTime_inj ht
  · -- a sign is not a digit
    have hhead := congrArg List.head? ht
    rw [toISOString, isoDay, isoYear, if_neg hyear, List.cons_append, List.cons_append,
      List.take_succ_cons, List.head?_cons, dateTime, isoDay, isoYear_of_le h hle,
      List.append_assoc, List.head?_append_of_ne_nil] at hhead
    · have hdigit := isDigit_of_mem_padded (List.mem_of_mem_head? hhead.symm)
      rw [isDigit_yearSign] at hdigit
      cases hdigit
    · exact List.ne_nil_of_length_eq_add_one (length_padded (by decide) (by omega))

/-! ## Reading -/

/-- Exactly `k` digits at the start of a text, and the rest. -/
def readNumber (k : ℕ) (cs : List Char) : Option (ℕ × List Char) :=
  if (cs.take k).length = k ∧ (cs.take k).all Char.isDigit then
    some (digitsValue (cs.take k), cs.drop k)
  else none

/-- What follows a character at the start of a text. -/
def readChar (c : Char) : List Char → Option (List Char)
  | d :: cs => if d = c then some cs else none
  | [] => none

/-- The local time in the format `YYYY-MM-DDTHH:mm:ss`, if the date and the time exist. The day may
end with `24:00:00`. -/
def readDateTime (cs : List Char) : Option ℤ := do
  let (y, cs) ← readNumber 4 cs
  let cs ← readChar '-' cs
  let (m, cs) ← readNumber 2 cs
  let cs ← readChar '-' cs
  let (date, cs) ← readNumber 2 cs
  let cs ← readChar 'T' cs
  let (hour, cs) ← readNumber 2 cs
  let cs ← readChar ':' cs
  let (minute, cs) ← readNumber 2 cs
  let cs ← readChar ':' cs
  let (second, cs) ← readNumber 2 cs
  let d ← civilDay y m date
  if cs = [] ∧ minute < 60 ∧ second < 60 ∧
      (hour < 24 ∨ hour = 24 ∧ minute = 0 ∧ second = 0) then
    some (makeDate d (makeTime hour minute second 0))
  else none

/-- A number of the right length is read. -/
@[simp] lemma readNumber_padded {k n : ℕ} (hk : 0 < k) (hn : n < 10 ^ k) (cs : List Char) :
    readNumber k (padded k n ++ cs) = some (n, cs) := by
  have hlength := length_padded hk hn
  have htake : (padded k n ++ cs).take k = padded k n := List.take_left' hlength
  have hdrop : (padded k n ++ cs).drop k = cs := List.drop_left' hlength
  rw [readNumber, htake, hdrop, digitsValue_padded, if_pos]
  exact ⟨hlength, List.all_eq_true.mpr fun c hc => isDigit_of_mem_padded hc⟩

/-- A character is read. -/
@[simp] lemma readChar_cons (c : Char) (cs : List Char) : readChar c (c :: cs) = some cs :=
  if_pos rfl

/-- **What is written is read back**, to the second. -/
theorem readDateTime_dateTime {t : ℤ} (h : 0 ≤ yearOf (day t)) (hle : yearOf (day t) ≤ 9999) :
    readDateTime (dateTime t) = some (t / 1000 * 1000) := by
  obtain ⟨hhour, hminute, hsecond, hms⟩ := time_range t
  have hm := (monthOf_spec (day t)).1
  have hd := dateOf_range (day t)
  have hcivil : civilDay ((yearOf (day t)).toNat : ℤ) ((monthOf (day t) + 1 : ℕ) : ℤ)
      ((dateOf (day t)).toNat : ℤ) = some (day t) :=
    civilDay_eq_some.mpr ⟨by omega, by omega, by omega⟩
  have hvalue : makeDate (day t) (makeTime (hourOf t) (minuteOf t) (secondOf t) 0) =
      t / 1000 * 1000 := by
    have ht := makeDate_makeTime t
    unfold makeDate makeTime msPerDay at ht ⊢
    omega
  have hsecondText : padded 2 (secondOf t) = padded 2 (secondOf t) ++ [] := by simp
  rw [readDateTime, dateTime, isoDay, isoYear_of_le h hle, clock, hourAndMinute, hsecondText]
  simp only [List.append_assoc, List.cons_append]
  rw [readNumber_padded (by decide) (by omega)]
  simp only [Option.bind_eq_bind, Option.bind_some, readChar_cons]
  rw [readNumber_padded (by decide) (by omega)]
  simp only [Option.bind_some, readChar_cons]
  rw [readNumber_padded (by decide) (by omega)]
  simp only [Option.bind_some, readChar_cons]
  rw [readNumber_padded (by decide) (by omega)]
  simp only [Option.bind_some, readChar_cons]
  rw [readNumber_padded (by decide) (by omega)]
  simp only [Option.bind_some, readChar_cons]
  rw [readNumber_padded (by decide) (by omega)]
  simp only [Option.bind_some]
  rw [hcivil, Option.bind_some, if_pos ⟨trivial, hminute, hsecond, .inl hhour⟩, hvalue]

namespace TimeZone

variable (zone : TimeZone)

/-- `toTimeString()`: the local time, the offset and the name of the zone. -/
def toTimeString (name : List Char) (t : ℤ) : List Char :=
  clock (zone.localTime t) ++ ' ' :: name

/-- The text starts with `HH:mm`. -/
lemma take_toTimeString (name : List Char) (t : ℤ) :
    (zone.toTimeString name t).take 5 = hourAndMinute (zone.localTime t) := by
  rw [toTimeString, clock, List.append_assoc, List.take_left' (length_hourAndMinute _)]

/-- `new Date(text)`, where `other` is what the implementation makes of texts that are not in the
format of a local time. -/
def parse (other : List Char → Option ℤ) (cs : List Char) : Option ℤ :=
  match readDateTime cs with
  | some t => timeClip (zone.utc t)
  | none => other cs

/-- `getMinutes()`. -/
def getMinutes (t : ℤ) : ℕ := minuteOf (zone.localTime t)

/-- `setMinutes(minute)`. -/
def setMinutes (t minute : ℤ) : Option ℤ :=
  timeClip (zone.utc (makeDate (zone.localDay t) (makeTime (hourOf (zone.localTime t)) minute
    (secondOf (zone.localTime t)) (msOf (zone.localTime t)))))

/-- Minutes that are added run over into hours and days. -/
lemma setMinutes_getMinutes_add (t n : ℤ) :
    zone.setMinutes t (zone.getMinutes t + n) =
      timeClip (zone.utc (zone.localTime t + n * 60000)) := by
  have ht := makeDate_makeTime (zone.localTime t)
  rw [setMinutes, getMinutes, localDay]
  congr 2
  unfold makeDate makeTime at ht ⊢
  omega

end TimeZone

/-! ## Offsets -/

/-- An offset from UTC in whole minutes, within the range of those in use. -/
structure UtcOffset where
  /-- The minutes by which local time is ahead. -/
  minutes : ℤ
  /-- From the Date Line on to the Line Islands. -/
  range : -720 ≤ minutes ∧ minutes ≤ 840

/-- The zone with an offset. -/
def UtcOffset.zone (offset : UtcOffset) : TimeZone := .fixed (offset.minutes * 60000)

/-- The local time of a zone with an offset. -/
lemma UtcOffset.localTime_zone (offset : UtcOffset) (t : ℤ) :
    offset.zone.localTime t = t + offset.minutes * 60000 := rfl

/-- The instant of a local time in it. -/
lemma UtcOffset.utc_zone (offset : UtcOffset) (t : ℤ) :
    offset.zone.utc t = t - offset.minutes * 60000 := rfl

end JsDate

end Foundations
