import AuraLive.Calendar.DateExpressions
import Mathlib.Data.List.Infix

set_option relaxedAutoImplicit false
set_option autoImplicit false

/-!
# Time expressions

`LlmService.extractTime` looks for `오후 X시 Y분`, then for `오전 X시 Y분`, then for `X시 Y분` and last
for `HH:mm`. Only in the first case it knows the half of the day.

## Main definitions

* `Calendar.extractTime` — the time in a text, as `HH:mm`.
* `Calendar.TimeExpression`, `timeExpression` — the expression that is found, with the word for the
  half of the day that stands directly before it.
* `Calendar.TimeExpression.hourOfDay` — the hour that is meant.
* `Calendar.TimeExpression.Fits` — the numbers are those of a time, as `extractTime` reads them.

## Main results

* `Calendar.extractTime_writtenAs` — the extraction writes down the hour and the minute of the
  expression.
* `Calendar.markerBefore_eq_none` — no word for the half of the day stands before an `X시` that is
  found only by the third pattern.
* `Calendar.TimeExpression.fits_iff` — the time that is written is the one that is meant exactly if
  the numbers fit.
-/

namespace Calendar

open Foundations JsDate VoiceBot

/-! ## The extraction -/

/-- What follows a word at the start of a text. -/
def dropWord (word cs : List Char) : Option (List Char) :=
  if word.isPrefixOf cs then some (cs.drop word.length) else none

/-- The start of a text matches `(\d{1,2})시\s*(\d{1,2})?분?`. -/
def hourAndMinutes (cs : List Char) : Option (String × Option String) :=
  match takeDigits 2 cs with
  | (hour, '시' :: rest) =>
    if hour ≠ [] then
      let minute := (takeDigits 2 (rest.dropWhile isJsSpace)).1
      some (String.ofList hour, if minute = [] then none else some (String.ofList minute))
    else none
  | _ => none

/-- The start of a text matches the same after a word and white space. -/
def markedTime (word : String) (cs : List Char) : Option (String × Option String) :=
  (dropWord word.toList cs).bind fun rest => hourAndMinutes (rest.dropWhile isJsSpace)

/-- The start of a text matches `(\d{1,2}):(\d{2})`. -/
def clockTime (cs : List Char) : Option (String × String) :=
  match takeDigits 2 cs with
  | (hour, ':' :: rest) =>
    let minute := (takeDigits 2 rest).1
    if hour ≠ [] ∧ minute.length = 2 then some (String.ofList hour, String.ofList minute) else none
  | _ => none

/-- `match[2] ? parseInt(match[2]) : 0`. -/
def minuteValue (minute : Option String) : ℕ := (minute.map parseInt).getD 0

/-- An hour and a minute with two digits each. -/
def formatTime (hour minute : ℕ) : String :=
  padStart (toString hour) ++ ":" ++ padStart (toString minute)

/-- `LlmService.extractTime`. -/
def extractTime (text : String) : Option String :=
  match text.toList.tails.findSome? (markedTime "오후") with
  | some (h, m) =>
    let hour := parseInt h
    some (formatTime (if hour < 12 then hour + 12 else hour) (minuteValue m))
  | none =>
    match text.toList.tails.findSome? (markedTime "오전") with
    | some (h, m) => some (formatTime (parseInt h) (minuteValue m))
    | none =>
      match text.toList.tails.findSome? hourAndMinutes with
      | some (h, m) => some (formatTime (parseInt h) (minuteValue m))
      | none =>
        (text.toList.tails.findSome? clockTime).map fun (h, m) => padStart h ++ ":" ++ m

/-! ## Expressions -/

/-- The halves of the day. -/
inductive Marker where
  /-- `오전`. -/
  | am
  /-- `오후`. -/
  | pm
  deriving DecidableEq

/-- The word for a half of the day. -/
def Marker.word : Marker → String
  | am => "오전"
  | pm => "오후"

/-- An expression for a time. -/
structure TimeExpression where
  /-- The half of the day, if a word for it stands directly before the numbers. -/
  marker : Option Marker
  /-- The numbers are written as `HH:mm`. -/
  colon : Bool
  hour : ℕ
  minute : ℕ
  deriving DecidableEq

/-- The first match in a text, with what is before it in reverse. -/
def findAt {α : Type} (f : List Char → Option α) : List Char → List Char → Option (List Char × α)
  | before, [] => (f []).map fun a => (before, a)
  | before, c :: cs =>
    match f (c :: cs) with
    | some a => some (before, a)
    | none => findAt f (c :: before) cs

/-- The word at the end of a reversed text, before white space. -/
def markerBefore (before : List Char) : Option Marker :=
  [Marker.am, Marker.pm].find? fun m =>
    m.word.toList.reverse.isPrefixOf (before.dropWhile isJsSpace)

/-- The expression that `extractTime` finds. -/
def timeExpression (text : String) : Option TimeExpression :=
  match text.toList.tails.findSome? (markedTime "오후") with
  | some (h, m) => some ⟨some .pm, false, parseInt h, minuteValue m⟩
  | none =>
    match text.toList.tails.findSome? (markedTime "오전") with
    | some (h, m) => some ⟨some .am, false, parseInt h, minuteValue m⟩
    | none =>
      match findAt hourAndMinutes [] text.toList with
      | some (before, h, m) => some ⟨markerBefore before, false, parseInt h, minuteValue m⟩
      | none => (findAt clockTime [] text.toList).map fun (before, h, m) =>
          ⟨markerBefore before, true, parseInt h, parseInt m⟩

namespace TimeExpression

/-- The hour that is meant: twelve o'clock is the first hour of its half of the day. -/
def hourOfDay (e : TimeExpression) : ℕ :=
  match e.marker with
  | none => e.hour
  | some .am => e.hour % 12
  | some .pm => e.hour % 12 + 12

/-- The hour that is written. -/
def writtenHour (e : TimeExpression) : ℕ :=
  if e.marker = some .pm ∧ e.colon = false ∧ e.hour < 12 then e.hour + 12 else e.hour

/-- The numbers are those of a time: in the morning before twelve, and after `오후` before a colon
from twelve on. -/
def Fits (e : TimeExpression) : Prop :=
  e.hour ≤ 23 ∧ e.minute ≤ 59 ∧ (e.marker = some .am → e.hour ≤ 11) ∧
    (e.marker = some .pm → e.colon = true → 12 ≤ e.hour)

/-- **When the numbers fit**: the time that is written exists and is the one that is meant. -/
theorem fits_iff (e : TimeExpression) :
    e.Fits ↔ e.writtenHour ≤ 23 ∧ e.minute ≤ 59 ∧ e.writtenHour = e.hourOfDay := by
  obtain ⟨marker, colon, hour, minute⟩ := e
  unfold Fits writtenHour hourOfDay
  cases marker with
  | none =>
    simp only [reduceCtorEq, false_and, false_imp_iff, if_false, and_true]
  | some marker =>
    cases marker with
    | am =>
      simp only [reduceCtorEq, Option.some.injEq, false_and, false_imp_iff, true_imp_iff, if_false,
        and_true]
      omega
    | pm =>
      cases colon with
      | true =>
        simp only [reduceCtorEq, Option.some.injEq, false_and, and_false, false_imp_iff,
          true_imp_iff, if_false, true_and]
        omega
      | false =>
        simp only [reduceCtorEq, Option.some.injEq, true_and, false_imp_iff, imp_true_iff, and_true]
        split <;> omega

end TimeExpression

/-! ## Matches -/

section FindAt

variable {α : Type} {f : List Char → Option α}

/-- The match is the one of the first suffix. -/
lemma map_snd_findAt : ∀ before cs : List Char,
    (findAt f before cs).map Prod.snd = cs.tails.findSome? f
  | before, [] => by
    rw [findAt, Option.map_map]
    cases h : f [] <;> simp [h]
  | before, c :: cs => by
    rw [findAt, List.tails_cons, List.findSome?_cons]
    cases f (c :: cs) with
    | some a => rfl
    | none => exact map_snd_findAt (c :: before) cs

/-- A match is at the start of a rest of the text. -/
lemma findAt_spec : ∀ {before cs before' : List Char} {a : α},
    findAt f before cs = some (before', a) →
    ∃ rest, f rest = some a ∧ before'.reverse ++ rest = before.reverse ++ cs
  | before, [], before', a, h => by
    obtain ⟨b, hb, heq⟩ := Option.map_eq_some_iff.mp h
    obtain ⟨rfl, rfl⟩ := Prod.mk.inj heq
    exact ⟨[], hb, rfl⟩
  | before, c :: cs, before', a, h => by
    unfold findAt at h
    split at h
    case h_1 b hb =>
      obtain ⟨rfl, rfl⟩ := Prod.mk.inj (Option.some.inj h)
      exact ⟨c :: cs, hb, rfl⟩
    case h_2 =>
      obtain ⟨rest, hrest, heq⟩ := findAt_spec h
      refine ⟨rest, hrest, heq.trans ?_⟩
      simp

end FindAt

/-- What follows a word. -/
lemma dropWord_append (word cs : List Char) : dropWord word (word ++ cs) = some cs := by
  rw [dropWord, if_pos (List.isPrefixOf_iff_prefix.mpr (List.prefix_append word cs)),
    List.drop_left]

/-- White space is no digit. -/
lemma isJsSpace_of_isDigit {c : Char} (h : c.isDigit = true) : isJsSpace c = false := by
  have hc := toNat_of_isDigit h
  have hval : c.val.toNat = c.toNat := rfl
  simp only [isJsSpace, Bool.or_eq_false_iff, decide_eq_false_iff_not, List.mem_cons,
    List.not_mem_nil, or_false, Bool.and_eq_false_iff]
  omega

/-- A time starts with a digit, so no white space is before it. -/
lemma dropWhile_append_of_hourAndMinutes {spaces rest : List Char} {time : String × Option String}
    (hspaces : ∀ c ∈ spaces, isJsSpace c = true) (h : hourAndMinutes rest = some time) :
    (spaces ++ rest).dropWhile isJsSpace = rest := by
  rw [List.dropWhile_append_of_pos hspaces]
  cases rest with
  | nil => rfl
  | cons c cs =>
    by_cases hc : c.isDigit = true
    · rw [List.dropWhile_cons_of_neg]
      rw [isJsSpace_of_isDigit hc]
      decide
    · -- without a digit there is no hour
      unfold hourAndMinutes takeDigits at h
      rw [if_neg hc] at h
      dsimp only at h
      split at h
      case h_1 heq =>
        obtain ⟨rfl, -⟩ := Prod.mk.inj heq
        simp at h
      case h_2 => cases h

/-- **A word before a time is found with it**: if the patterns with a word match nowhere, none
stands before a time. -/
theorem markerBefore_eq_none {text before : List Char} {time : String × Option String}
    (hwords : ∀ m : Marker, text.tails.findSome? (markedTime m.word) = none)
    (h : findAt hourAndMinutes [] text = some (before, time)) : markerBefore before = none := by
  obtain ⟨rest, hrest, htext⟩ := findAt_spec h
  rw [List.reverse_nil, List.nil_append] at htext
  rw [markerBefore, List.find?_eq_none]
  intro m _ hprefix
  obtain ⟨front, hfront⟩ := List.isPrefixOf_iff_prefix.mp hprefix
  -- the text from the word on matches
  have hbefore : before.reverse =
      front.reverse ++ (m.word.toList ++ (before.takeWhile isJsSpace).reverse) := by
    conv_lhs => rw [← List.takeWhile_append_dropWhile (p := isJsSpace) (l := before)]
    rw [← hfront]
    simp
  have hsuffix : m.word.toList ++ ((before.takeWhile isJsSpace).reverse ++ rest) ∈ text.tails := by
    rw [List.mem_tails, ← htext, hbefore]
    exact ⟨front.reverse, by simp⟩
  have hmatch : markedTime m.word
      (m.word.toList ++ ((before.takeWhile isJsSpace).reverse ++ rest)) = some time := by
    rw [markedTime, dropWord_append, Option.bind_some, dropWhile_append_of_hourAndMinutes _ hrest,
      hrest]
    intro c hc
    exact List.mem_takeWhile_imp (List.mem_reverse.mp hc)
  have hnone := List.findSome?_eq_none_iff.mp (hwords m) _ hsuffix
  rw [hmatch] at hnone
  cases hnone

/-! ## What is written -/

/-- The numbers of an hour and a minute. -/
lemma isNumber_of_hourAndMinutes {cs : List Char} {h : String} {m : Option String}
    (heq : hourAndMinutes cs = some (h, m)) : IsNumber 2 h ∧ minuteValue m < 100 := by
  unfold hourAndMinutes at heq
  split at heq
  case h_2 => cases heq
  case h_1 hour rest hhour =>
    split at heq
    case isFalse => cases heq
    case isTrue hne =>
      obtain ⟨rfl, rfl⟩ := Prod.mk.inj (Option.some.inj heq)
      refine ⟨isNumber_takeDigits hhour hne, ?_⟩
      split
      case isTrue => decide
      case isFalse hminute => exact (isNumber_takeDigits rfl hminute).parseInt_lt

/-- The numbers after a word. -/
lemma isNumber_of_markedTime {word : String} {cs : List Char} {h : String} {m : Option String}
    (heq : markedTime word cs = some (h, m)) : IsNumber 2 h ∧ minuteValue m < 100 := by
  obtain ⟨rest, -, hrest⟩ := Option.bind_eq_some_iff.mp heq
  exact isNumber_of_hourAndMinutes hrest

/-- The numbers of `HH:mm`: the minute has two digits. -/
lemma isNumber_of_clockTime {cs : List Char} {h m : String} (heq : clockTime cs = some (h, m)) :
    IsNumber 2 h ∧ IsNumber 2 m ∧ m.toList.length = 2 := by
  unfold clockTime at heq
  split at heq
  case h_2 => cases heq
  case h_1 hour rest hhour =>
    dsimp only at heq
    split at heq
    case isFalse => cases heq
    case isTrue hne =>
      obtain ⟨rfl, rfl⟩ := Prod.mk.inj (Option.some.inj heq)
      refine ⟨isNumber_takeDigits hhour hne.1, isNumber_takeDigits rfl ?_, ?_⟩
      · exact List.ne_nil_of_length_eq_add_one hne.2
      · rw [String.toList_ofList]
        exact hne.2

/-- The text of a time. -/
lemma toList_formatTime (hour minute : ℕ) :
    (formatTime hour minute).toList = padded 2 hour ++ ':' :: padded 2 minute := by
  have hhour : (padStart (toString hour)).toList = padded 2 hour := toList_padStart_toString hour
  have hminute : (padStart (toString minute)).toList = padded 2 minute :=
    toList_padStart_toString minute
  rw [formatTime, String.toList_append, String.toList_append, hhour, hminute, List.append_assoc]
  rfl

/-- The characters of an expression, as they are written. -/
def TimeExpression.write (e : TimeExpression) : List Char :=
  padded 2 e.writtenHour ++ ':' :: padded 2 e.minute

/-- A text is the one of an expression with numbers of two digits. -/
def WrittenAs (text : Option String) (e : Option TimeExpression) : Prop :=
  text.map String.toList = e.map TimeExpression.write ∧
    ∀ e', e = some e' → e'.writtenHour < 100 ∧ e'.minute < 100

/-- An hour and a minute are written as the expression they come from. -/
lemma writtenAs_formatTime (e : TimeExpression) {hour : ℕ} (h : e.writtenHour = hour)
    (hhour : hour < 100) (hminute : e.minute < 100) :
    WrittenAs (some (formatTime hour e.minute)) (some e) := by
  refine ⟨?_, ?_⟩
  · rw [Option.map_some, Option.map_some, toList_formatTime, TimeExpression.write, h]
  · rintro e' ⟨⟩
    exact ⟨h ▸ hhour, hminute⟩

/-- `HH:mm` is copied. -/
lemma writtenAs_clockTime {cs : List Char} {h m : String} (heq : clockTime cs = some (h, m))
    (marker : Option Marker) :
    WrittenAs (some (padStart h ++ ":" ++ m)) (some ⟨marker, true, parseInt h, parseInt m⟩) := by
  obtain ⟨hhour, hminute, hlength⟩ := isNumber_of_clockTime heq
  have hcopy : m.toList = padded 2 (parseInt m) := by
    rw [← hminute.toList_padStart, padStart, String.toList_ofList, List.leftpad, hlength,
      Nat.sub_self, List.replicate_zero, List.nil_append]
  have hwritten : TimeExpression.writtenHour ⟨marker, true, parseInt h, parseInt m⟩ =
      parseInt h := if_neg fun hpm => by cases hpm.2.1
  refine ⟨?_, ?_⟩
  · simp only [Option.map_some, TimeExpression.write, hwritten, String.toList_append,
      hhour.toList_padStart, hcopy, List.append_assoc]
    rfl
  · rintro e' ⟨⟩
    rw [hwritten]
    exact ⟨hhour.parseInt_lt, hminute.parseInt_lt⟩

/-- **`extractTime` writes down the expression it finds**, and the numbers have two digits at
most.

**Proof sketch.** The patterns are tried in the same order. With a marker, the expression has it
next to its hour. Without one, no marker is found anywhere, so there is none before the numbers
either; a clock time keeps the marker before it. Numbers that are matched have two digits at
most. -/
theorem extractTime_writtenAs (text : String) :
    WrittenAs (extractTime text) (timeExpression text) := by
  have hnumber : ∀ {word : String} {h m},
      text.toList.tails.findSome? (markedTime word) = some (h, m) →
      parseInt h < 100 ∧ minuteValue m < 100 := by
    intro word h m hfind
    obtain ⟨cs, -, hcs⟩ := List.exists_of_findSome?_eq_some hfind
    exact ⟨(isNumber_of_markedTime hcs).1.parseInt_lt, (isNumber_of_markedTime hcs).2⟩
  unfold extractTime timeExpression
  cases hpm : text.toList.tails.findSome? (markedTime "오후") with
  | some time =>
    obtain ⟨h, m⟩ := time
    obtain ⟨hhour, hminute⟩ := hnumber hpm
    refine writtenAs_formatTime ⟨some .pm, false, parseInt h, minuteValue m⟩ ?_ ?_ hminute
    · simp only [TimeExpression.writtenHour, true_and]
    · split <;> omega
  | none =>
    dsimp only
    cases ham : text.toList.tails.findSome? (markedTime "오전") with
    | some time =>
      obtain ⟨h, m⟩ := time
      obtain ⟨hhour, hminute⟩ := hnumber ham
      exact writtenAs_formatTime ⟨some .am, false, parseInt h, minuteValue m⟩
        (if_neg fun hpm => by cases hpm.1) hhour hminute
    | none =>
      dsimp only
      have hwords : ∀ m : Marker, text.toList.tails.findSome? (markedTime m.word) = none := by
        intro m
        cases m with
        | am => exact ham
        | pm => exact hpm
      rw [← map_snd_findAt (f := hourAndMinutes) [], ← map_snd_findAt (f := clockTime) []]
      cases hplain : findAt hourAndMinutes [] text.toList with
      | some found =>
        obtain ⟨before, h, m⟩ := found
        have hmarker := markerBefore_eq_none hwords hplain
        obtain ⟨rest, hrest, -⟩ := findAt_spec hplain
        obtain ⟨hhour, hminute⟩ := isNumber_of_hourAndMinutes hrest
        refine writtenAs_formatTime ⟨markerBefore before, false, parseInt h, minuteValue m⟩
          (if_neg fun hpm => ?_) hhour.parseInt_lt hminute
        rw [hmarker] at hpm
        cases hpm.1
      | none =>
        cases hclock : findAt clockTime [] text.toList with
        | none => exact ⟨rfl, fun e he => by cases he⟩
        | some found =>
          obtain ⟨before, h, m⟩ := found
          obtain ⟨rest, hrest, -⟩ := findAt_spec hclock
          exact writtenAs_clockTime hrest (markerBefore before)

end Calendar
