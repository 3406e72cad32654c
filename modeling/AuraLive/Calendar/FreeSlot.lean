import AuraLive.Foundations.JsDateText
import AuraLive.VoiceBot.Flows

set_option relaxedAutoImplicit false
set_option autoImplicit false

/-!
# The appointment in a free slot

The calendar branch of `processAndRespond` makes an appointment in the first free slot. It takes the
date from `toISOString`, which is in UTC, and the time from `toTimeString`, which is local.

## Main definitions

* `Calendar.renderSlot` — the texts of the start of a free slot.
* `Calendar.Awaits` — the call a program waits for first.
* `Calendar.Denotes` — a date and a time are those of an instant in one time zone.

## Main results

* `Calendar.slot_denoted_iff` — the appointment is at the free time exactly if the date in UTC is
  the local one, or the offset of the server is so large that another zone has that date at that
  time.
* `Calendar.slot_a_day_late` — on a server eight hours behind UTC, a free time in the late afternoon
  becomes an appointment on the next day.

## Design

The branch itself is `VoiceBot.createAppointment`, where a free slot has its texts already. The
texts of `toLocaleDateString` and `toLocaleTimeString`, which are only spoken, are parameters.
-/

namespace Calendar

open Foundations JsDate VoiceBot

/-! ## The texts -/

/-- `slotDate.toISOString().split('T')[0]`. -/
def dateStr (slotDate : ℤ) : String :=
  String.ofList ((toISOString slotDate).takeWhile (· ≠ 'T'))

/-- `slotDate.toTimeString().slice(0, 5)`, where `name` is what follows the time. -/
def timeStr (zone : TimeZone) (name : List Char) (slotDate : ℤ) : String :=
  String.ofList ((zone.toTimeString name slotDate).take 5)

/-- The first free slot, as it is rendered. -/
def renderSlot (zone : TimeZone) (name : List Char) (dateFormatted timeFormatted : ℤ → String)
    (slotDate : ℤ) : FreeSlot where
  date := dateStr slotDate
  time := timeStr zone name slotDate
  dateFormatted := dateFormatted slotDate
  timeFormatted := timeFormatted slotDate

/-- A program that is run in a state waits for a call first. -/
def Awaits (program : Prog Unit) (s : RoomState) (op : Op) : Prop :=
  ∃ next, (program.advance Act.apply s).status = .waiting op next

/-- A date and a time are those of an instant in one time zone. -/
def Denotes (date time : String) (t : ℤ) : Prop :=
  ∃ offset : UtcOffset, date.toList = isoDay (offset.zone.localDay t) ∧
    time.toList = hourAndMinute (offset.zone.localTime t)

/-! ## Which instant they denote -/

/-- The date is the one in UTC. -/
lemma toList_dateStr (t : ℤ) : (dateStr t).toList = isoDay (day t) := by
  rw [dateStr, String.toList_ofList, takeWhile_toISOString]

/-- The time is the local one. -/
lemma toList_timeStr (zone : TimeZone) (name : List Char) (t : ℤ) :
    (timeStr zone name t).toList = hourAndMinute (zone.localTime t) := by
  rw [timeStr, String.toList_ofList, TimeZone.take_toTimeString]

/-- Two zones show the same time of the day if their offsets differ by whole days. -/
lemma hourAndMinute_eq_iff (offset offset' : UtcOffset) (t : ℤ) :
    hourAndMinute (offset.zone.localTime t) = hourAndMinute (offset'.zone.localTime t) ↔
      (offset.minutes - offset'.minutes) % 1440 = 0 := by
  constructor
  · intro h
    obtain ⟨hhour, hminute⟩ := hourAndMinute_inj h
    rw [offset.localTime_zone, offset'.localTime_zone] at hhour hminute
    unfold hourOf timeWithinDay msPerDay at hhour
    unfold minuteOf timeWithinDay msPerDay at hminute
    omega
  · intro h
    have htime : timeWithinDay (offset.zone.localTime t) =
        timeWithinDay (offset'.zone.localTime t) := by
      rw [offset.localTime_zone, offset'.localTime_zone]
      unfold timeWithinDay msPerDay
      omega
    simp only [hourAndMinute, hourOf, minuteOf, htime]

/-- The date in UTC and a local time denote the instant if the days are the same, or if the zone a
day away from the one of the server is in use.

**Proof sketch.** The date says that the day in the common zone is the one in UTC, and the time that
the offsets differ by whole days, one at most. -/
lemma denotes_iff (server : UtcOffset) (name : List Char) (t : ℤ) :
    Denotes (dateStr t) (timeStr server.zone name t) t ↔
      server.zone.localDay t = day t ∨ 720 ≤ server.minutes ∨ server.minutes ≤ -600 := by
  have hserver := server.range
  have hlocal : server.zone.localDay t = (t + server.minutes * 60000) / 86400000 := rfl
  have hutc : day t = t / 86400000 := rfl
  constructor
  · rintro ⟨offset, hdate, htime⟩
    rw [toList_dateStr] at hdate
    rw [toList_timeStr, hourAndMinute_eq_iff] at htime
    have hday := isoDay_injective hdate
    have hcommon : offset.zone.localDay t = (t + offset.minutes * 60000) / 86400000 := rfl
    have hoffset := offset.range
    omega
  · intro h
    -- the common zone is the one of the server, or the zone a day away from it
    have hrange : -720 ≤ server.minutes - 1440 * (server.zone.localDay t - day t) ∧
        server.minutes - 1440 * (server.zone.localDay t - day t) ≤ 840 := by omega
    refine ⟨⟨server.minutes - 1440 * (server.zone.localDay t - day t), hrange⟩, ?_, ?_⟩
    · rw [toList_dateStr, TimeZone.localDay, UtcOffset.localTime_zone]
      congr 1
      unfold day msPerDay at *
      dsimp only
      omega
    · rw [toList_timeStr, hourAndMinute_eq_iff]
      dsimp only
      omega

/-- **When the appointment is at the free time.** For every instant and every server, the branch
calls `addEventToUsers`, and the date and the time it passes are those of the instant in one zone
exactly if the date in UTC is the local date of the server, or the server is at least twelve hours
ahead of UTC or ten hours behind it. -/
theorem slot_denoted_iff (server : UtcOffset) (name : List Char)
    (dateFormatted timeFormatted : ℤ → String) (start : ℤ) (s : RoomState) (requestId : ℕ)
    (userIds : List String) :
    ∃ title date time description,
      Awaits (createAppointment requestId userIds
        (renderSlot server.zone name dateFormatted timeFormatted start)) s
        (.addEventToUsers userIds title date time description) ∧
      (Denotes date time start ↔
        server.zone.localDay start = day start ∨ 720 ≤ server.minutes ∨ server.minutes ≤ -600) :=
  ⟨_, _, _, _, ⟨_, rfl⟩, denotes_iff server name start⟩

/-- Pacific Standard Time. -/
def pacific : UtcOffset := ⟨-480, by decide⟩

/-- **An appointment that is a day late.** The free slot starts on Monday the 20th of January 2025
at 17:00 local time, and the appointment is made for the 21st at 17:00. -/
theorem slot_a_day_late :
    ∃ title description,
      Awaits (createAppointment 1 ["민수"]
        (renderSlot pacific.zone "GMT-0800".toList (fun _ => "1월 20일 (월)")
          (fun _ => "오후 05:00") 1737421200000)) RoomState.initial
        (.addEventToUsers ["민수"] title "2025-01-21" "17:00" description) ∧
      ¬ Denotes "2025-01-21" "17:00" 1737421200000 := by
  have hdate : dateStr 1737421200000 = "2025-01-21" := by decide +kernel
  have htime : timeStr pacific.zone "GMT-0800".toList 1737421200000 = "17:00" := by decide +kernel
  have hdenotes := denotes_iff pacific "GMT-0800".toList 1737421200000
  rw [hdate, htime] at hdenotes
  have hawaits : ∃ title description,
      Awaits (createAppointment 1 ["민수"]
        (renderSlot pacific.zone "GMT-0800".toList (fun _ => "1월 20일 (월)")
          (fun _ => "오후 05:00") 1737421200000)) RoomState.initial
        (.addEventToUsers ["민수"] title (dateStr 1737421200000)
          (timeStr pacific.zone "GMT-0800".toList 1737421200000) description) := ⟨_, _, _, rfl⟩
  rw [hdate, htime] at hawaits
  obtain ⟨title, description, hcall⟩ := hawaits
  refine ⟨title, description, hcall, ?_⟩
  rw [hdenotes]
  decide +kernel

end Calendar
