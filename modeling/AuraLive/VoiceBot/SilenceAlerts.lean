import AuraLive.Foundations.EventSystem
import AuraLive.Foundations.JsMap
import AuraLive.Lifecycle.Bot
import Mathlib.Data.Finset.Basic
import Mathlib.Tactic.Linarith

set_option relaxedAutoImplicit false
set_option autoImplicit false

/-!
# Alerts for silent participants

`startSilentParticipantChecker` looks at the participants of a room every 15 seconds and tells the
hosts who has been silent for a minute. It keeps the times at which it first saw a participant and
whom it has told of, and takes the times of their last utterances from the context; nobody resets
any of this when a participant leaves. The check waits for each of its alerts to be published, and
the next check does not wait for it.

## Main definitions

* `Silence.Checker`, `Event`, `checker` — the room, the checks, and what happens.
* `Silence.Moment` — what happens, as it is remembered.
* `Silence.stay`, `lastSpoke`, `alertedSince` — what the past says of a participant.
* `Silence.Warranted` — what is to hold when an alert is sent.
* `Silence.Timely` — the records of a participant belong to the present stay, and no other check is
  concerned with them.

## Main results

* `Silence.Sound.step` — a step keeps the records and the past together.
* `Silence.alerts_warranted` — in every run whose checks are timely, all alerts are warranted.
* `Silence.unwarranted_alerts` — an alert for somebody who has just come back, and a second alert
  while the first one is being sent.

## Design

* **Checks.** A check goes through the participants one by one. Nothing else happens until it comes
  to its end or sends an alert, which may take any time and does not fail.
* **Participants.** They are visited in the order in which they came in, which their serial numbers
  tell, and one who leaves and comes back gets a new number.
* **Utterances.** One counts as recognised when it is passed on to recognition.
-/

namespace Silence

open Foundations Lifecycle

/-- `SILENT_THRESHOLD_MS`. -/
def SILENT_THRESHOLD_MS : ℕ := 60 * 1000

/-- `STT_COOLDOWN_MS`. -/
def STT_COOLDOWN_MS : ℕ := 1200

/-! ## The room and the checks -/

/-- An entry of `remoteParticipants`. -/
structure Participant where
  identity : String
  name : String
  serial : ℕ
  deriving DecidableEq

/-- A check that has visited the participants below a serial number. -/
structure Round where
  now : ℕ
  cursor : ℕ
  deriving DecidableEq

/-- A check that waits for an alert to be published. -/
structure Waiting where
  round : Round
  participantId : String
  lastSttTime : ℕ
  deriving DecidableEq

/-- The message of an alert. -/
structure Alert where
  participantId : String
  participantName : String
  silentDurationMs : ℕ
  silentMinutes : ℕ
  timestamp : ℕ
  deriving DecidableEq

/-- What happened to a participant. -/
inductive Moment where
  | joined (identity : String) (time : ℕ)
  | left (identity : String) (time : ℕ)
  | spoke (identity : String) (time : ℕ)
  | alerted (alert : Alert)
  deriving DecidableEq

/-- The room and the variables of the checks. -/
structure Checker where
  clock : ℕ
  hostOnlyMode : Bool
  hostIdentities : Finset String
  remoteParticipants : List Participant
  nextSerial : ℕ
  lastSttTimeByUser : JsMap String ℕ
  participantJoinTime : JsMap String ℕ
  alreadyAlerted : Finset String
  /-- The check that is under way. -/
  running : Option Round
  waiting : List Waiting
  /-- What happened, the newest first. -/
  log : List Moment

/-- What happens to a room. -/
inductive Event where
  | tick (ms : ℕ)
  | joined (identity name : String)
  | left (identity : String)
  | utterance (identity : String)
  | mode (hostOnlyMode : Bool) (hostIdentities : Finset String)
  /-- The interval has passed. -/
  | check
  /-- The check that is under way goes on. -/
  | visit
  /-- The alert for which a check waits has been published. -/
  | published (i : ℕ)

namespace Checker

variable (s : Checker)

/-- Alerts are sent to nobody. -/
def isOff : Bool := !s.hostOnlyMode || s.hostIdentities = ∅

/-- `referenceTime`. -/
def referenceTime (identity : String) (now : ℕ) : ℕ :=
  let lastSttTime := (s.lastSttTimeByUser.get identity).getD 0
  let joinTime := (s.participantJoinTime.get identity).getD 0
  if 0 < lastSttTime then lastSttTime else if joinTime = 0 then now else joinTime

/-- The reset of an alert, for somebody who has spoken within the threshold. -/
def reset (now : ℕ) (identity : String) (lastSttTime : ℕ) : Checker :=
  if 0 < lastSttTime ∧ now < lastSttTime + SILENT_THRESHOLD_MS then
    { s with alreadyAlerted := s.alreadyAlerted.erase identity }
  else s

/-- `sendSilentParticipantAlert`, up to the publication. -/
def sendSilentParticipantAlert (p : Participant) (silentDuration : ℕ) : Checker :=
  if s.isOff then s
  else
    { s with
      log := .alerted
        { participantId := p.identity
          participantName := if p.name = "" then p.identity else p.name
          silentDurationMs := silentDuration
          silentMinutes := silentDuration / 60000
          timestamp := s.clock } :: s.log }

/-- The time of the first sight is recorded. -/
def see (now : ℕ) (identity : String) : Checker :=
  if s.participantJoinTime.has identity then s
  else { s with participantJoinTime := s.participantJoinTime.set identity now }

/-- The body of the loop, for a participant who is neither a bot nor a host. -/
def examine (round : Round) (p : Participant) : Checker :=
  let s := s.see round.now p.identity
  let lastSttTime := (s.lastSttTimeByUser.get p.identity).getD 0
  let referenceTime := s.referenceTime p.identity round.now
  if referenceTime + SILENT_THRESHOLD_MS ≤ round.now ∧ p.identity ∉ s.alreadyAlerted then
    { s.sendSilentParticipantAlert p (round.now - referenceTime) with
      running := none
      waiting := s.waiting ++ [⟨round, p.identity, lastSttTime⟩] }
  else { s.reset round.now p.identity lastSttTime with running := some round }

/-- The participant a check comes to next. -/
def next (round : Round) : Option Participant :=
  s.remoteParticipants.find? fun p => round.cursor ≤ p.serial

/-- The participant is neither a bot nor a host. -/
def concerns (p : Participant) : Bool := isHuman p.identity && p.identity ∉ s.hostIdentities

/-- The next participant of a check, or its end. -/
def visit (round : Round) : Checker :=
  match s.next round with
  | none => { s with running := none }
  | some p =>
    let round := { round with cursor := p.serial + 1 }
    if s.concerns p then s.examine round p else { s with running := some round }

/-- A check goes on after its alert. -/
def resume (w : Waiting) : Checker :=
  { { s with alreadyAlerted := insert w.participantId s.alreadyAlerted }.reset w.round.now
      w.participantId w.lastSttTime with running := some w.round }

/-- An utterance is passed on to recognition, unless the last one was just before. -/
def utter (identity : String) : Checker :=
  let userLastSttTime := (s.lastSttTimeByUser.get identity).getD 0
  if s.clock < userLastSttTime + STT_COOLDOWN_MS then s
  else
    { s with
      lastSttTimeByUser := s.lastSttTimeByUser.set identity s.clock
      log := .spoke identity s.clock :: s.log }

/-- What happens between the checks. -/
def handle : Event → Option Checker
  | .tick ms => some { s with clock := s.clock + ms }
  | .joined identity name =>
    if s.remoteParticipants.any (·.identity = identity) then none
    else
      some { s with
        remoteParticipants := s.remoteParticipants ++ [⟨identity, name, s.nextSerial⟩]
        nextSerial := s.nextSerial + 1
        log := .joined identity s.clock :: s.log }
  | .left identity =>
    if s.remoteParticipants.any (·.identity = identity) then
      some { s with
        remoteParticipants := s.remoteParticipants.filter (·.identity ≠ identity)
        log := .left identity s.clock :: s.log }
    else none
  | .utterance identity => some (s.utter identity)
  | .mode hostOnlyMode hostIdentities =>
    some { s with hostOnlyMode := hostOnlyMode, hostIdentities := hostIdentities }
  | .check => some (if s.isOff then s else { s with running := some ⟨s.clock, 0⟩ })
  | .published i =>
    s.waiting[i]?.map fun w => { s with waiting := s.waiting.eraseIdx i }.resume w
  | .visit => none

/-- A check that is under way goes first. -/
def step (e : Event) : Option Checker :=
  match s.running, e with
  | some round, .visit => some (s.visit round)
  | some _, _ => none
  | none, e => s.handle e

end Checker

/-- The checks of a room, as an event system. -/
def checker (start : ℕ) : EventSystem Checker Event where
  init := ⟨start, true, ∅, [], 0, ∅, ∅, ∅, none, [], []⟩
  step := Checker.step

/-! ## The past -/

/-- The time of a moment. -/
def Moment.time : Moment → ℕ
  | .joined _ t | .left _ t | .spoke _ t => t
  | .alerted alert => alert.timestamp

/-- The time since which somebody is in the room without having left it. -/
def stay : List Moment → String → Option ℕ
  | [], _ => none
  | .joined identity t :: log, p => if identity = p then some t else stay log p
  | .left identity _ :: log, p => if identity = p then none else stay log p
  | _ :: log, p => stay log p

/-- The time of the last utterance of somebody. -/
def lastSpoke : List Moment → String → Option ℕ
  | [], _ => none
  | .spoke identity t :: log, p => if identity = p then some t else lastSpoke log p
  | _ :: log, p => lastSpoke log p

/-- The time of the last alert for somebody, if no utterance has followed. -/
def alertedSince : List Moment → String → Option ℕ
  | [], _ => none
  | .spoke identity _ :: log, p => if identity = p then none else alertedSince log p
  | .alerted alert :: log, p =>
    if alert.participantId = p then some alert.timestamp else alertedSince log p
  | _ :: log, p => alertedSince log p

/-- An alert is warranted by what was before: the participant has been in the room for a minute and
has not spoken in that time, and has spoken since every earlier alert. -/
structure Warranted (alert : Alert) (before : List Moment) : Prop where
  present : ∃ t ∈ stay before alert.participantId, t + SILENT_THRESHOLD_MS ≤ alert.timestamp
  silent : ∀ t, .spoke alert.participantId t ∈ before → t + SILENT_THRESHOLD_MS ≤ alert.timestamp
  unrepeated : ∀ between earlier older, before = between ++ .alerted earlier :: older →
    earlier.participantId = alert.participantId → ∃ t, .spoke alert.participantId t ∈ between

/-- All alerts of a log are warranted. -/
def AllWarranted (log : List Moment) : Prop :=
  ∀ after alert before, log = after ++ .alerted alert :: before → Warranted alert before

/-! ## Timely checks -/

/-- What the records say of a participant: the time of the last utterance, or else of the first
sight. -/
def Checker.record (s : Checker) (identity : String) : Option ℕ :=
  ((s.lastSttTimeByUser.get identity).filter (0 < ·)).or (s.participantJoinTime.get identity)

/-- A check comes to a participant in time: if no alert is recorded and the record is a minute old,
then it is from the present stay and no alert is still being sent; and if the last utterance is less
than a minute old, then no alert has followed it since the check began. -/
structure Timely (s : Checker) (round : Round) (identity : String) : Prop where
  fresh : identity ∉ s.alreadyAlerted → ∀ t ∈ s.record identity,
    t + SILENT_THRESHOLD_MS ≤ round.now →
      (∀ t₀ ∈ stay s.log identity, t₀ ≤ t) ∧ ∀ w ∈ s.waiting, w.participantId ≠ identity
  early : ∀ u ∈ s.lastSttTimeByUser.get identity, round.now < u + SILENT_THRESHOLD_MS →
    ∀ t ∈ alertedSince s.log identity, t ≤ round.now

/-- A step is timely if the participant to whom it comes is visited in time. -/
def TimelyStep (s : Checker) : Event → Prop
  | .visit => ∀ round ∈ s.running, ∀ p ∈ s.next round, s.concerns p → Timely s round p.identity
  | _ => True

instance (s : Checker) (round : Round) (identity : String) :
    Decidable (Timely s round identity) :=
  decidable_of_iff (_ ∧ _) ⟨fun h => ⟨h.1, h.2⟩, fun h => ⟨h.fresh, h.early⟩⟩

instance : ∀ s e, Decidable (TimelyStep s e)
  | s, .visit => inferInstanceAs (Decidable
      (∀ round ∈ s.running, ∀ p ∈ s.next round, s.concerns p → Timely s round p.identity))
  | _, .tick _ | _, .joined _ _ | _, .left _ | _, .utterance _ | _, .mode _ _ | _, .check
  | _, .published _ => inferInstanceAs (Decidable True)

/-! ## Records and the past -/

section Past

variable {log : List Moment} {p : String} {t : ℕ}

/-- The last utterance is in the log. -/
lemma spoke_mem_of_lastSpoke (h : lastSpoke log p = some t) : .spoke p t ∈ log := by
  induction log with
  | nil => cases h
  | cons m log ih =>
    cases m with
    | spoke identity u =>
      rw [lastSpoke] at h
      split at h
      · rename_i hp
        rw [hp, Option.some_inj.mp h]
        exact List.mem_cons_self
      · exact List.mem_cons_of_mem _ (ih h)
    | _ => exact List.mem_cons_of_mem _ (ih h)

/-- No utterance is later than the last one. -/
lemma le_lastSpoke (hordered : log.Pairwise fun m m' => m'.time ≤ m.time)
    (h : .spoke p t ∈ log) : ∃ u, lastSpoke log p = some u ∧ t ≤ u := by
  induction log with
  | nil => cases h
  | cons m log ih =>
    obtain ⟨hle, htail⟩ := List.pairwise_cons.mp hordered
    cases m with
    | spoke identity u =>
      by_cases hp : identity = p
      · refine ⟨u, by rw [lastSpoke, if_pos hp], ?_⟩
        rcases List.mem_cons.mp h with heq | hmem
        · cases heq
          exact le_rfl
        · exact hle _ hmem
      · rw [lastSpoke, if_neg hp]
        refine ih htail ((List.mem_cons.mp h).resolve_left fun heq => hp ?_)
        cases heq
        rfl
    | _ => exact ih htail ((List.mem_cons.mp h).resolve_left (by simp))

/-- Where the last alert without an utterance after it is. -/
lemma alertedSince_eq_some (h : alertedSince log p = some t) :
    ∃ after alert before, log = after ++ .alerted alert :: before ∧ alert.participantId = p ∧
      alert.timestamp = t ∧ ∀ u, .spoke p u ∉ after := by
  induction log with
  | nil => cases h
  | cons m log ih =>
    have hlater (hm : ∀ u, m ≠ .spoke p u) (htail : alertedSince log p = some t) :
        ∃ after alert before, m :: log = after ++ .alerted alert :: before ∧
          alert.participantId = p ∧ alert.timestamp = t ∧ ∀ u, .spoke p u ∉ after := by
      obtain ⟨after, alert, before, rfl, hp, ht, hafter⟩ := ih htail
      refine ⟨m :: after, alert, before, rfl, hp, ht, fun u hmem => ?_⟩
      exact (List.mem_cons.mp hmem).elim (fun heq => hm u heq.symm) (hafter u)
    cases m with
    | spoke identity u =>
      rw [alertedSince] at h
      split at h
      · cases h
      · rename_i hp
        exact hlater (fun _ heq => hp (by cases heq; rfl)) h
    | alerted alert =>
      rw [alertedSince] at h
      split at h
      · rename_i hp
        exact ⟨[], alert, log, rfl, hp, Option.some_inj.mp h, fun _ => List.not_mem_nil⟩
      · exact hlater (by simp) h
    | _ => exact hlater (by simp) h

/-- Without such an alert, an utterance has followed every alert. -/
lemma exists_spoke_of_alertedSince_eq_none {alert : Alert} {older : List Moment} :
    ∀ {between : List Moment}, alertedSince (between ++ .alerted alert :: older) p = none →
      alert.participantId = p → ∃ u, .spoke p u ∈ between
  | [], h, hp => by simp [alertedSince, hp] at h
  | m :: between, h, hp => by
    have hlater (htail : alertedSince (between ++ .alerted alert :: older) p = none) :
        ∃ u, .spoke p u ∈ m :: between :=
      (exists_spoke_of_alertedSince_eq_none htail hp).imp fun _ => List.mem_cons_of_mem m
    rw [List.cons_append] at h
    cases m with
    | spoke identity u =>
      by_cases hidentity : identity = p
      · exact ⟨u, hidentity ▸ List.mem_cons_self⟩
      · rw [alertedSince, if_neg hidentity] at h
        exact hlater h
    | alerted earlier =>
      rw [alertedSince] at h
      split at h
      · cases h
      · exact hlater h
    | _ => exact hlater h

/-- All alerts of a longer log are warranted if the new moment, should it be an alert, is. -/
lemma AllWarranted.cons {m : Moment} (h : AllWarranted log)
    (hm : ∀ alert, m = .alerted alert → Warranted alert log) : AllWarranted (m :: log) := by
  intro after alert before heq
  cases after with
  | nil =>
    obtain ⟨rfl, rfl⟩ := List.cons.inj heq
    exact hm alert rfl
  | cons m' after => exact h after alert before (List.cons.inj heq).2

end Past

/-! ## Steps -/

/-- The records and the past are in step: times are in order, and all alerts warranted so far. -/
structure Sound (s : Checker) : Prop where
  times : ∀ m ∈ s.log, m.time ≤ s.clock
  ordered : s.log.Pairwise fun m m' => m'.time ≤ m.time
  spoken : ∀ p, s.lastSttTimeByUser.get p = lastSpoke s.log p
  positive : ∀ p, ∀ t ∈ lastSpoke s.log p, 0 < t
  present : ∀ p ∈ s.remoteParticipants, (stay s.log p.identity).isSome
  begun : ∀ round ∈ s.running, round.now ≤ s.clock
  begunWaiting : ∀ w ∈ s.waiting, w.round.now ≤ s.clock
  /-- The check that waits has found a silence. -/
  unreset : ∀ w ∈ s.waiting, w.lastSttTime = 0 ∨ w.lastSttTime + SILENT_THRESHOLD_MS ≤ w.round.now
  /-- An alert is recorded, or is still being sent. -/
  accounted : ∀ p, (alertedSince s.log p).isSome →
    p ∈ s.alreadyAlerted ∨ ∃ w ∈ s.waiting, w.participantId = p
  warranted : AllWarranted s.log

namespace Sound

variable {s : Checker}

/-- A moment is added to the log. -/
lemma ordered_cons (h : Sound s) {m : Moment} (hm : m.time = s.clock) :
    (∀ m' ∈ m :: s.log, m'.time ≤ s.clock) ∧
      (m :: s.log).Pairwise fun m m' => m'.time ≤ m.time :=
  ⟨List.forall_mem_cons.mpr ⟨hm.le, h.times⟩,
    List.pairwise_cons.mpr ⟨fun m' hm' => hm ▸ h.times m' hm', h.ordered⟩⟩

/-- Sight changes nothing but the record of it. -/
lemma see_eq (s : Checker) (now : ℕ) (identity : String) :
    s.see now identity = { s with
      participantJoinTime := (s.see now identity).participantJoinTime } := by
  unfold Checker.see
  split <;> rfl

/-- What a check finds to be a minute old is what the records say. -/
lemma record_eq_some {identity : String} {now : ℕ}
    (hold : (s.see now identity).referenceTime identity now + SILENT_THRESHOLD_MS ≤ now) :
    s.record identity = some ((s.see now identity).referenceTime identity now) := by
  have hthreshold : 0 < SILENT_THRESHOLD_MS := by decide
  rw [see_eq] at hold ⊢
  unfold Checker.referenceTime Checker.record at *
  dsimp only at hold ⊢
  cases hspoken : (s.lastSttTimeByUser.get identity).filter (0 < ·) with
  | some u =>
    obtain ⟨hu, hpos⟩ := Option.filter_eq_some_iff.mp hspoken
    rw [decide_eq_true_eq] at hpos
    rw [hu, Option.getD_some, if_pos hpos, Option.some_or]
  | none =>
    have hzero : ¬ 0 < (s.lastSttTimeByUser.get identity).getD 0 := by
      cases hu : s.lastSttTimeByUser.get identity with
      | none => simp
      | some u => simpa [hu] using hspoken
    rw [if_neg hzero] at hold ⊢
    split at hold
    · omega
    · rename_i hjoin
      rw [if_neg hjoin, Option.none_or]
      cases hseen : s.participantJoinTime.get identity with
      | some t => simp [Checker.see, JsMap.has, hseen]
      | none => 
        -- a first sight is not a minute old
        simp [Checker.see, JsMap.has, hseen] at hold
        omega

/-- A reset forgets no alert that has not been followed by an utterance. -/
lemma reset (h : Sound s) {now : ℕ} {identity : String}
    (hearly : ∀ u ∈ s.lastSttTimeByUser.get identity, now < u + SILENT_THRESHOLD_MS →
      ∀ t ∈ alertedSince s.log identity, t ≤ now) :
    Sound (s.reset now identity ((s.lastSttTimeByUser.get identity).getD 0)) := by
  unfold Checker.reset
  split
  · rename_i hrecent
    obtain ⟨u, hu⟩ : ∃ u, s.lastSttTimeByUser.get identity = some u := by
      rw [← Option.isSome_iff_exists]
      by_contra hnone
      simp [Option.not_isSome_iff_eq_none.mp hnone] at hrecent
    rw [hu, Option.getD_some] at hrecent
    have hnone : alertedSince s.log identity = none := by
      rw [Option.eq_none_iff_forall_ne_some]
      intro t ht
      obtain ⟨after, alert, before, hlog, rfl, rfl, hafter⟩ := alertedSince_eq_some ht
      have hspoke := spoke_mem_of_lastSpoke ((h.spoken _).symm.trans hu)
      rw [hlog, List.mem_append, List.mem_cons] at hspoke
      have hbefore := ((hspoke.resolve_left (hafter u)).resolve_left (by simp))
      have hsilent := (h.warranted after alert before hlog).silent u hbefore
      have hle := hearly u hu hrecent.2 _ ht
      omega
    refine { h with accounted := fun q hq => ?_ }
    refine (h.accounted q hq).imp_left fun hmem => Finset.mem_erase.mpr ⟨?_, hmem⟩
    rintro rfl
    rw [hnone] at hq
    cases hq
  · exact h

/-- An alert is warranted if the record is a minute old and from the present stay, and no alert is
without an utterance after it. -/
lemma warranted_of_record (h : Sound s) {identity : String} {now t : ℕ}
    (hpresent : (stay s.log identity).isSome) (hnow : now ≤ s.clock)
    (hrecord : s.record identity = some t) (hold : t + SILENT_THRESHOLD_MS ≤ now)
    (hfresh : ∀ t₀ ∈ stay s.log identity, t₀ ≤ t) (hnone : alertedSince s.log identity = none)
    {alert : Alert} (hid : alert.participantId = identity) (htime : alert.timestamp = s.clock) :
    Warranted alert s.log := by
  subst hid
  rw [← htime] at hnow
  refine ⟨?_, fun u hu => ?_, fun between earlier older hlog hearlier => ?_⟩
  · obtain ⟨t₀, ht₀⟩ := Option.isSome_iff_exists.mp hpresent
    have hle := hfresh t₀ ht₀
    exact ⟨t₀, ht₀, by omega⟩
  · obtain ⟨last, hlast, hle⟩ := le_lastSpoke h.ordered hu
    have hpos := h.positive _ last hlast
    rw [← h.spoken] at hlast
    -- the record is the last utterance
    rw [Checker.record, hlast, Option.filter_some_pos (by simpa using hpos), Option.some_or,
      Option.some_inj] at hrecord
    omega
  · rw [hlog] at hnone
    exact exists_spoke_of_alertedSince_eq_none hnone hearlier

/-- A check sends a warranted alert, and waits.

**Proof sketch.** The check waits for the message with the participant and the time of the last
utterance that it has read, which accounts for the alert. If there is no room, nothing is sent.
Otherwise the log gets the alert, at the present time, which is warranted by the hypothesis. -/
lemma send (h : Sound s) {round : Round} {p : Participant} {lastSttTime silentDuration : ℕ}
    (hnow : round.now ≤ s.clock)
    (hunreset : lastSttTime = 0 ∨ lastSttTime + SILENT_THRESHOLD_MS ≤ round.now)
    (hwarranted : ∀ alert : Alert, alert.participantId = p.identity →
      alert.timestamp = s.clock → Warranted alert s.log) :
    Sound { s.sendSilentParticipantAlert p silentDuration with
      running := none
      waiting := s.waiting ++ [⟨round, p.identity, lastSttTime⟩] } := by
  have hbegun : ∀ w ∈ s.waiting ++ [⟨round, p.identity, lastSttTime⟩], w.round.now ≤ s.clock :=
    List.forall_mem_append.mpr ⟨h.begunWaiting, by simpa using hnow⟩
  have hwaiting : ∀ w ∈ s.waiting ++ [⟨round, p.identity, lastSttTime⟩],
      w.lastSttTime = 0 ∨ w.lastSttTime + SILENT_THRESHOLD_MS ≤ w.round.now :=
    List.forall_mem_append.mpr ⟨h.unreset, by simpa using hunreset⟩
  have haccounted (q : String) (hq : (alertedSince s.log q).isSome) : q ∈ s.alreadyAlerted ∨
      ∃ w ∈ s.waiting ++ [⟨round, p.identity, lastSttTime⟩], w.participantId = q :=
    (h.accounted q hq).imp_right fun ⟨w, hw, heq⟩ => ⟨w, List.mem_append_left _ hw, heq⟩
  unfold Checker.sendSilentParticipantAlert
  split
  · exact { h with
      begun := by simp
      begunWaiting := hbegun
      unreset := hwaiting
      accounted := haccounted }
  · obtain ⟨htimes, hordered⟩ := h.ordered_cons (m := .alerted ⟨p.identity,
      if p.name = "" then p.identity else p.name, silentDuration, silentDuration / 60000,
      s.clock⟩) rfl
    refine { h with
      times := htimes
      ordered := hordered
      begun := by simp
      begunWaiting := hbegun
      unreset := hwaiting
      accounted := fun q hq => ?_
      warranted := h.warranted.cons fun alert heq => ?_ }
    · by_cases hid : p.identity = q
      · exact .inr ⟨_, List.mem_append_right _ List.mem_cons_self, hid⟩
      · rw [alertedSince, if_neg hid] at hq
        exact haccounted q hq
    · cases heq
      exact hwarranted _ rfl rfl

/-- A reset takes no time. -/
lemma clock_reset (s : Checker) (now : ℕ) (identity : String) (lastSttTime : ℕ) :
    (s.reset now identity lastSttTime).clock = s.clock := by
  unfold Checker.reset
  split <;> rfl

/-- A check that comes to a participant in time. -/
lemma examine (h : Sound s) {round : Round} {p : Participant} (hp : p ∈ s.remoteParticipants)
    (hnow : round.now ≤ s.clock) (htimely : Timely s round p.identity) :
    Sound (s.examine round p) := by
  unfold Checker.examine
  dsimp only
  have hrecord : (s.see round.now p.identity).referenceTime p.identity round.now +
      SILENT_THRESHOLD_MS ≤ round.now → s.record p.identity =
        some ((s.see round.now p.identity).referenceTime p.identity round.now) := record_eq_some
  rw [see_eq] at hrecord ⊢
  generalize (s.see round.now p.identity).participantJoinTime = joinTimes at hrecord ⊢
  have hseen : Sound { s with participantJoinTime := joinTimes } := { h with }
  split
  · rename_i hsilent
    obtain ⟨hold, hnot⟩ := hsilent
    obtain ⟨hfresh, hidle⟩ := htimely.fresh hnot _ (hrecord hold) hold
    have hnone : alertedSince s.log p.identity = none := by
      by_contra hsome
      rcases h.accounted _ (Option.isSome_iff_ne_none.mpr hsome) with hmem | ⟨w, hw, hid⟩
      · exact hnot hmem
      · exact hidle w hw hid
    refine hseen.send hnow ?_ fun alert hid htime =>
      h.warranted_of_record (h.present p hp) hnow (hrecord hold) hold hfresh hnone hid htime
    refine (Nat.eq_zero_or_pos _).imp_right fun hpos => ?_
    rwa [Checker.referenceTime, if_pos hpos] at hold
  · have hreset := hseen.reset htimely.early
    refine { hreset with begun := fun r hr => ?_ }
    rw [← Option.some_inj.mp hr, clock_reset]
    exact hnow

/-- A check that goes on. -/
lemma visit (h : Sound s) {round : Round} (hrunning : s.running = some round)
    (htimely : ∀ p ∈ s.next round, s.concerns p → Timely s round p.identity) :
    Sound (s.visit round) := by
  have hnow := h.begun round hrunning
  unfold Checker.visit
  split
  · exact { h with begun := by simp }
  · rename_i p hnext
    dsimp only
    split
    · rename_i hconcerns
      have ht := htimely p hnext hconcerns
      exact h.examine (List.mem_of_find?_eq_some hnext) hnow ⟨ht.fresh, ht.early⟩
    · exact { h with begun := fun r hr => by cases hr; exact hnow }

/-- A check that goes on after its alert. -/
lemma published (h : Sound s) {i : ℕ} {w : Waiting} (hw : s.waiting[i]? = some w) :
    Sound ({ s with waiting := s.waiting.eraseIdx i }.resume w) := by
  have hmem := List.mem_of_getElem? hw
  have hnoReset : ¬ (0 < w.lastSttTime ∧ w.round.now < w.lastSttTime + SILENT_THRESHOLD_MS) := by
    have hunreset := h.unreset w hmem
    omega
  unfold Checker.resume Checker.reset
  rw [if_neg hnoReset]
  refine { h with
    begun := fun r hr => ?_
    begunWaiting := fun w' hw' => h.begunWaiting w' (List.mem_of_mem_eraseIdx hw')
    unreset := fun w' hw' => h.unreset w' (List.mem_of_mem_eraseIdx hw')
    accounted := fun q hq => ?_ }
  · cases hr
    exact h.begunWaiting w hmem
  · rcases h.accounted q hq with halerted | ⟨w', hw', rfl⟩
    · exact .inl (Finset.mem_insert_of_mem halerted)
    · obtain ⟨j, hj⟩ := List.getElem?_of_mem hw'
      by_cases hji : j = i
      · rw [hji, hw] at hj
        cases hj
        exact .inl (Finset.mem_insert_self _ _)
      · exact .inr ⟨w', List.mem_eraseIdx_iff_getElem?.mpr ⟨j, hji, hj⟩, rfl⟩

/-- An utterance. -/
lemma utter (h : Sound s) (identity : String) : Sound (s.utter identity) := by
  unfold Checker.utter
  dsimp only
  split
  · exact h
  · rename_i hcooldown
    obtain ⟨htimes, hordered⟩ := h.ordered_cons (m := .spoke identity s.clock) rfl
    refine { h with
      times := htimes
      ordered := hordered
      spoken := fun p => ?_
      positive := fun p t ht => ?_
      accounted := fun p hp => ?_
      warranted := h.warranted.cons fun alert heq => by cases heq }
    · rw [JsMap.get_set, lastSpoke, h.spoken]
    · rw [lastSpoke] at ht
      split at ht
      · cases ht
        exact Nat.pos_of_ne_zero fun hzero => hcooldown (by simp [hzero, STT_COOLDOWN_MS])
      · exact h.positive p t ht
    · rw [alertedSince] at hp
      split at hp
      · cases hp
      · exact h.accounted p hp

/-- A step between the checks.

**Proof sketch.** One case for each kind of event. Time goes on; who joins or leaves is put into the
log and into the list, or out of it; an utterance resets what is known of its speaker; and a message
that has been sent ends the wait of its check. -/
lemma handle (h : Sound s) {e : Event} {s' : Checker} (hstep : s.handle e = some s') :
    Sound s' := by
  cases e with
  | tick ms =>
    cases hstep
    refine { h with
      times := fun m hm => ?_, begun := fun r hr => ?_, begunWaiting := fun w hw => ?_ }
    · exact (h.times m hm).trans (Nat.le_add_right _ _)
    · exact (h.begun r hr).trans (Nat.le_add_right _ _)
    · exact (h.begunWaiting w hw).trans (Nat.le_add_right _ _)
  | joined identity name =>
    simp only [Checker.handle] at hstep
    split at hstep
    · cases hstep
    · cases hstep
      obtain ⟨htimes, hordered⟩ := h.ordered_cons (m := .joined identity s.clock) rfl
      refine { h with
        times := htimes
        ordered := hordered
        present := fun p hp => ?_
        warranted := h.warranted.cons fun alert heq => by cases heq }
      show (if identity = p.identity then some s.clock else stay s.log p.identity).isSome
      split
      · rfl
      · rename_i hne
        refine h.present p ((List.mem_append.mp hp).resolve_right fun hnew => hne ?_)
        rw [List.mem_singleton.mp hnew]
  | left identity =>
    simp only [Checker.handle] at hstep
    split at hstep
    · cases hstep
      obtain ⟨htimes, hordered⟩ := h.ordered_cons (m := .left identity s.clock) rfl
      refine { h with
        times := htimes
        ordered := hordered
        present := fun p hp => ?_
        warranted := h.warranted.cons fun alert heq => by cases heq }
      obtain ⟨hmem, hne⟩ := List.mem_filter.mp hp
      show (if identity = p.identity then none else stay s.log p.identity).isSome
      rw [if_neg (Ne.symm (of_decide_eq_true hne))]
      exact h.present p hmem
    · cases hstep
  | utterance identity =>
    cases hstep
    exact h.utter identity
  | mode hostOnlyMode hostIdentities =>
    cases hstep
    exact { h with }
  | check =>
    cases hstep
    split
    · exact h
    · exact { h with begun := fun r hr => by cases hr; exact le_rfl }
  | published i =>
    obtain ⟨w, hw, rfl⟩ := Option.map_eq_some_iff.mp hstep
    exact h.published hw
  | visit => cases hstep

/-- **A timely step** keeps the records and the past in step. -/
lemma step (h : Sound s) {e : Event} {s' : Checker} (htimely : TimelyStep s e)
    (hstep : s.step e = some s') : Sound s' := by
  unfold Checker.step at hstep
  split at hstep
  · rename_i round hrunning
    cases hstep
    exact h.visit hrunning (htimely round hrunning)
  · cases hstep
  · exact h.handle hstep

end Sound

/-- **Alerts are warranted.** In every run whose checks come to the participants in time, an alert
is sent only to somebody who has been in the room for a minute without speaking, and who has spoken
since the last one. -/
theorem alerts_warranted (start : ℕ) {es : List Event} {s : Checker}
    (htimely : (checker start).AllSteps TimelyStep (checker start).init es)
    (h : (checker start).exec (checker start).init es = some s) : AllWarranted s.log := by
  have hinit : Sound (checker start).init := by
    constructor <;> simp [checker, lastSpoke, alertedSince, AllWarranted]
  exact (EventSystem.exec_invariant (M := checker start)
    (fun _ _ _ hs htimely hstep => Sound.step hs htimely hstep) hinit htimely h).warranted

/-- A participant is seen by a first check. -/
def firstCheck : List Event :=
  [.joined "p" "P", .mode true {"h"}, .check, .visit, .visit]

/-- The participant is silent for a minute, and a check sends an alert. -/
def silentMinute : List Event := firstCheck ++ [.tick 60000, .check, .visit]

/-- An alert that is published before the participant speaks and is silent again. -/
theorem alerts_warranted_spoken :
    let es := silentMinute ++ [.published 0, .visit, .utterance "p", .tick 15000, .check, .visit,
      .visit, .tick 60000, .check, .visit]
    ∃ s, (checker 1000000).exec (checker 1000000).init es = some s ∧ AllWarranted s.log := by
  intro es
  obtain ⟨s, hs⟩ : ∃ s, (checker 1000000).exec (checker 1000000).init es = some s :=
    Option.isSome_iff_exists.mp (by decide +kernel)
  exact ⟨s, hs, alerts_warranted 1000000 (by decide +kernel) hs⟩

/-- **Unwarranted alerts**: for a participant who has just come back, and a second one while the
first one is still being sent. -/
theorem unwarranted_alerts :
    (∃ es s, (checker 1000000).exec (checker 1000000).init es = some s ∧
      ∃ alert before, s.log = .alerted alert :: before ∧ stay before "p" = some alert.timestamp ∧
        ¬ AllWarranted s.log) ∧
    (∃ es s, (checker 1000000).exec (checker 1000000).init es = some s ∧
      ∃ alert earlier before, s.log = .alerted alert :: .alerted earlier :: before ∧
        alert.participantId = earlier.participantId ∧ ¬ AllWarranted s.log) := by
  constructor
  · let es := firstCheck ++ [.tick 30000, .left "p", .tick 40000, .joined "p" "P", .check, .visit]
    obtain ⟨s, hs⟩ : ∃ s, (checker 1000000).exec (checker 1000000).init es = some s :=
      Option.isSome_iff_exists.mp (by decide +kernel)
    have hlog : ((checker 1000000).exec (checker 1000000).init es).map Checker.log =
        some [.alerted ⟨"p", "P", 70000, 1, 1070000⟩, .joined "p" 1070000, .left "p" 1030000,
          .joined "p" 1000000] := by decide +kernel
    rw [hs, Option.map_some, Option.some_inj] at hlog
    refine ⟨es, s, hs, _, _, hlog, by decide, fun h => ?_⟩
    obtain ⟨t, ht, hle⟩ := (h [] _ _ hlog).present
    cases ht
    exact absurd hle (by decide)
  · let es := silentMinute ++ [.tick 15000, .check, .visit]
    obtain ⟨s, hs⟩ : ∃ s, (checker 1000000).exec (checker 1000000).init es = some s :=
      Option.isSome_iff_exists.mp (by decide +kernel)
    have hlog : ((checker 1000000).exec (checker 1000000).init es).map Checker.log =
        some [.alerted ⟨"p", "P", 75000, 1, 1075000⟩, .alerted ⟨"p", "P", 60000, 1, 1060000⟩,
          .joined "p" 1000000] := by decide +kernel
    rw [hs, Option.map_some, Option.some_inj] at hlog
    refine ⟨es, s, hs, _, _, _, hlog, rfl, fun h => ?_⟩
    obtain ⟨t, ht⟩ := (h [] _ _ hlog).unrepeated [] _ _ rfl rfl
    cases ht

end Silence
