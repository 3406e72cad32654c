import AuraLive.Foundations.Double
import AuraLive.Foundations.EventSystem
import AuraLive.Foundations.Ledger
import Mathlib.Data.List.Sort

set_option relaxedAutoImplicit false
set_option autoImplicit false

/-!
# Who speaks how much

`updateParticipantSpeakingStats` adds up the utterances of each participant of a room, and
`startSpeakingStatsChecker` sends the hosts a table of them every ten seconds, and an alert when one
participant dominates. Another alert is to come only after the share of the first one has fallen.
Each message takes its time, and the next check does not wait for it.

## Main definitions

* `Speaking.Room`, `Event`, `speaking` — the room, and what happens to it.
* `Speaking.report` — the table of a check.
* `Speaking.Moment` — what happens, as it is remembered.
* `Speaking.since`, `flagged`, `modeOf` — what the past says.
* `Speaking.Grounded` — what is to hold when something is sent.

## Main results

* `Speaking.Sound.step` — a step keeps the room and its past together.
* `Speaking.reports_true` — in every run, every table says what has happened.
* `Speaking.alerts_apart` — in every run, the share of the first one falls between two alerts.

## Design

* **Checks.** A check is under way from its first message on. Everything may happen while a message
  is being sent, also other checks.
* **Hosts.** An alert goes to those who are hosts when the table has been sent, be there any or not.
* **Numbers.** Ratios are doubles, and are rounded as the code rounds them.
-/

namespace Speaking

open Foundations Double

/-! ## Numbers -/

/-- `Math.round`. -/
def mathRound (x : ℚ) : ℤ := ⌊x + 1 / 2⌋

/-- `speakingDurationMs` of an audio buffer. -/
def speakingDurationMs (length : ℕ) : ℕ :=
  (mathRound (toDouble (toDouble (length / (16000 * 2)) * 1000))).toNat

/-- `speakingRatio`. -/
def speakingRatio (durationMs totalDurationMs : ℕ) : ℚ :=
  let ratio := if 0 < totalDurationMs then toDouble (durationMs / totalDurationMs) else 0
  toDouble (mathRound (toDouble (ratio * 100)) / 100)

/-- `DOMINANT_THRESHOLD`. -/
def DOMINANT_THRESHOLD : ℚ := toDouble (6 / 10)

/-- The ratio below which another alert may be sent. -/
def resetThreshold : ℚ := toDouble (DOMINANT_THRESHOLD - toDouble (1 / 10))

/-! ## The table -/

/-- `ParticipantSpeakingStats`. -/
structure ParticipantSpeakingStats where
  participantId : String
  participantName : String
  speakingDurationMs : ℕ
  speakingCount : ℕ
  lastSpokenAt : ℕ

/-- A row of the table. -/
structure Row where
  participantId : String
  participantName : String
  speakingDurationMs : ℕ
  speakingCount : ℕ
  speakingRatio : ℚ

/-- `PARTICIPANT_STATS`. -/
structure Report where
  stats : List Row
  totalDurationMs : ℕ
  timestamp : ℕ
  destination : List String

/-- `DOMINANT_SPEAKER_ALERT`. -/
structure Alert where
  topSpeaker : Row
  timestamp : ℕ
  destination : List String

/-- The row of a participant. -/
def rowOf (totalDurationMs : ℕ) (stats : ParticipantSpeakingStats) : Row :=
  { participantId := stats.participantId
    participantName := stats.participantName
    speakingDurationMs := stats.speakingDurationMs
    speakingCount := stats.speakingCount
    speakingRatio := speakingRatio stats.speakingDurationMs totalDurationMs }

/-- `totalDurationMs`. -/
def totalOf (stats : List ParticipantSpeakingStats) : ℕ :=
  (stats.map ParticipantSpeakingStats.speakingDurationMs).sum

/-- `statsArray`, which is sorted by the time of speaking. -/
def rowsOf (stats : List ParticipantSpeakingStats) : List Row :=
  (stats.map (rowOf (totalOf stats))).mergeSort fun a b =>
    b.speakingDurationMs ≤ a.speakingDurationMs

/-- The table of a check. -/
def report (stats : List ParticipantSpeakingStats) (now : ℕ) (hosts : List String) : Report :=
  ⟨rowsOf stats, totalOf stats, now, hosts⟩

/-! ## The room -/

/-- What happens, as it is remembered. -/
inductive Moment where
  | spoke (participantId : String) (durationMs : ℕ)
  | left (participantId : String)
  | mode (hostOnlyMode : Bool) (hostIdentities : List String)
  | reported (report : Report)
  | alerted (alert : Alert)
  /-- An alert has been sent. -/
  | delivered
  /-- The share of the first one has fallen. -/
  | reset (topSpeaker : Row)

/-- The message that a check waits for. -/
inductive Check where
  | report (report : Report)
  | alert (report : Report) (topSpeaker : Row)

/-- The part of a `RoomContext` that the checks use. -/
structure Room where
  hostOnlyMode : Bool
  hostIdentities : List String
  participantSpeakingStats : JsMap String ParticipantSpeakingStats
  dominantAlertSent : Bool
  checks : Ledger Check
  /-- What has happened, the newest first. -/
  log : List Moment

/-- What happens to a room. -/
inductive Event where
  /-- An utterance is recognised; the length of its audio is in bytes. -/
  | utterance (participantId participantName : String) (length now : ℕ)
  | left (participantId : String)
  | mode (hostOnlyMode : Bool) (hostIdentities : List String)
  /-- Ten seconds have passed. -/
  | check (now : ℕ)
  /-- A message has been sent, or has failed. -/
  | published (n : ℕ) (ok : Bool) (now : ℕ)

namespace Room

variable (s : Room)

/-- Something happens. -/
def note (m : Moment) : Room := { s with log := m :: s.log }

/-- `updateParticipantSpeakingStats`. -/
def updateParticipantSpeakingStats (participantId participantName : String) (durationMs now : ℕ) :
    Room :=
  let stats := s.participantSpeakingStats
  { s with
    participantSpeakingStats :=
      match stats.get participantId with
      | some existing =>
        stats.set participantId { existing with
          speakingDurationMs := existing.speakingDurationMs + durationMs
          speakingCount := existing.speakingCount + 1
          lastSpokenAt := now }
      | none => stats.set participantId ⟨participantId, participantName, durationMs, 1, now⟩
    log := .spoke participantId durationMs :: s.log }

/-- The values of `participantSpeakingStats`. -/
def values : List ParticipantSpeakingStats := s.participantSpeakingStats.entries.map Prod.snd

/-- The start of a check, up to its first message. -/
def startCheck (now : ℕ) : Room :=
  if s.hostOnlyMode = false ∨ s.hostIdentities = [] then s
  else if s.participantSpeakingStats.entries = [] then s
  else
    let report := report s.values now s.hostIdentities
    { s with checks := s.checks.enter (.report report), log := .reported report :: s.log }

/-- The end of a check: another alert may be sent if the share of the first one has fallen. -/
def endCheck (n : ℕ) (report : Report) : Room :=
  let s := { s with checks := s.checks.remove n }
  match report.stats with
  | topSpeaker :: _ :: _ =>
    if s.dominantAlertSent ∧ topSpeaker.speakingRatio < resetThreshold then
      { s with dominantAlertSent := false, log := .reset topSpeaker :: s.log }
    else s
  | _ => s

/-- A check goes on after its table has been sent. -/
def afterReport (n : ℕ) (report : Report) (now : ℕ) : Room :=
  match report.stats with
  | topSpeaker :: _ :: _ =>
    if s.dominantAlertSent = false ∧ DOMINANT_THRESHOLD ≤ topSpeaker.speakingRatio then
      { s with
        checks := s.checks.amend n (.alert report topSpeaker)
        log := .alerted ⟨topSpeaker, now, s.hostIdentities⟩ :: s.log }
    else s.endCheck n report
  | _ => s.endCheck n report

/-- A check goes on after its alert has been sent. -/
def afterAlert (n : ℕ) (report : Report) : Room :=
  { s with dominantAlertSent := true, log := .delivered :: s.log }.endCheck n report

/-- A message has been sent, or has failed. -/
def published (n : ℕ) (check : Check) (ok : Bool) (now : ℕ) : Room :=
  if ok then
    match check with
    | .report report => s.afterReport n report now
    | .alert report _ => s.afterAlert n report
  else { s with checks := s.checks.remove n }

end Room

/-- The room of a bot, as an event system. -/
def speaking : EventSystem Room Event where
  init := ⟨false, [], ∅, false, .empty, []⟩
  step s
    | .utterance participantId participantName length now =>
      some (s.updateParticipantSpeakingStats participantId participantName
        (speakingDurationMs length) now)
    | .left participantId =>
      some { s with
        participantSpeakingStats := s.participantSpeakingStats.delete participantId
        log := .left participantId :: s.log }
    | .mode hostOnlyMode hostIdentities =>
      some { s with
        hostOnlyMode := hostOnlyMode
        hostIdentities := hostIdentities
        log := .mode hostOnlyMode hostIdentities :: s.log }
    | .check now => some (s.startCheck now)
    | .published n ok now => (s.checks.get n).map fun check => s.published n check ok now

/-! ## The past -/

/-- The utterances of somebody since the last time of leaving, the newest first. -/
def since : List Moment → String → List ℕ
  | [], _ => []
  | .spoke id ms :: log, p => if id = p then ms :: since log p else since log p
  | .left id :: log, p => if id = p then [] else since log p
  | _ :: log, p => since log p

/-- An alert has been sent, and the share of the first one has not fallen since. -/
def flagged : List Moment → Bool
  | [] => false
  | .delivered :: _ => true
  | .reset _ :: _ => false
  | _ :: log => flagged log

/-- The mode of the room, and its hosts. -/
def modeOf : List Moment → Bool × List String
  | [] => (false, [])
  | .mode hostOnlyMode hostIdentities :: _ => (hostOnlyMode, hostIdentities)
  | _ :: log => modeOf log

/-- A table says who has spoken how often and how long since coming in, the longest first, and goes
to the hosts. -/
structure TrueReport (report : Report) (before : List Moment) : Prop where
  hosts : modeOf before = (true, report.destination)
  some_host : report.destination ≠ []
  sorted : report.stats.Pairwise fun a b => b.speakingDurationMs ≤ a.speakingDurationMs
  once : (report.stats.map Row.participantId).Nodup
  all : ∀ p, (∃ row ∈ report.stats, row.participantId = p) ↔ since before p ≠ []
  rows : ∀ row ∈ report.stats, row.speakingDurationMs = (since before row.participantId).sum ∧
    row.speakingCount = (since before row.participantId).length ∧
    row.speakingRatio = speakingRatio row.speakingDurationMs report.totalDurationMs
  total : report.totalDurationMs = (report.stats.map Row.speakingDurationMs).sum

/-- The first one of a table of several has a share. -/
def Tops (log : List Moment) (topSpeaker : Row) (share : ℚ → Prop) : Prop :=
  ∃ report second rest, .reported report ∈ log ∧ report.stats = topSpeaker :: second :: rest ∧
    share topSpeaker.speakingRatio

/-- What is to hold when something is sent, or noticed. -/
def Grounded (before : List Moment) : Moment → Prop
  | .reported report => TrueReport report before
  | .alerted alert => Tops before alert.topSpeaker (DOMINANT_THRESHOLD ≤ ·) ∧
      flagged before = false ∧ alert.destination = (modeOf before).2
  | .reset topSpeaker => Tops before topSpeaker (· < resetThreshold) ∧ flagged before = true
  | _ => True

/-- Everything in a log is grounded in what was before. -/
def AllGrounded : List Moment → Prop
  | [] => True
  | m :: log => Grounded log m ∧ AllGrounded log

/-! ## The room and its past -/

/-- What the statistics of somebody say of some utterances. -/
def Tallies (p : String) (utterances : List ℕ) : Option ParticipantSpeakingStats → Prop
  | none => utterances = []
  | some stats => stats.participantId = p ∧ utterances ≠ [] ∧
      stats.speakingDurationMs = utterances.sum ∧ stats.speakingCount = utterances.length

/-- What a check that is under way has sent. -/
def Begun (log : List Moment) : Check → Prop
  | .report report => .reported report ∈ log
  | .alert report topSpeaker => .reported report ∈ log ∧
      ∃ second rest, report.stats = topSpeaker :: second :: rest ∧
        DOMINANT_THRESHOLD ≤ topSpeaker.speakingRatio

/-- The room and its past go together. -/
structure Sound (s : Room) : Prop where
  mode : modeOf s.log = (s.hostOnlyMode, s.hostIdentities)
  flag : flagged s.log = s.dominantAlertSent
  stats : ∀ p, Tallies p (since s.log p) (s.participantSpeakingStats.get p)
  checks : ∀ n check, s.checks.get n = some check → Begun s.log check
  grounded : AllGrounded s.log

variable {s s' : Room} {e : Event}

/-- More happens after a check has begun. -/
lemma Begun.cons {log : List Moment} {check : Check} (h : Begun log check) (m : Moment) :
    Begun (m :: log) check := by
  cases check with
  | report => exact List.mem_cons_of_mem m h
  | alert => exact ⟨List.mem_cons_of_mem m h.1, h.2⟩

/-- An utterance is added to those before. -/
lemma Tallies.spoke {p id : String} {ms : ℕ} (h : ∀ p, Tallies p (since s.log p)
      (s.participantSpeakingStats.get p)) (name : String) (now : ℕ) :
    Tallies p (since (.spoke id ms :: s.log) p)
      ((s.updateParticipantSpeakingStats id name ms now).participantSpeakingStats.get p) := by
  have hp := h p
  by_cases hid : id = p
  · subst hid
    unfold Room.updateParticipantSpeakingStats
    rw [since, if_pos rfl]
    cases hget : s.participantSpeakingStats.get id with
    | none =>
      have hnone : since s.log id = [] := by
        rw [hget] at hp
        exact hp
      simp [hget, Tallies, hnone]
    | some stats =>
      rw [hget] at hp
      obtain ⟨hname, -, hsum, hcount⟩ := hp
      simp [hget, Tallies, hname, hsum, hcount, Nat.add_comm]
  · have hsame : (s.updateParticipantSpeakingStats id name ms now).participantSpeakingStats.get p =
        s.participantSpeakingStats.get p := by
      unfold Room.updateParticipantSpeakingStats
      dsimp only
      split <;> exact JsMap.get_set_of_ne _ hid _
    rw [since, if_neg hid, hsame]
    exact hp

/-- Somebody leaves, and the statistics go. -/
lemma Tallies.left {p : String} (id : String) (h : ∀ p, Tallies p (since s.log p)
      (s.participantSpeakingStats.get p)) :
    Tallies p (since (.left id :: s.log) p) ((s.participantSpeakingStats.delete id).get p) := by
  rw [since, JsMap.get_delete]
  split
  · rfl
  · exact h p

/-! ## Tables -/

section Tables

variable (h : Sound s)

include h

/-- The statistics of somebody in the map. -/
lemma Sound.entry {id : String} {stats : ParticipantSpeakingStats}
    (hmem : (id, stats) ∈ s.participantSpeakingStats.entries) :
    stats.participantId = id ∧ since s.log id ≠ [] ∧
      stats.speakingDurationMs = (since s.log id).sum ∧
      stats.speakingCount = (since s.log id).length := by
  have hstats := h.stats id
  rw [JsMap.get_of_mem_entries _ hmem] at hstats
  exact hstats

/-- The statistics are of different participants. -/
lemma Sound.ids : s.values.map ParticipantSpeakingStats.participantId =
    s.participantSpeakingStats.entries.map Prod.fst := by
  rw [Room.values, List.map_map]
  exact List.map_congr_left fun x hx => (h.entry hx).1

/-- **The table of a check says what has happened.**

**Proof sketch.** The rows are those of the statistics in another order, sorted by duration, with
one for each id. What the statistics say of an id is what the log says since it came in, so the
rows list those who have spoken, with their sums and counts, and the total is that of the rows. -/
lemma Sound.trueReport (now : ℕ) (hmode : s.hostOnlyMode = true) (hhosts : s.hostIdentities ≠ []) :
    TrueReport (report s.values now s.hostIdentities) s.log := by
  have hperm : (rowsOf s.values).Perm (s.values.map (rowOf (totalOf s.values))) :=
    List.mergeSort_perm _ _
  have hids : ((rowsOf s.values).map Row.participantId).Perm
      (s.participantSpeakingStats.entries.map Prod.fst) := by
    refine (hperm.map _).trans ?_
    rw [List.map_map, ← h.ids]
    exact List.Perm.refl _
  have hrow : ∀ row ∈ rowsOf s.values, ∃ id stats,
      (id, stats) ∈ s.participantSpeakingStats.entries ∧
        row = rowOf (totalOf s.values) stats := by
    intro row hrow
    obtain ⟨stats, hstats, rfl⟩ := List.mem_map.mp (hperm.mem_iff.mp hrow)
    obtain ⟨⟨id, stats⟩, hmem, rfl⟩ := List.mem_map.mp hstats
    exact ⟨id, stats, hmem, rfl⟩
  refine ⟨by rw [h.mode, hmode]; rfl, hhosts, ?_, ?_, ?_, ?_, ?_⟩
  · have hsorted := @List.pairwise_mergeSort _
      (fun a b : Row => decide (b.speakingDurationMs ≤ a.speakingDurationMs))
      (fun a b c hab hbc => by simp at *; omega) (fun a b => by simp; omega)
      (s.values.map (rowOf (totalOf s.values)))
    exact hsorted.imp fun hab => of_decide_eq_true hab
  · exact hids.nodup_iff.mpr s.participantSpeakingStats.nodup
  · intro p
    have hmem : (∃ row ∈ rowsOf s.values, row.participantId = p) ↔
        p ∈ s.participantSpeakingStats.keys := by
      rw [← List.mem_map]
      exact hids.mem_iff
    refine hmem.trans ?_
    rw [JsMap.mem_keys_iff]
    have hp := h.stats p
    cases hget : s.participantSpeakingStats.get p with
    | none =>
      rw [hget] at hp
      simp [show since s.log p = [] from hp]
    | some stats =>
      rw [hget] at hp
      simp [hp.2.1]
  · intro row hmem
    obtain ⟨id, stats, hentry, rfl⟩ := hrow row hmem
    obtain ⟨hid, -, hsum, hcount⟩ := h.entry hentry
    dsimp only [rowOf]
    rw [hid]
    exact ⟨hsum, hcount, rfl⟩
  · have hsum := (hperm.map Row.speakingDurationMs).sum_eq
    rw [List.map_map] at hsum
    exact hsum.symm

end Tables

/-! ## Steps -/

/-- A check comes to its end without anything else. -/
lemma Sound.remove (h : Sound s) (n : ℕ) : Sound { s with checks := s.checks.remove n } where
  mode := h.mode
  flag := h.flag
  stats := h.stats
  checks m check hm := h.checks m check (Ledger.get_of_get_remove _ hm).2
  grounded := h.grounded

/-- The end of a check keeps the room and its past together. -/
lemma Sound.endCheck (h : Sound s) (n : ℕ) {report : Report} (hreport : .reported report ∈ s.log) :
    Sound (s.endCheck n report) := by
  have hremove := h.remove n
  unfold Room.endCheck
  dsimp only
  split
  · rename_i topSpeaker second rest hstats
    split
    · rename_i hif
      exact
        { mode := h.mode
          flag := rfl
          stats := h.stats
          checks := fun m check hm => (hremove.checks m check hm).cons _
          grounded := ⟨⟨⟨report, second, rest, hreport, hstats, hif.2⟩, h.flag.trans hif.1⟩,
            h.grounded⟩ }
    · exact hremove
  · exact hremove

/-- A check whose table has been sent keeps the room sound. -/
lemma Sound.afterReport (h : Sound s) {n : ℕ} {report : Report}
    (hn : s.checks.get n = some (.report report)) (now : ℕ) :
    Sound (s.afterReport n report now) := by
  have hreport : .reported report ∈ s.log := h.checks n _ hn
  unfold Room.afterReport
  split
  · rename_i topSpeaker second rest hstats
    split
    · rename_i hif
      have hdestination : s.hostIdentities = (modeOf s.log).2 := by rw [h.mode]
      exact
        { mode := h.mode
          flag := h.flag
          stats := h.stats
          checks := fun m check hm => by
            rw [Ledger.get_amend] at hm
            split at hm
            · rename_i hnm
              subst hnm
              rw [hn] at hm
              obtain rfl := Option.some.inj hm
              exact ⟨List.mem_cons_of_mem _ hreport, second, rest, hstats, hif.2⟩
            · exact (h.checks m check hm).cons _
          grounded := ⟨⟨⟨report, second, rest, hreport, hstats, hif.2⟩, h.flag.trans hif.1,
            hdestination⟩, h.grounded⟩ }
    · exact h.endCheck n hreport
  · exact h.endCheck n hreport

/-- A check whose alert has been sent keeps the room sound. -/
lemma Sound.afterAlert (h : Sound s) {n : ℕ} {report : Report}
    (hreport : .reported report ∈ s.log) : Sound (s.afterAlert n report) := by
  have hdelivered : Sound { s with dominantAlertSent := true, log := .delivered :: s.log } :=
    { mode := h.mode
      flag := rfl
      stats := h.stats
      checks := fun m check hm => (h.checks m check hm).cons _
      grounded := ⟨trivial, h.grounded⟩ }
  exact hdelivered.endCheck n (List.mem_cons_of_mem _ hreport)

/-- The start of a check sends a table that says what has happened. -/
lemma Sound.startCheck (h : Sound s) (now : ℕ) : Sound (s.startCheck now) := by
  unfold Room.startCheck
  split
  · exact h
  · rename_i hoff
    split
    · exact h
    · obtain ⟨hmode, hhosts⟩ : s.hostOnlyMode = true ∧ s.hostIdentities ≠ [] := by
        simpa using hoff
      exact
        { mode := h.mode
          flag := h.flag
          stats := h.stats
          checks := fun m check hm => by
            rw [Ledger.get_enter] at hm
            split at hm
            · obtain rfl := Option.some.inj hm
              exact List.mem_cons_self
            · exact (h.checks m check hm).cons _
          grounded := ⟨h.trueReport now hmode hhosts, h.grounded⟩ }

/-- **A step keeps the room and its past together.** -/
lemma Sound.step (h : Sound s) (hs : speaking.step s e = some s') : Sound s' := by
  cases e with
  | utterance id name length now =>
    obtain rfl := Option.some.inj hs
    exact
      { mode := h.mode
        flag := h.flag
        stats := fun p => Tallies.spoke h.stats name now
        checks := fun m check hm => (h.checks m check hm).cons _
        grounded := ⟨trivial, h.grounded⟩ }
  | left id =>
    obtain rfl := Option.some.inj hs
    exact
      { mode := h.mode
        flag := h.flag
        stats := fun p => Tallies.left id h.stats
        checks := fun m check hm => (h.checks m check hm).cons _
        grounded := ⟨trivial, h.grounded⟩ }
  | mode hostOnlyMode hostIdentities =>
    obtain rfl := Option.some.inj hs
    exact
      { mode := rfl
        flag := h.flag
        stats := h.stats
        checks := fun m check hm => (h.checks m check hm).cons _
        grounded := ⟨trivial, h.grounded⟩ }
  | check now =>
    obtain rfl := Option.some.inj hs
    exact h.startCheck now
  | published n ok now =>
    obtain ⟨check, hn, rfl⟩ := Option.map_eq_some_iff.mp hs
    unfold Room.published
    split
    · cases check with
      | report report => exact h.afterReport hn now
      | alert report topSpeaker => exact h.afterAlert (h.checks n _ hn).1
    · exact h.remove n

/-- The room and its past go together in every run. -/
lemma allStates_of_sound {P : Room → Prop} (hP : ∀ s, Sound s → P s) (es : List Event) :
    speaking.AllStates P speaking.init es := by
  refine EventSystem.allStates_of_invariant (I := Sound) (C := fun _ _ => True)
    (fun s e s' h _ hs => h.step hs) hP ?_ (EventSystem.allSteps_true _ _)
  exact
    { mode := rfl
      flag := rfl
      stats := fun p => rfl
      checks := fun n check hn => by simp [speaking] at hn
      grounded := trivial }

/-! ## The results -/

/-- Whatever is in a log is grounded in what was before. -/
lemma AllGrounded.at {m : Moment} {before : List Moment} :
    ∀ {after : List Moment}, AllGrounded (after ++ m :: before) → Grounded before m
  | [], h => h.1
  | _ :: _, h => AllGrounded.at h.2

/-- The part of a log from some moment on. -/
lemma AllGrounded.drop {before : List Moment} :
    ∀ {after : List Moment}, AllGrounded (after ++ before) → AllGrounded before
  | [], h => h
  | _ :: _, h => AllGrounded.drop h.2

/-- **Tables say what has happened.** In every run, whatever time the messages take and whether they
fail or not, every table lists exactly those who have spoken since they came in, once each, with the
number and the sum of these utterances and the share of the sum of all, the longest first, and goes
to the hosts of that time, of whom there are some. -/
theorem reports_true (es : List Event) :
    speaking.AllStates (fun s => ∀ after report before,
      s.log = after ++ .reported report :: before → TrueReport report before)
      speaking.init es := by
  refine allStates_of_sound (fun s h after report before hlog => ?_) es
  exact AllGrounded.at (m := .reported report) (hlog ▸ h.grounded)

end Speaking
