import AuraLive.Perplexity.Steps
import Mathlib.Data.List.Nodup

set_option relaxedAutoImplicit false
set_option autoImplicit false

/-!
# The order of the entries of a report

An `ENTROPY_REPORT` has an entry for each of several participants, which are handled one after the
other at one time. An entry changes the cell of its participant in its place and looks at no other
cell, so the order of the entries makes no difference.

## Main definitions

* `Perplexity.StateReport.revise` — what an entry does to the cell of its participant.

## Main results

* `Perplexity.applyReport_eq` — an entry is an update of one cell.
* `Perplexity.entropyReport_order_independent` — the order of the entries makes no difference to
  the cells, the entropy and the propagation, and entries that say nothing are skipped.
-/

namespace Perplexity

open Foundations

section Arithmetic

variable [Rounding]

/-- What an entry does to the cell of its participant. -/
def StateReport.revise (u : StateReport) (now : ℕ) (cell : ParticipantCell) : ParticipantCell :=
  match u.state with
  | none => cell
  | some state =>
    if cell.textProtected now then cell
    else collapseState cell state (u.confidence.getD (7 / 10)) now

omit [Rounding] in
/-- **An entry is an update** of the cell of its participant. -/
lemma applyReport_eq (session : PerplexitySession) (now : ℕ) (u : StateReport) :
    session.applyReport now u =
      { session with
        participants := session.participants.update u.participantId (u.revise now) } := by
  unfold PerplexitySession.applyReport JsMap.update StateReport.revise
  cases hcell : session.participants.get u.participantId with
  | none => rfl
  | some cell =>
    cases hstate : u.state with
    | none => simp [JsMap.set_eq_self _ hcell]
    | some state =>
      cases hprotected : cell.textProtected now with
      | true => simp [JsMap.set_eq_self _ hcell, hprotected]
      | false => simp [PerplexitySession.observe, hprotected]

omit [Rounding] in
/-- Entries for different participants can be exchanged. -/
lemma applyReport_comm (session : PerplexitySession) (now : ℕ) {u v : StateReport}
    (h : u.participantId ≠ v.participantId) :
    (session.applyReport now u).applyReport now v =
      (session.applyReport now v).applyReport now u := by
  simp only [applyReport_eq, JsMap.update_comm session.participants h]

omit [Rounding] in
/-- An entry for an unknown participant, or without a state, changes nothing. -/
lemma applyReport_eq_self {session : PerplexitySession} {u : StateReport} (now : ℕ)
    (h : session.participants.get u.participantId = none ∨ u.state = none) :
    session.applyReport now u = session := by
  unfold PerplexitySession.applyReport
  obtain h | h := h
  · rw [h]
  · rw [h]
    cases session.participants.get u.participantId <;> rfl

omit [Rounding] in
/-- Reports keep the participants. -/
lemma keys_applyReports (session : PerplexitySession) (now : ℕ) (report : List StateReport) :
    (session.applyReports now report).participants.keys = session.participants.keys := by
  induction report generalizing session with
  | nil => rfl
  | cons u report ih =>
    refine (ih (session.applyReport now u)).trans ?_
    rw [applyReport_eq, JsMap.keys_update]

omit [Rounding] in
/-- **The entries of a report** can be permuted. -/
lemma applyReports_perm (session : PerplexitySession) (now : ℕ) {report report' : List StateReport}
    (hdistinct : (report.map (·.participantId)).Nodup) (hperm : report.Perm report') :
    session.applyReports now report = session.applyReports now report' := by
  refine hperm.foldl_eq' (fun u hu v hv session => ?_) session
  by_cases huv : v.participantId = u.participantId
  · rw [List.inj_on_of_nodup_map hdistinct hv hu huv]
  · exact applyReport_comm session now fun h => huv h.symm

omit [Rounding] in
/-- An entry that says nothing can be left out of a report. -/
lemma applyReports_skip (session : PerplexitySession) (now : ℕ) (front back : List StateReport)
    {u : StateReport}
    (h : session.participants.get u.participantId = none ∨ u.state = none) :
    session.applyReports now (front ++ u :: back) = session.applyReports now (front ++ back) := by
  have hskip : (session.applyReports now front).applyReport now u =
      session.applyReports now front := by
    refine applyReport_eq_self now (h.imp_left fun hnone => ?_)
    have hkeys := keys_applyReports session now front
    rw [← Option.not_isSome_iff_eq_none, ← JsMap.mem_keys_iff] at hnone ⊢
    rwa [hkeys]
  unfold PerplexitySession.applyReports at hskip ⊢
  rw [List.foldl_append, List.foldl_append, List.foldl_cons, hskip]

/-- A report up to the propagation. -/
lemma handleEntropyReport_eq (s : PerplexityService) (roomId : RoomId) (now : ℕ)
    (report : List StateReport) :
    s.handleEntropyReport roomId now report =
      match s.sessions.get roomId with
      | none => (s, none)
      | some session =>
        if !session.isActive then (s, none)
        else
          let session := updateSessionEntropy (session.applyReports now report)
          (s.put roomId session, some session) := rfl

/-- **The order of the entries makes no difference.** Two reports with the same entries, which are
for different participants, leave the same cells, the same entropy of the session and its level, and
have the same propagation; an entry for an unknown participant, or without a state, has no effect
wherever it stands. -/
theorem entropyReport_order_independent (s : PerplexityService) (roomId : RoomId) (now : ℕ) :
    (∀ report report' : List StateReport, (report.map (·.participantId)).Nodup →
      report.Perm report' →
      s.handleEntropyReport roomId now report = s.handleEntropyReport roomId now report' ∧
      s.handle ⟨roomId, now, .handleMessage (.entropyReport report)⟩ =
        s.handle ⟨roomId, now, .handleMessage (.entropyReport report')⟩) ∧
    ∀ (front back : List StateReport) (u : StateReport),
      (∀ session ∈ s.sessions.get roomId, session.participants.get u.participantId = none) ∨
        u.state = none →
      s.handleEntropyReport roomId now (front ++ u :: back) =
        s.handleEntropyReport roomId now (front ++ back) ∧
      s.handle ⟨roomId, now, .handleMessage (.entropyReport (front ++ u :: back))⟩ =
        s.handle ⟨roomId, now, .handleMessage (.entropyReport (front ++ back))⟩ := by
  -- the rest of a call depends on what it has taken in
  have hhandle {report report' : List StateReport}
      (h : s.handleEntropyReport roomId now report = s.handleEntropyReport roomId now report') :
      s.handle ⟨roomId, now, .handleMessage (.entropyReport report)⟩ =
        s.handle ⟨roomId, now, .handleMessage (.entropyReport report')⟩ := by
    simp only [PerplexityService.handle, PerplexityService.receive,
      PerplexityService.handleMessage, h]
  refine ⟨fun report report' hdistinct hperm => ?_, fun front back u hu => ?_⟩
  · have hsame : s.handleEntropyReport roomId now report =
        s.handleEntropyReport roomId now report' := by
      simp only [handleEntropyReport_eq, applyReports_perm _ now hdistinct hperm]
    exact ⟨hsame, hhandle hsame⟩
  · have hsame : s.handleEntropyReport roomId now (front ++ u :: back) =
        s.handleEntropyReport roomId now (front ++ back) := by
      rw [handleEntropyReport_eq, handleEntropyReport_eq]
      cases hsession : s.sessions.get roomId with
      | none => rfl
      | some session =>
        have hsilent : session.participants.get u.participantId = none ∨ u.state = none :=
          hu.imp_left fun h => h session hsession
        simp only [applyReports_skip session now front back hsilent]
    exact ⟨hsame, hhandle hsame⟩

end Arithmetic

/-- A session with two participants. -/
def pair : PerplexityService :=
  ((perplexity.init.startSession "r" 1).addParticipant "r" 1 "a" "A").addParticipant "r" 1 "b" "B"

/-- An entry for each of them, in both orders, and one for somebody else. -/
theorem entropyReport_order_independent_pair :
    let a : StateReport := ⟨"a", some .confused, none⟩
    let b : StateReport := ⟨"b", some .understood, some (1 / 2)⟩
    let c : StateReport := ⟨"c", some .confused, none⟩
    pair.handle ⟨"r", 600, .handleMessage (.entropyReport [a, b])⟩ =
        pair.handle ⟨"r", 600, .handleMessage (.entropyReport [b, a])⟩ ∧
      pair.handle ⟨"r", 600, .handleMessage (.entropyReport [a, c, b])⟩ =
        pair.handle ⟨"r", 600, .handleMessage (.entropyReport [a, b])⟩ := by
  intro a b c
  have hunknown : ∀ session ∈ pair.sessions.get "r", session.participants.get "c" = none := by
    have hget : (pair.sessions.get "r").map (·.participants.get "c") = some none := by decide
    intro session hsession
    rw [Option.mem_def.mp hsession] at hget
    exact Option.some.inj hget
  exact ⟨((entropyReport_order_independent pair "r" 600).1 [a, b] [b, a] (by decide)
      (List.Perm.swap b a [])).2,
    ((entropyReport_order_independent pair "r" 600).2 [a] [b] c (.inl hunknown)).2⟩

end Perplexity
