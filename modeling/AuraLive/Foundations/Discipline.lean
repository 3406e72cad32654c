import AuraLive.Foundations.Async
import Mathlib.Data.List.Nodup
import Mathlib.Data.Set.Insert

set_option relaxedAutoImplicit false
set_option autoImplicit false

/-!
# Disciplines of asynchronous programs

An invariant of many tasks that share a state speaks about where each task is and what it still has
to do. A *discipline* gives every task a phase: what the task may do in a phase, and which phase it
is in afterwards. That the code follows the discipline is shown once, program by program
(`Discipline.Obeys`, by structural recursion, with rules for the combinators). An invariant is then
proved against the phases alone, without the code (`Discipline.Certificate`).

## Main definitions

* `Foundations.Seat`, `Foundations.Member` — a suspended task without its code, and with its phase.
* `Foundations.Discipline` — phases and what a task may do in them.
* `Foundations.Discipline.Obeys` — a program follows the discipline from a phase on.
* `Foundations.Guards` — conditions on the steps of a run.
* `Foundations.Discipline.Certificate` — an invariant of the tasks and of the running task, with
  what has to be shown for it.

## Main results

* `Foundations.Discipline.obeys_onExit` — the rule behind those for `>>=`, `tryCatch` and
  `andFinally`.
* `Foundations.Discipline.Certificate.invariant` — a certified invariant holds after every run
  whose steps meet the guards.
* `Foundations.Discipline.Certificate.both`, `and` — certificates for two invariants.
* `Foundations.Discipline.Certificate.trace` — every action performed in such a run is performed in
  a state and a phase of the certificate.

## Design

* **Interference.** A program knows nothing about the shared state after a suspension, so `Obeys`
  quantifies over it there. Between two suspensions the state is known.
* **Angelic phases.** `Move` and `Wait` are relations: where the next phase is not determined by the
  action, the proof that the code obeys chooses it.
-/

namespace Foundations

/-- What can be seen of a suspended task: its number, its flow and the call it waits for. -/
structure Seat (ω Φ : Type) where
  id : ℕ
  flow : Φ
  op : ω

/-- A task with its phase; the running task waits for no call. -/
structure Member (ω Φ P : Type) where
  id : ℕ
  flow : Φ
  op : Option ω
  phase : P

/-- The seat of a task. -/
@[reducible] def Task.seat {σ A ω : Type} {Reply : ω → Type} {Φ : Type} (t : Task σ A ω Reply Φ) :
    Seat ω Φ :=
  ⟨t.id, t.flow, t.op⟩

variable {τ σ A ω : Type} {Reply : ω → Type} {Φ : Type}

/-- The seats of the tasks of a pool other than the given one. -/
def Pool.others (pool : Pool σ A ω Reply Φ) (id : ℕ) : List (Seat ω Φ) :=
  (pool.tasks.filter fun t => t.id ≠ id).map Task.seat

/-- Phases, the phase a flow starts in, which actions a task in a phase may perform, where it may
wait and where it may end. -/
structure Discipline (R : Runtime τ σ A ω Reply Φ) where
  Phase : Type
  /-- The phase of a flow that has just been called. -/
  start : ℕ → Φ → Phase
  /-- In a phase and a state an action may be performed, and leads to the second phase. -/
  Move : A → Phase → σ → Phase → Prop
  /-- In a phase and a state a call may be awaited; the second phase is that of the waiting task. -/
  Wait : ω → Phase → σ → Phase → Prop
  /-- The phase after the awaited call has ended. -/
  resume : (op : ω) → Except String (Reply op) → Phase → Phase
  /-- In a phase and a state a flow may end. -/
  Exit : Phase → σ → Prop

namespace Discipline

variable {R : Runtime τ σ A ω Reply Φ} {D : Discipline R} {α β : Type}

/-- The program follows the discipline from a phase and a state on, and whenever it ends, its
result, phase and state satisfy `Q`. -/
def Obeys (D : Discipline R) : Async σ A ω Reply α → D.Phase → σ →
    (Except String α → D.Phase → σ → Prop) → Prop
  | .ret a, φ, s, Q => Q (.ok a) φ s
  | .throw message, φ, s, Q => Q (.error message) φ s
  | .read next, φ, s, Q => D.Obeys (next s) φ s Q
  | .act a next, φ, s, Q => ∃ φ', D.Move a φ s φ' ∧ D.Obeys next φ' (R.apply a s) Q
  | .suspend op next, φ, s, Q =>
    ∃ φ', D.Wait op φ s φ' ∧ ∀ reply s', D.Obeys (next reply) (D.resume op reply φ') s' Q

/-! ## Rules -/

/-- A program followed by another one: the second starts where the first ends.

**Proof sketch.** Induction on the first program; every constructor commutes with `onExit`. -/
theorem obeys_onExit {p : Async σ A ω Reply α} {g : Except String α → Async σ A ω Reply β}
    {φ : D.Phase} {s : σ} {Q : Except String β → D.Phase → σ → Prop} :
    D.Obeys (p.onExit g) φ s Q ↔ D.Obeys p φ s fun r φ s => D.Obeys (g r) φ s Q := by
  induction p generalizing φ s with
  | ret a => exact Iff.rfl
  | throw message => exact Iff.rfl
  | read next ih => exact ih s
  | act a next ih => exact exists_congr fun φ' => and_congr_right fun _ => ih
  | suspend op next ih =>
    exact exists_congr fun φ' => and_congr_right fun _ =>
      forall_congr' fun reply => forall_congr' fun s' => ih reply

/-- A weaker condition on the end. -/
theorem Obeys.mono {p : Async σ A ω Reply α} {φ : D.Phase} {s : σ}
    {Q Q' : Except String α → D.Phase → σ → Prop} (h : D.Obeys p φ s Q)
    (hQ : ∀ r φ s, Q r φ s → Q' r φ s) : D.Obeys p φ s Q' := by
  induction p generalizing φ s with
  | ret a => exact hQ _ _ _ h
  | throw message => exact hQ _ _ _ h
  | read next ih => exact ih s h
  | act a next ih =>
    obtain ⟨φ', hm, h⟩ := h
    exact ⟨φ', hm, ih h⟩
  | suspend op next ih =>
    obtain ⟨φ', hw, h⟩ := h
    exact ⟨φ', hw, fun reply s' => ih reply (h reply s')⟩

section Rules

variable {φ : D.Phase} {s : σ} {Q : Except String α → D.Phase → σ → Prop}

@[simp] lemma obeys_pure {a : α} : D.Obeys (pure a) φ s Q ↔ Q (.ok a) φ s := Iff.rfl

@[simp] lemma obeys_throw {message : String} :
    D.Obeys (.throw message) φ s Q ↔ Q (.error message) φ s := Iff.rfl

@[simp] lemma obeys_bind {p : Async σ A ω Reply β} {g : β → Async σ A ω Reply α} :
    D.Obeys (p >>= g) φ s Q ↔ D.Obeys p φ s fun r φ s => D.Obeys (Async.onValue g r) φ s Q :=
  obeys_onExit

@[simp] lemma obeys_tryCatch {p : Async σ A ω Reply α} {h : String → Async σ A ω Reply α} :
    D.Obeys (p.tryCatch h) φ s Q ↔ D.Obeys p φ s fun r φ s => D.Obeys (Async.onError h r) φ s Q :=
  obeys_onExit

@[simp] lemma obeys_andFinally {p : Async σ A ω Reply α} {q : Async σ A ω Reply Unit} :
    D.Obeys (p.andFinally q) φ s Q ↔ D.Obeys p φ s fun r φ s =>
      D.Obeys q φ s fun r' φ s => D.Obeys (Async.onValue (fun _ => Async.ofExcept r) r') φ s Q := by
  rw [Async.andFinally, obeys_onExit]
  simp only [obeys_onExit]

@[simp] lemma obeys_ofExcept {r : Except String α} :
    D.Obeys (Async.ofExcept r) φ s Q ↔ Q r φ s := by
  cases r <;> exact Iff.rfl

@[simp] lemma onValue_ok {g : β → Async σ A ω Reply α} {b : β} :
    Async.onValue g (.ok b) = g b := rfl

@[simp] lemma onValue_error {g : β → Async σ A ω Reply α} {message : String} :
    Async.onValue g (.error message) = .throw message := rfl

@[simp] lemma onError_ok {h : String → Async σ A ω Reply α} {a : α} :
    Async.onError h (.ok a) = pure a := rfl

@[simp] lemma onError_error {h : String → Async σ A ω Reply α} {message : String} :
    Async.onError h (.error message) = h message := rfl

end Rules

@[simp] lemma obeys_get {φ : D.Phase} {s : σ} {Q : Except String σ → D.Phase → σ → Prop} :
    D.Obeys Async.get φ s Q ↔ Q (.ok s) φ s := Iff.rfl

@[simp] lemma obeys_perform {a : A} {φ : D.Phase} {s : σ}
    {Q : Except String Unit → D.Phase → σ → Prop} :
    D.Obeys (Async.perform a) φ s Q ↔ ∃ φ', D.Move a φ s φ' ∧ Q (.ok ()) φ' (R.apply a s) :=
  Iff.rfl

@[simp] lemma obeys_await {op : ω} {φ : D.Phase} {s : σ}
    {Q : Except String (Reply op) → D.Phase → σ → Prop} :
    D.Obeys (Async.await op) φ s Q ↔
      ∃ φ', D.Wait op φ s φ' ∧ ∀ reply s', Q reply (D.resume op reply φ') s' := by
  refine exists_congr fun φ' => and_congr_right fun _ => forall_congr' fun reply => ?_
  exact forall_congr' fun s' => obeys_ofExcept

/-! ## Certificates -/

/-- The condition under which a flow may end, as the condition on the end of its code. -/
def Ends (D : Discipline R) : Except String Unit → D.Phase → σ → Prop := fun _ φ s => D.Exit φ s

/-- The code of every flow follows the discipline. -/
def Sound (D : Discipline R) : Prop :=
  ∀ n flow s, R.callable s flow = true → D.Obeys (R.code n flow) (D.start n flow) s D.Ends

end Discipline

/-- Conditions on the steps of a run: on a call, on the end of an awaited call and on an action.
They are told the other tasks. -/
structure Guards (R : Runtime τ σ A ω Reply Φ) where
  call : List (Seat ω Φ) → σ → Φ → Prop
  resume : List (Seat ω Φ) → σ → (seat : Seat ω Φ) → Except String (Reply seat.op) → Prop
  act : List (Seat ω Φ) → ℕ → Φ → σ → A → Prop

namespace Guards

variable {R : Runtime τ σ A ω Reply Φ}

/-- The condition on the start of a turn. -/
def Begins (G : Guards R) (pool : Pool σ A ω Reply Φ) : TaskEvent τ ω Reply Φ → Prop
  | .call stamp flow => G.call (pool.others pool.next) (R.tick stamp pool.shared) flow
  | .resume stamp id replies =>
    ∀ t ∈ pool.tasks, t.id = id →
      G.resume (pool.others id) (R.tick stamp pool.shared) t.seat (replies t.op)

/-- A step meets the conditions. -/
def Holds (G : Guards R) (pool : Pool σ A ω Reply Φ) (e : TaskEvent τ ω Reply Φ) : Prop :=
  G.Begins pool e ∧ ∀ t, R.turn pool e = some t →
    ∀ x ∈ R.trace pool e, G.act (pool.others t.id) t.id t.flow x.1 x.2

section Decidable

variable (G : Guards R) [∀ seats s flow, Decidable (G.call seats s flow)]
  [∀ seats s seat reply, Decidable (G.resume seats s seat reply)]
  [∀ seats i flow s a, Decidable (G.act seats i flow s a)]

instance decidableBegins (pool : Pool σ A ω Reply Φ) :
    ∀ e : TaskEvent τ ω Reply Φ, Decidable (G.Begins pool e)
  | .call stamp flow =>
    inferInstanceAs (Decidable (G.call (pool.others pool.next) (R.tick stamp pool.shared) flow))
  | .resume stamp id replies =>
    inferInstanceAs (Decidable (∀ t ∈ pool.tasks, t.id = id →
      G.resume (pool.others id) (R.tick stamp pool.shared) t.seat (replies t.op)))

instance decidableHolds (pool : Pool σ A ω Reply Φ) (e : TaskEvent τ ω Reply Φ) :
    Decidable (G.Holds pool e) :=
  @instDecidableAnd _ _ (decidableBegins G pool e)
    (match h : R.turn pool e with
      | none => isTrue (by simp)
      | some t =>
        decidable_of_iff (∀ x ∈ R.trace pool e, G.act (pool.others t.id) t.id t.flow x.1 x.2)
          (by simp))

end Decidable

end Guards

/-- The running task and the others: they are numbered apart, and each of the others has a seat. -/
structure Crew {P : Type} (n i : ℕ) (O : Set (Member ω Φ P)) (seats : List (Seat ω Φ)) : Prop where
  bound : i < n
  ne : ∀ x ∈ O, x.id ≠ i
  lt : ∀ x ∈ O, x.id < n
  unique : ∀ x ∈ O, ∀ y ∈ O, x.id = y.id → x = y
  seated : ∀ x ∈ O, ∃ op, x.op = some op ∧ ⟨x.id, x.flow, op⟩ ∈ seats

namespace Discipline

variable {R : Runtime τ σ A ω Reply Φ} {D : Discipline R}

/-- A condition on the number of the next task, the shared state and the tasks with their phases. -/
abbrev Invariant (D : Discipline R) := ℕ → σ → Set (Member ω Φ D.Phase) → Prop

/-- What has to be shown for the invariant `I`, where the invariant `B` is already known. The
running task is the first of the tasks, `O` are the others. -/
structure Certificate (D : Discipline R) (G : Guards R) (B I : D.Invariant) : Prop where
  tick : ∀ {n s L} (stamp : τ), B n s L → I n s L → I n (R.tick stamp s) L
  call : ∀ {n s O seats flow}, Crew (n + 1) n O seats → R.callable s flow = true →
    G.call seats s flow → B n s O → I n s O → I (n + 1) s (insert ⟨n, flow, none, D.start n flow⟩ O)
  resume : ∀ {n s i flow op φ reply O seats}, Crew n i O seats → R.ready s op reply = true →
    G.resume seats s ⟨i, flow, op⟩ reply → B n s (insert ⟨i, flow, some op, φ⟩ O) →
    I n s (insert ⟨i, flow, some op, φ⟩ O) → I n s (insert ⟨i, flow, none, D.resume op reply φ⟩ O)
  act : ∀ {n s i flow φ φ' a O seats}, Crew n i O seats → D.Move a φ s φ' →
    G.act seats i flow s a → B n s (insert ⟨i, flow, none, φ⟩ O) →
    I n s (insert ⟨i, flow, none, φ⟩ O) → I n (R.apply a s) (insert ⟨i, flow, none, φ'⟩ O)
  wait : ∀ {n s i flow φ φ' op O seats}, Crew n i O seats → D.Wait op φ s φ' →
    B n s (insert ⟨i, flow, none, φ⟩ O) → I n s (insert ⟨i, flow, none, φ⟩ O) →
    I n s (insert ⟨i, flow, some op, φ'⟩ O)
  exit : ∀ {n s i flow φ O seats}, Crew n i O seats → D.Exit φ s →
    B n s (insert ⟨i, flow, none, φ⟩ O) → I n s (insert ⟨i, flow, none, φ⟩ O) → I n s O

/-- A task with its phase. -/
def member (D : Discipline R) (phases : ℕ → D.Phase) (t : Task σ A ω Reply Φ) :
    Member ω Φ D.Phase :=
  ⟨t.id, t.flow, some t.op, phases t.id⟩

/-- The tasks with the given phases. -/
def crew (D : Discipline R) (phases : ℕ → D.Phase) (tasks : List (Task σ A ω Reply Φ)) :
    Set (Member ω Φ D.Phase) :=
  {x | ∃ t ∈ tasks, x = D.member phases t}

/-- The tasks of a pool are numbered apart and follow the discipline from their phases on. -/
structure Conforms (D : Discipline R) (pool : Pool σ A ω Reply Φ) (phases : ℕ → D.Phase) :
    Prop where
  nodup : (pool.tasks.map Task.id).Nodup
  fresh : ∀ t ∈ pool.tasks, t.id < pool.next
  obeys : ∀ t ∈ pool.tasks, ∀ reply s,
    D.Obeys (t.next reply) (D.resume t.op reply (phases t.id)) s D.Ends

/-- The tasks without one of them. -/
lemma crew_eq_insert {phases : ℕ → D.Phase} {tasks : List (Task σ A ω Reply Φ)}
    (hnodup : (tasks.map Task.id).Nodup) {t : Task σ A ω Reply Φ} (ht : t ∈ tasks) :
    D.crew phases tasks =
      insert (D.member phases t) (D.crew phases (tasks.filter fun x => x.id ≠ t.id)) := by
  ext x
  simp only [crew, Set.mem_ofPred_eq, Set.mem_insert_iff, List.mem_filter, decide_eq_true_eq]
  constructor
  · rintro ⟨u, hu, rfl⟩
    by_cases hid : u.id = t.id
    · rw [List.inj_on_of_nodup_map hnodup hu ht hid]
      exact .inl rfl
    · exact .inr ⟨u, ⟨hu, hid⟩, rfl⟩
  · rintro (rfl | ⟨u, ⟨hu, -⟩, rfl⟩)
    · exact ⟨t, ht, rfl⟩
    · exact ⟨u, hu, rfl⟩

/-- The phases of the other tasks are not changed by a new phase of the running one. -/
lemma crew_update {phases : ℕ → D.Phase} {tasks : List (Task σ A ω Reply Φ)} {i : ℕ}
    (hi : ∀ t ∈ tasks, t.id ≠ i) (φ : D.Phase) :
    D.crew (Function.update phases i φ) tasks = D.crew phases tasks := by
  ext x
  refine exists_congr fun t => and_congr_right fun ht => ?_
  rw [member, member, Function.update_of_ne (hi t ht)]

/-- A task that has been suspended joins the others. -/
lemma crew_append {phases : ℕ → D.Phase} {tasks : List (Task σ A ω Reply Φ)}
    {t : Task σ A ω Reply Φ} (hi : ∀ u ∈ tasks, u.id ≠ t.id) (φ : D.Phase) :
    D.crew (Function.update phases t.id φ) (tasks ++ [t]) =
      insert ⟨t.id, t.flow, some t.op, φ⟩ (D.crew phases tasks) := by
  rw [← crew_update hi φ]
  ext x
  simp only [crew, Set.mem_ofPred_eq, Set.mem_insert_iff, List.mem_append, List.mem_singleton]
  constructor
  · rintro ⟨u, hu | rfl, rfl⟩
    · exact .inr ⟨u, hu, rfl⟩
    · exact .inl (by simp [member])
  · rintro (rfl | ⟨u, hu, rfl⟩)
    · exact ⟨t, .inr rfl, by simp [member]⟩
    · exact ⟨u, .inl hu, rfl⟩

/-- The tasks of a pool other than the running one form a crew with it. -/
lemma Conforms.crew {pool : Pool σ A ω Reply Φ} {phases : ℕ → D.Phase} (h : D.Conforms pool phases)
    {n i : ℕ} (hi : i < n) (hn : pool.next ≤ n) :
    Crew n i (D.crew phases (pool.tasks.filter fun t => t.id ≠ i)) (pool.others i) where
  bound := hi
  ne := by
    rintro x ⟨t, ht, rfl⟩
    simpa [member] using (List.mem_filter.mp ht).2
  lt := by
    rintro x ⟨t, ht, rfl⟩
    exact Nat.lt_of_lt_of_le (h.fresh t (List.mem_filter.mp ht).1) hn
  unique := by
    rintro x ⟨t, ht, rfl⟩ y ⟨u, hu, rfl⟩ hid
    rw [List.inj_on_of_nodup_map h.nodup (List.mem_filter.mp ht).1 (List.mem_filter.mp hu).1 hid]
  seated := by
    rintro x ⟨t, ht, rfl⟩
    exact ⟨t.op, rfl, List.mem_map.mpr ⟨t, ht, rfl⟩⟩

/-- The task that goes on in an event is the one with its number. -/
lemma Conforms.turn_resume {pool : Pool σ A ω Reply Φ} {phases : ℕ → D.Phase}
    (h : D.Conforms pool phases) {stamp : τ} {replies : (op : ω) → Except String (Reply op)}
    {t : Task σ A ω Reply Φ} (ht : t ∈ pool.tasks) {u : Runtime.Turn σ A ω Reply Φ}
    (hu : R.turn pool (.resume stamp t.id replies) = some u) : u.id = t.id ∧ u.flow = t.flow := by
  simp only [Runtime.turn] at hu
  split at hu
  · cases hu
  · rename_i x hx
    simp only [Option.ite_none_right_eq_some, Option.some.injEq] at hu
    obtain ⟨-, rfl⟩ := hu
    have hid : x.id = t.id := by simpa using List.find?_some hx
    rw [List.inj_on_of_nodup_map h.nodup (List.mem_of_find?_eq_some hx) ht hid]
    exact ⟨rfl, rfl⟩

/-- The certified invariant of a pool. -/
def Holds (I : D.Invariant) (pool : Pool σ A ω Reply Φ) : Prop :=
  ∃ phases, D.Conforms pool phases ∧ I pool.next pool.shared (D.crew phases pool.tasks)

/-- Nothing is known. -/
def anything : D.Invariant := fun _ _ _ => True

/-- Two invariants together. -/
def both (B I : D.Invariant) : D.Invariant := fun n s L => B n s L ∧ I n s L

namespace Certificate

variable {G : Guards R} {B I : D.Invariant}

/-- A certificate that builds on an invariant that needs no guards. -/
theorem both {G' : Guards R} (hB : D.Certificate G' anything B) (hI : D.Certificate G B I)
    (hcall : ∀ seats s flow, G.call seats s flow → G'.call seats s flow)
    (hresume : ∀ seats s seat reply, G.resume seats s seat reply → G'.resume seats s seat reply)
    (hact : ∀ seats i flow s a, G.act seats i flow s a → G'.act seats i flow s a) :
    D.Certificate G anything (D.both B I) where
  tick stamp _ h := ⟨hB.tick stamp trivial h.1, hI.tick stamp h.1 h.2⟩
  call hc hr hg _ h := ⟨hB.call hc hr (hcall _ _ _ hg) trivial h.1, hI.call hc hr hg h.1 h.2⟩
  resume hc hr hg _ h :=
    ⟨hB.resume hc hr (hresume _ _ _ _ hg) trivial h.1, hI.resume hc hr hg h.1 h.2⟩
  act hc hm hg _ h := ⟨hB.act hc hm (hact _ _ _ _ _ hg) trivial h.1, hI.act hc hm hg h.1 h.2⟩
  wait hc hw _ h := ⟨hB.wait hc hw trivial h.1, hI.wait hc hw h.1 h.2⟩
  exit hc he _ h := ⟨hB.exit hc he trivial h.1, hI.exit hc he h.1 h.2⟩

/-- Two certificates with the same guards. -/
theorem and {J : D.Invariant} (hI : D.Certificate G B I) (hJ : D.Certificate G B J) :
    D.Certificate G B (D.both I J) where
  tick stamp hB h := ⟨hI.tick stamp hB h.1, hJ.tick stamp hB h.2⟩
  call hc hr hg hB h := ⟨hI.call hc hr hg hB h.1, hJ.call hc hr hg hB h.2⟩
  resume hc hr hg hB h := ⟨hI.resume hc hr hg hB h.1, hJ.resume hc hr hg hB h.2⟩
  act hc hm hg hB h := ⟨hI.act hc hm hg hB h.1, hJ.act hc hm hg hB h.2⟩
  wait hc hw hB h := ⟨hI.wait hc hw hB h.1, hJ.wait hc hw hB h.2⟩
  exit hc he hB h := ⟨hI.exit hc he hB h.1, hJ.exit hc he hB h.2⟩

/-- An invariant that says the same of every task needs to be looked at for the running one only. -/
theorem of_forall {P : Member ω Φ D.Phase → Prop}
    (hcall : ∀ n flow, P ⟨n, flow, none, D.start n flow⟩)
    (hresume : ∀ i flow op φ reply, P ⟨i, flow, some op, φ⟩ →
      P ⟨i, flow, none, D.resume op reply φ⟩)
    (hact : ∀ i flow φ φ' a s, D.Move a φ s φ' → P ⟨i, flow, none, φ⟩ → P ⟨i, flow, none, φ'⟩)
    (hwait : ∀ i flow φ φ' op s, D.Wait op φ s φ' → P ⟨i, flow, none, φ⟩ →
      P ⟨i, flow, some op, φ'⟩) :
    D.Certificate G B fun _ _ L => ∀ x ∈ L, P x where
  tick _ _ h := h
  call _ _ _ _ h := Set.forall_mem_insert.mpr ⟨hcall _ _, h⟩
  resume _ _ _ _ h := by
    rw [Set.forall_mem_insert] at h ⊢
    exact ⟨hresume _ _ _ _ _ h.1, h.2⟩
  act _ hm _ _ h := by
    rw [Set.forall_mem_insert] at h ⊢
    exact ⟨hact _ _ _ _ _ _ hm h.1, h.2⟩
  wait _ hw _ h := by
    rw [Set.forall_mem_insert] at h ⊢
    exact ⟨hwait _ _ _ _ _ _ hw h.1, h.2⟩
  exit _ _ _ h := (Set.forall_mem_insert.mp h).2

variable (K : D.Certificate G anything I)

include K

/-- What a program that follows the discipline does up to its next suspension: every action is
performed in a phase of the invariant, and the invariant holds when the program waits or has ended.

**Proof sketch.** Induction on the program; an action is one application of `act`. -/
lemma advance {p : Async σ A ω Reply Unit} {n i : ℕ} {flow : Φ} {O : Set (Member ω Φ D.Phase)}
    {seats : List (Seat ω Φ)} (hc : Crew n i O seats) {φ : D.Phase} {s : σ}
    (hrun : I n s (insert ⟨i, flow, none, φ⟩ O)) (hobeys : D.Obeys p φ s D.Ends)
    (hact : ∀ x ∈ (p.advance R.apply s).trace, G.act seats i flow x.1 x.2) :
    (∀ x ∈ (p.advance R.apply s).trace,
      ∃ φ φ', I n x.1 (insert ⟨i, flow, none, φ⟩ O) ∧ D.Move x.2 φ x.1 φ') ∧
    ((∃ r, (p.advance R.apply s).status = .ended r ∧ I n (p.advance R.apply s).state O) ∨
      ∃ op next φ', (p.advance R.apply s).status = .waiting op next ∧
        I n (p.advance R.apply s).state (insert ⟨i, flow, some op, φ'⟩ O) ∧
        ∀ reply s', D.Obeys (next reply) (D.resume op reply φ') s' D.Ends) := by
  induction p generalizing φ s with
  | ret a => exact ⟨by simp [Async.advance], .inl ⟨_, rfl, K.exit hc hobeys trivial hrun⟩⟩
  | throw message => exact ⟨by simp [Async.advance], .inl ⟨_, rfl, K.exit hc hobeys trivial hrun⟩⟩
  | read next ih => exact ih s hrun hobeys hact
  | act a next ih =>
    obtain ⟨φ', hmove, hnext⟩ := hobeys
    have hrun' := K.act hc hmove (hact (s, a) (by simp [Async.advance])) trivial hrun
    obtain ⟨htrace, hend⟩ := ih hrun' hnext fun x hx =>
      hact x (by simp only [Async.advance, List.mem_cons]; exact .inr hx)
    refine ⟨?_, hend⟩
    simp only [Async.advance, List.mem_cons, forall_eq_or_imp]
    exact ⟨⟨φ, φ', hrun, hmove⟩, htrace⟩
  | suspend op next ih =>
    obtain ⟨φ', hwait, hnext⟩ := hobeys
    exact ⟨by simp [Async.advance], .inr ⟨op, next, φ', rfl, K.wait hc hwait trivial hrun, hnext⟩⟩

/-- A turn begins in a phase of the invariant. -/
lemma begun (hD : D.Sound) {pool : Pool σ A ω Reply Φ} {phases : ℕ → D.Phase}
    (h : D.Conforms pool phases) (hK : I pool.next pool.shared (D.crew phases pool.tasks))
    {e : TaskEvent τ ω Reply Φ} (hG : G.Begins pool e) {t : Runtime.Turn σ A ω Reply Φ}
    (ht : R.turn pool e = some t) :
    t.others = (pool.tasks.filter fun x => x.id ≠ t.id) ∧
    Crew t.next t.id (D.crew phases t.others) (pool.others t.id) ∧
    ∃ φ, I t.next t.state (insert ⟨t.id, t.flow, none, φ⟩ (D.crew phases t.others)) ∧
      D.Obeys t.program φ t.state D.Ends := by
  cases e with
  | call stamp flow =>
    simp only [Runtime.turn, Option.ite_none_right_eq_some, Option.some.injEq] at ht
    obtain ⟨hcall, rfl⟩ := ht
    have hall : (pool.tasks.filter fun x => x.id ≠ pool.next) = pool.tasks := by
      refine List.filter_eq_self.mpr fun x hx => ?_
      simpa using Nat.ne_of_lt (h.fresh x hx)
    have hc := h.crew (Nat.lt_succ_self pool.next) (Nat.le_succ _)
    rw [hall] at hc
    refine ⟨hall.symm, hc, D.start pool.next flow, ?_, hD _ _ _ hcall⟩
    exact K.call hc hcall hG trivial (K.tick stamp trivial hK)
  | resume stamp id replies =>
    simp only [Runtime.turn] at ht
    split at ht
    · exact absurd ht (by simp)
    · rename_i x hx
      simp only [Option.ite_none_right_eq_some, Option.some.injEq] at ht
      obtain ⟨hready, rfl⟩ := ht
      have hmem := List.mem_of_find?_eq_some hx
      have hid : x.id = id := by simpa using List.find?_some hx
      subst hid
      have hc := h.crew (h.fresh x hmem) (Nat.le_refl _)
      refine ⟨rfl, hc, D.resume x.op (replies x.op) (phases x.id), ?_, h.obeys x hmem _ _⟩
      rw [crew_eq_insert h.nodup hmem] at hK
      exact K.resume hc hready (hG x hmem rfl) trivial (K.tick stamp trivial hK)

/-- **Step lemma.** A step that meets the guards keeps the certified invariant.

**Proof sketch.** The task that runs is taken out of the crew, and its program obeys the discipline
from the phase it has (`Crew.begun`). Running it to its next `await` or its end keeps the invariant
of the rest (`Crew.advance`). If it has ended, the others stay as they are; otherwise it comes back
with its new phase, under its own id, which no other task has. -/
theorem step (hD : D.Sound) {init : σ} {pool pool' : Pool σ A ω Reply Φ}
    {e : TaskEvent τ ω Reply Φ} (h : D.Holds I pool) (hG : G.Holds pool e)
    (hs : (R.system init).step pool e = some pool') : D.Holds I pool' := by
  obtain ⟨phases, hconf, hK⟩ := h
  obtain ⟨t, ht, rfl⟩ := Option.map_eq_some_iff.mp hs
  obtain ⟨hothers, hc, φ, hrun, hobeys⟩ := K.begun hD hconf hK hG.1 ht
  have hold : ∀ x ∈ t.others, x ∈ pool.tasks ∧ x.id ≠ t.id := by
    intro x hx
    rw [hothers] at hx
    simpa using hx
  have hnodup : (t.others.map Task.id).Nodup := by
    rw [hothers]
    exact hconf.nodup.sublist (List.filter_sublist.map Task.id)
  have hfresh : ∀ x ∈ t.others, x.id < t.next := fun x hx => hc.lt _ ⟨x, hx, rfl⟩
  obtain ⟨-, hend⟩ := K.advance hc hrun hobeys fun x hx => hG.2 t ht x (by rwa [Runtime.trace, ht])
  rcases hend with ⟨r, hr, hrest⟩ | ⟨op, next, φ', hr, hrest, hnext⟩
  · refine ⟨phases, ⟨?_, ?_, ?_⟩, ?_⟩
    all_goals simp only [Runtime.finish, Runtime.taskOf, hr, List.append_nil]
    · exact hnodup
    · exact hfresh
    · exact fun x hx => hconf.obeys x (hold x hx).1
    · exact hrest
  · refine ⟨Function.update phases t.id φ', ⟨?_, ?_, ?_⟩, ?_⟩
    all_goals simp only [Runtime.finish, Runtime.taskOf, hr]
    · simp only [List.map_append, List.map_cons, List.map_nil]
      refine List.nodup_append.mpr ⟨hnodup, List.nodup_singleton _, ?_⟩
      simp only [List.mem_map, List.mem_singleton]
      rintro _ ⟨x, hx, rfl⟩ _ rfl
      exact (hold x hx).2
    · intro x hx
      rcases List.mem_append.mp hx with hx | hx
      · exact hfresh x hx
      · rw [List.mem_singleton.mp hx]
        exact hc.bound
    · intro x hx reply s'
      rcases List.mem_append.mp hx with hx | hx
      · rw [Function.update_of_ne (hold x hx).2]
        exact hconf.obeys x (hold x hx).1 reply s'
      · obtain rfl := List.mem_singleton.mp hx
        simpa using hnext reply s'
    · rw [crew_append (t := ⟨t.id, t.flow, op, next⟩) fun x hx => (hold x hx).2]
      exact hrest

/-- Every action of a step that meets the guards is performed in a state and a phase of the
invariant. -/
theorem trace (hD : D.Sound) {pool : Pool σ A ω Reply Φ} {e : TaskEvent τ ω Reply Φ}
    (h : D.Holds I pool) (hG : G.Holds pool e) {x : σ × A} (hx : x ∈ R.trace pool e) :
    ∃ t φ φ' O, R.turn pool e = some t ∧ Crew t.next t.id O (pool.others t.id) ∧
      I t.next x.1 (insert ⟨t.id, t.flow, none, φ⟩ O) ∧ D.Move x.2 φ x.1 φ' ∧
      G.act (pool.others t.id) t.id t.flow x.1 x.2 := by
  obtain ⟨phases, hconf, hK⟩ := h
  cases ht : R.turn pool e with
  | none => simp [Runtime.trace, ht] at hx
  | some t =>
    obtain ⟨-, hc, φ, hrun, hobeys⟩ := K.begun hD hconf hK hG.1 ht
    have hact := hG.2 t ht
    have htrace := (K.advance hc hrun hobeys fun x hx => hact x (by rwa [Runtime.trace, ht])).1
    obtain ⟨φ₁, φ₂, hrun', hmove⟩ := htrace x (by rwa [Runtime.trace, ht] at hx)
    exact ⟨t, φ₁, φ₂, _, rfl, hc, hrun', hmove, hact x hx⟩

/-- **Invariant rule.** A certified invariant that holds at first holds after every run whose steps
meet the guards. -/
theorem invariant (hD : D.Sound) {init : σ} {pool pool' : Pool σ A ω Reply Φ}
    {es : List (TaskEvent τ ω Reply Φ)} (h : D.Holds I pool)
    (hG : (R.system init).AllSteps G.Holds pool es)
    (hr : (R.system init).exec pool es = some pool') : D.Holds I pool' :=
  EventSystem.exec_invariant (fun _ _ _ hK hG hs => K.step hD hK hG hs) h hG hr

end Certificate

/-- The invariant holds when there are no tasks. -/
lemma init_holds [Nonempty D.Phase] {I : D.Invariant} {init : σ} (h : I 0 init ∅) :
    D.Holds I (R.system init).init := by
  obtain ⟨φ⟩ := ‹Nonempty D.Phase›
  have hempty : D.crew (fun _ => φ) ([] : List (Task σ A ω Reply Φ)) = ∅ := by
    ext x
    simp [crew]
  refine ⟨fun _ => φ, ⟨List.nodup_nil, by simp [Runtime.system], by simp [Runtime.system]⟩, ?_⟩
  rwa [Runtime.system, hempty]

end Discipline

end Foundations
