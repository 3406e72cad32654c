import AuraLive.Foundations.EventSystem

set_option relaxedAutoImplicit false
set_option autoImplicit false

/-!
# Asynchronous programs

The code of an `async` function: it reads a shared state, performs actions on it, and is suspended
at every `await` until the awaited call has ended, with a value or with an exception. Between two
suspensions a program runs without interruption. Several suspended programs, the *tasks*, share the
state; an event calls a flow, which becomes a new task, or resumes a task.

## Main definitions

* `Foundations.Async` — an asynchronous program, a monad.
* `Foundations.Async.onExit` — a program followed by what is done with its result or its exception;
  `>>=`, `tryCatch` and `andFinally` are instances of it.
* `Foundations.Async.advance` — run a program up to its next suspension.
* `Foundations.Pool` — the shared state and the suspended tasks.
* `Foundations.Runtime.system` — the event-driven system of the tasks.
* `Foundations.Runtime.trace` — the actions performed in a step, each with the state it was
  performed in.

## Design

* **Actions.** A program changes the shared state through a type of named actions, so that a step
  can be described by the actions performed in it.
* **Replies.** The event that resumes a task carries a reply for every call; the one used is that of
  the call the task waits for. `Runtime.ready` says which replies a call can have in a state, so
  that a task can wait for another one.
* **Timers.** A callback that runs later is a flow of its own. It can be called (`Runtime.callable`)
  when the shared state has the timer.
* **Stamps.** Every event carries a stamp (a clock reading), which `Runtime.tick` stores in the
  shared state before the code runs.
-/

namespace Foundations

/-- A program over the shared state `σ` with actions `A`, calls `ω` and their replies. -/
inductive Async (σ A ω : Type) (Reply : ω → Type) (α : Type) where
  | ret (a : α)
  | throw (message : String)
  | read (next : σ → Async σ A ω Reply α)
  | act (a : A) (next : Async σ A ω Reply α)
  | suspend (op : ω) (next : Except String (Reply op) → Async σ A ω Reply α)

namespace Async

variable {σ A ω : Type} {Reply : ω → Type} {α β : Type}

/-- The program that returns a value or throws. -/
def ofExcept : Except String α → Async σ A ω Reply α
  | .ok a => ret a
  | .error message => throw message

/-- A program and what follows it, which is told how the program ended. -/
def onExit (p : Async σ A ω Reply α) (g : Except String α → Async σ A ω Reply β) :
    Async σ A ω Reply β :=
  match p with
  | ret a => g (.ok a)
  | throw message => g (.error message)
  | read next => read fun s => (next s).onExit g
  | act a next => act a (next.onExit g)
  | suspend op next => suspend op fun x => (next x).onExit g

/-- What follows a program that returned; an exception is passed on. -/
def onValue (g : α → Async σ A ω Reply β) : Except String α → Async σ A ω Reply β
  | .ok a => g a
  | .error message => throw message

instance : Monad (Async σ A ω Reply) where
  pure := ret
  bind p g := p.onExit (onValue g)

/-- What follows a program that threw; a value is passed on. -/
def onError (h : String → Async σ A ω Reply α) : Except String α → Async σ A ω Reply α
  | .ok a => ret a
  | .error message => h message

/-- `try { p } catch { h }`. -/
def tryCatch (p : Async σ A ω Reply α) (h : String → Async σ A ω Reply α) : Async σ A ω Reply α :=
  p.onExit (onError h)

/-- `try { p } finally { q }`. -/
def andFinally (p : Async σ A ω Reply α) (q : Async σ A ω Reply Unit) : Async σ A ω Reply α :=
  p.onExit fun r => q.onExit (onValue fun _ => ofExcept r)

/-- The shared state. -/
def get : Async σ A ω Reply σ := read ret

/-- Perform an action. -/
def perform (a : A) : Async σ A ω Reply Unit := act a (ret ())

/-- `await op`. -/
def await (op : ω) : Async σ A ω Reply (Reply op) := suspend op ofExcept

/-- What has become of a program: it has ended, or it waits for a call. -/
inductive Status (σ A ω : Type) (Reply : ω → Type) (α : Type) where
  | ended (result : Except String α)
  | waiting (op : ω) (next : Except String (Reply op) → Async σ A ω Reply α)

/-- A run of a program up to its next suspension: the state then, the actions performed on the way,
each with the state before it, and what has become of the program. -/
structure Segment (σ A ω : Type) (Reply : ω → Type) (α : Type) where
  state : σ
  trace : List (σ × A)
  status : Status σ A ω Reply α

/-- Run a program up to its next suspension. -/
def advance (apply : A → σ → σ) (p : Async σ A ω Reply α) (s : σ) : Segment σ A ω Reply α :=
  match p with
  | ret a => ⟨s, [], .ended (.ok a)⟩
  | throw message => ⟨s, [], .ended (.error message)⟩
  | read next => (next s).advance apply s
  | act a next =>
    let r := next.advance apply (apply a s)
    ⟨r.state, (s, a) :: r.trace, r.status⟩
  | suspend op next => ⟨s, [], .waiting op next⟩

/-- A measure that no action lowers grows along a run. -/
lemma advance_measure {apply : A → σ → σ} {μ : σ → ℕ} (hμ : ∀ a s, μ s ≤ μ (apply a s))
    (p : Async σ A ω Reply α) (s : σ) :
    μ s ≤ μ (p.advance apply s).state ∧ ∀ x ∈ (p.advance apply s).trace,
      μ s ≤ μ x.1 ∧ μ (apply x.2 x.1) ≤ μ (p.advance apply s).state := by
  induction p generalizing s with
  | ret a => simp [advance]
  | throw message => simp [advance]
  | read next ih => exact ih s s
  | act a next ih =>
    obtain ⟨hstate, htrace⟩ := ih (apply a s)
    have hle := hμ a s
    simp only [advance, List.mem_cons, forall_eq_or_imp]
    exact ⟨Nat.le_trans hle hstate, ⟨Nat.le_refl _, hstate⟩,
      fun x hx => ⟨Nat.le_trans hle (htrace x hx).1, (htrace x hx).2⟩⟩
  | suspend op next ih => simp [advance]

end Async

/-- A suspended program: its number, the flow it belongs to, the call it waits for and how it goes
on. -/
structure Task (σ A ω : Type) (Reply : ω → Type) (Φ : Type) where
  id : ℕ
  flow : Φ
  op : ω
  next : Except String (Reply op) → Async σ A ω Reply Unit

/-- The shared state, the suspended tasks and the number of the next task. -/
structure Pool (σ A ω : Type) (Reply : ω → Type) (Φ : Type) where
  shared : σ
  tasks : List (Task σ A ω Reply Φ)
  next : ℕ

/-- An event: a flow is called, or the call a task waits for has ended. -/
inductive TaskEvent (τ ω : Type) (Reply : ω → Type) (Φ : Type) where
  | call (stamp : τ) (flow : Φ)
  | resume (stamp : τ) (id : ℕ) (replies : (op : ω) → Except String (Reply op))

/-- How flows run: what an action does, the code of a flow, which flows can be called in a state,
what a stamp does to the state and which replies are possible. -/
structure Runtime (τ σ A ω : Type) (Reply : ω → Type) (Φ : Type) where
  /-- The effect of an action. -/
  apply : A → σ → σ
  /-- The code of the flow of the task with the given number. -/
  code : ℕ → Φ → Async σ A ω Reply Unit
  /-- The flows that can be called in a state. -/
  callable : σ → Φ → Bool
  /-- The effect of the stamp of an event. -/
  tick : τ → σ → σ
  /-- The replies a call can have in a state. -/
  ready : σ → (op : ω) → Except String (Reply op) → Bool

namespace Runtime

variable {τ σ A ω : Type} {Reply : ω → Type} {Φ : Type}

/-- The task of a program that waits, none if it has ended. -/
def taskOf (id : ℕ) (flow : Φ) : Async.Status σ A ω Reply Unit → List (Task σ A ω Reply Φ)
  | .ended _ => []
  | .waiting op next => [⟨id, flow, op, next⟩]

/-- The program an event runs, with its task's number and flow and the tasks that stay suspended. -/
structure Turn (σ A ω : Type) (Reply : ω → Type) (Φ : Type) where
  state : σ
  id : ℕ
  flow : Φ
  program : Async σ A ω Reply Unit
  others : List (Task σ A ω Reply Φ)
  next : ℕ

/-- What an event runs, if it can happen. -/
def turn (R : Runtime τ σ A ω Reply Φ) (pool : Pool σ A ω Reply Φ) :
    TaskEvent τ ω Reply Φ → Option (Turn σ A ω Reply Φ)
  | .call stamp flow =>
    let s := R.tick stamp pool.shared
    if R.callable s flow then
      some ⟨s, pool.next, flow, R.code pool.next flow, pool.tasks, pool.next + 1⟩
    else none
  | .resume stamp id replies =>
    match pool.tasks.find? fun t => t.id = id with
    | none => none
    | some t =>
      let s := R.tick stamp pool.shared
      if R.ready s t.op (replies t.op) then
        some ⟨s, id, t.flow, t.next (replies t.op), pool.tasks.filter fun t => t.id ≠ id, pool.next⟩
      else none

/-- The pool after a turn. -/
def finish (R : Runtime τ σ A ω Reply Φ) (t : Turn σ A ω Reply Φ) : Pool σ A ω Reply Φ :=
  let r := t.program.advance R.apply t.state
  ⟨r.state, t.others ++ taskOf t.id t.flow r.status, t.next⟩

/-- The system of the tasks, without tasks at first. -/
def system (R : Runtime τ σ A ω Reply Φ) (init : σ) :
    EventSystem (Pool σ A ω Reply Φ) (TaskEvent τ ω Reply Φ) where
  init := ⟨init, [], 0⟩
  step pool e := (R.turn pool e).map R.finish

/-- The actions performed in a step, each with the state before it; none if the event cannot
happen. -/
def trace (R : Runtime τ σ A ω Reply Φ) (pool : Pool σ A ω Reply Φ) (e : TaskEvent τ ω Reply Φ) :
    List (σ × A) :=
  match R.turn pool e with
  | none => []
  | some t => (t.program.advance R.apply t.state).trace

end Runtime

end Foundations
