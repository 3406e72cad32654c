import Mathlib.Data.List.Basic
import Mathlib.Data.List.Flatten
import Mathlib.Order.Basic
import Mathlib.Tactic.Common

set_option relaxedAutoImplicit false
set_option autoImplicit false

/-!
# Outboxes

A store-and-forward outbox: items are kept in a bounded buffer and, while the outbox is online,
transmitted at once; when it comes online again, the buffer is emptied into a batch whose items are
stored and transmitted one by one with pauses in between; an item whose transmission fails may be
retried on its own. Several batches can be under way at the same time.

The buffer thus serves both as a record of recent items and as the queue of what is to be
transmitted. This module says under which conditions each of the two uses is met.

## Main definitions

* `Foundations.Outbox` — the buffer, the batches under way, the retries and the log of
  transmissions.
* `Foundations.Outbox.Label`, `Foundations.Outbox.Step` — what can happen.
* `Foundations.Outbox.AtMostOnce`, `OnceGuard` — an item is transmitted at most once, and the
  condition on steps that ensures it.
* `Foundations.Outbox.Ordered`, `OrderGuard` — items are first transmitted in the order of their
  ranks, and the condition that ensures it.
* `Foundations.Outbox.recent`, `Recorded`, `RecordGuard` — the last items of a list, that the buffer
  holds those given last, and the condition that ensures it.

## Main results

* `Foundations.Outbox.AtMostOnce.step`, `Foundations.Outbox.Ordered.step`,
  `Foundations.Outbox.Recorded.step` — the three invariants.
* `Foundations.Outbox.Recorded.not_step` — the condition on the record is exact.
-/

namespace Foundations

variable {ι : Type*}

/-- The state of an outbox. -/
structure Outbox (ι : Type*) where
  /-- The stored items, oldest first. -/
  buffer : List ι
  /-- The batches under way, each with the items still to be handled. -/
  batches : List (List ι)
  /-- The items waiting for another attempt. -/
  retries : List ι
  /-- The items transmitted, oldest first. -/
  sent : List ι
  /-- Whether a transmission can be attempted. -/
  online : Bool

namespace Outbox

/-- How an attempted transmission ends: the item is transmitted, will be tried again, or is given
up. -/
inductive Attempt where
  | delivered
  | deferred
  | abandoned
  deriving DecidableEq

/-- What can happen to an outbox. -/
inductive Label (ι : Type*) where
  /-- Nothing but loss: batches or retries are dropped, or the outbox goes offline. -/
  | quiet
  /-- The buffer is emptied. -/
  | clear
  /-- An item is stored and, if online, attempted. -/
  | give (x : ι) (a : Attempt)
  /-- Items are stored without a limit and not attempted. -/
  | stock (xs : List ι)
  /-- The outbox comes online and the part `kept` of the buffer becomes a batch. -/
  | flush (kept : List ι) (a : Attempt)
  /-- A batch handles its first item. -/
  | resume (batch : List ι) (a : Attempt)
  /-- A retry is attempted. -/
  | retry (x : ι) (a : Attempt)

/-- Store an item; a full buffer loses its oldest one. -/
def store (cap : ℕ) (x : ι) (o : Outbox ι) : Outbox ι :=
  { o with buffer := (if o.buffer.length ≥ cap then o.buffer.tail else o.buffer) ++ [x] }

/-- Attempt to transmit an item. -/
def attempt (a : Attempt) (x : ι) (o : Outbox ι) : Outbox ι :=
  if o.online then
    match a with
    | .delivered => { o with sent := o.sent ++ [x] }
    | .deferred => { o with retries := o.retries ++ [x] }
    | .abandoned => o
  else o

/-- Handle the first item of a batch and go on with the rest later. -/
def pump (cap : ℕ) (a : Attempt) (batch : List ι) (o : Outbox ι) : Outbox ι :=
  match batch with
  | [] => o
  | x :: rest =>
    let o' := attempt a x (store cap x o)
    { o' with batches := o'.batches ++ [rest] }

/-- Nothing happened but loss of batches, of retries or of the connection. -/
structure Quiet (o o' : Outbox ι) : Prop where
  buffer : o'.buffer = o.buffer
  batches : o'.batches.Sublist o.batches
  retries : o'.retries.Sublist o.retries
  sent : o'.sent = o.sent
  online : o'.online = true → o.online = true

/-- The steps of an outbox with a buffer of size `cap`. -/
inductive Step (cap : ℕ) : Outbox ι → Label ι → Outbox ι → Prop where
  | quiet {o o' : Outbox ι} : Quiet o o' → Step cap o .quiet o'
  | clear {o o' : Outbox ι} : Quiet { o with buffer := [] } o' → Step cap o .clear o'
  | give {o : Outbox ι} (x : ι) (a : Attempt) : Step cap o (.give x a) (attempt a x (store cap x o))
  | stock {o : Outbox ι} (xs : List ι) : Step cap o (.stock xs) { o with buffer := o.buffer ++ xs }
  | flush {o : Outbox ι} (kept : List ι) (a : Attempt) (bs : List (List ι)) (rs : List ι) :
      kept.Sublist o.buffer → bs.Sublist o.batches → rs.Sublist o.retries →
      Step cap o (.flush kept a)
        (pump cap a kept { o with buffer := [], batches := bs, retries := rs, online := true })
  | resume {o : Outbox ι} (batch : List ι) (a : Attempt) (l₁ l₂ bs : List (List ι)) (rs : List ι) :
      o.batches = l₁ ++ batch :: l₂ → bs.Sublist (l₁ ++ l₂) → rs.Sublist o.retries →
      Step cap o (.resume batch a) (pump cap a batch { o with batches := bs, retries := rs })
  | retry {o : Outbox ι} (x : ι) (a : Attempt) (bs : List (List ι)) (l₁ l₂ rs : List ι) :
      o.retries = l₁ ++ x :: l₂ → bs.Sublist o.batches → rs.Sublist (l₁ ++ l₂) →
      Step cap o (.retry x a) (attempt a x { o with batches := bs, retries := rs })

/-! ## Quiet steps -/

namespace Quiet

/-- Nothing has changed. -/
lemma refl (o : Outbox ι) : Quiet o o := ⟨rfl, .refl _, .refl _, rfl, id⟩

/-- One quiet change after another. -/
lemma trans {o o' o'' : Outbox ι} (h : Quiet o o') (h' : Quiet o' o'') : Quiet o o'' where
  buffer := h'.buffer.trans h.buffer
  batches := h'.batches.trans h.batches
  retries := h'.retries.trans h.retries
  sent := h'.sent.trans h.sent
  online hon := h.online (h'.online hon)

end Quiet

/-! ## Storing and attempting -/

section Fields

variable (cap : ℕ) (a : Attempt) (x : ι) (o : Outbox ι)

@[simp] lemma store_batches : (store cap x o).batches = o.batches := rfl
@[simp] lemma store_retries : (store cap x o).retries = o.retries := rfl
@[simp] lemma store_sent : (store cap x o).sent = o.sent := rfl
@[simp] lemma store_online : (store cap x o).online = o.online := rfl

@[simp] lemma attempt_buffer : (attempt a x o).buffer = o.buffer := by
  unfold attempt; split <;> [cases a; skip] <;> rfl

@[simp] lemma attempt_batches : (attempt a x o).batches = o.batches := by
  unfold attempt; split <;> [cases a; skip] <;> rfl

/-- A stored item comes last; at most the oldest item is lost. -/
lemma store_buffer_sublist : (store cap x o).buffer.Sublist (o.buffer ++ [x]) := by
  refine List.Sublist.append ?_ (.refl _)
  split
  · exact List.tail_sublist _
  · exact .refl _

end Fields

/-! ## Where items come from -/

section Items

/-- All items of an outbox. -/
def items (o : Outbox ι) : List ι := o.buffer ++ o.batches.flatten ++ o.retries ++ o.sent

/-- The items a label brings in. -/
def Label.given : Label ι → List ι
  | .give x _ => [x]
  | .stock xs => xs
  | _ => []

/-- An item is in one of the four places. -/
lemma mem_items {o : Outbox ι} {x : ι} :
    x ∈ o.items ↔ x ∈ o.buffer ∨ x ∈ o.batches.flatten ∨ x ∈ o.retries ∨ x ∈ o.sent := by
  simp only [items, List.mem_append, or_assoc]

/-- Storing brings in the item stored. -/
lemma mem_items_store {cap : ℕ} {o : Outbox ι} {x y : ι} (h : x ∈ (store cap y o).items) :
    x = y ∨ x ∈ o.items := by
  have hb : x ∈ (store cap y o).buffer → x ∈ o.buffer ∨ x = y := fun hx => by
    simpa using (store_buffer_sublist cap y o).subset hx
  rw [mem_items] at h ⊢
  simp only [store_batches, store_retries, store_sent] at h
  grind

/-- Attempting brings in the item attempted. -/
lemma mem_items_attempt {a : Attempt} {o : Outbox ι} {x y : ι} (h : x ∈ (attempt a y o).items) :
    x = y ∨ x ∈ o.items := by
  unfold attempt at h
  rw [mem_items] at h ⊢
  split at h
  · cases a <;> simp only [List.mem_append, List.mem_singleton] at h <;> grind
  · exact .inr h

/-- Handling a batch brings in its items. -/
lemma mem_items_pump {cap : ℕ} {a : Attempt} {batch : List ι} {o : Outbox ι} {x : ι}
    (h : x ∈ (pump cap a batch o).items) : x ∈ batch ∨ x ∈ o.items := by
  cases batch with
  | nil => exact .inr h
  | cons y rest =>
    have hx : x ∈ rest ∨ x ∈ (attempt a y (store cap y o)).items := by
      rw [pump, mem_items] at h
      rw [mem_items]
      simp only [List.flatten_append, List.flatten_singleton, List.mem_append] at h
      grind
    rcases hx with hx | hx
    · exact .inl (List.mem_cons_of_mem y hx)
    · rcases mem_items_attempt hx with rfl | hx
      · exact .inl List.mem_cons_self
      · exact (mem_items_store hx).imp_left fun he => List.mem_cons.mpr (.inl he)

/-- Losing batches or retries brings in nothing. -/
lemma mem_items_of_sublist {o o' : Outbox ι} {x : ι} (h : x ∈ o'.items)
    (hb : o'.buffer.Sublist o.buffer) (hbs : o'.batches.Sublist o.batches)
    (hrs : o'.retries.Sublist o.retries) (hs : o'.sent = o.sent) : x ∈ o.items := by
  rw [mem_items] at h ⊢
  rw [hs] at h
  exact h.imp (hb.subset ·) (Or.imp (hbs.flatten.subset ·) (Or.imp_left (hrs.subset ·)))

/-- **Provenance.** Every item of an outbox was there before the step or came in with its label. -/
theorem Step.mem_items {cap : ℕ} {o o' : Outbox ι} {l : Label ι} (hs : Step cap o l o') {x : ι}
    (hx : x ∈ o'.items) : x ∈ o.items ∨ x ∈ l.given := by
  cases hs with
  | quiet hq =>
    exact .inl (mem_items_of_sublist hx (hq.buffer ▸ .refl _) hq.batches hq.retries hq.sent)
  | clear hq =>
    have h := mem_items_of_sublist hx (hq.buffer ▸ .refl _) hq.batches hq.retries hq.sent
    exact .inl (mem_items_of_sublist h (List.nil_sublist _) (.refl _) (.refl _) rfl)
  | give y a =>
    rcases mem_items_attempt hx with rfl | hx
    · exact .inr List.mem_cons_self
    · exact (mem_items_store hx).elim (fun he => .inr (he ▸ List.mem_cons_self)) .inl
  | stock xs =>
    rw [Outbox.mem_items] at hx ⊢
    simp only [List.mem_append, Label.given] at hx ⊢
    grind
  | flush kept a bs rs hk hbs hrs =>
    rcases mem_items_pump hx with hx | hx
    · exact .inl (Outbox.mem_items.mpr (.inl (hk.subset hx)))
    · exact .inl (mem_items_of_sublist hx (List.nil_sublist _) hbs hrs rfl)
  | resume batch a l₁ l₂ bs rs hb hbs hrs =>
    rcases mem_items_pump hx with hx | hx
    · have hmem : x ∈ o.batches.flatten := List.mem_flatten.mpr ⟨batch, by simp [hb], hx⟩
      exact .inl (Outbox.mem_items.mpr (.inr (.inl hmem)))
    · have hsub : bs.Sublist o.batches :=
        hbs.trans (hb ▸ (List.Sublist.refl l₁).append (List.sublist_cons_self batch l₂))
      exact .inl (mem_items_of_sublist hx (.refl _) hsub hrs rfl)
  | retry y a bs l₁ l₂ rs hy hbs hrs =>
    rcases mem_items_attempt hx with rfl | hx
    · exact .inl (Outbox.mem_items.mpr (.inr (.inr (.inl (by simp [hy])))))
    · have hsub : rs.Sublist o.retries :=
        hrs.trans (hy ▸ (List.Sublist.refl l₁).append (List.sublist_cons_self y l₂))
      exact .inl (mem_items_of_sublist hx (.refl _) hbs hsub rfl)

end Items

/-! ## At most one transmission -/

section AtMostOnce

variable (p : ι → Bool)

/-- How many items satisfying `p` have been transmitted or are on a way that leads to it. -/
def routes (o : Outbox ι) : ℕ :=
  o.sent.countP p + o.retries.countP p + o.batches.flatten.countP p

/-- How many items satisfying `p` are stored or will be stored by a batch. -/
def copies (o : Outbox ι) : ℕ := o.buffer.countP p + o.batches.flatten.countP p

/-- At most one item satisfying `p` is on a way to be transmitted, and at most one is stored. -/
structure AtMostOnce (o : Outbox ι) : Prop where
  routes_le : o.routes p ≤ 1
  copies_le : o.copies p ≤ 1

/-- The condition for at most one transmission of the items satisfying `p`: such an item is given
once, and it is not flushed after it was transmitted or while a retry of it is due. -/
def OnceGuard (o : Outbox ι) : Label ι → Prop
  | .give x _ => p x = true → o.routes p = 0 ∧ o.copies p = 0
  | .stock xs => xs.countP p = 0
  | .flush kept _ => 0 < kept.countP p → o.sent.countP p = 0 ∧ o.retries.countP p = 0
  | _ => True

variable {p}

/-- Nothing to count without items satisfying `p`. -/
lemma routes_copies_eq_zero {o : Outbox ι} (h : ∀ x ∈ o.items, ¬ p x = true) :
    o.routes p = 0 ∧ o.copies p = 0 := by
  have hb : o.buffer.countP p = 0 :=
    List.countP_eq_zero.mpr fun x hx => h x (mem_items.mpr (.inl hx))
  have hbs : o.batches.flatten.countP p = 0 :=
    List.countP_eq_zero.mpr fun x hx => h x (mem_items.mpr (.inr (.inl hx)))
  have hr : o.retries.countP p = 0 :=
    List.countP_eq_zero.mpr fun x hx => h x (mem_items.mpr (.inr (.inr (.inl hx))))
  have hs : o.sent.countP p = 0 :=
    List.countP_eq_zero.mpr fun x hx => h x (mem_items.mpr (.inr (.inr (.inr hx))))
  simp only [routes, copies]
  omega

/-- An attempt opens at most one route. -/
lemma routes_attempt_le (a : Attempt) (x : ι) (o : Outbox ι) :
    (attempt a x o).routes p ≤ o.routes p + [x].countP p := by
  unfold attempt routes
  split
  · cases a <;> simp only [List.countP_append] <;> omega
  · omega

/-- Handling the first item of a batch moves it from one route to another. -/
lemma routes_pump_le (cap : ℕ) (a : Attempt) (batch : List ι) (o : Outbox ι) :
    (pump cap a batch o).routes p ≤ o.routes p + batch.countP p := by
  cases batch with
  | nil => simp [pump]
  | cons x rest =>
    have h := routes_attempt_le (p := p) a x (store cap x o)
    have hb : (pump cap a (x :: rest) o).routes p =
        (attempt a x (store cap x o)).routes p + rest.countP p := by
      simp only [pump, routes, List.flatten_append, List.countP_append, List.flatten_singleton]
      omega
    have hs : (store cap x o).routes p = o.routes p := rfl
    rw [List.countP_singleton] at h
    rw [hb, List.countP_cons]
    omega

/-- Handling the first item of a batch moves it from the batch to the buffer. -/
lemma copies_pump_le (cap : ℕ) (a : Attempt) (batch : List ι) (o : Outbox ι) :
    (pump cap a batch o).copies p ≤ o.copies p + batch.countP p := by
  cases batch with
  | nil => simp [pump]
  | cons x rest =>
    have h := (store_buffer_sublist cap x o).countP_le (p := p)
    rw [List.countP_append, List.countP_singleton] at h
    simp only [pump, copies, attempt_buffer, attempt_batches, store_batches, List.flatten_append,
      List.countP_append, List.flatten_singleton, List.countP_cons]
    omega

/-- **At most one transmission is preserved** by every step that meets `OnceGuard`.

**Proof sketch.** A batch or a retry only moves an item along its route. Giving an item opens the
first route to it. A flush opens a route for each stored item it keeps; by the guard such an item
has no route through the log or a retry, and none through a batch because it is stored once. -/
theorem AtMostOnce.step {cap : ℕ} {o o' : Outbox ι} {l : Label ι} (h : AtMostOnce p o)
    (hg : OnceGuard p o l) (hs : Step cap o l o') : AtMostOnce p o' := by
  obtain ⟨hr, hc⟩ := h
  cases hs with
  | quiet hq =>
    have hb := (hq.batches.flatten).countP_le (p := p)
    have ht := hq.retries.countP_le (p := p)
    refine ⟨?_, ?_⟩
    · simp only [routes, hq.sent] at hr ⊢; omega
    · simp only [copies, hq.buffer] at hc ⊢; omega
  | clear hq =>
    have hb := (hq.batches.flatten).countP_le (p := p)
    have ht := hq.retries.countP_le (p := p)
    refine ⟨?_, ?_⟩
    · simp only [routes, hq.sent] at hr hb ht ⊢; omega
    · simp only [copies, hq.buffer, List.countP_nil] at hc hb ⊢; omega
  | give x a =>
    have ha := routes_attempt_le (p := p) a x (store cap x o)
    have hs : (store cap x o).routes p = o.routes p := rfl
    have hb := (store_buffer_sublist cap x o).countP_le (p := p)
    rw [List.countP_append] at hb
    by_cases hx : p x = true
    · obtain ⟨h0, h1⟩ := hg hx
      rw [List.countP_singleton, if_pos hx] at ha hb
      refine ⟨by omega, ?_⟩
      simp only [copies, attempt_buffer, attempt_batches, store_batches] at h1 ⊢
      omega
    · rw [List.countP_singleton, if_neg hx] at ha hb
      refine ⟨by omega, ?_⟩
      simp only [copies, attempt_buffer, attempt_batches, store_batches] at hc ⊢
      omega
  | stock xs =>
    have hx : xs.countP p = 0 := hg
    refine ⟨hr, ?_⟩
    simp only [copies, List.countP_append] at hc ⊢
    omega
  | flush kept a bs rs hk hbs hrs =>
    have hr' := routes_pump_le (p := p) cap a kept
      { o with buffer := [], batches := bs, retries := rs, online := true }
    have hc' := copies_pump_le (p := p) cap a kept
      { o with buffer := [], batches := bs, retries := rs, online := true }
    have hkc := hk.countP_le (p := p)
    have hbc := hbs.flatten.countP_le (p := p)
    have hrc := hrs.countP_le (p := p)
    simp only [routes, copies, List.countP_nil] at hr hc hr' hc'
    by_cases h0 : 0 < kept.countP p
    · obtain ⟨h1, h2⟩ := hg h0
      exact ⟨by simp only [routes]; omega, by simp only [copies]; omega⟩
    · exact ⟨by simp only [routes]; omega, by simp only [copies]; omega⟩
  | resume batch a l₁ l₂ bs rs hb hbs hrs =>
    have hr' := routes_pump_le (p := p) cap a batch { o with batches := bs, retries := rs }
    have hc' := copies_pump_le (p := p) cap a batch { o with batches := bs, retries := rs }
    have hbc := hbs.flatten.countP_le (p := p)
    have hrc := hrs.countP_le (p := p)
    simp only [routes, copies, hb, List.flatten_append, List.flatten_cons,
      List.countP_append] at hr hc hr' hc' hbc
    exact ⟨by simp only [routes]; omega, by simp only [copies]; omega⟩
  | retry x a bs l₁ l₂ rs hx hbs hrs =>
    have ha := routes_attempt_le (p := p) a x { o with batches := bs, retries := rs }
    have hbc := hbs.flatten.countP_le (p := p)
    have hrc := hrs.countP_le (p := p)
    rw [List.countP_singleton] at ha
    simp only [routes, hx, List.countP_append, List.countP_cons] at hr ha hrc
    refine ⟨by simp only [routes]; omega, ?_⟩
    simp only [copies, attempt_buffer, attempt_batches] at hc ⊢
    omega

end AtMostOnce

/-! ## Order of first transmissions -/

section Order

variable [DecidableEq ι] (tracked : ι → Bool) (rank : ι → ℕ)

/-- The tracked items of a list that have not been transmitted. -/
def waiting (sent l : List ι) : List ι := l.filter fun x => tracked x && decide (x ∉ sent)

/-- At the first transmission of a tracked item, all tracked items transmitted before it have a
smaller rank. -/
def FirstsOrdered (sent : List ι) : Prop :=
  ∀ l₁ x l₂, sent = l₁ ++ x :: l₂ → tracked x = true → x ∉ l₁ →
    ∀ y ∈ l₁, tracked y = true → rank y < rank x

/-- The tracked items are first transmitted in the order of their ranks. What has still to be
transmitted lies in rank order in the buffer and in at most one batch, behind everything that was
transmitted; an online outbox has nothing waiting in its buffer. -/
structure Ordered (o : Outbox ι) : Prop where
  noRetries : o.retries = []
  sorted : (waiting tracked o.sent (o.buffer ++ o.batches.flatten)).Pairwise fun x y =>
    rank x < rank y
  single : o.batches.Pairwise fun b b' =>
    waiting tracked o.sent b = [] ∨ waiting tracked o.sent b' = []
  emptied : o.online = true → waiting tracked o.sent o.buffer = []
  later : ∀ x ∈ waiting tracked o.sent (o.buffer ++ o.batches.flatten), ∀ y ∈ o.sent,
    tracked y = true → rank y < rank x
  firsts : FirstsOrdered tracked rank o.sent

/-- The condition for rank order, in runs without failing transmissions: an item given is newer
than all others and is given while no batch holds an untransmitted item; a flush, which handles its
first item at once, does not add a second batch with untransmitted items. -/
def OrderGuard (o : Outbox ι) : Label ι → Prop
  | .give x a => a = .delivered ∧ waiting tracked o.sent o.batches.flatten = [] ∧
      ∀ y ∈ o.buffer ++ o.sent, tracked y = true → rank y < rank x
  | .stock xs => ∀ x ∈ xs, tracked x = false
  | .flush kept a => a = .delivered ∧ (waiting tracked o.sent o.batches.flatten = [] ∨
      waiting tracked o.sent kept.tail = [])
  | .resume _ a => a = .delivered
  | _ => True

variable {tracked rank}

/-- What waits in two lists. -/
@[simp] lemma waiting_append (tracked : ι → Bool) (sent l l' : List ι) :
    waiting tracked sent (l ++ l') = waiting tracked sent l ++ waiting tracked sent l' :=
  List.filter_append ..

/-- Less waits in a part of a list. -/
lemma waiting_sublist (tracked : ι → Bool) {sent l l' : List ι} (h : l.Sublist l') :
    (waiting tracked sent l).Sublist (waiting tracked sent l') := h.filter _

/-- Nothing waits in a part of a list in which nothing does. -/
lemma waiting_eq_nil_of_sublist {sent l l' : List ι} (h : l.Sublist l')
    (hl : waiting tracked sent l' = []) : waiting tracked sent l = [] := by
  have : (waiting tracked sent l).Sublist (waiting tracked sent l') := waiting_sublist tracked h
  rw [hl] at this
  exact List.sublist_nil.mp this

/-- Nothing waits in a list of batches exactly when nothing waits in any of them. -/
lemma waiting_flatten_eq_nil {sent : List ι} {bs : List (List ι)} :
    waiting tracked sent bs.flatten = [] ↔ ∀ b ∈ bs, waiting tracked sent b = [] := by
  simp only [waiting, List.filter_eq_nil_iff, List.mem_flatten]
  exact ⟨fun h b hb x hx => h x ⟨b, hb, hx⟩, fun h x ⟨b, hb, hx⟩ => h b hb x hx⟩

/-- Transmitting an item only removes it from what is waiting. -/
lemma waiting_concat_sublist (tracked : ι → Bool) (sent l : List ι) (z : ι) :
    (waiting tracked (sent ++ [z]) l).Sublist (waiting tracked sent l) := by
  refine List.monotone_filter_right l fun x hx => ?_
  simp only [List.mem_append, List.mem_singleton, not_or, Bool.and_eq_true,
    decide_eq_true_eq] at hx ⊢
  exact ⟨hx.1, hx.2.1⟩

/-- What waits is tracked and has not been sent. -/
lemma mem_waiting {sent l : List ι} {x : ι} :
    x ∈ waiting tracked sent l ↔ x ∈ l ∧ tracked x = true ∧ x ∉ sent := by
  simp [waiting]

omit [DecidableEq ι] in
/-- Appending to the log an item that is behind all transmitted ones, unless it is there
already. -/
lemma FirstsOrdered.concat {sent : List ι} {z : ι} (h : FirstsOrdered tracked rank sent)
    (hz : tracked z = true → z ∉ sent → ∀ y ∈ sent, tracked y = true → rank y < rank z) :
    FirstsOrdered tracked rank (sent ++ [z]) := by
  intro l₁ x l₂ he hx hn
  rcases List.eq_nil_or_concat l₂ with rfl | ⟨l₂', z', rfl⟩
  · obtain ⟨rfl, hzx⟩ := List.append_inj' (he : sent ++ [z] = l₁ ++ [x]) rfl
    obtain rfl : z = x := by simpa using hzx
    exact hz hx hn
  · have he' : sent ++ [z] = (l₁ ++ x :: l₂') ++ [z'] := by simpa using he
    exact h l₁ x l₂' (List.append_inj' he' rfl).1 hx hn

omit [DecidableEq ι] in
/-- **Transmissions in rank order.** In a log whose firsts are ordered, what has the smaller rank is
first transmitted first. -/
lemma FirstsOrdered.findIdx_lt {sent : List ι} (h : FirstsOrdered tracked rank sent)
    {p q : ι → Bool} (hp : ∀ x, p x = true → tracked x = true)
    (hq : ∀ y, q y = true → tracked y = true)
    (hlt : ∀ x y, p x = true → q y = true → rank x < rank y) {i j : ℕ}
    (hi : sent.findIdx? p = some i) (hj : sent.findIdx? q = some j) : i < j := by
  obtain ⟨hi', hpi, hmin⟩ := List.findIdx?_eq_some_iff_getElem.mp hi
  obtain ⟨hj', hqj, -⟩ := List.findIdx?_eq_some_iff_getElem.mp hj
  by_contra hij
  have hne : i ≠ j := by
    rintro rfl
    exact absurd (hlt _ _ hpi hqj) (Nat.lt_irrefl _)
  -- the first item satisfying `p` splits the log with one satisfying `q` on its left
  have hsplit : sent = sent.take i ++ sent[i] :: sent.drop (i + 1) := by
    rw [← List.drop_eq_getElem_cons hi', List.take_append_drop]
  have hnot : sent[i] ∉ sent.take i := by
    intro hm
    obtain ⟨k, hk, hxk⟩ := List.mem_take_iff_getElem.mp hm
    have := hmin k (by omega)
    rw [hxk, hpi] at this
    exact this rfl
  have hmem : sent[j] ∈ sent.take i := List.mem_take_iff_getElem.mpr ⟨j, by omega, rfl⟩
  have h₁ := h _ _ _ hsplit (hp _ hpi) hnot _ hmem (hq _ hqj)
  exact absurd (Nat.lt_trans h₁ (hlt _ _ hpi hqj)) (Nat.lt_irrefl _)

variable (tracked rank) in
/-- The situation in which the first item of `batch` is handled: as `Ordered`, with the batch lying
between the buffer and the other batches. -/
structure Pending (o : Outbox ι) (batch : List ι) : Prop where
  noRetries : o.retries = []
  sorted : (waiting tracked o.sent (o.buffer ++ (batch ++ o.batches.flatten))).Pairwise fun x y =>
    rank x < rank y
  alone : waiting tracked o.sent o.batches.flatten = [] ∨ waiting tracked o.sent batch.tail = []
  single : o.batches.Pairwise fun b b' =>
    waiting tracked o.sent b = [] ∨ waiting tracked o.sent b' = []
  emptied : o.online = true → waiting tracked o.sent o.buffer = []
  later : ∀ x ∈ waiting tracked o.sent (o.buffer ++ (batch ++ o.batches.flatten)), ∀ y ∈ o.sent,
    tracked y = true → rank y < rank x
  firsts : FirstsOrdered tracked rank o.sent

/-- What waits after the first item of a batch was handled waited before. -/
lemma waiting_pump_sublist {sent buffer buffer' rest : List ι} {x : ι}
    {bs : List (List ι)} (hb : buffer'.Sublist (buffer ++ [x]))
    (halone : waiting tracked sent bs.flatten = [] ∨ waiting tracked sent rest = []) :
    (waiting tracked sent (buffer' ++ (bs ++ [rest]).flatten)).Sublist
      (waiting tracked sent (buffer ++ (x :: rest ++ bs.flatten))) := by
  have hbuf : (waiting tracked sent buffer').Sublist (waiting tracked sent (buffer ++ [x])) :=
    waiting_sublist tracked hb
  have hx : waiting tracked sent (x :: rest) =
      waiting tracked sent [x] ++ waiting tracked sent rest := waiting_append tracked sent [x] rest
  simp only [List.flatten_append, List.flatten_singleton, waiting_append, hx] at hbuf ⊢
  rcases halone with h | h
  · simpa [h] using hbuf.append (.refl (waiting tracked sent rest))
  · simpa [h] using hbuf.append (.refl (waiting tracked sent bs.flatten))

/-- **Handling the first item of a batch keeps the order.**

**Proof sketch.** What waits afterwards waited before, in the same order, except for the item if
it was transmitted. In that case the outbox is online, so nothing waits in the buffer and the item
is the first of all that wait: the others have a larger rank. -/
lemma Pending.pump (cap : ℕ) {o : Outbox ι} {batch : List ι} (h : Pending tracked rank o batch) :
    Ordered tracked rank (pump cap .delivered batch o) := by
  cases batch with
  | nil =>
    exact ⟨h.noRetries, h.sorted, h.single, h.emptied, h.later, h.firsts⟩
  | cons x rest =>
    have hb := store_buffer_sublist cap x o
    have halone : waiting tracked o.sent o.batches.flatten = [] ∨
        waiting tracked o.sent rest = [] := h.alone
    have hsub := waiting_pump_sublist hb halone
    have hsingle : (o.batches ++ [rest]).Pairwise fun b b' =>
        waiting tracked o.sent b = [] ∨ waiting tracked o.sent b' = [] := by
      refine List.pairwise_append.mpr ⟨h.single, List.pairwise_singleton _ _, fun b hb b' hb' => ?_⟩
      obtain rfl := List.mem_singleton.mp hb'
      rcases halone with ha | ha
      · exact .inl (waiting_flatten_eq_nil.mp ha b hb)
      · exact .inr ha
    cases hon : o.online with
    | false =>
      have hp : Outbox.pump cap .delivered (x :: rest) o =
          { store cap x o with batches := o.batches ++ [rest] } := by
        simp [Outbox.pump, attempt, hon]
      rw [hp]
      exact ⟨h.noRetries, h.sorted.sublist hsub, hsingle, fun hon' => by simp [hon] at hon',
        fun z hz => h.later z (hsub.subset hz), h.firsts⟩
    | true =>
      have hp : Outbox.pump cap .delivered (x :: rest) o =
          { store cap x o with batches := o.batches ++ [rest], sent := o.sent ++ [x] } := by
        simp [Outbox.pump, attempt, hon]
      rw [hp]
      have hempty : waiting tracked o.sent o.buffer = [] := h.emptied hon
      have hsub' := (waiting_concat_sublist tracked o.sent
        ((store cap x o).buffer ++ (o.batches ++ [rest]).flatten) x).trans hsub
      have hsent : ∀ {l : List ι}, waiting tracked o.sent l = [] →
          waiting tracked (o.sent ++ [x]) l = [] := fun {l} hl => by
        have := waiting_concat_sublist tracked o.sent l x
        rw [hl] at this
        exact List.sublist_nil.mp this
      refine ⟨h.noRetries, h.sorted.sublist hsub', ?_, fun _ => ?_, fun z hz y hy hty => ?_,
        h.firsts.concat fun ht hx y hy hty => ?_⟩
      · exact hsingle.imp fun hbb => hbb.imp hsent hsent
      · -- nothing waited in the buffer, and the stored item has been transmitted
        have hx0 : waiting tracked (o.sent ++ [x]) (o.buffer ++ [x]) = [] := by
          rw [waiting_append, hsent hempty]
          simp [waiting]
        exact waiting_eq_nil_of_sublist hb hx0
      · have hz' := hsub'.subset hz
        rcases List.mem_append.mp hy with hy | hy
        · exact h.later z hz' y hy hty
        · obtain rfl := List.mem_singleton.mp hy
          by_cases hys : y ∈ o.sent
          · exact h.later z hz' y hys hty
          · -- `y` is the first item that waits
            have hfront : waiting tracked o.sent (o.buffer ++ (y :: rest ++ o.batches.flatten)) =
                y :: waiting tracked o.sent (rest ++ o.batches.flatten) := by
              rw [waiting_append, hempty]
              simp [waiting, hty, hys]
            have hne : z ≠ y := by
              rintro rfl
              simp [mem_waiting] at hz
            have hsorted := h.sorted
            rw [hfront, List.pairwise_cons] at hsorted
            rw [hfront] at hz'
            exact hsorted.1 z ((List.mem_cons.mp hz').resolve_left hne)
      · exact h.later x (mem_waiting.mpr ⟨by simp, ht, hx⟩) y hy hty

/-- Loss keeps the order. -/
lemma Ordered.quiet {o o' : Outbox ι} (h : Ordered tracked rank o) (hq : Quiet o o') :
    Ordered tracked rank o' := by
  have hsub : (waiting tracked o'.sent (o'.buffer ++ o'.batches.flatten)).Sublist
      (waiting tracked o.sent (o.buffer ++ o.batches.flatten)) := by
    rw [hq.sent, hq.buffer]
    exact waiting_sublist tracked ((List.Sublist.refl _).append hq.batches.flatten)
  refine ⟨List.sublist_nil.mp (h.noRetries ▸ hq.retries), h.sorted.sublist hsub, ?_, ?_, ?_, ?_⟩
  · rw [hq.sent]
    exact h.single.sublist hq.batches
  · rw [hq.sent, hq.buffer]
    exact fun hon => h.emptied (hq.online hon)
  · intro x hx y hy
    exact h.later x (hsub.subset hx) y (hq.sent ▸ hy)
  · rw [hq.sent]
    exact h.firsts

/-- Emptying the buffer keeps the order. -/
lemma Ordered.clear {o : Outbox ι} (h : Ordered tracked rank o) :
    Ordered tracked rank { o with buffer := [] } := by
  have hsub : (waiting tracked o.sent ([] ++ o.batches.flatten)).Sublist
      (waiting tracked o.sent (o.buffer ++ o.batches.flatten)) :=
    waiting_sublist tracked ((List.nil_sublist _).append (.refl _))
  exact ⟨h.noRetries, h.sorted.sublist hsub, h.single, fun _ => rfl,
    fun x hx => h.later x (hsub.subset hx), h.firsts⟩

/-- Giving an item newer than all others while no batch has anything waiting keeps the order. -/
lemma Ordered.give {cap : ℕ} {o : Outbox ι} {x : ι} (h : Ordered tracked rank o)
    (hb : waiting tracked o.sent o.batches.flatten = [])
    (hnew : ∀ y ∈ o.buffer ++ o.sent, tracked y = true → rank y < rank x) :
    Ordered tracked rank (attempt .delivered x (store cap x o)) := by
  -- the item given is a batch of its own whose rest is empty
  have hp : Pending tracked rank o [x] := by
    have hw : waiting tracked o.sent (o.buffer ++ ([x] ++ o.batches.flatten)) =
        waiting tracked o.sent o.buffer ++ waiting tracked o.sent [x] := by
      rw [waiting_append, waiting_append, hb, List.append_nil]
    have hbuf : (waiting tracked o.sent o.buffer).Sublist
        (waiting tracked o.sent (o.buffer ++ o.batches.flatten)) :=
      waiting_sublist tracked (List.sublist_append_left _ _)
    refine ⟨h.noRetries, ?_, .inl hb, h.single, h.emptied, ?_, h.firsts⟩
    · rw [hw]
      refine List.pairwise_append.mpr ⟨h.sorted.sublist hbuf, ?_, fun y hy z hz => ?_⟩
      · exact (List.pairwise_singleton _ x).sublist List.filter_sublist
      · obtain rfl : z = x := List.mem_singleton.mp (mem_waiting.mp hz).1
        exact hnew y (List.mem_append_left _ (mem_waiting.mp hy).1) (mem_waiting.mp hy).2.1
    · rw [hw]
      intro z hz y hy hty
      rcases List.mem_append.mp hz with hz | hz
      · exact h.later z (hbuf.subset hz) y hy hty
      · obtain rfl : z = x := List.mem_singleton.mp (mem_waiting.mp hz).1
        exact hnew y (List.mem_append_right _ hy) hty
  refine (hp.pump cap).quiet ⟨rfl, ?_, .refl _, rfl, id⟩
  simp [Outbox.pump]

/-- Flushing keeps the order, unless both the flushed items and a batch under way have something
waiting. -/
lemma Ordered.flush {o : Outbox ι} (h : Ordered tracked rank o) {kept rs : List ι}
    {bs : List (List ι)} (hk : kept.Sublist o.buffer) (hbs : bs.Sublist o.batches)
    (hrs : rs.Sublist o.retries)
    (halone : waiting tracked o.sent o.batches.flatten = [] ∨
      waiting tracked o.sent kept.tail = []) :
    Pending tracked rank { o with buffer := [], batches := bs, retries := rs, online := true }
      kept := by
  have hsub : (waiting tracked o.sent ([] ++ (kept ++ bs.flatten))).Sublist
      (waiting tracked o.sent (o.buffer ++ o.batches.flatten)) :=
    waiting_sublist tracked (hk.append hbs.flatten)
  exact ⟨List.sublist_nil.mp (h.noRetries ▸ hrs), h.sorted.sublist hsub,
    halone.imp_left (waiting_eq_nil_of_sublist hbs.flatten), h.single.sublist hbs, fun _ => rfl,
    fun x hx => h.later x (hsub.subset hx), h.firsts⟩

/-- The situation when a batch under way is resumed. -/
lemma Ordered.resume {o : Outbox ι} (h : Ordered tracked rank o) {batch rs : List ι}
    {l₁ l₂ bs : List (List ι)} (hb : o.batches = l₁ ++ batch :: l₂) (hbs : bs.Sublist (l₁ ++ l₂))
    (hrs : rs.Sublist o.retries) :
    Pending tracked rank { o with batches := bs, retries := rs } batch := by
  have hsingle := h.single
  rw [hb] at hsingle
  have hrest : bs.Sublist o.batches :=
    hbs.trans (hb ▸ (List.Sublist.refl l₁).append (List.sublist_cons_self batch l₂))
  -- the batch has something waiting only if no other one has
  have halone : waiting tracked o.sent batch = [] ∨
      ∀ b ∈ l₁ ++ l₂, waiting tracked o.sent b = [] := by
    by_cases hw : waiting tracked o.sent batch = []
    · exact .inl hw
    · refine .inr fun b hmem => ?_
      obtain ⟨-, h₂, h₁₂⟩ := List.pairwise_append.mp hsingle
      rcases List.mem_append.mp hmem with hmem | hmem
      · exact (h₁₂ b hmem batch List.mem_cons_self).resolve_right hw
      · exact ((List.pairwise_cons.mp h₂).1 b hmem).resolve_left hw
  have hothers : (∀ b ∈ l₁ ++ l₂, waiting tracked o.sent b = []) →
      waiting tracked o.sent bs.flatten = [] := fun ho =>
    waiting_flatten_eq_nil.mpr fun b hmem => ho b (hbs.subset hmem)
  have hsub : (waiting tracked o.sent (o.buffer ++ (batch ++ bs.flatten))).Sublist
      (waiting tracked o.sent (o.buffer ++ o.batches.flatten)) := by
    rw [waiting_append, waiting_append, waiting_append tracked o.sent o.buffer]
    refine (List.Sublist.refl _).append ?_
    rcases halone with hw | hw
    · rw [hw, List.nil_append]
      exact waiting_sublist tracked hrest.flatten
    · rw [hothers hw, List.append_nil, hb]
      exact waiting_sublist tracked (List.sublist_flatten_of_mem (by simp))
  exact ⟨List.sublist_nil.mp (h.noRetries ▸ hrs), h.sorted.sublist hsub,
    halone.symm.imp hothers (waiting_eq_nil_of_sublist (List.tail_sublist batch)),
    h.single.sublist hrest, h.emptied, fun x hx => h.later x (hsub.subset hx), h.firsts⟩

/-- **Rank order is preserved** by every step that meets `OrderGuard`. -/
theorem Ordered.step {cap : ℕ} {o o' : Outbox ι} {l : Label ι} (h : Ordered tracked rank o)
    (hg : OrderGuard tracked rank o l) (hs : Step cap o l o') : Ordered tracked rank o' := by
  cases hs with
  | quiet hq => exact h.quiet hq
  | clear hq => exact h.clear.quiet hq
  | give x a =>
    obtain ⟨rfl, hb, hnew⟩ := hg
    exact h.give hb hnew
  | stock xs =>
    have hxs : waiting tracked o.sent xs = [] := by
      simp only [waiting, List.filter_eq_nil_iff]
      exact fun x hx => by simp [hg x hx]
    have hw : waiting tracked o.sent ((o.buffer ++ xs) ++ o.batches.flatten) =
        waiting tracked o.sent (o.buffer ++ o.batches.flatten) := by
      simp only [waiting_append, hxs, List.append_nil]
    refine ⟨h.noRetries, ?_, h.single, fun hon => ?_, fun x hx => h.later x (hw ▸ hx), h.firsts⟩
    · dsimp only
      rw [hw]
      exact h.sorted
    · dsimp only
      rw [waiting_append, hxs, h.emptied hon, List.append_nil]
  | flush kept a bs rs hk hbs hrs =>
    obtain ⟨rfl, halone⟩ := hg
    exact (h.flush hk hbs hrs halone).pump cap
  | resume batch a l₁ l₂ bs rs hb hbs hrs =>
    obtain rfl : a = .delivered := hg
    exact (h.resume hb hbs hrs).pump cap
  | retry x a bs l₁ l₂ rs hx hbs hrs =>
    rw [h.noRetries] at hx
    exact absurd hx (by simp)

end Order

/-! ## The buffer as a record -/

section Recent

/-- The last `cap` items of a list. -/
def recent (cap : ℕ) (l : List ι) : List ι := l.drop (l.length - cap)

/-- The number of recent items. -/
lemma length_recent (cap : ℕ) (l : List ι) : (recent cap l).length = min cap l.length := by
  simp only [recent, List.length_drop]
  omega

/-- Storing an item in a buffer that holds the last items given keeps it so. -/
lemma recent_store {cap : ℕ} (hcap : 0 < cap) {x : ι} {o : Outbox ι} {given : List ι}
    (h : o.buffer = recent cap given) : (store cap x o).buffer = recent cap (given ++ [x]) := by
  have hlen := length_recent cap given
  simp only [store, h, hlen]
  by_cases hfull : cap ≤ given.length
  · rw [if_pos (by omega)]
    simp only [recent, List.tail_drop, List.length_append, List.length_singleton]
    rw [List.drop_append_of_le_length (by omega)]
    congr 2
    omega
  · rw [if_neg (by omega)]
    simp only [recent, List.length_append, List.length_singleton]
    rw [show given.length - cap = 0 by omega, show given.length + 1 - cap = 0 by omega]
    simp

/-- Storing items without a limit keeps the buffer a record of the last items given as long as they
fit. -/
lemma recent_append {cap : ℕ} {given xs : List ι}
    (h : (recent cap given).length + xs.length ≤ cap) :
    recent cap given ++ xs = recent cap (given ++ xs) := by
  rw [length_recent] at h
  by_cases hx : xs = []
  · simp [hx]
  · have hpos : 0 < xs.length := List.length_pos_iff.mpr hx
    simp only [recent, List.length_append]
    rw [show given.length - cap = 0 by omega, show given.length + xs.length - cap = 0 by omega]
    simp

/-- What a label adds to the record of given items, or that it starts a new one. -/
def Label.record (given : List ι) : Label ι → List ι
  | .give x _ => given ++ [x]
  | .stock xs => given ++ xs
  | .clear => []
  | _ => given

/-- The buffer is the record of the last `cap` items given, and no batch has anything left to
store. -/
structure Recorded (cap : ℕ) (given : List ι) (o : Outbox ι) : Prop where
  buffer : o.buffer = recent cap given
  idle : ∀ b ∈ o.batches, b = []

/-- The condition for a step to keep the record: a flush finds at most one item and keeps it, and
items are stocked only if they fit. -/
def RecordGuard (cap : ℕ) (o : Outbox ι) : Label ι → Prop
  | .flush kept _ => kept = o.buffer ∧ o.buffer.length ≤ 1
  | .stock xs => o.buffer.length + xs.length ≤ cap
  | _ => True

/-- Handling the first item of a batch with an empty buffer stores this item. -/
lemma pump_buffer {cap : ℕ} (hcap : 0 < cap) (a : Attempt) (batch : List ι) {o : Outbox ι}
    (ho : o.buffer = []) : (pump cap a batch o).buffer = batch.take 1 := by
  cases batch with
  | nil => exact ho
  | cons x rest => simp [pump, store, ho, Nat.pos_iff_ne_zero.mp hcap]

/-- **The record is kept** by every step that meets `RecordGuard`. -/
theorem Recorded.step {cap : ℕ} (hcap : 0 < cap) {given : List ι} {o o' : Outbox ι} {l : Label ι}
    (h : Recorded cap given o) (hg : RecordGuard cap o l) (hs : Step cap o l o') :
    Recorded cap (l.record given) o' := by
  cases hs with
  | quiet hq => exact ⟨hq.buffer.trans h.buffer, fun b hb => h.idle b (hq.batches.subset hb)⟩
  | clear hq =>
    exact ⟨hq.buffer.trans (by simp [recent, Label.record]),
      fun b hb => h.idle b (hq.batches.subset hb)⟩
  | give x a =>
    refine ⟨?_, fun b hb => h.idle b (by simpa using hb)⟩
    rw [attempt_buffer]
    exact recent_store hcap h.buffer
  | stock xs =>
    have hfit : o.buffer.length + xs.length ≤ cap := hg
    rw [h.buffer] at hfit
    refine ⟨?_, h.idle⟩
    dsimp only
    rw [h.buffer]
    exact recent_append hfit
  | flush kept a bs rs hk hbs hrs =>
    obtain ⟨hkept, hlen⟩ := hg
    refine ⟨?_, fun b hb => ?_⟩
    · have htake : kept.take 1 = kept := List.take_of_length_le (hkept ▸ hlen)
      rw [pump_buffer hcap a kept rfl, htake, hkept]
      exact h.buffer
    · rw [← hkept] at hlen
      match kept, hlen with
      | [], _ => exact h.idle b (hbs.subset hb)
      | [x], _ =>
        simp only [pump, attempt_batches, store_batches, List.mem_append, List.mem_singleton] at hb
        exact hb.elim (fun hb => h.idle b (hbs.subset hb)) id
  | resume batch a l₁ l₂ bs rs hb hbs hrs =>
    obtain rfl : batch = [] := h.idle batch (by simp [hb])
    refine ⟨h.buffer, fun b hb' => h.idle b ?_⟩
    rw [hb]
    exact ((List.Sublist.refl l₁).append (List.sublist_cons_self [] l₂)).subset (hbs.subset hb')
  | retry x a bs l₁ l₂ rs hx hbs hrs =>
    refine ⟨by rw [attempt_buffer]; exact h.buffer, fun b hb => h.idle b (hbs.subset ?_)⟩
    simpa using hb

/-- **The record is lost** by every step that does not meet `RecordGuard`.

**Proof sketch.** A flush leaves at most one item in the buffer, and none if it keeps none; stocked
items that do not fit make the buffer too long. -/
theorem Recorded.not_step {cap : ℕ} (hcap : 0 < cap) {given : List ι} {o o' : Outbox ι}
    {l : Label ι} (h : Recorded cap given o) (hg : ¬ RecordGuard cap o l) (hs : Step cap o l o') :
    o'.buffer ≠ recent cap (l.record given) := by
  cases hs with
  | stock xs =>
    intro he
    have hlen := congrArg List.length he
    rw [length_recent, List.length_append] at hlen
    exact hg (by simp only [RecordGuard]; omega)
  | flush kept a bs rs hk hbs hrs =>
    intro he
    rw [pump_buffer hcap a kept rfl] at he
    have he' : kept.take 1 = o.buffer := he.trans h.buffer.symm
    have hlen : o.buffer.length ≤ 1 := by
      rw [← he', List.length_take]
      omega
    have hkept : kept.length ≤ 1 := Nat.le_trans hk.length_le hlen
    rw [List.take_of_length_le hkept] at he'
    exact hg ⟨he', hlen⟩
  | quiet | clear | give | resume | retry => exact absurd trivial hg

end Recent

end Outbox

end Foundations
