import Mathlib.Logic.Function.Basic
import Mathlib.Data.List.Basic

/-!
# The Rate-Limited Work Queue

The work queue of client-go, `workqueue.NewRateLimitingQueue` with the
`DefaultControllerRateLimiter`, as the HTTP trigger controller uses it. It is a FIFO of keys
that holds a key at most once until the key is handed out (`dirty`), never hands out a key
that a worker is still processing but queues it again when the worker is `Done` with it
(`processing`), and keeps the keys given to `AddRateLimited` aside until their delay has
passed (`waiting`). The rate limiter counts the failures of each key (`NumRequeues`) until
the key is forgotten.

The delays themselves are not modelled: no result depends on their length, so a waiting key
may become ready at any step, which covers every real timing.

## Main results

* `WorkQueue.Valid`: every dirty key is queued or being processed; preserved by `add`,
  `get`, `done` and the rate limiter.
* `WorkQueue.mem_add`: after `add k`, the key `k` is queued, or processed and dirty, so it
  will be handed out again.
* `WorkQueue.Disciplined`: each key holds one place (absent, queued once and dirty, or
  processed and dirty at most once) and waits at most once; kept by every operation.
-/

namespace Kubeless

/-- A rate-limited work queue of keys `κ`. -/
structure WorkQueue (κ : Type) where
  /-- The keys waiting for a worker, in order. -/
  queue : List κ
  /-- The keys added since they were last handed out. -/
  dirty : List κ
  /-- The keys a worker holds. -/
  processing : List κ
  /-- The keys given to `AddRateLimited` whose delay has not passed. -/
  waiting : List κ
  /-- The rate limiter's count of the failures of each key. -/
  requeues : κ → Nat

namespace WorkQueue

variable {κ : Type} [DecidableEq κ]

/-- The queue of a new controller. -/
def empty : WorkQueue κ := ⟨[], [], [], [], fun _ => 0⟩

/-- `Add(item)`: nothing for a dirty key; a key being processed is only marked dirty; any
other key joins the end of the queue. -/
def add (q : WorkQueue κ) (k : κ) : WorkQueue κ :=
  if k ∈ q.dirty then q
  else if k ∈ q.processing then { q with dirty := k :: q.dirty }
  else { q with dirty := k :: q.dirty, queue := q.queue ++ [k] }

/-- `Get()`: the first key, now processed and no longer dirty. -/
def get (q : WorkQueue κ) : Option (κ × WorkQueue κ) :=
  match q.queue with
  | [] => none
  | k :: rest =>
      some (k, { q with queue := rest, processing := k :: q.processing, dirty := q.dirty.erase k })

/-- `Done(item)`: the key is no longer processed, and is queued again if it was added while
it was. -/
def done (q : WorkQueue κ) (k : κ) : WorkQueue κ :=
  if k ∈ q.dirty then { q with processing := q.processing.erase k, queue := q.queue ++ [k] }
  else { q with processing := q.processing.erase k }

/-- `NumRequeues(item)`. -/
def numRequeues (q : WorkQueue κ) (k : κ) : Nat := q.requeues k

/-- `AddRateLimited(item)`: one more failure, and the key waits for its delay; a key already
waiting is not added twice. -/
def addRateLimited (q : WorkQueue κ) (k : κ) : WorkQueue κ :=
  { q with requeues := Function.update q.requeues k (q.requeues k + 1)
           waiting := if k ∈ q.waiting then q.waiting else q.waiting ++ [k] }

/-- `Forget(item)`: the failure count is reset. -/
def forget (q : WorkQueue κ) (k : κ) : WorkQueue κ :=
  { q with requeues := Function.update q.requeues k 0 }

/-- The delay of a waiting key has passed, and the key is added. -/
def ready (q : WorkQueue κ) (k : κ) : Option (WorkQueue κ) :=
  if k ∈ q.waiting then some ({ q with waiting := q.waiting.erase k }.add k) else none

/-- Every dirty key is queued or being processed. -/
def Valid (q : WorkQueue κ) : Prop := ∀ k ∈ q.dirty, k ∈ q.queue ∨ k ∈ q.processing

omit [DecidableEq κ] in
theorem valid_empty : (empty : WorkQueue κ).Valid := by simp [Valid, empty]

theorem get_eq_some {q q' : WorkQueue κ} {k : κ} (h : q.get = some (k, q')) :
    q.queue = k :: q'.queue ∧ q'.processing = k :: q.processing ∧ q'.dirty = q.dirty.erase k ∧
      q'.waiting = q.waiting ∧ q'.requeues = q.requeues := by
  unfold get at h
  split at h
  · cases h
  · cases h; exact ⟨‹_›, rfl, rfl, rfl, rfl⟩

/-- **A key just added will be handed out**: it is queued, or a worker holds it and it is
dirty, so that `done` queues it. -/
theorem mem_add {q : WorkQueue κ} (hq : q.Valid) (k : κ) :
    k ∈ (q.add k).queue ∨ (k ∈ q.processing ∧ k ∈ (q.add k).dirty) := by
  unfold add
  split_ifs with hd hp
  · rcases hq k hd with h | h
    · exact .inl h
    · exact .inr ⟨h, hd⟩
  · exact .inr ⟨hp, List.mem_cons_self _ _⟩
  · exact .inl (List.mem_append_right _ (List.mem_singleton_self _))

theorem subset_add (q : WorkQueue κ) (k : κ) :
    q.queue ⊆ (q.add k).queue ∧ q.dirty ⊆ (q.add k).dirty ∧
      (q.add k).processing = q.processing := by
  unfold add
  split_ifs
  · exact ⟨List.Subset.refl _, List.Subset.refl _, rfl⟩
  · exact ⟨List.Subset.refl _, List.subset_cons_self _ _, rfl⟩
  · exact ⟨List.subset_append_left _ _, List.subset_cons_self _ _, rfl⟩

theorem Valid.add {q : WorkQueue κ} (hq : q.Valid) (k : κ) : (q.add k).Valid := by
  intro k' hk'
  unfold WorkQueue.add at hk' ⊢
  split_ifs at hk' ⊢ with hd hp
  · exact hq k' hk'
  · rcases List.mem_cons.mp hk' with rfl | h
    · exact .inr hp
    · exact hq k' h
  · rcases List.mem_cons.mp hk' with rfl | h
    · exact .inl (List.mem_append_right _ (List.mem_singleton_self _))
    · exact (hq k' h).imp (List.mem_append_left _) id

theorem Valid.get {q q' : WorkQueue κ} {k : κ} (hq : q.Valid) (h : q.get = some (k, q')) :
    q'.Valid := by
  obtain ⟨hqueue, hproc, hdirty, -, -⟩ := get_eq_some h
  intro k' hk'
  rw [hdirty] at hk'
  rw [hproc]
  rcases hq k' (List.mem_of_mem_erase hk') with h' | h'
  · rw [hqueue] at h'
    rcases List.mem_cons.mp h' with rfl | h'
    · exact .inr (List.mem_cons_self _ _)
    · exact .inl h'
  · exact .inr (List.mem_cons_of_mem _ h')

@[simp] theorem done_dirty (q : WorkQueue κ) (k : κ) : (q.done k).dirty = q.dirty := by
  unfold done; split_ifs <;> rfl

@[simp] theorem done_processing (q : WorkQueue κ) (k : κ) :
    (q.done k).processing = q.processing.erase k := by
  unfold done; split_ifs <;> rfl

/-- A key dirty when its worker is done is queued again. -/
theorem mem_done_of_mem_dirty {q : WorkQueue κ} {k : κ} (h : k ∈ q.dirty) :
    k ∈ (q.done k).queue := by
  simp [done, h]

theorem subset_done (q : WorkQueue κ) (k : κ) : q.queue ⊆ (q.done k).queue := by
  unfold done
  split_ifs
  · exact List.subset_append_left _ _
  · exact List.Subset.refl _

theorem Valid.done {q : WorkQueue κ} (hq : q.Valid) (k : κ) : (q.done k).Valid := by
  intro k' hk'
  rw [done_dirty] at hk'
  rw [done_processing]
  by_cases hkk : k' = k
  · subst hkk
    exact .inl (mem_done_of_mem_dirty hk')
  · exact (hq k' hk').imp (fun h => subset_done q k h) (List.mem_erase_of_ne hkk).mpr

theorem ready_eq_some {q q' : WorkQueue κ} {k : κ} (h : q.ready k = some q') :
    q' = { q with waiting := q.waiting.erase k }.add k := by
  unfold WorkQueue.ready at h
  split_ifs at h
  exact (Option.some.inj h).symm

theorem Valid.ready {q q' : WorkQueue κ} {k : κ} (hq : q.Valid) (h : q.ready k = some q') :
    q'.Valid := by
  rw [ready_eq_some h]
  exact Valid.add (show ({ q with waiting := q.waiting.erase k } : WorkQueue κ).Valid from hq) k

/-! ### The place of one key -/

/-- How many times the key `k` is queued, dirty, waiting and processed. -/
def slots (q : WorkQueue κ) (k : κ) : Nat × Nat × Nat × Nat :=
  (q.queue.count k, q.dirty.count k, q.waiting.count k, q.processing.count k)

theorem slots_add_of_ne (q : WorkQueue κ) {k k' : κ} (h : k' ≠ k) :
    (q.add k').slots k = q.slots k := by
  unfold add slots
  split_ifs <;> simp [List.count_cons, List.count_append, h]

/-- Adding a key that is neither dirty nor processed queues it. -/
theorem slots_add_self {q : WorkQueue κ} {k : κ} (hd : k ∉ q.dirty) (hp : k ∉ q.processing) :
    (q.add k).slots k =
      (q.queue.count k + 1, q.dirty.count k + 1, q.waiting.count k, q.processing.count k) := by
  simp [add, slots, hd, hp, List.count_cons, List.count_append]

theorem slots_get_of_ne {q q' : WorkQueue κ} {k k' : κ} (h : q.get = some (k', q'))
    (hk : k' ≠ k) : q'.slots k = q.slots k := by
  obtain ⟨hq, hp, hd, hw, -⟩ := get_eq_some h
  simp [slots, hq, hp, hd, hw, List.count_cons, List.count_erase_of_ne (Ne.symm hk), hk]

/-- Getting a key queued and dirty once leaves it only processed. -/
theorem slots_get_self {q q' : WorkQueue κ} {k : κ} (h : q.get = some (k, q'))
    (hq : q.queue.count k = 1) (hd : q.dirty.count k = 1) :
    q'.slots k = (0, 0, q.waiting.count k, q.processing.count k + 1) := by
  obtain ⟨hq', hp, hd', hw, -⟩ := get_eq_some h
  rw [hq', List.count_cons_self] at hq
  simp [slots, hp, hd', hw, List.count_erase_self, hd, List.count_cons, Nat.add_right_cancel hq]

theorem slots_done_of_ne (q : WorkQueue κ) {k k' : κ} (h : k' ≠ k) :
    (q.done k').slots k = q.slots k := by
  unfold done slots
  split_ifs <;> simp [List.count_append, List.count_erase_of_ne (Ne.symm h), List.count_cons, h]

/-- A key that was not added while processed is no longer processed once done. -/
theorem slots_done_self {q : WorkQueue κ} {k : κ} (hd : k ∉ q.dirty) :
    (q.done k).slots k =
      (q.queue.count k, q.dirty.count k, q.waiting.count k, q.processing.count k - 1) := by
  simp [done, slots, hd, List.count_erase_self]

theorem slots_addRateLimited_of_ne (q : WorkQueue κ) {k k' : κ} (h : k' ≠ k) :
    (q.addRateLimited k').slots k = q.slots k := by
  unfold addRateLimited slots
  split_ifs <;> simp [List.count_append, List.count_cons, h]

/-- A key not yet waiting waits once after `AddRateLimited`. -/
theorem slots_addRateLimited_self {q : WorkQueue κ} {k : κ} (hw : k ∉ q.waiting) :
    (q.addRateLimited k).slots k =
      (q.queue.count k, q.dirty.count k, q.waiting.count k + 1, q.processing.count k) := by
  simp [addRateLimited, slots, hw, List.count_append]

@[simp] theorem slots_forget (q : WorkQueue κ) (k k' : κ) : (q.forget k').slots k = q.slots k :=
  rfl

theorem requeues_addRateLimited (q : WorkQueue κ) (k k' : κ) :
    (q.addRateLimited k').requeues k = if k = k' then q.requeues k + 1 else q.requeues k := by
  by_cases h : k = k' <;> simp [addRateLimited, Function.update_apply, h]

theorem requeues_forget (q : WorkQueue κ) (k k' : κ) :
    (q.forget k').requeues k = if k = k' then 0 else q.requeues k := by
  by_cases h : k = k' <;> simp [forget, Function.update_apply, h]

omit [DecidableEq κ] in
@[simp] theorem requeues_add (q : WorkQueue κ) (k k' : κ) [DecidableEq κ] :
    (q.add k').requeues k = q.requeues k := by
  unfold add; split_ifs <;> rfl

@[simp] theorem requeues_done (q : WorkQueue κ) (k k' : κ) :
    (q.done k').requeues k = q.requeues k := by
  unfold done; split_ifs <;> rfl

theorem slots_ready_of_ne {q q' : WorkQueue κ} {k k' : κ} (h : q.ready k' = some q')
    (hk : k' ≠ k) : q'.slots k = q.slots k := by
  rw [ready_eq_some h, slots_add_of_ne _ hk]
  simp [slots, List.count_erase_of_ne (Ne.symm hk)]

/-- A key waiting once, and neither dirty nor processed, is queued once its delay passes. -/
theorem slots_ready_self {q q' : WorkQueue κ} {k : κ} (h : q.ready k = some q')
    (hd : k ∉ q.dirty) (hp : k ∉ q.processing) :
    q'.slots k = (q.queue.count k + 1, q.dirty.count k + 1, q.waiting.count k - 1,
      q.processing.count k) := by
  rw [ready_eq_some h, slots_add_self
    (show k ∉ ({ q with waiting := q.waiting.erase k } : WorkQueue κ).dirty from hd) hp]
  simp [List.count_erase_self]

theorem requeues_ready {q q' : WorkQueue κ} {k' : κ} (h : q.ready k' = some q') (k : κ) :
    q'.requeues k = q.requeues k := by
  rw [ready_eq_some h, requeues_add]

/-! ### The discipline of the queue -/

/-- The places a key can hold, as counted by `slots`: absent; queued once, and so dirty; or
processed, and dirty when added again since `Get`. In each it waits at most once for its
delay. -/
def Place : Nat × Nat × Nat × Nat → Prop
  | (queued, dirty, waiting, processed) => waiting ≤ 1 ∧
      (queued = 0 ∧ dirty = 0 ∧ processed = 0 ∨ queued = 1 ∧ dirty = 1 ∧ processed = 0 ∨
        queued = 0 ∧ dirty ≤ 1 ∧ processed = 1)

instance : DecidablePred Place := fun ⟨_, _, _, _⟩ => inferInstanceAs (Decidable (_ ∧ _))

/-- Every key holds a place. -/
def Disciplined (q : WorkQueue κ) : Prop := ∀ k, Place (q.slots k)

theorem disciplined_empty : (empty : WorkQueue κ).Disciplined := fun _ => by
  simp [slots, empty, Place]

variable {q q' : WorkQueue κ}

theorem Disciplined.add (hq : q.Disciplined) (k : κ) : (q.add k).Disciplined := by
  intro k'
  by_cases hk : k = k'
  swap
  · rw [slots_add_of_ne q hk]; exact hq k'
  subst hk
  have h := hq k
  by_cases hd : k ∈ q.dirty
  · rwa [WorkQueue.add, if_pos hd]
  have hd₀ := List.count_eq_zero.mpr hd
  by_cases hp : k ∈ q.processing
  · -- added while processed: only marked dirty
    have hp₁ := List.count_pos_iff.mpr hp
    simp only [WorkQueue.add, if_neg hd, if_pos hp, Place, slots, List.count_cons_self] at h ⊢
    rcases h with ⟨_, _ | _ | _⟩ <;> omega
  · have hp₀ := List.count_eq_zero.mpr hp
    rw [slots_add_self hd hp]
    simp only [Place, slots] at h ⊢
    rcases h with ⟨_, _ | _ | _⟩ <;> omega

/-- `Get` hands out a queued key, which is then processed once. -/
theorem Disciplined.get (hq : q.Disciplined) {k : κ} (h : q.get = some (k, q')) :
    q'.Disciplined := by
  intro k'
  by_cases hk : k = k'
  swap
  · rw [slots_get_of_ne h hk]; exact hq k'
  subst hk
  have h₀ := hq k
  have hin : 0 < q.queue.count k := by simp [(get_eq_some h).1]
  simp only [Place, slots] at h₀
  rw [slots_get_self h (by omega) (by omega)]
  simp only [Place, true_and]
  rcases h₀ with ⟨_, _ | _ | _⟩ <;> omega

/-- `Done` of a processed key leaves it queued when it is dirty, and absent otherwise. -/
theorem Disciplined.done (hq : q.Disciplined) {k : κ} (hk : k ∈ q.processing) :
    (q.done k).Disciplined := by
  intro k'
  by_cases hkk : k = k'
  swap
  · rw [slots_done_of_ne q hkk]; exact hq k'
  subst hkk
  have h₀ := hq k
  have hp₁ := List.count_pos_iff.mpr hk
  by_cases hd : k ∈ q.dirty
  · have hd₁ := List.count_pos_iff.mpr hd
    simp only [WorkQueue.done, if_pos hd, Place, slots, List.count_append, List.count_singleton_self,
      List.count_erase_self] at h₀ ⊢
    rcases h₀ with ⟨_, _ | _ | _⟩ <;> omega
  · have hd₀ := List.count_eq_zero.mpr hd
    rw [slots_done_self hd]
    simp only [Place, slots] at h₀ ⊢
    rcases h₀ with ⟨_, _ | _ | _⟩ <;> omega

theorem Disciplined.addRateLimited (hq : q.Disciplined) (k : κ) :
    (q.addRateLimited k).Disciplined := by
  intro k'
  by_cases hk : k = k'
  swap
  · rw [slots_addRateLimited_of_ne q hk]; exact hq k'
  subst hk
  by_cases hw : k ∈ q.waiting
  · simpa only [WorkQueue.addRateLimited, if_pos hw] using hq k
  · have h₀ := hq k
    have hw₀ := List.count_eq_zero.mpr hw
    rw [slots_addRateLimited_self hw]
    simp only [Place, slots] at h₀ ⊢
    rcases h₀ with ⟨_, _ | _ | _⟩ <;> omega

theorem Disciplined.forget (hq : q.Disciplined) (k : κ) : (q.forget k).Disciplined := hq

/-- A key whose delay has passed is added; it no longer waits. -/
theorem Disciplined.ready (hq : q.Disciplined) {k : κ} (h : q.ready k = some q') :
    q'.Disciplined := by
  rw [ready_eq_some h]
  refine Disciplined.add (fun k' => ?_) k
  have h₀ := hq k'
  have hle := (q.waiting.erase_sublist k).count_le k'
  simp only [Place, slots] at h₀ ⊢
  rcases h₀ with ⟨_, _ | _ | _⟩ <;> omega

end WorkQueue

end Kubeless
