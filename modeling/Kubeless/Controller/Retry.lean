import Kubeless.Controller.Finalizers

/-!
# The Retry Discipline

`processNextItem` ends each run of `processItem` with the rate limiter of the work queue:
a success forgets the key's failures, a failure requeues the key with a delay while fewer
than `triggerMaxRetries` requeues are counted, and gives up on it (forgets it) after that.
`NumRequeues(key)` is the rate limiter's count, `WorkQueue.requeues`: `AddRateLimited` raises
it by one, `Forget` resets it, and no other operation of the queue touches it.

This module follows one key through a run of the cluster in which the key receives no
further watch event and every attempt on it fails (`Cluster.QuietFailing`). The key is then
queued once, processed, or waiting once for its delay, and the count of its failures is the
number of attempts so far, until an attempt finds the count at the ceiling: the key is
forgotten and leaves the queue (`Cluster.RetryTrack`). So a key whose count is `c` when it
is queued is processed at most `maxRetries + 1 - c` times, and leaves the queue exactly after
that many attempts: six for a fresh key and the ceiling of five requeues.

## Main results

* `Cluster.finish_numRequeues`: the count of the key the worker finishes, after the run.
* `Cluster.RetryTrack.exec`, `Cluster.RetryTrack.steps`: the place and count of a quietly
  failing key along every run.
* `processNextItem_retry_ceiling`: the count is reset by every success and every give-up,
  and a quietly failing key is processed at most `maxRetries + 1` times, and dropped exactly
  after its last attempt.
* `Cluster.Steps.of_runChecked`: a concrete run whose every step passes the Boolean check
  `Cluster.quietFailing` is a run of quietly failing steps, which is how the concrete runs
  meet the hypothesis of the retry theorem.
-/

namespace Kubeless

open WorkQueue

/-! ### One run of `processNextItem` -/

/-- What `processItem` returns when the worker finishes `key`, having read `cached`, and the
server's answer to its update is `ok`. -/
def Cluster.itemResult (s : Cluster) (ok : Bool) (key : ObjectKey)
    (cached : Option HTTPTrigger) : Except GoError Unit :=
  let plan := processItem key cached s.api.functions.cache
  plan.result (s.api.send ok plan).1

theorem Cluster.finish_queue (maxRetries : Nat) (s : Cluster) (ok : Bool) (key : ObjectKey)
    (cached : Option HTTPTrigger) :
    (s.finish maxRetries ok key cached).queue =
      (handleErr maxRetries s.queue key (s.itemResult ok key cached)).done key :=
  rfl

theorem Cluster.finish_reconciles (maxRetries : Nat) (s : Cluster) (ok : Bool)
    (key : ObjectKey) (cached : Option HTTPTrigger) :
    ∃ r : Reconcile, r.key = key ∧ r.result = s.itemResult ok key cached ∧
      (s.finish maxRetries ok key cached).reconciles = s.reconciles ++ [r] :=
  ⟨_, rfl, rfl, rfl⟩

/-- What `handleErr` does to the count of its key, given the result of `processItem`. -/
def requeuesAfter (maxRetries n : Nat) : Except GoError Unit → Nat
  | .ok () => 0
  | .error _ => if n < maxRetries then n + 1 else 0

theorem handleErr_error (maxRetries : Nat) (q : WorkQueue ObjectKey) (k : ObjectKey)
    (e : GoError) :
    handleErr maxRetries q k (.error e) =
      if q.numRequeues k < maxRetries then q.addRateLimited k else q.forget k :=
  rfl

/-- Every failure of `processItem` takes the same branch of `handleErr`. -/
theorem handleErr_of_ne_ok (maxRetries : Nat) (q : WorkQueue ObjectKey) (k : ObjectKey)
    {r : Except GoError Unit} (h : r ≠ .ok ()) :
    handleErr maxRetries q k r =
      if q.numRequeues k < maxRetries then q.addRateLimited k else q.forget k := by
  rcases r with e | ⟨⟩
  · rfl
  · exact absurd rfl h

theorem handleErr_requeues (maxRetries : Nat) (q : WorkQueue ObjectKey) (k : ObjectKey)
    (r : Except GoError Unit) :
    (handleErr maxRetries q k r).requeues k = requeuesAfter maxRetries (q.requeues k) r := by
  rcases r with e | ⟨⟩
  · rw [handleErr_error, requeuesAfter, numRequeues]
    split_ifs <;> simp [requeues_addRateLimited, requeues_forget]
  · simp [handleErr, requeuesAfter, requeues_forget]

theorem handleErr_requeues_of_ne (maxRetries : Nat) (q : WorkQueue ObjectKey) {k k' : ObjectKey}
    (h : k' ≠ k) (r : Except GoError Unit) :
    (handleErr maxRetries q k' r).requeues k = q.requeues k := by
  unfold handleErr
  split
  · simp [requeues_forget, Ne.symm h]
  · split_ifs <;> simp [requeues_addRateLimited, requeues_forget, Ne.symm h]

theorem slots_handleErr_of_ne (maxRetries : Nat) (q : WorkQueue ObjectKey) {k k' : ObjectKey}
    (h : k' ≠ k) (r : Except GoError Unit) :
    (handleErr maxRetries q k' r).slots k = q.slots k := by
  unfold handleErr
  split
  · rfl
  · split_ifs
    · exact slots_addRateLimited_of_ne q h
    · rfl

/-- **The count after a run of `processNextItem`**: reset by a success and by a give-up,
raised by one by a failure below the ceiling. -/
theorem Cluster.finish_numRequeues (maxRetries : Nat) (s : Cluster) (ok : Bool) (k : ObjectKey)
    (cached : Option HTTPTrigger) :
    (s.finish maxRetries ok k cached).queue.numRequeues k =
      requeuesAfter maxRetries (s.queue.numRequeues k) (s.itemResult ok k cached) := by
  rw [finish_queue, numRequeues, requeues_done, handleErr_requeues]
  rfl

/-! ### Runs in which a key fails quietly -/

/-- The runs from a state whose every step satisfies `P`, a condition on the state the step
starts from and its action. -/
inductive Cluster.Steps (maxRetries : Nat) (P : Cluster → Action → Prop) : Cluster → Cluster →
    Prop
  | refl (s : Cluster) : Cluster.Steps maxRetries P s s
  | tail {s s₁ s₂ : Cluster} {a : Action} : Cluster.Steps maxRetries P s s₁ → P s₁ a →
      s₁.exec maxRetries a = some s₂ → Cluster.Steps maxRetries P s s₂

/-- A step in which the key `k` receives no watch event, and in which the worker, if it
finishes an attempt on `k`, fails. -/
def Cluster.QuietFailing (k : ObjectKey) (s : Cluster) (a : Action) : Prop :=
  (a = .deliverTrigger → ∀ e c, s.api.triggers.deliver = some (e, c) → e.1 ≠ k) ∧
  (∀ ok cached, a = .finishItem ok → s.worker = some (k, cached) →
    s.itemResult ok k cached ≠ .ok ())

/-- `Cluster.QuietFailing` as a check on one step. -/
def Cluster.quietFailing (k : ObjectKey) (s : Cluster) : Action → Bool
  | .deliverTrigger => s.api.triggers.events.head?.all fun e => e.1 != k
  | .finishItem ok => s.worker.all fun w => w.1 != k || !(s.itemResult ok w.1 w.2).toBool
  | _ => true

theorem Cluster.quietFailing_spec {k : ObjectKey} {s : Cluster} {a : Action}
    (h : Cluster.quietFailing k s a = true) : Cluster.QuietFailing k s a := by
  refine ⟨fun ha e c hd => ?_, fun ok cached ha hw hok => ?_⟩
  · subst ha
    obtain ⟨es, hes, -⟩ := Collection.deliver_eq_some hd
    simpa [quietFailing, hes] using h
  · subst ha
    simp [quietFailing, hw, hok, Except.toBool] at h

/-- The state after the actions from `s`, when every step passes the check `p`. -/
def Cluster.runChecked (maxRetries : Nat) (p : Cluster → Action → Bool) (s : Cluster) :
    List Action → Option Cluster
  | [] => some s
  | a :: as =>
      if p s a then (s.exec maxRetries a).bind fun s' => s'.runChecked maxRetries p as else none

theorem Cluster.Steps.head {maxRetries : Nat} {P : Cluster → Action → Prop} {s s₁ s₂ : Cluster}
    {a : Action} (hP : P s a) (h : s.exec maxRetries a = some s₁)
    (hs : Cluster.Steps maxRetries P s₁ s₂) : Cluster.Steps maxRetries P s s₂ := by
  induction hs with
  | refl => exact .tail (.refl s) hP h
  | tail _ hP' h' ih => exact .tail ih hP' h'

/-- A run that passes a check of `P` at every step is a run of `P`-steps. -/
theorem Cluster.Steps.of_runChecked {maxRetries : Nat} {P : Cluster → Action → Prop}
    {p : Cluster → Action → Bool} (hp : ∀ s a, p s a = true → P s a) {s s' : Cluster}
    {as : List Action} (h : s.runChecked maxRetries p as = some s') :
    Cluster.Steps maxRetries P s s' := by
  induction as generalizing s with
  | nil => cases h; exact .refl _
  | cons a as ih =>
      simp only [Cluster.runChecked] at h
      split_ifs at h with hpa
      obtain ⟨s₁, h₁, h₂⟩ := Option.bind_eq_some.mp h
      exact .head (hp s a hpa) h₁ (ih h₂)

/-- The key is queued once, processed, or waiting once for its delay. -/
def WorkQueue.Pending (q : WorkQueue ObjectKey) (k : ObjectKey) : Prop :=
  q.slots k = (1, 1, 0, 0) ∨ q.slots k = (0, 0, 0, 1) ∨ q.slots k = (0, 0, 1, 0)

/-- The place and count of a quietly failing key `k`, queued with `c₀` failures counted and
`n₀` runs of `processItem` on it recorded: after `a` more attempts, the count is `c₀ + a` while
the key is pending, and it has been forgotten and has left the queue once `c₀ + a` passes the
ceiling. -/
def Cluster.RetryTrack (maxRetries c₀ n₀ : Nat) (k : ObjectKey) (s : Cluster) : Prop :=
  s.Valid ∧ ∃ a, s.reconciles.countP (·.key = k) = n₀ + a ∧
    ((c₀ + a ≤ maxRetries ∧ s.queue.numRequeues k = c₀ + a ∧ WorkQueue.Pending s.queue k) ∨
      (c₀ + a = maxRetries + 1 ∧ s.queue.numRequeues k = 0 ∧ s.queue.slots k = (0, 0, 0, 0)))

section RetryTrack

variable {maxRetries c₀ n₀ : Nat} {k : ObjectKey} {s s' : Cluster}

/-- A step that leaves the key's place, count and attempts alone keeps the track. -/
theorem Cluster.RetryTrack.frame (hT : s.RetryTrack maxRetries c₀ n₀ k) (hv : s'.Valid)
    (hq : s'.queue.slots k = s.queue.slots k) (hr : s'.queue.requeues k = s.queue.requeues k)
    (hn : s'.reconciles.countP (·.key = k) = s.reconciles.countP (·.key = k)) :
    s'.RetryTrack maxRetries c₀ n₀ k := by
  obtain ⟨-, a, ha, hph⟩ := hT
  refine ⟨hv, a, hn.trans ha, ?_⟩
  simpa only [WorkQueue.Pending, numRequeues, hq, hr] using hph

/-- The worker holds `k` exactly when `k` is processed. -/
theorem Cluster.Valid.count_processing (hv : s.Valid) :
    s.queue.processing.count k = if (s.worker.map Prod.fst) = some k then 1 else 0 := by
  rw [hv.processing]
  cases s.worker <;> simp [List.count_singleton]

/-- A pending key is queued, processed or waiting as its one counted slot says. -/
theorem WorkQueue.Pending.slots_eq {q : WorkQueue ObjectKey} (hp : WorkQueue.Pending q k) :
    (0 < q.queue.count k → q.slots k = (1, 1, 0, 0)) ∧
    (0 < q.processing.count k → q.slots k = (0, 0, 0, 1)) ∧
    (0 < q.waiting.count k → q.slots k = (0, 0, 1, 0)) := by
  rcases hp with hs | hs | hs <;> simp only [slots, Prod.mk.injEq] at hs ⊢ <;> omega

/-- A key counted in some slot has not been given up: it is pending, and its count is the
number of its attempts. -/
theorem Cluster.RetryTrack.pending (hT : s.RetryTrack maxRetries c₀ n₀ k)
    (h : 0 < s.queue.queue.count k + s.queue.waiting.count k + s.queue.processing.count k) :
    ∃ a, s.reconciles.countP (·.key = k) = n₀ + a ∧ c₀ + a ≤ maxRetries ∧
      s.queue.requeues k = c₀ + a ∧ WorkQueue.Pending s.queue k := by
  obtain ⟨-, a, ha, ⟨hle, hc, hp⟩ | ⟨-, -, hs⟩⟩ := hT
  · exact ⟨a, ha, hle, hc, hp⟩
  · simp only [slots, Prod.mk.injEq] at hs; omega

theorem Cluster.RetryTrack.exec (hT : s.RetryTrack maxRetries c₀ n₀ k)
    (hP : s.QuietFailing k a) (h : s.exec maxRetries a = some s') :
    s'.RetryTrack maxRetries c₀ n₀ k := by
  have hv' := hT.1.exec h
  cases a with
  | request r =>
      obtain ⟨api, -, rfl⟩ := Option.map_eq_some'.mp h
      exact hT.frame hv' rfl rfl rfl
  | deliverTrigger =>
      obtain ⟨⟨e, c⟩, hd, rfl⟩ := Option.map_eq_some'.mp h
      exact hT.frame hv' (slots_add_of_ne _ (hP.1 rfl e c hd)) (requeues_add _ _ _) rfl
  | deliverFunction ok =>
      obtain ⟨e, c, api, -, rfl, -⟩ := exec_deliverFunction h
      exact hT.frame hv' rfl rfl rfl
  | getItem =>
      obtain ⟨k', q, -, hg, rfl⟩ := exec_getItem h
      by_cases hk : k' = k
      · -- the worker takes `k`, which was queued
        subst hk
        obtain ⟨hq, -, -, -, hreq⟩ := get_eq_some hg
        have hin : 0 < s.queue.queue.count k' := by simp [hq]
        obtain ⟨a, ha, hle, hc, hpend⟩ := hT.pending (by omega)
        have hs := hpend.slots_eq.1 hin
        simp only [slots, Prod.mk.injEq] at hs
        refine ⟨hv', a, ha, .inl ⟨hle, by simpa [numRequeues, hreq] using hc, .inr (.inl ?_)⟩⟩
        simpa [hs.2.2.1, hs.2.2.2] using slots_get_self hg hs.1 hs.2.1
      · exact hT.frame hv' (slots_get_of_ne hg hk) (by rw [(get_eq_some hg).2.2.2.2]) rfl
  | finishItem ok =>
      obtain ⟨⟨k', cached⟩, hw, rfl⟩ := Option.map_eq_some'.mp h
      obtain ⟨r, hrk, hres, hrec⟩ := Cluster.finish_reconciles maxRetries s ok k' cached
      by_cases hk : k' = k
      · -- the worker finishes a failed attempt on `k`, which was processed
        subst hk
        have hp : s.queue.processing.count k' = 1 := by simp [hT.1.count_processing, hw]
        obtain ⟨a, ha, hle, hc, hpend⟩ := hT.pending (by omega)
        have hs := hpend.slots_eq.2.1 (by omega)
        simp only [slots, Prod.mk.injEq] at hs
        have hnd : k' ∉ s.queue.dirty := List.count_eq_zero.mp hs.2.1
        refine ⟨hv', a + 1, by rw [hrec, List.countP_append, ha]; simp [hrk]; omega, ?_⟩
        rw [Cluster.finish_queue, handleErr_of_ne_ok _ _ _ (hP.2 ok cached rfl hw)]
        simp only [numRequeues]
        split_ifs with hlt
        · -- requeued: it now waits once for its delay
          have hnw : k' ∉ s.queue.waiting := List.count_eq_zero.mp hs.2.2.1
          refine .inl ⟨by omega, ?_, .inr (.inr ?_)⟩
          · simp only [requeues_done, requeues_addRateLimited, if_true, hc]
            omega
          · rw [slots_done_self (by simpa [addRateLimited] using hnd)]
            simp [addRateLimited, hs, hnw, List.count_append]
        · -- given up: forgotten, and out of the queue
          refine .inr ⟨by omega, ?_, ?_⟩
          · simp [requeues_forget]
          · rw [slots_done_self (by simpa [forget] using hnd)]
            simp [forget, hs]
      · refine hT.frame hv' ?_ ?_ ?_
        · rw [Cluster.finish_queue, slots_done_of_ne _ hk, slots_handleErr_of_ne _ _ hk]
        · rw [Cluster.finish_queue, requeues_done, handleErr_requeues_of_ne _ _ hk]
        · rw [hrec, List.countP_append]; simp [hrk, hk]
  | readyItem k' =>
      obtain ⟨q, hr, rfl⟩ := Option.map_eq_some'.mp h
      by_cases hk : k' = k
      · -- the delay of `k` has passed: it is queued again
        subst hk
        have hwait : 0 < s.queue.waiting.count k' := by
          unfold WorkQueue.ready at hr
          split_ifs at hr with hm
          exact List.count_pos_iff.mpr hm
        obtain ⟨a, ha, hle, hc, hpend⟩ := hT.pending (by omega)
        have hs := hpend.slots_eq.2.2 hwait
        simp only [slots, Prod.mk.injEq] at hs
        refine ⟨hv', a, ha, .inl ⟨hle, by simpa [numRequeues, requeues_ready hr] using hc, .inl ?_⟩⟩
        rw [slots_ready_self hr (List.count_eq_zero.mp hs.2.1) (List.count_eq_zero.mp hs.2.2.2)]
        simp [hs]
      · exact hT.frame hv' (slots_ready_of_ne hr hk) (requeues_ready hr k) rfl

theorem Cluster.RetryTrack.steps (hT : s.RetryTrack maxRetries c₀ n₀ k)
    (hs : Cluster.Steps maxRetries (Cluster.QuietFailing k) s s') :
    s'.RetryTrack maxRetries c₀ n₀ k := by
  induction hs with
  | refl => exact hT
  | tail _ hP h ih => exact ih.exec hP h

end RetryTrack

/-- **The retry discipline of `processNextItem`.** The count of failures of a key is reset by
every successful run of `processItem` on it and by every give-up. A key queued with `c₀ ≤
maxRetries` failures counted, not waiting and not processed, that receives no further watch
event and fails on every attempt, is processed at most `maxRetries + 1 - c₀` times, and leaves
the queue exactly when it has been processed that many times. -/
theorem processNextItem_retry_ceiling (maxRetries : Nat) :
    (∀ (s : Cluster) ok k cached,
      (s.itemResult ok k cached = .ok () →
        (s.finish maxRetries ok k cached).queue.numRequeues k = 0) ∧
      (s.itemResult ok k cached ≠ .ok () → maxRetries ≤ s.queue.numRequeues k →
        (s.finish maxRetries ok k cached).queue.numRequeues k = 0)) ∧
    ∀ k s₀ s, s₀.Valid → s₀.queue.slots k = (1, 1, 0, 0) →
      s₀.queue.numRequeues k ≤ maxRetries →
      Cluster.Steps maxRetries (Cluster.QuietFailing k) s₀ s →
      let attempts := s.reconciles.countP (·.key = k) - s₀.reconciles.countP (·.key = k)
      s₀.queue.numRequeues k + attempts ≤ maxRetries + 1 ∧
      (s.queue.slots k = (0, 0, 0, 0) ↔ s₀.queue.numRequeues k + attempts = maxRetries + 1) := by
  refine ⟨fun s ok k cached => ⟨fun hok => ?_, fun hfail hge => ?_⟩,
    fun k s₀ s hv hq hc hs => ?_⟩
  · rw [Cluster.finish_numRequeues, hok]; rfl
  · rw [Cluster.finish_queue, numRequeues, requeues_done, handleErr_of_ne_ok _ _ _ hfail,
      if_neg (Nat.not_lt.mpr hge)]
    simp [requeues_forget]
  · have h₀ : s₀.RetryTrack maxRetries (s₀.queue.numRequeues k)
        (s₀.reconciles.countP (·.key = k)) k :=
      ⟨hv, 0, rfl, .inl ⟨hc, rfl, .inl hq⟩⟩
    obtain ⟨-, a, ha, hph⟩ := h₀.steps hs
    simp only [ha, Nat.add_sub_cancel_left]
    rcases hph with ⟨hle, -, hpend⟩ | ⟨heq, -, hdrop⟩
    · refine ⟨by omega, ⟨fun hd => ?_, fun h => by omega⟩⟩
      rcases hpend with h | h | h <;> rw [hd] at h <;> simp only [Prod.mk.injEq] at h <;> omega
    · exact ⟨by omega, ⟨fun _ => heq, fun _ => hdrop⟩⟩

/-- The trigger `hello` is created and its event delivered; then every attempt to attach the
finalizer finds the server unavailable, and the worker retries after each delay. -/
def failRun : List Action :=
  [.request (.createTrigger helloTrigger), .deliverTrigger] ++
    (List.replicate triggerMaxRetries
      [.getItem, .finishItem false, .readyItem ⟨"default", "hello"⟩]).flatten ++
    [.getItem, .finishItem false]

theorem processNextItem_retry_ceiling_failing :
    let k : ObjectKey := ⟨"default", "hello"⟩
    ∃ s₀ s, Cluster.init.run triggerMaxRetries
        [.request (.createTrigger helloTrigger), .deliverTrigger] = some s₀ ∧
      Cluster.init.run triggerMaxRetries failRun = some s ∧
      s₀.Valid ∧ s₀.queue.slots k = (1, 1, 0, 0) ∧ s₀.queue.numRequeues k ≤ triggerMaxRetries ∧
      Cluster.Steps triggerMaxRetries (Cluster.QuietFailing k) s₀ s ∧
      let attempts := s.reconciles.countP (·.key = k) - s₀.reconciles.countP (·.key = k)
      s₀.queue.numRequeues k + attempts ≤ triggerMaxRetries + 1 ∧
      (s.queue.slots k = (0, 0, 0, 0) ↔ s₀.queue.numRequeues k + attempts = triggerMaxRetries + 1) := by
  obtain ⟨s₀, h₀⟩ : ∃ s₀, Cluster.init.run triggerMaxRetries
      [.request (.createTrigger helloTrigger), .deliverTrigger] = some s₀ := ⟨_, rfl⟩
  -- the five retries and the last attempt, each failing on `hello`
  obtain ⟨s, hs⟩ : ∃ s, s₀.runChecked triggerMaxRetries (Cluster.quietFailing ⟨"default", "hello"⟩)
      (failRun.drop 2) = some s := by cases h₀; exact ⟨_, rfl⟩
  have hrun : Cluster.init.run triggerMaxRetries failRun = some s := by cases h₀; cases hs; rfl
  have hv : s₀.Valid := (Reachable.of_run h₀).valid
  have hq : s₀.queue.slots ⟨"default", "hello"⟩ = (1, 1, 0, 0) := by cases h₀; rfl
  have hc : s₀.queue.numRequeues ⟨"default", "hello"⟩ ≤ triggerMaxRetries := by cases h₀; decide
  have hsteps := Cluster.Steps.of_runChecked (fun _ _ => Cluster.quietFailing_spec) hs
  exact ⟨s₀, s, h₀, hrun, hv, hq, hc, hsteps,
    (processNextItem_retry_ceiling triggerMaxRetries).2 _ s₀ s hv hq hc hsteps⟩

/-! ### A key that always fails -/

/-- With the ceiling of five requeues, a key that receives one watch event and fails on every
attempt is processed six times, and is then out of the queue with its count reset. -/
theorem retry_six_attempts :
    ∃ s, Cluster.init.run triggerMaxRetries failRun = some s ∧
      s.reconciles.map (·.key) = List.replicate 6 ⟨"default", "hello"⟩ ∧
      s.reconciles.map (·.result.toBool) = List.replicate 6 false ∧
      s.api.triggers.events = [] ∧
      s.queue.slots ⟨"default", "hello"⟩ = (0, 0, 0, 0) ∧
      s.queue.numRequeues ⟨"default", "hello"⟩ = 0 :=
  ⟨_, rfl, rfl, rfl, rfl, rfl, rfl⟩

end Kubeless
