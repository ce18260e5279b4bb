import Kubeless.Controller.Quiescence
import Kubeless.Controller.Retry

/-!
# What the Informer and the Queue Deliver to the Worker

`processItem` reads a trigger from the informer's cache by the key the work queue hands out.
This module proves, for every run of the cluster, the two guarantees the controller relies on
from that pipeline. No hypothesis is made on the run: any interleaving of requests, garbage
collection, watch deliveries and worker steps, with any answers of the server.

* **Each key holds one place in the queue** (`WorkQueue.Disciplined`). A key is queued at most
  once, and then it is dirty and not processed. A processed key is dirty at most once, so
  `Done` queues it again at most once. A key waits at most once for its delay. `Done` is only
  called on the key the worker holds, which is what makes `Done` keep the discipline.
* **No update of a trigger is lost** (`Cluster.Fresh`). At every key, a watch event is still
  pending, or the key is queued, or the worker holds it (dirty, or having read the stored
  version). Otherwise the last run of `processItem` on the key read exactly the stored
  version, or read that there is none. So once every event is delivered, nothing is queued
  and the worker is idle, the controller has seen the last version of every trigger. A run
  that read that version and failed counts: the guarantee is about what was read, not about
  what the run achieved.
* **An accepted update replaces what the worker read.** `processItem` sends a copy of the
  object it read, which keeps its resourceVersion. The server accepts an update only over the
  version it carries. So every update the controller gets accepted is written over exactly
  that version: a change another client made since the read is never overwritten.
* **A trigger being deleted is released** (`Cluster.Releasing`). Assume the server handles
  the updates `processItem` sends. Then a stored trigger marked for deletion that carries the
  controller's finalizer is always pending: `processItem` removes the finalizer, and the
  update makes a new version with a new event. So no quiescent state stores a trigger being
  deleted that the controller still holds. Such a trigger may stay stored, held by another
  controller's finalizer: the server refuses the finalizer `processItem` then tries to attach
  to it again.

## Main results

* `Reachable.queue_disciplined`: every key holds a place in the queue of every reachable
  state.
* `Reachable.reads_latest`: in every reachable state each key is pending or was last read at
  its stored version, and at quiescence every key was last read at its stored version.
* `Reachable.update_replaces_read`: an accepted update of the worker replaces the trigger it
  read, or the Function the lister gave for it.
* `quiescent_deleting_released`: at quiescence of a run with every update handled, no stored
  trigger marked for deletion carries the controller's finalizer.
-/

namespace Kubeless

open Resource Collection

/-! ### Each key holds one place in the queue -/

theorem WorkQueue.Disciplined.handleErr {q : WorkQueue ObjectKey} (hq : q.Disciplined)
    (maxRetries : Nat) (k : ObjectKey) (r : Except GoError Unit) :
    (handleErr maxRetries q k r).Disciplined := by
  unfold Kubeless.handleErr
  split
  · exact hq.forget k
  · split_ifs
    · exact hq.addRateLimited k
    · exact hq.forget k

section Discipline

variable {maxRetries : Nat} {s s' : Cluster} {a : Action}

/-- Every step keeps each key in its place: the worker finishes only the key it holds. -/
theorem Cluster.disciplined_exec (hv : s.Valid) (hq : s.queue.Disciplined)
    (h : s.exec maxRetries a = some s') : s'.queue.Disciplined := by
  cases a with
  | request r =>
      obtain ⟨api, -, rfl⟩ := Option.map_eq_some'.mp h
      exact hq
  | deliverTrigger =>
      obtain ⟨⟨e, c⟩, -, rfl⟩ := Option.map_eq_some'.mp h
      exact hq.add e.1
  | deliverFunction ok =>
      obtain ⟨e, c, api, -, rfl, -⟩ := exec_deliverFunction h
      exact hq
  | getItem =>
      obtain ⟨k, q, -, hg, rfl⟩ := exec_getItem h
      exact hq.get hg
  | finishItem ok =>
      obtain ⟨⟨k, cached⟩, hw, rfl⟩ := Option.map_eq_some'.mp h
      rw [Cluster.finish_queue]
      exact (hq.handleErr maxRetries k _).done (by simp [hv.processing, hw])
  | readyItem k =>
      obtain ⟨q, hr, rfl⟩ := Option.map_eq_some'.mp h
      exact hq.ready hr

/-- **Each key holds one place in the queue of every reachable state**: it is absent,
queued once and dirty, or processed and dirty at most once, and it waits at most once. -/
theorem Reachable.queue_disciplined {allowed : Action → Prop}
    (hs : Reachable maxRetries allowed s) : s.queue.Disciplined := by
  induction hs with
  | init => exact WorkQueue.disciplined_empty
  | step _ hs _ h ih => exact Cluster.disciplined_exec hs.valid ih h

end Discipline

theorem Reachable.queue_disciplined_linked :
    ∃ s, Cluster.init.run triggerMaxRetries linkRun = some s ∧ s.queue.Disciplined :=
  ⟨_, rfl, Reachable.queue_disciplined (@Reachable.of_run triggerMaxRetries linkRun _ rfl)⟩

/-! ### What the worker last read -/

/-- The trigger the last run of `processItem` on `k` read; `none` when it read none, or when
no run on `k` has finished. -/
def Cluster.lastRead (s : Cluster) (k : ObjectKey) : Option HTTPTrigger :=
  s.reconciles.foldl (fun read r => if r.key = k then r.cached else read) none

theorem Cluster.lastRead_finish (maxRetries : Nat) (s : Cluster) (ok : Bool)
    (k₀ : ObjectKey) (cached : Option HTTPTrigger) (k : ObjectKey) :
    (s.finish maxRetries ok k₀ cached).lastRead k = if k₀ = k then cached else s.lastRead k := by
  simp [lastRead, Cluster.finish, List.foldl_append]

/-- `processItem` has nothing left to see at `k`: the last run on `k` read the stored
trigger, or the absence of one. -/
def Cluster.SeenAt (s : Cluster) (k : ObjectKey) : Prop :=
  s.lastRead k = s.api.triggers.objects k

/-- **No update of a trigger is lost**: the worker's key is pending, and every key is pending
or was last read at its stored version. -/
structure Cluster.Fresh (s : Cluster) : Prop where
  worker : ∀ k c, s.worker = some (k, c) → s.Pending k
  keys : ∀ k, s.Pending k ∨ s.SeenAt k

theorem Cluster.fresh_init : Cluster.init.Fresh :=
  ⟨fun _ _ h => Option.noConfusion h, fun _ => .inr rfl⟩

section Fresh

variable {maxRetries : Nat} {s s' : Cluster} {a : Action} {k : ObjectKey}

/-- **The stored trigger changes only with a watch event for it**, at every step. -/
theorem Cluster.exec_objects (h : s.exec maxRetries a = some s') (k : ObjectKey) :
    s'.api.triggers.objects k = s.api.triggers.objects k ∨
      ∃ v, (k, v) ∈ s'.api.triggers.events := by
  cases a with
  | request r =>
      obtain ⟨api, hr, rfl⟩ := Option.map_eq_some'.mp h
      exact (Api.extends_serve hr).objects k
  | deliverTrigger =>
      obtain ⟨⟨e, c⟩, hd, rfl⟩ := Option.map_eq_some'.mp h
      obtain ⟨es, -, rfl⟩ := deliver_eq_some hd
      exact .inl rfl
  | deliverFunction ok =>
      obtain ⟨e, c, api, -, rfl, hapi⟩ := exec_deliverFunction h
      rcases hapi with rfl | ⟨f, -, -, rfl⟩
      · exact .inl rfl
      · exact .inl (by rw [Api.triggers_updateFunction])
  | getItem =>
      obtain ⟨k₀, q, -, -, rfl⟩ := exec_getItem h
      exact .inl rfl
  | finishItem ok =>
      obtain ⟨⟨k₀, cached⟩, -, rfl⟩ := Option.map_eq_some'.mp h
      exact (Api.extends_send _ _ _).objects k
  | readyItem k₀ =>
      obtain ⟨q, -, rfl⟩ := Option.map_eq_some'.mp h
      exact .inl rfl

/-- A key pending before a step in which the worker leaves the worker, the queue and the
dirty keys as they were, or extends them, stays pending when the collection is extended. -/
theorem Cluster.Pending.extend (hp : s.Pending k)
    (he : s.api.triggers.Extends s'.api.triggers) (hq : s.queue.queue ⊆ s'.queue.queue)
    (hd : s.queue.dirty ⊆ s'.queue.dirty) (hw : s'.worker = s.worker) : s'.Pending k := by
  rcases he.objects k with ho | hev
  · exact hp.mono he.events hq hd hw ho
  · exact .inl hev

/-- The key the worker takes is pending: an event for it is undelivered, or the cache it
read holds the stored version. -/
theorem Cluster.pending_getItem (hv : s.Valid) (h : s.exec maxRetries .getItem = some s')
    {c : Option HTTPTrigger} (hw : s'.worker = some (k, c)) : s'.Pending k := by
  obtain ⟨k₀, q, -, -, rfl⟩ := exec_getItem h
  obtain ⟨rfl, rfl⟩ := Prod.mk.inj (Option.some.inj hw)
  by_cases hev : ∃ v, (k₀, v) ∈ s.api.triggers.events
  · exact .inl hev
  · refine .inr (.inr ⟨_, rfl, .inr (hv.triggers.valid.cache_eq fun e he hek => ?_)⟩)
    obtain ⟨k', v⟩ := e
    simp only at hek
    exact hev ⟨v, hek ▸ he⟩

/-- **A pending key stays pending at every step**, except when the worker finishes it. -/
theorem Cluster.Pending.exec (hv : s.Valid) (hp : s.Pending k)
    (h : s.exec maxRetries a = some s')
    (hk : ∀ ok c, a = .finishItem ok → s.worker ≠ some (k, c)) : s'.Pending k := by
  cases a with
  | request r =>
      obtain ⟨api, hr, rfl⟩ := Option.map_eq_some'.mp h
      exact hp.extend (Api.extends_serve hr) (List.Subset.refl _) (List.Subset.refl _) rfl
  | deliverTrigger =>
      -- the delivered event's key is queued, or dirty under the worker that holds it
      obtain ⟨⟨e, c⟩, hd, rfl⟩ := Option.map_eq_some'.mp h
      obtain ⟨es, hes, rfl⟩ := deliver_eq_some hd
      have hadd := WorkQueue.subset_add s.queue e.1
      rcases hp with ⟨v, hev⟩ | hkq | ⟨c, hc, hk⟩
      · rw [hes] at hev
        rcases List.mem_cons.mp hev with rfl | hev
        · rcases WorkQueue.mem_add hv.queue k with hq | ⟨hp, hq⟩
          · exact .inr (.inl hq)
          · rw [hv.processing] at hp
            obtain ⟨⟨k', c⟩, hw, rfl⟩ := Option.map_eq_some'.mp (Option.mem_toList.mp hp)
            exact .inr (.inr ⟨c, hw, .inl hq⟩)
        · exact .inl ⟨v, hev⟩
      · exact .inr (.inl (hadd.1 hkq))
      · exact .inr (.inr ⟨c, hc, hk.imp (fun h => hadd.2.1 h) id⟩)
  | deliverFunction ok =>
      obtain ⟨e, c, api, -, rfl, hapi⟩ := exec_deliverFunction h
      have htr : api.triggers = s.api.triggers := by
        rcases hapi with rfl | ⟨f, -, -, rfl⟩
        · rfl
        · exact Api.triggers_updateFunction _ _ _
      exact hp.extend (htr ▸ extends_refl _) (List.Subset.refl _) (List.Subset.refl _) rfl
  | getItem =>
      obtain ⟨k₀, q, hw₀, hg, rfl⟩ := exec_getItem h
      obtain ⟨hqueue, -⟩ := WorkQueue.get_eq_some hg
      rcases hp with hev | hkq | ⟨c, hc, -⟩
      · exact .inl hev
      · rw [hqueue] at hkq
        rcases List.mem_cons.mp hkq with rfl | hkq
        · exact pending_getItem hv h rfl
        · exact .inr (.inl hkq)
      · simp [hw₀] at hc
  | finishItem ok =>
      obtain ⟨⟨k₀, cached⟩, hw, rfl⟩ := Option.map_eq_some'.mp h
      have hext := Api.extends_send s.api ok (processItem k₀ cached s.api.functions.cache)
      rcases hp with ⟨v, hev⟩ | hkq | ⟨c, hc, -⟩
      · exact .inl ⟨v, hext.events hev⟩
      · exact .inr (.inl (WorkQueue.subset_done _ k₀ (by simpa using hkq)))
      · obtain ⟨rfl, rfl⟩ := Prod.mk.inj (Option.some.inj (hw.symm.trans hc))
        exact absurd hc (hk ok cached rfl)
  | readyItem k₀ =>
      obtain ⟨q, hr, rfl⟩ := Option.map_eq_some'.mp h
      have hadd := WorkQueue.subset_add { s.queue with waiting := s.queue.waiting.erase k₀ } k₀
      rw [← WorkQueue.ready_eq_some hr] at hadd
      exact hp.extend (extends_refl _) hadd.1 hadd.2.1 rfl

/-- A step that keeps every pending key pending and records no run keeps the freshness. -/
theorem Cluster.Fresh.frame (hF : s.Fresh) (h : s.exec maxRetries a = some s')
    (hp : ∀ k, s.Pending k → s'.Pending k) (hw : ∀ k c, s'.worker = some (k, c) → s'.Pending k)
    (hr : s'.reconciles = s.reconciles) : s'.Fresh where
  worker := hw
  keys k := by
    rcases hF.keys k with hpk | hseen
    · exact .inl (hp k hpk)
    · rcases exec_objects h k with ho | hev
      · exact .inr (by rw [SeenAt, lastRead, hr, ho]; exact hseen)
      · exact .inl (.inl hev)

/-- The worker finishes its key: what it read is now the last read of the key, and it was
the stored version unless the key is pending. -/
theorem Cluster.Fresh.finish (hF : s.Fresh) {k₀ : ObjectKey} {cached : Option HTTPTrigger}
    (hw : s.worker = some (k₀, cached)) (ok : Bool) :
    (s.finish maxRetries ok k₀ cached).Fresh where
  worker _ _ h := by simp [Cluster.finish] at h
  keys k := by
    have hext := Api.extends_send s.api ok (processItem k₀ cached s.api.functions.cache)
    have hq : s.queue.queue ⊆ (s.finish maxRetries ok k₀ cached).queue.queue := fun x hx => by
      rw [Cluster.finish_queue]
      exact WorkQueue.subset_done _ k₀ (by simpa using hx)
    by_cases hk : k₀ = k
    · -- the finished key: the worker's read was pending, by the invariant
      subst hk
      rcases hF.worker k₀ cached hw with ⟨v, hev⟩ | hkq | ⟨c, hc, hkd⟩
      · exact .inl (.inl ⟨v, hext.events hev⟩)
      · exact .inl (.inr (.inl (hq hkq)))
      obtain rfl : c = cached := (Prod.mk.inj (Option.some.inj (hc.symm.trans hw))).2
      rcases hkd with hd | hread
      · refine .inl (.inr (.inl ?_))
        rw [Cluster.finish_queue]
        exact WorkQueue.mem_done_of_mem_dirty (by simpa using hd)
      · rcases hext.objects k₀ with ho | hev
        · exact .inr (by rw [SeenAt, lastRead_finish, if_pos rfl]; exact hread.trans ho.symm)
        · exact .inl (.inl hev)
    · rcases hF.keys k with (⟨v, hev⟩ | hkq | ⟨c, hc, -⟩) | hseen
      · exact .inl (.inl ⟨v, hext.events hev⟩)
      · exact .inl (.inr (.inl (hq hkq)))
      · exact absurd (Prod.mk.inj (Option.some.inj (hw.symm.trans hc))).1 hk
      · rcases hext.objects k with ho | hev
        · exact .inr (by rw [SeenAt, lastRead_finish, if_neg hk]; exact hseen.trans ho.symm)
        · exact .inl (.inl hev)

/-- **Every step keeps the freshness.** -/
theorem Cluster.Fresh.exec (hv : s.Valid) (hF : s.Fresh) (h : s.exec maxRetries a = some s') :
    s'.Fresh := by
  have hp : ∀ k, (∀ ok c, a = .finishItem ok → s.worker ≠ some (k, c)) → s.Pending k →
      s'.Pending k := fun k hk hpk => hpk.exec hv h hk
  cases a with
  | finishItem ok =>
      obtain ⟨⟨k₀, cached⟩, hw, rfl⟩ := Option.map_eq_some'.mp h
      exact hF.finish hw ok
  | getItem =>
      refine hF.frame h (fun k => hp k fun _ _ h => nomatch h)
        (fun k c hw => pending_getItem hv h hw) ?_
      obtain ⟨k₀, q, -, -, rfl⟩ := exec_getItem h
      rfl
  | request r =>
      obtain ⟨api, -, rfl⟩ := Option.map_eq_some'.mp h
      exact hF.frame h (fun k => hp k fun _ _ h => nomatch h)
        (fun k c hw => hp k (fun _ _ h => nomatch h) (hF.worker k c hw)) rfl
  | deliverTrigger =>
      obtain ⟨⟨e, c⟩, -, rfl⟩ := Option.map_eq_some'.mp h
      exact hF.frame h (fun k => hp k fun _ _ h => nomatch h)
        (fun k c hw => hp k (fun _ _ h => nomatch h) (hF.worker k c hw)) rfl
  | deliverFunction ok =>
      obtain ⟨e, c, api, -, rfl, -⟩ := exec_deliverFunction h
      exact hF.frame h (fun k => hp k fun _ _ h => nomatch h)
        (fun k c hw => hp k (fun _ _ h => nomatch h) (hF.worker k c hw)) rfl
  | readyItem k₀ =>
      obtain ⟨q, -, rfl⟩ := Option.map_eq_some'.mp h
      exact hF.frame h (fun k => hp k fun _ _ h => nomatch h)
        (fun k c hw => hp k (fun _ _ h => nomatch h) (hF.worker k c hw)) rfl

theorem Reachable.fresh {allowed : Action → Prop} (hs : Reachable maxRetries allowed s) :
    s.Fresh := by
  induction hs with
  | init => exact Cluster.fresh_init
  | step _ hs _ h ih => exact ih.exec hs.valid h

end Fresh

/-- **No update of a trigger is lost.** In every reachable state each key is pending for the
controller, or the last run of `processItem` on it read its stored version; once every event
is delivered, nothing is queued and the worker is idle, every key was last read at its stored
version. -/
theorem Reachable.reads_latest {maxRetries : Nat} {allowed : Action → Prop} {s : Cluster}
    (hs : Reachable maxRetries allowed s) :
    (∀ k, s.Pending k ∨ s.lastRead k = s.api.triggers.objects k) ∧
      (s.api.triggers.events = [] → s.queue.queue = [] → s.worker = none →
        ∀ k, s.lastRead k = s.api.triggers.objects k) := by
  have hF := hs.fresh
  refine ⟨hF.keys, fun he hq hw k => ?_⟩
  rcases hF.keys k with (⟨v, hv⟩ | hk | ⟨c, hc, -⟩) | hseen
  · simp [he] at hv
  · simp [hq] at hk
  · simp [hw] at hc
  · exact hseen

theorem Reachable.reads_latest_linked :
    ∃ s, Cluster.init.run triggerMaxRetries linkRun = some s ∧
      (∀ k, s.Pending k ∨ s.lastRead k = s.api.triggers.objects k) ∧
      (s.api.triggers.events = [] → s.queue.queue = [] → s.worker = none →
        ∀ k, s.lastRead k = s.api.triggers.objects k) :=
  ⟨_, rfl, Reachable.reads_latest (@Reachable.of_run triggerMaxRetries linkRun _ rfl)⟩

/-! ### An accepted update replaces what the worker read -/

/-- **The controller never overwrites a change it has not read.** In every reachable state,
when the worker's `processItem` sends an update that the server accepts, the object the
update replaces is exactly the one it edited: the trigger the worker read from the cache, or
the Function the lister gave for it. The update is a copy of the read object and keeps its
resourceVersion, and the server refuses any other. -/
theorem Reachable.update_replaces_read {maxRetries : Nat} {allowed : Action → Prop}
    {s : Cluster} (hs : Reachable maxRetries allowed s) {k : ObjectKey}
    {cached : Option HTTPTrigger} (hw : s.worker = some (k, cached)) (ok : Bool) :
    (∀ u, processItem k cached s.api.functions.cache = .updateTrigger u →
      (s.api.updateTrigger ok u).1 = none → s.api.triggers.objects k = cached) ∧
    (∀ f, processItem k cached s.api.functions.cache = .updateFunction f →
      (s.api.updateFunction ok f).1 = none →
      s.api.functions.objects (key f) = lookupFunction s.api.functions.cache k cached) := by
  have hv := hs.valid
  refine ⟨fun u hp hacc => ?_, fun f hp hacc => ?_⟩
  · obtain ⟨c, rfl, hu⟩ := processItem_updateTrigger hp
    have hc := hv.worker k c hw
    obtain ⟨e, rfl⟩ : ∃ e : Edit, u = e.apply c := by
      rcases hu with ⟨-, rfl⟩ | ⟨-, rfl⟩ <;> exact ⟨_, rfl⟩
    rw [Api.updateTrigger_fst] at hacc
    exact hv.triggers.valid.stored_of_answer hc (by rw [Edit.key_apply, hc.2])
      (Edit.version_apply e c) hacc
  · obtain ⟨c, f₀, rfl, hf₀, -, rfl⟩ := processItem_updateFunction hp
    have h₀ := hv.functions.valid.cache _ f₀ hf₀
    rw [Api.updateFunction_fst] at hacc
    rw [Edit.key_apply, h₀.2]
    exact (hv.functions.valid.stored_of_answer h₀ ((Edit.key_apply _ f₀).trans h₀.2)
      (Edit.version_apply _ f₀) hacc).trans hf₀.symm

/-- The trigger `hello` is created and its event delivered, and the worker takes its key. -/
def takeRun : List Action :=
  [.request (.createTrigger helloTrigger), .deliverTrigger, .getItem]

theorem Reachable.update_replaces_read_taken :
    ∃ s, Cluster.init.run triggerMaxRetries takeRun = some s ∧ ∃ k cached,
      s.worker = some (k, cached) ∧
      (∀ u, processItem k cached s.api.functions.cache = .updateTrigger u →
        (s.api.updateTrigger true u).1 = none → s.api.triggers.objects k = cached) ∧
      (∀ f, processItem k cached s.api.functions.cache = .updateFunction f →
        (s.api.updateFunction true f).1 = none →
        s.api.functions.objects (key f) = lookupFunction s.api.functions.cache k cached) :=
  ⟨_, rfl, _, _, rfl,
    Reachable.update_replaces_read (@Reachable.of_run triggerMaxRetries takeRun _ rfl) rfl true⟩

/-! ### A trigger being deleted is released -/

/-- `processItem` removes the finalizer from every trigger being deleted that carries it. -/
theorem processItem_releases {key : ObjectKey} {t : HTTPTrigger}
    {functions : ObjectKey → Option Function} (hd : deleting t = true)
    (hf : hasFinalizer httpTriggerFinalizer t = true) :
    processItem key (some t) functions =
      .updateTrigger ((Edit.removeFinalizer httpTriggerFinalizer).apply t) := by
  have hd' : t.metadata.deletionTimestamp = true := hd
  have hf' : httpTriggerObjHasFinalizer t = true := hf
  simp [processItem, hd', hf']; rfl

section Releasing

variable {maxRetries : Nat} {s s' : Cluster} {a : Action} {k : ObjectKey}

/-- A worker that read the stored trigger and sends an edit of it that adds no finalizer to a
trigger being deleted, which the server handles, leaves a watch event for the key. -/
theorem Cluster.finish_event_of_update (hv : s.Valid) {t : HTTPTrigger}
    (ht : s.api.triggers.objects k = some t) {e : Edit}
    (hplan : processItem k (some t) s.api.functions.cache = .updateTrigger (e.apply t))
    (hf : addsFinalizerWhileDeleting t (e.apply t) = false) :
    ∃ v, (k, v) ∈ (s.finish maxRetries true k (some t)).api.triggers.events := by
  have hkey : key t = k := (hv.triggers.valid.objects k t ht).2
  have hobj : s.api.triggers.objects (key (e.apply t)) = some t := by
    rw [Edit.key_apply, hkey]; exact ht
  have hacc := Api.updateTrigger_of_stored hobj (Edit.version_apply e t).symm hf rfl
  refine ⟨some (atVersion (e.apply t) (s.api.revision + 1)), ?_⟩
  simp only [Cluster.finish, hplan, Api.send, hacc, Api.putTrigger, Collection.put]
  exact List.mem_append_right _ (by simp [hkey])

/-- Every stored trigger being deleted that still carries the finalizer is pending. -/
def Cluster.Releasing (s : Cluster) : Prop :=
  ∀ k t, s.api.triggers.objects k = some t → deleting t = true →
    hasFinalizer httpTriggerFinalizer t = true → s.Pending k

/-- **Every answered step keeps the stored triggers being deleted that carry the finalizer
pending.** -/
theorem Cluster.Releasing.exec (hv : s.Valid) (hR : s.Releasing) (ha : Answered a)
    (h : s.exec maxRetries a = some s') : s'.Releasing := by
  intro k t ht hd hf
  rcases exec_objects h k with ho | hev
  swap
  · exact .inl hev
  have ht₀ : s.api.triggers.objects k = some t := ho.symm.trans ht
  have hp := hR k t ht₀ hd hf
  by_cases hfin : ∃ ok c, a = .finishItem ok ∧ s.worker = some (k, c)
  swap
  · exact hp.exec hv h fun ok c ha hw => hfin ⟨ok, c, ha, hw⟩
  -- the worker finishes the key: the removal it sends, if it read the stored version, is new
  obtain ⟨ok, c, rfl, hw⟩ := hfin
  obtain rfl : ok = true := ha
  obtain ⟨⟨k₀, cached⟩, hw', rfl⟩ := Option.map_eq_some'.mp h
  obtain ⟨rfl, rfl⟩ := Prod.mk.inj (Option.some.inj (hw'.symm.trans hw))
  have hext := Api.extends_send s.api true (processItem k₀ cached s.api.functions.cache)
  rcases hp with ⟨v, hev⟩ | hkq | ⟨c', hc', hkd⟩
  · exact .inl ⟨v, hext.events hev⟩
  · exact .inr (.inl (WorkQueue.subset_done _ k₀ (by simpa using hkq)))
  obtain rfl : c' = cached := (Prod.mk.inj (Option.some.inj (hc'.symm.trans hw))).2
  rcases hkd with hdirty | hread
  · exact .inr (.inl (WorkQueue.mem_done_of_mem_dirty (by simpa using hdirty)))
  · obtain rfl : c' = some t := hread.trans ht₀
    exact .inl (finish_event_of_update hv ht₀ (processItem_releases hd hf)
      (addsFinalizerWhileDeleting_removeFinalizer _ t))

theorem Reachable.releasing (hs : Reachable maxRetries Answered s) : s.Releasing := by
  induction hs with
  | init => exact fun _ _ h => by cases h
  | step _ hs ha h ih => exact ih.exec hs.valid ha h

end Releasing

/-- **The controller releases every trigger being deleted.** At quiescence of a run in which
the server handles the updates `processItem` sends, no stored trigger being deleted carries
the controller's finalizer: one that does keeps a watch event, the queue or the worker busy.
A trigger being deleted may still be stored, held by another controller's finalizer; the
finalizer `processItem` then tries to attach to it again is refused by the server. -/
theorem quiescent_deleting_released {maxRetries : Nat} {s : Cluster}
    (hs : Reachable maxRetries Answered s) (he : s.api.triggers.events = [])
    (hq : s.queue.queue = []) (hw : s.worker = none) {k : ObjectKey} {t : HTTPTrigger}
    (ht : s.api.triggers.objects k = some t) (hd : t.metadata.deletionTimestamp = true) :
    httpTriggerFinalizer ∉ t.metadata.finalizers := by
  intro hmem
  have hf : hasFinalizer httpTriggerFinalizer t = true := List.elem_iff.mpr hmem
  rcases hs.releasing k t ht hd hf with ⟨v, hv⟩ | hk | ⟨c, hc, -⟩
  · simp [he] at hv
  · simp [hq] at hk
  · simp [hw] at hc

/-- After the link, another controller adds its finalizer to the trigger and the trigger is
deleted; the worker removes the controller's finalizer, then fails to attach it again and
waits to retry. The trigger stays stored, being deleted, held by the other finalizer. -/
def releaseRun : List Action :=
  linkRun ++ [.request (.editTrigger ⟨"default", "hello"⟩ (.addFinalizer "other")),
    .request (.editTrigger ⟨"default", "hello"⟩ .delete), .deliverTrigger, .deliverTrigger,
    .getItem, .finishItem true, .deliverTrigger, .getItem, .finishItem true]

theorem quiescent_deleting_released_other :
    ∃ s t, Cluster.init.run triggerMaxRetries releaseRun = some s ∧
      s.api.triggers.objects ⟨"default", "hello"⟩ = some t ∧
      t.metadata.deletionTimestamp = true ∧ httpTriggerFinalizer ∉ t.metadata.finalizers :=
  ⟨_, _, rfl, rfl, rfl, @quiescent_deleting_released _ _
    (Reachable.run .init (by decide)
      (show Cluster.init.run triggerMaxRetries releaseRun = some _ from rfl))
    rfl rfl rfl ⟨"default", "hello"⟩ _ rfl rfl⟩

end Kubeless
