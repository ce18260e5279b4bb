import Kubeless.Controller.Finalizers

/-!
# Quiescence of the HTTP Trigger Controller

What holds once the controller has nothing left to do. The trigger informer has handled
every event, no key is queued, and the worker is idle.

On the trigger side, reconciliation reaches its fixpoint in every run in which the server
handles the updates `processItem` sends. A live trigger without the finalizer is never
forgotten (`Cluster.Tracked`). A watch event for it is pending, or its key is queued, or the
worker holds it: then either the key is dirty and will be queued again, or the worker read
the stored version, and the finalizer will be attached. This holds whatever `maxRetries` is.
A run of `processItem` that fails without writing needs no retry: the only failure that
leaves a live trigger without the finalizer is a stale read, and a stale read leaves an
event to deliver.

On the Function side there is no fixpoint. Function events never queue a trigger, and the
worker gives up on a trigger after `maxRetries` failures to find its Function. A Function
created after that is never finalized.

## Main results

* `quiescent_triggers_finalized`: at quiescence, every live trigger carries the finalizer.
* `function_unfinalized_at_quiescence`: a quiescent state, reached with every update
  handled, in which a live trigger references a live Function that lacks the finalizer.
-/

namespace Kubeless

open Resource Collection

/-- The runs in which the server handles every update that `processItem` sends. -/
def Answered : Action → Prop
  | .finishItem ok => ok = true
  | _ => True

instance : DecidablePred Answered
  | .finishItem ok => inferInstanceAs (Decidable (ok = true))
  | .request _ | .deliverTrigger | .deliverFunction _ | .getItem | .readyItem _ =>
      inferInstanceAs (Decidable True)

/-! ### Writes keep the watch -/

/-- `c'` is `c` after writes and removals: every event still pending is, and the object at a
key changes only with a new pending event for the key. -/
structure Collection.Extends {α : Type} (c c' : Collection α) : Prop where
  events : c.events ⊆ c'.events
  objects : ∀ k, c'.objects k = c.objects k ∨ ∃ v, (k, v) ∈ c'.events

namespace Collection

variable {α : Type} [Resource α]

omit [Resource α] in
theorem extends_refl (c : Collection α) : c.Extends c :=
  ⟨List.Subset.refl _, fun _ => .inl rfl⟩

theorem extends_put (c : Collection α) (rv : Nat) (x : α) : c.Extends (c.put rv x) := by
  refine ⟨List.subset_append_left _ _, fun k => ?_⟩
  by_cases hk : k = key x
  · exact .inr ⟨some (atVersion x rv), List.mem_append_right _ (by simp [hk])⟩
  · exact .inl (by simp [put, Function.update_noteq hk])

omit [Resource α] in
theorem extends_erase (c : Collection α) (k₀ : ObjectKey) : c.Extends (c.erase k₀) := by
  refine ⟨List.subset_append_left _ _, fun k => ?_⟩
  by_cases hk : k = k₀
  · exact .inr ⟨none, List.mem_append_right _ (by simp [hk])⟩
  · exact .inl (by simp [erase, Function.update_noteq hk])

end Collection

theorem Api.extends_serve {a a' : Api} {r : Request} (h : a.serve r = some a') :
    a.triggers.Extends a'.triggers := by
  cases r with
  | createTrigger t =>
      simp only [serve] at h; split_ifs at h; cases h; exact extends_put _ _ _
  | editTrigger k e =>
      obtain ⟨cur, -, h⟩ := Option.bind_eq_some.mp h
      split_ifs at h; cases h; exact extends_put _ _ _
  | setFunctionName k functionName =>
      obtain ⟨cur, -, rfl⟩ := Option.map_eq_some'.mp h
      exact extends_put _ _ _
  | collectTrigger k =>
      obtain ⟨c, hc, rfl⟩ := Option.map_eq_some'.mp h
      obtain ⟨-, -, -, -, rfl⟩ := collect_eq_some hc
      exact extends_erase _ _
  | createFunction f =>
      simp only [serve] at h; split_ifs at h; cases h; exact extends_refl _
  | editFunction k e =>
      obtain ⟨cur, -, h⟩ := Option.bind_eq_some.mp h
      split_ifs at h; cases h; exact extends_refl _
  | setFunctionSpec k spec =>
      obtain ⟨cur, -, rfl⟩ := Option.map_eq_some'.mp h
      exact extends_refl _
  | collectFunction k =>
      obtain ⟨c, -, rfl⟩ := Option.map_eq_some'.mp h
      exact extends_refl _

theorem Api.triggers_updateFunction (a : Api) (ok : Bool) (f : Function) :
    (a.updateFunction ok f).2.triggers = a.triggers := by
  rcases a.updateFunction_cases ok f with ⟨r, h⟩ | ⟨-, -, h⟩ <;> rw [h]; rfl

theorem Api.extends_send (a : Api) (ok : Bool) (plan : ItemPlan) :
    a.triggers.Extends (a.send ok plan).2.triggers := by
  cases plan with
  | finish r => exact extends_refl _
  | updateTrigger t =>
      rcases a.updateTrigger_cases ok t with ⟨r, h⟩ | ⟨-, -, h⟩ <;> simp only [Api.send, h]
      · exact extends_refl _
      · exact extends_put _ _ _
  | updateFunction f => simp only [Api.send, triggers_updateFunction]; exact extends_refl _

/-! ### Tracking the live triggers without the finalizer -/

/-- The controller still has to handle the trigger at `k`: a watch event for it is pending,
its key is queued, or the worker holds it and either it is dirty, so `Done` queues it again,
or the worker read the stored version. -/
def Cluster.Pending (s : Cluster) (k : ObjectKey) : Prop :=
  (∃ v, (k, v) ∈ s.api.triggers.events) ∨ k ∈ s.queue.queue ∨
    ∃ c, s.worker = some (k, c) ∧ (k ∈ s.queue.dirty ∨ c = s.api.triggers.objects k)

/-- Every live trigger without the finalizer is pending. -/
def Cluster.Tracked (s : Cluster) : Prop :=
  ∀ k t, s.api.triggers.objects k = some t → deleting t = false →
    hasFinalizer httpTriggerFinalizer t = false → s.Pending k

theorem Cluster.tracked_init : Cluster.init.Tracked := by
  intro k t ht
  cases ht

/-- A step that leaves the worker alone and keeps the events, the queue and the dirty keys
keeps a key pending while its object is unchanged. -/
theorem Cluster.Pending.mono {s s' : Cluster} {k : ObjectKey} (hp : s.Pending k)
    (he : s.api.triggers.events ⊆ s'.api.triggers.events) (hq : s.queue.queue ⊆ s'.queue.queue)
    (hd : s.queue.dirty ⊆ s'.queue.dirty) (hw : s'.worker = s.worker)
    (ho : s'.api.triggers.objects k = s.api.triggers.objects k) : s'.Pending k := by
  rcases hp with ⟨v, hv⟩ | hk | ⟨c, hc, hk⟩
  · exact .inl ⟨v, he hv⟩
  · exact .inr (.inl (hq hk))
  · exact .inr (.inr ⟨c, hw.trans hc, hk.imp (fun h => hd h) (fun h => h.trans ho.symm)⟩)

/-- Such a step, over a collection of triggers that only extends, keeps the tracking. -/
theorem Cluster.Tracked.mono {s s' : Cluster} (hT : s.Tracked)
    (he : s.api.triggers.Extends s'.api.triggers) (hq : s.queue.queue ⊆ s'.queue.queue)
    (hd : s.queue.dirty ⊆ s'.queue.dirty) (hw : s'.worker = s.worker) : s'.Tracked := by
  intro k t ht hdel hf
  rcases he.objects k with ho | hev
  · exact (hT k t (ho ▸ ht) hdel hf).mono he.events hq hd hw ho
  · exact .inl hev

/-- **Every answered step keeps the live triggers without the finalizer tracked.** -/
theorem Cluster.Tracked.exec {maxRetries : Nat} {s s' : Cluster} {a : Action} (hv : s.Valid)
    (hT : s.Tracked) (ha : Answered a) (h : s.exec maxRetries a = some s') : s'.Tracked := by
  cases a with
  | request r =>
      obtain ⟨api, hr, rfl⟩ := Option.map_eq_some'.mp h
      exact hT.mono (Api.extends_serve hr) (List.Subset.refl _) (List.Subset.refl _) rfl
  | deliverFunction ok =>
      obtain ⟨e, c, api, -, rfl, hapi⟩ := exec_deliverFunction h
      have htr : api.triggers = s.api.triggers := by
        rcases hapi with rfl | ⟨f, -, -, rfl⟩
        · rfl
        · exact Api.triggers_updateFunction _ _ _
      refine hT.mono ?_ (List.Subset.refl _) (List.Subset.refl _) rfl
      rw [htr]; exact extends_refl _
  | readyItem k =>
      obtain ⟨q, hr, rfl⟩ := Option.map_eq_some'.mp h
      have hadd := WorkQueue.subset_add { s.queue with waiting := s.queue.waiting.erase k } k
      rw [← WorkQueue.ready_eq_some hr] at hadd
      exact hT.mono (extends_refl _) hadd.1 hadd.2.1 rfl
  | deliverTrigger =>
      -- the delivered event's key is queued, or dirty under the worker that holds it
      obtain ⟨⟨e, c⟩, hd, rfl⟩ := Option.map_eq_some'.mp h
      obtain ⟨es, hes, rfl⟩ := deliver_eq_some hd
      have hadd := WorkQueue.subset_add s.queue e.1
      intro k t ht hdel hf
      rcases hT k t ht hdel hf with ⟨v, hev⟩ | hk | ⟨c, hc, hk⟩
      · rw [hes] at hev
        rcases List.mem_cons.mp hev with rfl | hev
        · rcases WorkQueue.mem_add hv.queue k with hq | ⟨hp, hq⟩
          · exact .inr (.inl hq)
          · rw [hv.processing] at hp
            obtain ⟨⟨k', c⟩, hw, rfl⟩ : ∃ w, s.worker = some w ∧ w.1 = k := by
              cases hw : s.worker <;> simp_all
            exact .inr (.inr ⟨c, hw, .inl hq⟩)
        · exact .inl ⟨v, hev⟩
      · exact .inr (.inl (hadd.1 hk))
      · exact .inr (.inr ⟨c, hc, hk.imp (fun h => hadd.2.1 h) id⟩)
  | getItem =>
      -- the worker reads the cache, which is the stored trigger unless an event is pending
      obtain ⟨k₀, q, hw₀, hg, rfl⟩ := exec_getItem h
      obtain ⟨hqueue, -, -, -, -⟩ := WorkQueue.get_eq_some hg
      intro k t ht hdel hf
      rcases hT k t ht hdel hf with hev | hk | ⟨c, hc, -⟩
      · exact .inl hev
      · rw [hqueue] at hk
        rcases List.mem_cons.mp hk with rfl | hk
        · by_cases hev : ∃ v, (k, v) ∈ s.api.triggers.events
          · exact .inl hev
          · refine .inr (.inr ⟨_, rfl, .inr (hv.triggers.valid.cache_eq fun e he hek => ?_)⟩)
            obtain ⟨k', v⟩ := e
            simp only at hek
            exact hev ⟨v, hek ▸ he⟩
        · exact .inr (.inl hk)
      · simp [hw₀] at hc
  | finishItem ok =>
      obtain ⟨⟨k₀, cached⟩, hw, rfl⟩ := Option.map_eq_some'.mp h
      have hext := Api.extends_send s.api ok (processItem k₀ cached s.api.functions.cache)
      have hq : ∀ r, s.queue.queue ⊆ ((handleErr maxRetries s.queue k₀ r).done k₀).queue :=
        fun r x hx => WorkQueue.subset_done _ k₀ (by simpa using hx)
      intro k t ht hdel hf
      rcases hext.objects k with ho | hev
      swap
      · exact .inl hev
      have ht' : s.api.triggers.objects k = some t := ho ▸ ht
      rcases hT k t ht' hdel hf with ⟨v, hv'⟩ | hk | ⟨c, hc, hk⟩
      · exact .inl ⟨v, hext.events hv'⟩
      · exact .inr (.inl (hq _ hk))
      obtain ⟨rfl, rfl⟩ := Prod.mk.inj (Option.some.inj (hc.symm.trans hw))
      rcases hk with hk | hk
      · exact .inr (.inl (WorkQueue.mem_done_of_mem_dirty (by simpa using hk)))
      -- the worker read the stored trigger without the finalizer: it attaches it, and the
      -- server, which handles the update, accepts it
      obtain rfl : c = some t := hk.trans ht'
      have hkey : key t = k := (hv.triggers.valid.objects k t ht').2
      have hplan : processItem k (some t) s.api.functions.cache = _ := processItem_attachTrigger hf
      have hobj : s.api.triggers.objects (key ((Edit.addFinalizer httpTriggerFinalizer).apply t)) =
          some t := by rw [Edit.key_apply, hkey]; exact ht'
      have hacc : s.api.updateTrigger ok ((Edit.addFinalizer httpTriggerFinalizer).apply t) =
          (none, s.api.putTrigger ((Edit.addFinalizer httpTriggerFinalizer).apply t)) :=
        Api.updateTrigger_of_stored hobj (Edit.version_apply _ t).symm
          (addsFinalizerWhileDeleting_of_live hdel _) ha
      refine .inl ⟨some (atVersion ((Edit.addFinalizer httpTriggerFinalizer).apply t)
        (s.api.revision + 1)), ?_⟩
      simp only [Cluster.finish, hplan, Api.send, hacc, Api.putTrigger, Collection.put]
      exact List.mem_append_right _ (by simp [hkey])

/-- The states reachable by answered steps keep the live triggers without the finalizer
tracked. -/
theorem Reachable.tracked {maxRetries : Nat} {s : Cluster} (hs : Reachable maxRetries Answered s) :
    s.Tracked := by
  induction hs with
  | init => exact Cluster.tracked_init
  | step _ hs ha h ih => exact ih.exec hs.valid ha h

/-! ### Quiescence -/

/-- **Reconciliation reaches its fixpoint on triggers**: in a run where the server handles
every update `processItem` sends, once every trigger event is handled, no key is queued and
the worker is idle, every live trigger carries the finalizer. -/
theorem quiescent_triggers_finalized {maxRetries : Nat} {s : Cluster}
    (hs : Reachable maxRetries Answered s) (he : s.api.triggers.events = [])
    (hq : s.queue.queue = []) (hw : s.worker = none) {k : ObjectKey} {t : HTTPTrigger}
    (ht : s.api.triggers.objects k = some t) (hd : t.metadata.deletionTimestamp = false) :
    httpTriggerObjHasFinalizer t = true := by
  by_contra hf
  rcases hs.tracked k t ht hd (Bool.eq_false_iff.mpr hf) with ⟨v, hv⟩ | hk | ⟨c, hc, -⟩
  · simp [he] at hv
  · simp [hq] at hk
  · simp [hw] at hc

theorem quiescent_triggers_finalized_linked :
    ∃ s t, Cluster.init.run triggerMaxRetries linkRun = some s ∧
      s.api.triggers.objects ⟨"default", "hello"⟩ = some t ∧
      httpTriggerObjHasFinalizer t = true :=
  ⟨_, _, rfl, rfl, @quiescent_triggers_finalized _ _
    (Reachable.run .init (by decide)
      (show Cluster.init.run triggerMaxRetries linkRun = some _ from rfl))
    rfl rfl rfl ⟨"default", "hello"⟩ _ rfl rfl⟩

/-- The trigger is created before its Function: the worker attaches the finalizer, fails to
find the Function `triggerMaxRetries + 1` times and gives up, and then the Function is
created. -/
def giveUpRun : List Action :=
  [.request (.createTrigger helloTrigger), .deliverTrigger, .getItem, .finishItem true,
      .deliverTrigger] ++
    (List.replicate triggerMaxRetries
      [.getItem, .finishItem true, .readyItem ⟨"default", "hello"⟩]).flatten ++
    [.getItem, .finishItem true, .request (.createFunction helloFunction), .deliverFunction true]

/-- **No fixpoint on the Function side**: a run with every update handled reaches a quiescent
state, with no event pending, no key queued or waiting and the worker idle, in which a live
trigger references a live Function that lacks the finalizer. -/
theorem function_unfinalized_at_quiescence :
    (∀ a ∈ giveUpRun, Answered a) ∧
    ∃ s t f, Cluster.init.run triggerMaxRetries giveUpRun = some s ∧
      s.api.triggers.events = [] ∧ s.api.functions.events = [] ∧ s.queue.queue = [] ∧
      s.queue.waiting = [] ∧ s.worker = none ∧
      s.api.triggers.objects ⟨"default", "hello"⟩ = some t ∧
      t.metadata.deletionTimestamp = false ∧ t.functionName = "hello" ∧
      s.api.functions.objects ⟨"default", "hello"⟩ = some f ∧
      f.metadata.deletionTimestamp = false ∧
      functionObjHasFinalizer f httpTriggerFinalizer = false :=
  ⟨by decide, _, _, _, rfl, rfl, rfl, rfl, rfl, rfl, rfl, rfl, rfl, rfl, rfl, rfl⟩

end Kubeless
