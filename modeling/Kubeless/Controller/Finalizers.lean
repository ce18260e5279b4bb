import Kubeless.Controller.HttpTrigger

/-!
# The Finalizer Protocol

What the HTTP trigger controller's finalizer bookkeeping guarantees over every run of the
cluster, and where it does not.

Each guarantee is a property that persists along the versions of an incarnation
(`Collection.Persists`), together with a fact about the record of the runs of `processItem`.
Those facts come from what one step can do (`Cluster.exec_moves`) and from what
`processItem` sends. On the trigger side, no change makes a second copy of the finalizer,
and only `processItem` removes it, after reading the trigger being deleted. On the Function
side, the finalizer goes only when the Function is being deleted: `functionAddedDeletedUpdated`
removes it then, whatever triggers still serve the Function.

The model's server accepts every update that carries the stored resourceVersion. Kubernetes'
validation that refuses new finalizers on an object being deleted is left out. It only
refuses more updates, so every invariant below holds under it as well, and the results about
the bug are stated about the update `processItem` sends.

## Main results

* `httpTrigger_finalizer_unique`: a trigger created without the finalizer never carries two
  copies; after a run of `processItem` completed without error on a live version of it, it
  carries exactly one until a run of `processItem` reads it being deleted.
* `linked_function_keeps_finalizer`: a Function that a run of `processItem` linked carries the
  finalizer as long as it has no deletion timestamp, so it is not removed before its own
  deletion.
* `linked_function_collected`: once its deletion timestamp is set, the linked Function is
  removed while the live trigger that references it still exists.
* `processItem_finalizes_deleted`: `processItem` sends updates that add the finalizer to a
  trigger being deleted, and to a Function being deleted.
-/

namespace Kubeless

open Resource Collection

/-! ### The runs of `processItem` -/

/-- A run of `processItem` that completed without error on a version of the trigger `t`
without a deletion timestamp. -/
def Reconcile.Establishes (r : Reconcile) (t : HTTPTrigger) : Prop :=
  r.result = .ok () ∧ ∃ c, r.cached = some c ∧ uid c = uid t ∧ deleting c = false

/-- A run of `processItem` that read a version of the trigger `t` with a deletion
timestamp. -/
def Reconcile.ObservesDeletion (r : Reconcile) (t : HTTPTrigger) : Prop :=
  ∃ c, r.cached = some c ∧ uid c = uid t ∧ deleting c = true

/-- A run of `processItem` that linked the trigger it read to the Function `f`: it completed
without error on a trigger that carried the finalizer and had no deletion timestamp, the
lister gave `f`, and `f` carried the finalizer or the update attaching it was accepted. -/
def Reconcile.Links (r : Reconcile) (f : Function) : Prop :=
  r.result = .ok () ∧
    (∃ t, r.cached = some t ∧ httpTriggerObjHasFinalizer t = true ∧ deleting t = false) ∧
    r.found = some f ∧ (functionObjHasFinalizer f httpTriggerFinalizer = true ∨ r.answer = none)

/-- The incarnations, by uid, that a run of `processItem` read being deleted. -/
def Cluster.Drained (s : Cluster) (u : Nat) : Prop :=
  ∃ r ∈ s.reconciles, ∃ c, r.cached = some c ∧ uid c = u ∧ deleting c = true

theorem processItem_attachTrigger {key : ObjectKey} {c : HTTPTrigger}
    {functions : ObjectKey → Option Function} (hf : hasFinalizer httpTriggerFinalizer c = false) :
    processItem key (some c) functions =
      .updateTrigger ((Edit.addFinalizer httpTriggerFinalizer).apply c) := by
  have : httpTriggerObjHasFinalizer c = false := hf
  simp [processItem, this]
  rfl

theorem processItem_attachFunction {key : ObjectKey} {c : HTTPTrigger} {f : Function}
    {functions : ObjectKey → Option Function} (hc : hasFinalizer httpTriggerFinalizer c = true)
    (hd : deleting c = false) (hf : functions ⟨key.ns, c.functionName⟩ = some f)
    (hnf : hasFinalizer httpTriggerFinalizer f = false) :
    processItem key (some c) functions =
      .updateFunction ((Edit.addFinalizer httpTriggerFinalizer).apply f) := by
  have hc' : httpTriggerObjHasFinalizer c = true := hc
  have hd' : c.metadata.deletionTimestamp = false := hd
  have hnf' : functionObjHasFinalizer f httpTriggerFinalizer = false := hnf
  simp [processItem, hc', hd', hf, hnf']
  rfl

/-- An accepted update of a trigger is written at the next revision. -/
theorem Api.history_updateTrigger {a : Api} {ok : Bool} {t : HTTPTrigger}
    (h : (a.updateTrigger ok t).1 = none) :
    (a.updateTrigger ok t).2.triggers.history (a.revision + 1) =
      some (atVersion t (a.revision + 1)) := by
  rcases a.updateTrigger_cases ok t with ⟨r, hr⟩ | ⟨-, -, hr⟩ <;> rw [hr] at h ⊢
  · cases h
  · simp [Api.putTrigger, history_put]

/-- An accepted update of a Function is written at the next revision. -/
theorem Api.history_updateFunction {a : Api} {ok : Bool} {f : Function}
    (h : (a.updateFunction ok f).1 = none) :
    (a.updateFunction ok f).2.functions.history (a.revision + 1) =
      some (atVersion f (a.revision + 1)) := by
  rcases a.updateFunction_cases ok f with ⟨r, hr⟩ | ⟨-, -, hr⟩ <;> rw [hr] at h ⊢
  · cases h
  · simp [Api.putFunction, history_put]

/-! ### The invariant of the protocol -/

/-- The invariant of the finalizer protocol. -/
structure Cluster.Protocol (s : Cluster) : Prop where
  /-- Once a version of a trigger has at most one copy of the finalizer, so do the later
  ones. -/
  single : s.api.triggers.Persists fun t => finalizerCount httpTriggerFinalizer t ≤ 1
  /-- A trigger keeps the finalizer until a run of `processItem` reads it being deleted. -/
  kept : s.api.triggers.Persists fun t =>
    hasFinalizer httpTriggerFinalizer t = true ∨ s.Drained (uid t)
  /-- A Function keeps the finalizer while it has no deletion timestamp. -/
  functionKept : s.api.functions.Persists fun f =>
    hasFinalizer httpTriggerFinalizer f = true ∨ deleting f = true
  /-- A run that completed without error on a live trigger left a version of it with the
  finalizer. -/
  established : ∀ r ∈ s.reconciles, ∀ t, r.Establishes t →
    ∃ rv y, s.api.triggers.history rv = some y ∧ uid y = uid t ∧
      hasFinalizer httpTriggerFinalizer y = true
  /-- A run that linked a Function left a version of it with the finalizer. -/
  linked : ∀ r ∈ s.reconciles, ∀ f, r.Links f →
    ∃ rv y, s.api.functions.history rv = some y ∧ uid y = uid f ∧
      hasFinalizer httpTriggerFinalizer y = true

theorem Cluster.protocol_init : Cluster.init.Protocol :=
  ⟨persists_empty _, persists_empty _, persists_empty _, by simp [Cluster.init],
    by simp [Cluster.init]⟩

/-- A property up to a set of uids persists under a larger set. -/
theorem Collection.Persists.or_uid {α : Type} [Resource α] {c : Collection α} {P : α → Prop}
    {D D' : Nat → Prop} (hp : c.Persists fun x => P x ∨ D (uid x)) (hD : ∀ u, D u → D' u) :
    c.Persists fun x => P x ∨ D' (uid x) := by
  rintro r r' y z hy hz hu hle (hPy | hDy)
  · exact (hp r r' y z hy hz hu hle (.inl hPy)).imp_right (hD _)
  · exact .inr (hu ▸ hDy)

/-- **Every step keeps the protocol's invariant.** -/
theorem Cluster.Protocol.exec {maxRetries : Nat} {s s' : Cluster} {a : Action} (hv : s.Valid)
    (hp : s.Protocol) (h : s.exec maxRetries a = some s') : s'.Protocol := by
  have hm := exec_moves hv h
  have hsub := reconciles_subset_exec h
  have hT : ∀ {rv y}, s.api.triggers.history rv = some y → s'.api.triggers.history rv = some y :=
    fun hy => hm.1.history hv.triggers hy
  have hF : ∀ {rv y}, s.api.functions.history rv = some y →
      s'.api.functions.history rv = some y :=
    fun hy => hm.2.history hv.functions hy
  refine ⟨hp.single.moves hv.triggers hm.1 (fun _ _ hch => hch.finalizerCount_le_one) (by simp),
    (hp.kept.or_uid fun u ⟨r, hr, hc⟩ => ⟨r, hsub hr, hc⟩).moves hv.triggers hm.1 ?_ (by simp),
    hp.functionKept.moves hv.functions hm.2 ?_ (by simp), fun r hr t he => ?_,
    fun r hr f hl => ?_⟩
  · -- the trigger finalizer goes only after a recorded read of the trigger being deleted
    intro cur x hch hP
    rw [hch.uid_eq]
    rcases hP with hf | hd
    · exact (hch.hasFinalizer_of hf).imp_right fun ⟨hd, r, hr, hc⟩ => ⟨r, hr, cur, hc, rfl, hd⟩
    · exact .inr hd
  · -- the Function finalizer goes only from a Function being deleted
    intro cur x hch hP
    rcases hP with hf | hd
    · exact (hch.hasFinalizer_of hf).imp_right fun h => hch.deleting_le h.1
    · exact .inr (hch.deleting_le hd)
  all_goals rcases exec_reconciles h with h' | ⟨ok, k, cached, hw, rfl⟩
  · obtain ⟨rv, y, hy, hu, hf⟩ := hp.established r (h' ▸ hr) t he
    exact ⟨rv, y, hT hy, hu, hf⟩
  · simp only [Cluster.finish, List.mem_append, List.mem_singleton] at hr
    rcases hr with hr | rfl
    · obtain ⟨rv, y, hy, hu, hf⟩ := hp.established r hr t he
      exact ⟨rv, y, hT hy, hu, hf⟩
    -- the new run: the trigger it read carried the finalizer, or its attachment was accepted
    obtain ⟨hres, c, rfl, hu, hd⟩ := he
    by_cases hc : hasFinalizer httpTriggerFinalizer c = true
    · exact ⟨_, c, hT (hv.worker k c hw).1, hu, hc⟩
    · have hplan : processItem k (some c) s.api.functions.cache = _ :=
        processItem_attachTrigger (Bool.eq_false_iff.mpr hc)
      simp only [hplan, ItemPlan.result, Api.send, checkStatus_eq_ok] at hres
      refine ⟨s.api.revision + 1,
        atVersion ((Edit.addFinalizer httpTriggerFinalizer).apply c) (s.api.revision + 1),
        ?_, by simpa using hu, by simp⟩
      simp only [Cluster.finish, hplan, Api.send]
      exact Api.history_updateTrigger hres
  · obtain ⟨rv, y, hy, hu, hf⟩ := hp.linked r (h' ▸ hr) f hl
    exact ⟨rv, y, hF hy, hu, hf⟩
  · simp only [Cluster.finish, List.mem_append, List.mem_singleton] at hr
    rcases hr with hr | rfl
    · obtain ⟨rv, y, hy, hu, hf⟩ := hp.linked r hr f hl
      exact ⟨rv, y, hF hy, hu, hf⟩
    -- the new run: the Function it found carried the finalizer, or its attachment was accepted
    obtain ⟨-, ⟨c, rfl, hc, hd⟩, hfound, hfa⟩ := hl
    have hfc : s.api.functions.cache ⟨k.ns, c.functionName⟩ = some f := hfound
    by_cases hff : hasFinalizer httpTriggerFinalizer f = true
    · exact ⟨_, f, hF (hv.functions.valid.cache _ _ hfc).1, rfl, hff⟩
    · have hplan := processItem_attachFunction hc hd hfc (Bool.eq_false_iff.mpr hff)
      have hans : (s.api.updateFunction ok ((Edit.addFinalizer httpTriggerFinalizer).apply f)).1 =
          none := by
        have := hfa.resolve_left hff
        simp only [hplan, Api.send] at this
        exact this
      refine ⟨s.api.revision + 1,
        atVersion ((Edit.addFinalizer httpTriggerFinalizer).apply f) (s.api.revision + 1),
        ?_, by simp, by simp⟩
      simp only [Cluster.finish, hplan, Api.send]
      exact Api.history_updateFunction hans

theorem Reachable.protocol {maxRetries : Nat} {allowed : Action → Prop} {s : Cluster}
    (hs : Reachable maxRetries allowed s) : s.Protocol := by
  induction hs with
  | init => exact Cluster.protocol_init
  | step _ hs _ h ih => exact ih.exec hs.valid h

/-! ### Runs of the cluster -/

/-- The trigger `hello` in `default`, which serves the Function `hello`. -/
def helloTrigger : HTTPTrigger :=
  { metadata := { name := "hello", ns := "default" }, functionName := "hello" }

/-- The Function `hello` in `default`. -/
def helloFunction : Function := { metadata := { name := "hello", ns := "default" } }

/-- Both are created; the first run of `processItem` attaches the finalizer to the trigger,
and the second, woken by that update, attaches it to the Function. -/
def linkRun : List Action :=
  [.request (.createFunction helloFunction), .request (.createTrigger helloTrigger),
    .deliverFunction true, .deliverTrigger, .getItem, .finishItem true,
    .deliverTrigger, .getItem, .finishItem true]

/-! ### No duplicate finalizer on a trigger -/

/-- **A trigger carries the finalizer at most once** when it was created without it, and
exactly once after a run of `processItem` completed without error on a live version of it,
until a run of `processItem` reads it being deleted. This holds whichever cached version each
run of `processItem` acts on, since the server refuses a stale update. -/
theorem httpTrigger_finalizer_unique {maxRetries : Nat} {allowed : Action → Prop} {s : Cluster}
    (hs : Reachable maxRetries allowed s) {k : ObjectKey} {t t₀ : HTTPTrigger}
    (ht : s.api.triggers.objects k = some t)
    (h₀ : s.api.triggers.history t.metadata.uid = some t₀)
    (hfree : t₀.metadata.finalizers.count httpTriggerFinalizer = 0) :
    t.metadata.finalizers.count httpTriggerFinalizer ≤ 1 ∧
      ((∃ r ∈ s.reconciles, r.Establishes t) → (¬∃ r ∈ s.reconciles, r.ObservesDeletion t) →
        t.metadata.finalizers.count httpTriggerFinalizer = 1) := by
  have hv := hs.valid.triggers
  have hp := hs.protocol
  have hsingle : finalizerCount httpTriggerFinalizer t ≤ 1 :=
    hp.single.stored hv h₀ ht (hv.uid_created (hv.valid.objects k t ht).1 h₀)
      ((Nat.le_of_eq hfree).trans (Nat.zero_le 1))
  refine ⟨hsingle, fun ⟨r, hr, he⟩ hnd => ?_⟩
  obtain ⟨rv, y, hy, hu, hf⟩ := hp.established r hr t he
  rcases hp.kept.stored hv hy ht hu (.inl hf) with hf | hd
  · exact le_antisymm hsingle (hasFinalizer_iff.mp hf)
  · exact absurd hd hnd

theorem httpTrigger_finalizer_unique_linked :
    ∃ s t, Cluster.init.run triggerMaxRetries linkRun = some s ∧
      s.api.triggers.objects ⟨"default", "hello"⟩ = some t ∧
      (∃ r ∈ s.reconciles, r.Establishes t) ∧
      (t.metadata.finalizers.count httpTriggerFinalizer ≤ 1 ∧
        ((∃ r ∈ s.reconciles, r.Establishes t) → (¬∃ r ∈ s.reconciles, r.ObservesDeletion t) →
          t.metadata.finalizers.count httpTriggerFinalizer = 1)) :=
  ⟨_, _, rfl, rfl, ⟨_, List.mem_append_right _ (List.mem_singleton_self _), rfl, _, rfl, rfl, rfl⟩,
    @httpTrigger_finalizer_unique _ _ _
      (Reachable.of_run (show Cluster.init.run triggerMaxRetries linkRun = some _ from rfl))
      ⟨"default", "hello"⟩ _ _ rfl rfl (by decide)⟩

/-! ### A linked Function keeps the finalizer until its own deletion -/

/-- **A linked Function keeps the finalizer while it is live**: once a run of `processItem`
linked a trigger to a Function, that Function carries the finalizer for as long as it has no
deletion timestamp, so the garbage collector cannot remove it before its own deletion. -/
theorem linked_function_keeps_finalizer {maxRetries : Nat} {allowed : Action → Prop}
    {s : Cluster} (hs : Reachable maxRetries allowed s) {r : Reconcile} (hr : r ∈ s.reconciles)
    {f₀ : Function} (hl : r.Links f₀) {k : ObjectKey} {f : Function}
    (hf : s.api.functions.objects k = some f) (hu : f.metadata.uid = f₀.metadata.uid)
    (hd : f.metadata.deletionTimestamp = false) :
    functionObjHasFinalizer f httpTriggerFinalizer = true := by
  have hp := hs.protocol
  obtain ⟨rv, y, hy, huy, hfy⟩ := hp.linked r hr f₀ hl
  rcases hp.functionKept.stored hs.valid.functions hy hf (huy.trans hu.symm) (.inl hfy) with h | h
  · exact h
  · exact absurd (h.symm.trans hd) Bool.noConfusion

theorem linked_function_keeps_finalizer_hello :
    ∃ s r f₀ f, Cluster.init.run triggerMaxRetries linkRun = some s ∧ r ∈ s.reconciles ∧
      r.Links f₀ ∧ s.api.functions.objects ⟨"default", "hello"⟩ = some f ∧
      f.metadata.deletionTimestamp = false ∧
      functionObjHasFinalizer f httpTriggerFinalizer = true :=
  ⟨_, _, _, _, rfl, List.mem_append_right _ (List.mem_singleton_self _),
    ⟨rfl, ⟨_, rfl, rfl, rfl⟩, rfl, .inr rfl⟩, rfl, rfl,
    @linked_function_keeps_finalizer _ _ _
      (Reachable.of_run (show Cluster.init.run triggerMaxRetries linkRun = some _ from rfl))
      _ (List.mem_append_right _ (List.mem_singleton_self _)) _
      ⟨rfl, ⟨_, rfl, rfl, rfl⟩, rfl, .inr rfl⟩ ⟨"default", "hello"⟩ _ rfl rfl rfl⟩

/-- After `linkRun`, a user deletes the Function: the handler sees the update that attached
the finalizer, then the deletion, removes the finalizer, and the garbage collector removes
the Function. -/
def deleteFunctionRun : List Action :=
  [.request (.editFunction ⟨"default", "hello"⟩ .delete), .deliverFunction true,
    .deliverFunction true, .request (.collectFunction ⟨"default", "hello"⟩)]

/-- **A linked Function is removed under a live trigger**: once the Function's deletion
timestamp is set, `functionAddedDeletedUpdated` removes the finalizer, and the Function is
removed while the trigger linked to it lives and references it. -/
theorem linked_function_collected :
    ∃ s t, Cluster.init.run triggerMaxRetries (linkRun ++ deleteFunctionRun) = some s ∧
      s.api.triggers.objects ⟨"default", "hello"⟩ = some t ∧
      t.metadata.deletionTimestamp = false ∧ t.functionName = "hello" ∧
      (∃ r ∈ s.reconciles, ∃ f, r.Links f ∧ key f = ⟨"default", "hello"⟩) ∧
      s.api.functions.objects ⟨"default", "hello"⟩ = none :=
  ⟨_, _, rfl, rfl, rfl, rfl,
    ⟨_, List.mem_append_right _ (List.mem_singleton_self _), _,
      ⟨rfl, ⟨_, rfl, rfl, rfl⟩, rfl, .inr rfl⟩, rfl⟩, rfl⟩

/-! ### Finalizers added to objects being deleted -/

/-- The trigger `hello`, which another controller finalizes as well. -/
def sharedTrigger : HTTPTrigger :=
  { helloTrigger with metadata := { helloTrigger.metadata with finalizers := ["foo"] } }

/-- The Function `hello`, which another controller finalizes as well. -/
def sharedFunction : Function :=
  { helloFunction with metadata := { helloFunction.metadata with finalizers := ["foo"] } }

/-- The trigger is deleted before the worker first reads it. -/
def deletedTriggerRun : List Action :=
  [.request (.createTrigger sharedTrigger), .request (.editTrigger ⟨"default", "hello"⟩ .delete),
    .deliverTrigger, .deliverTrigger, .getItem]

/-- The Function is deleted once the trigger carries the finalizer, and the worker reads the
trigger again. -/
def deletedFunctionRun : List Action :=
  [.request (.createFunction sharedFunction), .request (.createTrigger helloTrigger),
    .deliverFunction true, .deliverTrigger, .getItem, .finishItem true, .deliverTrigger,
    .request (.editFunction ⟨"default", "hello"⟩ .delete), .deliverFunction true, .getItem]

/-- **`processItem` finalizes objects being deleted**: it sends the update that appends the
finalizer to a trigger being deleted that carries only another controller's finalizer, and
the update that appends it to a Function being deleted. -/
theorem processItem_finalizes_deleted :
    (∃ s t, Cluster.init.run triggerMaxRetries deletedTriggerRun = some s ∧
      s.worker = some (⟨"default", "hello"⟩, some t) ∧ t.metadata.deletionTimestamp = true ∧
      processItem ⟨"default", "hello"⟩ (some t) s.api.functions.cache =
        .updateTrigger (httpTriggerObjAddFinalizer t)) ∧
    (∃ s t f, Cluster.init.run triggerMaxRetries deletedFunctionRun = some s ∧
      s.worker = some (⟨"default", "hello"⟩, some t) ∧
      s.api.functions.cache ⟨"default", "hello"⟩ = some f ∧
      f.metadata.deletionTimestamp = true ∧
      processItem ⟨"default", "hello"⟩ (some t) s.api.functions.cache =
        .updateFunction (functionObjAddFinalizer f httpTriggerFinalizer)) :=
  ⟨⟨_, _, rfl, rfl, rfl, rfl⟩, ⟨_, _, _, rfl, rfl, rfl, rfl, rfl⟩⟩

end Kubeless
