import Kubeless.Controller.Lineage
import Kubeless.Controller.WorkQueue

/-!
# The HTTP Trigger Controller

`pkg/controller/http_trigger_controller.go` keeps a finalizer protocol between HTTPTriggers
and the Functions they serve. Its informers watch both kinds. Every event on a trigger queues
the trigger's key. Every event on a Function runs `functionAddedDeletedUpdated`, which
removes the controller's finalizer from a Function that is being deleted. A single worker
takes keys from the rate-limited queue (`processNextItem`) and runs `processItem` on the
trigger it reads from the cache. `processItem` removes the finalizer from a trigger being
deleted, adds it to a trigger without it, and otherwise adds it to the Function the trigger
serves.

The cluster is a state machine, `Cluster.exec`: users create and change objects and delete
them, other controllers add and remove their own finalizers, the garbage collector removes
deleted objects with no finalizer left, the informers deliver events, the worker gets and
finishes items, and the delays of requeued keys pass. Between the worker's read of the cache
(`getItem`) and its update (`finishItem`) any other step may happen. `processItem` is a pure
function from what it read to an `ItemPlan`: the update it sends, if any, and how it treats
the answer.

`triggerMaxRetries` is declared outside these sources, so every result holds for any
`maxRetries`; the concrete runs use the spec's ceiling of 5 (`triggerMaxRetries`).
The Function helpers of `pkg/utils` that the controller calls are not in these sources
either: they are modelled from the spec, written as the trigger helpers of this file are.

## Main results

* `processItem_finalizer_frame`: `processItem` changes only the finalizers of the trigger it
  read, and then updates no Function.
* `Cluster.Valid.exec`, `Reachable.valid`: in every reachable state, every version of a
  trigger or Function held anywhere (server, cache, watch, worker) is recorded in the
  history under its resourceVersion, and the caches replay to the server's objects.
-/

namespace Kubeless

open Resource

/-! ### Finalizers -/

/-- `httpTriggerFinalizer`. -/
def httpTriggerFinalizer : String := "kubeless.io/httptrigger"

/-- `httpTriggerObjHasFinalizer(triggerObj)`. -/
def httpTriggerObjHasFinalizer (triggerObj : HTTPTrigger) : Bool :=
  triggerObj.metadata.finalizers.contains httpTriggerFinalizer

theorem httpTriggerObjHasFinalizer_iff {t : HTTPTrigger} :
    httpTriggerObjHasFinalizer t = true ↔ httpTriggerFinalizer ∈ t.metadata.finalizers := by
  simp [httpTriggerObjHasFinalizer]

/-- `httpTriggerObjAddFinalizer(triggercObj)`: the update it sends, a copy of the trigger with
the finalizer appended. -/
def httpTriggerObjAddFinalizer (triggercObj : HTTPTrigger) : HTTPTrigger :=
  { triggercObj with metadata := { triggercObj.metadata with
      finalizers := triggercObj.metadata.finalizers ++ [httpTriggerFinalizer] } }

/-- `httpTriggerObjRemoveFinalizer(triggercObj)`: the update it sends, a copy of the trigger
without any copy of the finalizer. -/
def httpTriggerObjRemoveFinalizer (triggercObj : HTTPTrigger) : HTTPTrigger :=
  { triggercObj with metadata := { triggercObj.metadata with
      finalizers := triggercObj.metadata.finalizers.filter (· != httpTriggerFinalizer) } }

/-- Modelled from the spec: `utils.FunctionObjHasFinalizer(funcObj, finalizerName)`, whether
the Function carries the finalizer. -/
def functionObjHasFinalizer (funcObj : Function) (finalizerName : String) : Bool :=
  funcObj.metadata.finalizers.contains finalizerName

/-- Modelled from the spec: `utils.FunctionObjAddFinalizer(client, funcObj, finalizerName)`,
the update that attaches the finalizer to the Function. -/
def functionObjAddFinalizer (funcObj : Function) (finalizerName : String) : Function :=
  { funcObj with metadata := { funcObj.metadata with
      finalizers := funcObj.metadata.finalizers ++ [finalizerName] } }

/-- Modelled from the spec: `utils.FunctionObjRemoveFinalizer(client, funcObj,
finalizerName)`, the update that removes the finalizer from the Function. -/
def functionObjRemoveFinalizer (funcObj : Function) (finalizerName : String) : Function :=
  { funcObj with metadata := { funcObj.metadata with
      finalizers := funcObj.metadata.finalizers.filter (· != finalizerName) } }

/-! ### The event handlers and the worker -/

/-- How `processItem` goes on after reading the cache. -/
inductive ItemPlan
  /-- It returns `result` without calling the API server. -/
  | finish (result : Except GoError Unit)
  /-- It sends this update of the trigger, and returns the server's error. -/
  | updateTrigger (t : HTTPTrigger)
  /-- It sends this update of the Function, only logs the server's error, and returns nil. -/
  | updateFunction (f : Function)

/-- What `processItem` returns, given the server's answer to its update. -/
def ItemPlan.result : ItemPlan → Option StatusReason → Except GoError Unit
  | .finish result, _ => result
  | .updateTrigger _, answer => checkStatus answer
  | .updateFunction _, _ => .ok ()

/-- `processItem(key)`, on the trigger it reads from the cache at `key` and on the informer's
Functions: nothing for a trigger that is not cached; the removal of the finalizer from a
trigger being deleted that carries it; its addition to a trigger without it; otherwise its
addition to the Function the trigger serves, when that Function lacks it. -/
def processItem (key : ObjectKey) (cached : Option HTTPTrigger)
    (functions : ObjectKey → Option Function) : ItemPlan :=
  match cached with
  | none => .finish (.ok ())
  | some httpTriggerObj =>
      if httpTriggerObj.metadata.deletionTimestamp && httpTriggerObjHasFinalizer httpTriggerObj
      then .updateTrigger (httpTriggerObjRemoveFinalizer httpTriggerObj)
      else if !httpTriggerObjHasFinalizer httpTriggerObj then
        .updateTrigger (httpTriggerObjAddFinalizer httpTriggerObj)
      else
        match functions ⟨key.ns, httpTriggerObj.functionName⟩ with
        | none => .finish (.error (.status .notFound))
        | some functionObj =>
            if functionObjHasFinalizer functionObj httpTriggerFinalizer then .finish (.ok ())
            else .updateFunction (functionObjAddFinalizer functionObj httpTriggerFinalizer)

/-- `functionAddedDeletedUpdated(obj, deleted)`: the update it sends, if any, which is the
Function without the finalizer when the Function is being deleted and carries it. -/
def functionAddedDeletedUpdated (functionObj : Function) (deleted : Bool) : Option Function :=
  if deleted || !functionObj.metadata.deletionTimestamp then none
  else if functionObjHasFinalizer functionObj httpTriggerFinalizer then
    some (functionObjRemoveFinalizer functionObj httpTriggerFinalizer)
  else none

/-- Modelled from the spec: `triggerMaxRetries`, the retry ceiling of 5 attempts. -/
def triggerMaxRetries : Nat := 5

/-- The end of `processNextItem` for a key, given what `processItem` returned: forget the key
on success; on an error, requeue it with a delay while it has been requeued fewer than
`maxRetries` times, and forget it (give up) after that. -/
def handleErr (maxRetries : Nat) (queue : WorkQueue ObjectKey) (key : ObjectKey) :
    Except GoError Unit → WorkQueue ObjectKey
  | .ok () => queue.forget key
  | .error _ =>
      if queue.numRequeues key < maxRetries then queue.addRateLimited key else queue.forget key

@[simp] theorem handleErr_queue (maxRetries : Nat) (q : WorkQueue ObjectKey) (k : ObjectKey)
    (r : Except GoError Unit) : (handleErr maxRetries q k r).queue = q.queue := by
  unfold handleErr; split <;> (try split_ifs) <;> rfl

@[simp] theorem handleErr_dirty (maxRetries : Nat) (q : WorkQueue ObjectKey) (k : ObjectKey)
    (r : Except GoError Unit) : (handleErr maxRetries q k r).dirty = q.dirty := by
  unfold handleErr; split <;> (try split_ifs) <;> rfl

@[simp] theorem handleErr_processing (maxRetries : Nat) (q : WorkQueue ObjectKey)
    (k : ObjectKey) (r : Except GoError Unit) :
    (handleErr maxRetries q k r).processing = q.processing := by
  unfold handleErr; split <;> (try split_ifs) <;> rfl

/-- The update of an `ItemPlan` sent to the server: the answer, and the server after it. -/
def Api.send (a : Api) (ok : Bool) : ItemPlan → Option StatusReason × Api
  | .finish _ => (none, a)
  | .updateTrigger t => a.updateTrigger ok t
  | .updateFunction f => a.updateFunction ok f

/-! ### The cluster -/

/-- One run of `processItem`, recorded for the proofs: the key, the trigger read from the
cache, the Function the lister gives for it, the server's answer to the update it sent (`none`
when accepted, or when it sent none), and what `processItem` returned. -/
structure Reconcile where
  key : ObjectKey
  cached : Option HTTPTrigger
  found : Option Function
  answer : Option StatusReason
  result : Except GoError Unit

/-- The cluster: the API server with the informers, the work queue, the worker, and the runs
of `processItem` so far. -/
structure Cluster where
  api : Api
  queue : WorkQueue ObjectKey
  /-- The worker inside `processNextItem`: the key it got, and the trigger it read. -/
  worker : Option (ObjectKey × Option HTTPTrigger)
  reconciles : List Reconcile

/-- A request that a user, another controller or the garbage collector makes of the API
server. -/
inductive Request
  /-- A user creates a trigger. -/
  | createTrigger (t : HTTPTrigger)
  /-- A user creates a Function. -/
  | createFunction (f : Function)
  /-- A user deletes a trigger, or another controller changes its finalizers. -/
  | editTrigger (k : ObjectKey) (e : Edit)
  /-- A user deletes a Function, or another controller changes its finalizers. -/
  | editFunction (k : ObjectKey) (e : Edit)
  /-- A user points a trigger at another Function. -/
  | setFunctionName (k : ObjectKey) (functionName : String)
  /-- A user updates a Function's spec. -/
  | setFunctionSpec (k : ObjectKey) (spec : FunctionSpec)
  /-- The garbage collector removes a trigger. -/
  | collectTrigger (k : ObjectKey)
  /-- The garbage collector removes a Function. -/
  | collectFunction (k : ObjectKey)

/-- The server after a request, when the request can be made: a creation at a free key,
an allowed edit or a spec change of a stored object, the removal of a deleted object with no
finalizer left. -/
def Api.serve (a : Api) : Request → Option Api
  | .createTrigger t =>
      if (a.triggers.objects (key t)).isSome then none
      else some (a.putTrigger (created t (a.revision + 1)))
  | .createFunction f =>
      if (a.functions.objects (key f)).isSome then none
      else some (a.putFunction (created f (a.revision + 1)))
  | .editTrigger k e => (a.triggers.objects k).bind fun cur =>
      if e.allowed httpTriggerFinalizer cur then some (a.putTrigger (e.apply cur)) else none
  | .editFunction k e => (a.functions.objects k).bind fun cur =>
      if e.allowed httpTriggerFinalizer cur then some (a.putFunction (e.apply cur)) else none
  | .setFunctionName k functionName => (a.triggers.objects k).map fun cur =>
      a.putTrigger { cur with functionName }
  | .setFunctionSpec k spec => (a.functions.objects k).map fun cur =>
      a.putFunction { cur with spec }
  | .collectTrigger k => (a.triggers.collect k).map fun triggers => { a with triggers }
  | .collectFunction k => (a.functions.collect k).map fun functions => { a with functions }

/-- A step of the cluster. -/
inductive Action
  /-- A request to the server. -/
  | request (r : Request)
  /-- The trigger informer handles its oldest event. -/
  | deliverTrigger
  /-- The Function informer handles its oldest event; `ok` says whether the server can
  handle the update the handler may send. -/
  | deliverFunction (ok : Bool)
  /-- The worker gets a key and reads the trigger from the cache. -/
  | getItem
  /-- The worker runs the rest of `processItem` and of `processNextItem`; `ok` says whether
  the server can handle the update `processItem` may send. -/
  | finishItem (ok : Bool)
  /-- The delay of a requeued key passes. -/
  | readyItem (k : ObjectKey)

/-- The cluster before any object exists. -/
def Cluster.init : Cluster := ⟨Api.empty, WorkQueue.empty, none, []⟩

/-- The Function that the lister gives for the trigger read for `key`. -/
def lookupFunction (functions : ObjectKey → Option Function) (key : ObjectKey)
    (cached : Option HTTPTrigger) : Option Function :=
  cached.bind fun t => functions ⟨key.ns, t.functionName⟩

/-- The worker after reading `cached` for `key`: the rest of `processItem` with the update it
sends, and the end of `processNextItem`; the run is recorded. -/
def Cluster.finish (maxRetries : Nat) (s : Cluster) (ok : Bool) (key : ObjectKey)
    (cached : Option HTTPTrigger) : Cluster :=
  let plan := processItem key cached s.api.functions.cache
  let answer := (s.api.send ok plan).1
  let result := plan.result answer
  { api := (s.api.send ok plan).2
    queue := (handleErr maxRetries s.queue key result).done key
    worker := none
    reconciles := s.reconciles ++
      [⟨key, cached, lookupFunction s.api.functions.cache key cached, answer, result⟩] }

/-- A step of the cluster, when the action can be taken. -/
def Cluster.exec (maxRetries : Nat) (s : Cluster) : Action → Option Cluster
  | .request r => (s.api.serve r).map fun api => { s with api }
  | .deliverTrigger => s.api.triggers.deliver.map fun (e, triggers) =>
      { s with api := { s.api with triggers }, queue := s.queue.add e.1 }
  | .deliverFunction ok => s.api.functions.deliver.map fun (e, functions) =>
      let api := { s.api with functions }
      match e.2.bind (functionAddedDeletedUpdated · false) with
      | some update => { s with api := (api.updateFunction ok update).2 }
      | none => { s with api }
  | .getItem =>
      if s.worker.isSome then none
      else s.queue.get.map fun (k, queue) =>
        { s with queue, worker := some (k, s.api.triggers.cache k) }
  | .finishItem ok => s.worker.map fun (k, cached) => s.finish maxRetries ok k cached
  | .readyItem k => (s.queue.ready k).map fun queue => { s with queue }

/-- The states a run reaches from `Cluster.init` by actions that satisfy `allowed`. -/
inductive Reachable (maxRetries : Nat) (allowed : Action → Prop) : Cluster → Prop
  | init : Reachable maxRetries allowed Cluster.init
  | step {s s' : Cluster} (a : Action) : Reachable maxRetries allowed s → allowed a →
      s.exec maxRetries a = some s' → Reachable maxRetries allowed s'

/-- The state after a sequence of actions. -/
def Cluster.run (maxRetries : Nat) (s : Cluster) : List Action → Option Cluster
  | [] => some s
  | a :: as => (s.exec maxRetries a).bind fun s' => s'.run maxRetries as

theorem Reachable.run {maxRetries : Nat} {allowed : Action → Prop} {s s' : Cluster}
    {as : List Action} (hs : Reachable maxRetries allowed s) (ha : ∀ a ∈ as, allowed a)
    (h : s.run maxRetries as = some s') : Reachable maxRetries allowed s' := by
  induction as generalizing s with
  | nil => cases h; exact hs
  | cons a as ih =>
      simp only [Cluster.run, Option.bind_eq_some] at h
      obtain ⟨s₁, h₁, h₂⟩ := h
      exact ih (.step a hs (ha a (List.mem_cons_self _ _)) h₁)
        (fun a' h' => ha a' (List.mem_cons_of_mem _ h')) h₂

/-- The state a run from `Cluster.init` ends in is reachable. -/
theorem Reachable.of_run {maxRetries : Nat} {as : List Action} {s : Cluster}
    (h : Cluster.init.run maxRetries as = some s) : Reachable maxRetries (fun _ => True) s :=
  Reachable.run .init (fun _ _ => trivial) h

/-! ### What the controller sends -/

/-- The triggers read by a run of `processItem` recorded so far. -/
def Cluster.Reconciled (s : Cluster) (t : HTTPTrigger) : Prop :=
  ∃ r ∈ s.reconciles, r.cached = some t

/-- **`processItem` updates only the trigger it read**: it detaches the finalizer from it
when it is being deleted, or attaches the finalizer when it lacks it. -/
theorem processItem_updateTrigger {key : ObjectKey} {cached : Option HTTPTrigger}
    {functions : ObjectKey → Option Function} {t : HTTPTrigger}
    (h : processItem key cached functions = .updateTrigger t) :
    ∃ c, cached = some c ∧
      ((deleting c = true ∧ t = (Edit.removeFinalizer httpTriggerFinalizer).apply c) ∨
        (hasFinalizer httpTriggerFinalizer c = false ∧
          t = (Edit.addFinalizer httpTriggerFinalizer).apply c)) := by
  unfold processItem at h
  split at h
  · cases h
  · rename_i c
    split_ifs at h with h₁ h₂
    · cases h; exact ⟨c, rfl, .inl ⟨(Bool.and_eq_true _ _ ▸ h₁).1, rfl⟩⟩
    · cases h; exact ⟨c, rfl, .inr ⟨by simpa using h₂, rfl⟩⟩
    · split at h
      · cases h
      · split_ifs at h

/-- `processItem` updates a Function only to attach the finalizer to the Function the lister
gives for the trigger it read, when that Function lacks it. -/
theorem processItem_updateFunction {key : ObjectKey} {cached : Option HTTPTrigger}
    {functions : ObjectKey → Option Function} {f : Function}
    (h : processItem key cached functions = .updateFunction f) :
    ∃ c f₀, cached = some c ∧ functions ⟨key.ns, c.functionName⟩ = some f₀ ∧
      hasFinalizer httpTriggerFinalizer f₀ = false ∧
      f = (Edit.addFinalizer httpTriggerFinalizer).apply f₀ := by
  unfold processItem at h
  split at h
  · cases h
  · rename_i c
    split_ifs at h
    split at h
    · cases h
    · split_ifs at h with h₃
      cases h
      exact ⟨c, _, rfl, ‹_›, by simpa using h₃, rfl⟩

/-- **`processItem` changes only the finalizers of the trigger it read.** A trigger without
the finalizer is sent back with the finalizer appended; a trigger being deleted that carries
it is sent back with every copy removed and every other finalizer kept in order; in both
cases that is the only update, and no Function is updated. Any other trigger is not
updated. -/
theorem processItem_finalizer_frame (key : ObjectKey) (t : HTTPTrigger)
    (functions : ObjectKey → Option Function) :
    (httpTriggerFinalizer ∉ t.metadata.finalizers →
      processItem key (some t) functions = .updateTrigger
        { t with metadata := { t.metadata with
            finalizers := t.metadata.finalizers ++ [httpTriggerFinalizer] } }) ∧
    (t.metadata.deletionTimestamp = true → httpTriggerFinalizer ∈ t.metadata.finalizers →
      processItem key (some t) functions = .updateTrigger
        { t with metadata := { t.metadata with
            finalizers := t.metadata.finalizers.filter (· ≠ httpTriggerFinalizer) } }) ∧
    (httpTriggerFinalizer ∈ t.metadata.finalizers → t.metadata.deletionTimestamp = false →
      ∀ u, processItem key (some t) functions ≠ .updateTrigger u) := by
  simp only [← httpTriggerObjHasFinalizer_iff, Bool.not_eq_true]
  refine ⟨fun hf => ?_, fun hd hf => ?_, fun hf hd u hu => ?_⟩
  · simp [processItem, hf, httpTriggerObjAddFinalizer]
  · simp only [processItem, hd, hf, Bool.and_self, if_pos, httpTriggerObjRemoveFinalizer, ne_eq,
      decide_not]
    rfl
  · simp only [processItem, hd, hf, Bool.false_and, Bool.not_true, Bool.false_eq_true, if_false] at hu
    split at hu
    · cases hu
    · split_ifs at hu

theorem processItem_finalizer_frame_fresh :
    let t : HTTPTrigger := { metadata := { name := "hello", ns := "default" },
                             functionName := "hello" }
    httpTriggerFinalizer ∉ t.metadata.finalizers ∧
      processItem ⟨"default", "hello"⟩ (some t) (fun _ => none) = .updateTrigger
        { t with metadata := { t.metadata with
            finalizers := t.metadata.finalizers ++ [httpTriggerFinalizer] } } :=
  ⟨List.not_mem_nil _, (processItem_finalizer_frame _ _ _).1 (List.not_mem_nil _)⟩

/-- The Function handler updates a Function only to detach the finalizer from a Function
being deleted. -/
theorem functionAddedDeletedUpdated_eq_some {f u : Function}
    (h : functionAddedDeletedUpdated f false = some u) :
    deleting f = true ∧ u = (Edit.removeFinalizer httpTriggerFinalizer).apply f := by
  unfold functionAddedDeletedUpdated at h
  split_ifs at h with h₁
  cases h
  exact ⟨by simpa using h₁, rfl⟩

/-- **The worker takes a key** only when it is idle, and reads the trigger from the cache. -/
theorem Cluster.exec_getItem {maxRetries : Nat} {s s' : Cluster}
    (h : s.exec maxRetries .getItem = some s') :
    ∃ k q, s.worker = none ∧ s.queue.get = some (k, q) ∧
      s' = { s with queue := q, worker := some (k, s.api.triggers.cache k) } := by
  simp only [Cluster.exec] at h
  split_ifs at h with hw
  obtain ⟨⟨k, q⟩, hg, rfl⟩ := Option.map_eq_some'.mp h
  exact ⟨k, q, Option.not_isSome_iff_eq_none.mp hw, hg, rfl⟩

/-- **A Function event changes only the Function collection**: the cache takes it, and a
Function seen being deleted loses the finalizer. -/
theorem Cluster.exec_deliverFunction {maxRetries : Nat} {s s' : Cluster} {ok : Bool}
    (h : s.exec maxRetries (.deliverFunction ok) = some s') :
    ∃ e c api, s.api.functions.deliver = some (e, c) ∧ s' = { s with api } ∧
      (api = { s.api with functions := c } ∨
        ∃ f, e.2 = some f ∧ deleting f = true ∧ api = ({ s.api with functions := c }.updateFunction
          ok ((Edit.removeFinalizer httpTriggerFinalizer).apply f)).2) := by
  obtain ⟨⟨e, c⟩, hd, rfl⟩ := Option.map_eq_some'.mp h
  dsimp only
  split
  · rename_i update hu
    obtain ⟨f, hf, hu⟩ := Option.bind_eq_some.mp hu
    obtain ⟨hdel, rfl⟩ := functionAddedDeletedUpdated_eq_some hu
    exact ⟨e, c, _, hd, rfl, .inr ⟨f, hf, hdel, rfl⟩⟩
  · exact ⟨e, c, _, hd, rfl, .inl rfl⟩

/-! ### Every step is a sequence of moves -/

/-- A request moves the server's collections. -/
theorem Api.moves_serve {a a' : Api} {r : Request} {seenTrigger : HTTPTrigger → Prop}
    {seenFunction : Function → Prop} (ht : a.triggers.Valid a.revision)
    (hf : a.functions.Valid a.revision) (h : a.serve r = some a') :
    a.Moves httpTriggerFinalizer seenTrigger seenFunction a' := by
  cases r with
  | createTrigger t =>
      simp only [serve] at h; split_ifs at h; cases h; exact moves_createTrigger a t
  | createFunction f =>
      simp only [serve] at h; split_ifs at h; cases h; exact moves_createFunction a f
  | editTrigger k e =>
      obtain ⟨cur, hc, h⟩ := Option.bind_eq_some.mp h
      split_ifs at h with he
      cases h
      exact moves_putTrigger (by rwa [Edit.key_apply, (ht.objects k cur hc).2]) (.edit e he)
  | editFunction k e =>
      obtain ⟨cur, hc, h⟩ := Option.bind_eq_some.mp h
      split_ifs at h with he
      cases h
      exact moves_putFunction (by rwa [Edit.key_apply, (hf.objects k cur hc).2]) (.edit e he)
  | setFunctionName k functionName =>
      obtain ⟨cur, hc, rfl⟩ := Option.map_eq_some'.mp h
      have hc' : a.triggers.objects (key { cur with functionName }) = some cur := by
        rwa [← (ht.objects k cur hc).2] at hc
      exact moves_putTrigger hc' (.respec rfl)
  | setFunctionSpec k spec =>
      obtain ⟨cur, hc, rfl⟩ := Option.map_eq_some'.mp h
      have hc' : a.functions.objects (key { cur with spec }) = some cur := by
        rwa [← (hf.objects k cur hc).2] at hc
      exact moves_putFunction hc' (.respec rfl)
  | collectTrigger k =>
      obtain ⟨c, hc, rfl⟩ := Option.map_eq_some'.mp h
      exact moves_of_triggers (.collect hc) le_rfl
  | collectFunction k =>
      obtain ⟨c, hc, rfl⟩ := Option.map_eq_some'.mp h
      exact moves_of_functions (.collect hc) le_rfl

/-- The invariant of the cluster: both collections are lineages at the server's revision,
the queue is valid and processes exactly the worker's key, and the trigger the worker read is
a version written at its key. -/
structure Cluster.Valid (s : Cluster) : Prop where
  triggers : s.api.triggers.Lineage s.api.revision
  functions : s.api.functions.Lineage s.api.revision
  queue : s.queue.Valid
  processing : s.queue.processing = (s.worker.map Prod.fst).toList
  worker : ∀ k t, s.worker = some (k, some t) → s.api.triggers.Written k t

theorem Cluster.valid_init : Cluster.init.Valid :=
  ⟨Collection.lineage_empty, Collection.lineage_empty, WorkQueue.valid_empty, rfl,
    fun _ _ h => by cases h⟩

/-- **Every step moves the server's collections**, where the controller detaches the
trigger finalizer only from a trigger that a run of `processItem` read. -/
theorem Cluster.exec_moves {maxRetries : Nat} {s s' : Cluster} {a : Action} (hv : s.Valid)
    (h : s.exec maxRetries a = some s') :
    s.api.Moves httpTriggerFinalizer s'.Reconciled (fun _ => True) s'.api := by
  cases a with
  | request r =>
      obtain ⟨api, hr, rfl⟩ := Option.map_eq_some'.mp h
      exact Api.moves_serve hv.triggers.valid hv.functions.valid hr
  | deliverTrigger =>
      obtain ⟨⟨e, c⟩, hd, rfl⟩ := Option.map_eq_some'.mp h
      exact Api.moves_of_triggers (.deliver hd) le_rfl
  | deliverFunction ok =>
      obtain ⟨e, c, api, hd, rfl, hapi⟩ := exec_deliverFunction h
      refine (Api.moves_of_functions (.deliver hd) le_rfl).trans ?_
      rcases hapi with rfl | ⟨f, hf, hdel, rfl⟩
      · exact .refl _
      obtain ⟨es, hes, -⟩ := Collection.deliver_eq_some hd
      have hw := hv.functions.valid.events e.1 f (by rw [hes, ← hf]; exact List.mem_cons_self _ _)
      have hvc : c.Valid s.api.revision := hv.functions.valid.deliver hd
      have hwc : c.Written e.1 f := ⟨(Collection.history_deliver hd).symm ▸ hw.1, hw.2⟩
      have hch : Change httpTriggerFinalizer (fun _ => True) f _ := .detach hdel trivial
      exact Api.moves_updateFunction hvc hwc hch ok
  | getItem =>
      obtain ⟨k, q, -, -, rfl⟩ := exec_getItem h
      exact .refl _
  | finishItem ok =>
      obtain ⟨⟨k, cached⟩, hw, rfl⟩ := Option.map_eq_some'.mp h
      dsimp only [Cluster.finish]
      generalize hp : processItem k cached s.api.functions.cache = plan
      cases plan with
      | finish r => exact .refl _
      | updateTrigger t =>
          obtain ⟨c, rfl, hch⟩ := processItem_updateTrigger hp
          refine Api.moves_updateTrigger hv.triggers.valid (hv.worker k c hw) ?_ ok
          rcases hch with ⟨hd, rfl⟩ | ⟨hf, rfl⟩
          · exact .detach hd ⟨_, List.mem_append_right _ (List.mem_singleton_self _), rfl⟩
          · exact .attach hf
      | updateFunction f =>
          obtain ⟨c, f₀, rfl, hf₀, hnf, rfl⟩ := processItem_updateFunction hp
          exact Api.moves_updateFunction hv.functions.valid (hv.functions.valid.cache _ _ hf₀)
            (.attach hnf) ok
  | readyItem k =>
      obtain ⟨q, -, rfl⟩ := Option.map_eq_some'.mp h
      exact .refl _

/-- A step that moves the server and leaves the worker alone keeps the cluster valid when it
keeps the queue valid and processing the same keys. -/
theorem Cluster.Valid.frame {s s' : Cluster} {seen : HTTPTrigger → Prop} (hv : s.Valid)
    (hm : s.api.Moves httpTriggerFinalizer seen (fun _ => True) s'.api) (hq : s'.queue.Valid)
    (hp : s'.queue.processing = s.queue.processing) (hw : s'.worker = s.worker) : s'.Valid where
  triggers := hv.triggers.moves hm.1
  functions := hv.functions.moves hm.2
  queue := hq
  processing := by rw [hp, hw]; exact hv.processing
  worker k t h :=
    have w := hv.worker k t (hw ▸ h)
    ⟨hm.1.history hv.triggers w.1, w.2⟩

/-- **Every step keeps the cluster valid.** -/
theorem Cluster.Valid.exec {maxRetries : Nat} {s s' : Cluster} {a : Action} (hv : s.Valid)
    (h : s.exec maxRetries a = some s') : s'.Valid := by
  have hm := exec_moves hv h
  cases a with
  | request r =>
      obtain ⟨api, -, rfl⟩ := Option.map_eq_some'.mp h
      exact hv.frame hm hv.queue rfl rfl
  | deliverTrigger =>
      obtain ⟨⟨e, c⟩, -, rfl⟩ := Option.map_eq_some'.mp h
      exact hv.frame hm (hv.queue.add _) (WorkQueue.subset_add _ _).2.2 rfl
  | deliverFunction ok =>
      obtain ⟨e, c, api, -, rfl, -⟩ := exec_deliverFunction h
      exact hv.frame hm hv.queue rfl rfl
  | getItem =>
      obtain ⟨k, q, hw₀, hg, rfl⟩ := exec_getItem h
      have hp : s.queue.processing = [] := by simpa [hw₀] using hv.processing
      refine ⟨hv.triggers, hv.functions, hv.queue.get hg, ?_, fun k' t hw => ?_⟩
      · simp [(WorkQueue.get_eq_some hg).2.1, hp]
      · obtain ⟨rfl, hc⟩ := Prod.mk.inj (Option.some.inj hw)
        exact hv.triggers.valid.cache k t hc
  | finishItem ok =>
      obtain ⟨⟨k, cached⟩, hw, rfl⟩ := Option.map_eq_some'.mp h
      have hq : ∀ r, (handleErr maxRetries s.queue k r).Valid := fun r k' hk' => by
        simpa using hv.queue k' (by simpa using hk')
      refine ⟨hv.triggers.moves hm.1, hv.functions.moves hm.2, (hq _).done k, ?_,
        fun _ _ h => by cases h⟩
      simp [Cluster.finish, hv.processing, hw]
  | readyItem k =>
      obtain ⟨q, hr, rfl⟩ := Option.map_eq_some'.mp h
      exact hv.frame hm (hv.queue.ready hr)
        (by rw [WorkQueue.ready_eq_some hr, (WorkQueue.subset_add _ _).2.2]) rfl

theorem Reachable.valid {maxRetries : Nat} {allowed : Action → Prop} {s : Cluster}
    (hs : Reachable maxRetries allowed s) : s.Valid := by
  induction hs with
  | init => exact Cluster.valid_init
  | step _ _ _ h ih => exact ih.exec h

/-- **Only a worker that finishes its item records a run.** -/
theorem Cluster.exec_reconciles {maxRetries : Nat} {s s' : Cluster} {a : Action}
    (h : s.exec maxRetries a = some s') :
    s'.reconciles = s.reconciles ∨
      ∃ ok k cached, s.worker = some (k, cached) ∧ s' = s.finish maxRetries ok k cached := by
  cases a with
  | deliverFunction ok =>
      obtain ⟨e, c, api, -, rfl, -⟩ := exec_deliverFunction h
      exact .inl rfl
  | getItem =>
      obtain ⟨k, q, -, -, rfl⟩ := exec_getItem h
      exact .inl rfl
  | finishItem ok =>
      obtain ⟨⟨k, cached⟩, hw, rfl⟩ := Option.map_eq_some'.mp h
      exact .inr ⟨ok, k, cached, hw, rfl⟩
  | _ =>
      obtain ⟨_, -, rfl⟩ := Option.map_eq_some'.mp h
      exact .inl rfl

theorem Cluster.reconciles_subset_exec {maxRetries : Nat} {s s' : Cluster} {a : Action}
    (h : s.exec maxRetries a = some s') : s.reconciles ⊆ s'.reconciles := by
  rcases exec_reconciles h with h' | ⟨ok, k, cached, -, rfl⟩
  · exact h' ▸ List.Subset.refl _
  · exact List.subset_append_left _ _

end Kubeless
