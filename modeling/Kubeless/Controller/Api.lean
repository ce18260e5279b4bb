import Kubeless.Runtime
import Mathlib.Logic.Function.Basic

/-!
# The API Server and the Informer Caches

The HTTP trigger controller sees the cluster through three mechanisms of the API server,
and this module models each of them. Objects are stored under their `namespace/name` key
with a `resourceVersion` that the server raises on every write. An `Update` carries the
resourceVersion its writer read and is refused as a conflict when the object has been
written since (optimistic concurrency), and as invalid when it adds a finalizer to an object
being deleted (the server's validation of object metadata). Every write is streamed, in order, to the watch of
the controller's informer, whose cache lags the store by the events not yet delivered.

A `Collection` holds the objects of one kind, the informer's cache of them, the undelivered
watch events, and, for the proofs only, every version ever written, indexed by its
resourceVersion (`history`). A creation gets the next resourceVersion as its `uid` as well,
so the version at an object's uid is the object as it was created.

## Main results

* `Collection.Valid`: every version held anywhere is the one the history records under its
  resourceVersion, and the cache with the pending events replayed is the store; preserved by
  every write (`Valid.put`, `Valid.erase`) and delivery (`Valid.deliver`).
* `Collection.eq_of_version`: two versions held anywhere with one resourceVersion are
  the same version, so an accepted update was computed from the stored object.
-/

namespace Kubeless

/-- `namespace/name`, the key of a stored object and of the work queue. -/
structure ObjectKey where
  ns : String
  name : String
  deriving DecidableEq

/-- A kind of object the API server stores: its metadata, and the same object with other
metadata. -/
class Resource (α : Type) where
  metadata : α → ObjectMeta
  withMetadata : α → ObjectMeta → α
  metadata_withMetadata (x : α) (m : ObjectMeta) : metadata (withMetadata x m) = m

instance : Resource HTTPTrigger where
  metadata t := t.metadata
  withMetadata t m := { t with metadata := m }
  metadata_withMetadata _ _ := rfl

instance : Resource Function where
  metadata f := f.metadata
  withMetadata f m := { f with metadata := m }
  metadata_withMetadata _ _ := rfl

namespace Resource

variable {α : Type} [Resource α]

/-- The key of an object. -/
def key (x : α) : ObjectKey := ⟨(metadata x).ns, (metadata x).name⟩

/-- The resourceVersion of an object. -/
def version (x : α) : Nat := (metadata x).resourceVersion

/-- The object as the server stores it under the resourceVersion `rv`. -/
def atVersion (x : α) (rv : Nat) : α := withMetadata x { metadata x with resourceVersion := rv }

/-- The object as `Create` stores it: its uid is the resourceVersion it is created at, and it
has no deletion timestamp. -/
def created (x : α) (uid : Nat) : α :=
  withMetadata x { metadata x with uid, deletionTimestamp := false }

@[simp] theorem metadata_created (x : α) (uid : Nat) :
    metadata (created x uid) = { metadata x with uid, deletionTimestamp := false } :=
  metadata_withMetadata _ _

@[simp] theorem key_created (x : α) (uid : Nat) : key (created x uid) = key x := by
  simp [key]

@[simp] theorem metadata_atVersion (x : α) (rv : Nat) :
    metadata (atVersion x rv) = { metadata x with resourceVersion := rv } :=
  metadata_withMetadata _ _

@[simp] theorem key_atVersion (x : α) (rv : Nat) : key (atVersion x rv) = key x := by
  simp [key]

@[simp] theorem version_atVersion (x : α) (rv : Nat) : version (atVersion x rv) = rv := by
  simp [version]

/-- `x` names a finalizer that the stored `cur` lacks, while `cur` is being deleted. -/
def addsFinalizerWhileDeleting (cur x : α) : Bool :=
  (metadata cur).deletionTimestamp &&
    (metadata x).finalizers.any fun f => !(metadata cur).finalizers.contains f

end Resource

open Resource

/-- `replay es m`: the map `m` after the events `es`, oldest first. -/
def replay {α : Type} : List (ObjectKey × Option α) → (ObjectKey → Option α) →
    (ObjectKey → Option α)
  | [], m => m
  | (k, v) :: es, m => replay es (Function.update m k v)

theorem replay_append {α : Type} (es : List (ObjectKey × Option α)) (m : ObjectKey → Option α)
    (k : ObjectKey) (v : Option α) :
    replay (es ++ [(k, v)]) m = Function.update (replay es m) k v := by
  induction es generalizing m with
  | nil => rfl
  | cons e es ih => exact ih _

/-- A key no pending event touches reads the same before and after the replay. -/
theorem replay_of_forall_ne {α : Type} {es : List (ObjectKey × Option α)} {k : ObjectKey}
    (h : ∀ e ∈ es, e.1 ≠ k) (m : ObjectKey → Option α) : replay es m k = m k := by
  induction es generalizing m with
  | nil => rfl
  | cons e es ih =>
      simp only [List.mem_cons, forall_eq_or_imp] at h
      rw [replay, ih h.2, Function.update_noteq (Ne.symm h.1)]

/-- The objects of one kind: in the API server, in the informer's cache, and on the watch
between them; with every version ever written, for the proofs. -/
structure Collection (α : Type) where
  /-- The objects the API server stores. -/
  objects : ObjectKey → Option α
  /-- The informer's cache. -/
  cache : ObjectKey → Option α
  /-- The watch events not yet delivered to the informer, oldest first: the object written,
  or `none` for a removal. -/
  events : List (ObjectKey × Option α)
  /-- Every version ever stored, by its resourceVersion. -/
  history : Nat → Option α

namespace Collection

variable {α : Type} [Resource α]

/-- No objects, no events. -/
def empty : Collection α := ⟨fun _ => none, fun _ => none, [], fun _ => none⟩

/-- A write under the resourceVersion `rv`: the object, its watch event and its place in the
history. -/
def put (c : Collection α) (rv : Nat) (x : α) : Collection α :=
  { c with
    objects := Function.update c.objects (key x) (some (atVersion x rv))
    events := c.events ++ [(key x, some (atVersion x rv))]
    history := Function.update c.history rv (some (atVersion x rv)) }

/-- The object at `k` is removed, and the watch sees the removal. -/
def erase (c : Collection α) (k : ObjectKey) : Collection α :=
  { c with objects := Function.update c.objects k none, events := c.events ++ [(k, none)] }

/-- The garbage collector removes an object that has a deletion timestamp and no
finalizers left. -/
def collect (c : Collection α) (k : ObjectKey) : Option (Collection α) :=
  match c.objects k with
  | some cur =>
      if (metadata cur).deletionTimestamp ∧ (metadata cur).finalizers = [] then some (c.erase k)
      else none
  | none => none

/-- The answer to `Update(x)` (`none` when accepted): refused when the server cannot handle
the request (`ok` false), when nothing is stored at `x`'s key, when the stored object has
another resourceVersion than `x` carries, and, by the validation of object metadata, when
the stored object is being deleted and `x` adds a finalizer to it (no new finalizers can be
added if the object is being deleted). -/
def answer (c : Collection α) (ok : Bool) (x : α) : Option StatusReason :=
  if ok then
    match c.objects (key x) with
    | none => some .notFound
    | some cur =>
        if version cur = version x then
          if addsFinalizerWhileDeleting cur x then some .invalid else none
        else some .conflict
  else some .unavailable

/-- The informer handles its oldest event: the cache takes the event's object, or loses the
key for a removal. -/
def deliver (c : Collection α) : Option ((ObjectKey × Option α) × Collection α) :=
  match c.events with
  | [] => none
  | e :: es => some (e, { c with events := es, cache := Function.update c.cache e.1 e.2 })

/-- **When an update is accepted**: the server handles it, it carries the stored object's
resourceVersion, and it adds no finalizer to an object being deleted. -/
theorem answer_eq_none {c : Collection α} {ok : Bool} {x : α} :
    c.answer ok x = none ↔
      ok = true ∧ ∃ cur, c.objects (key x) = some cur ∧ version cur = version x ∧
        addsFinalizerWhileDeleting cur x = false := by
  unfold answer
  cases ok
  · simp
  · cases h : c.objects (key x) with
    | none => simp
    | some cur => by_cases hv : version cur = version x <;> simp [hv]

theorem collect_eq_some {c c' : Collection α} {k : ObjectKey} (h : c.collect k = some c') :
    ∃ cur, c.objects k = some cur ∧ (metadata cur).deletionTimestamp = true ∧
      (metadata cur).finalizers = [] ∧ c' = c.erase k := by
  unfold collect at h
  split at h
  · split_ifs at h with hc
    cases h
    exact ⟨_, ‹_›, hc.1, hc.2, rfl⟩
  · cases h

omit [Resource α] in
theorem deliver_eq_some {c c' : Collection α} {e : ObjectKey × Option α}
    (h : c.deliver = some (e, c')) :
    ∃ es, c.events = e :: es ∧
      c' = { c with events := es, cache := Function.update c.cache e.1 e.2 } := by
  unfold deliver at h
  split at h
  · cases h
  · cases h; exact ⟨_, ‹_›, rfl⟩

/-- A version held anywhere was written at its key under its resourceVersion. -/
def Written (c : Collection α) (k : ObjectKey) (x : α) : Prop :=
  c.history (version x) = some x ∧ key x = k

/-- The collection at revision `n`: the history is written under the versions up to `n`, every
object the server, the cache or a pending event holds is in it, and the cache with the
pending events replayed is the store. -/
structure Valid (c : Collection α) (n : Nat) : Prop where
  history : ∀ r x, c.history r = some x → version x = r ∧ r ≤ n
  objects : ∀ k x, c.objects k = some x → c.Written k x
  cache : ∀ k x, c.cache k = some x → c.Written k x
  events : ∀ k x, (k, some x) ∈ c.events → c.Written k x
  replay : replay c.events c.cache = c.objects

theorem valid_empty : (empty : Collection α).Valid 0 :=
  ⟨by simp [empty], by simp [empty], by simp [empty], by simp [empty], rfl⟩

theorem Valid.mono {c : Collection α} {n m : Nat} (h : c.Valid n) (hnm : n ≤ m) : c.Valid m :=
  { h with history := fun r x hx => ⟨(h.history r x hx).1, (h.history r x hx).2.trans hnm⟩ }

/-- **Versions are never reused**: two versions held with one resourceVersion are equal. -/
theorem eq_of_version {c : Collection α} {k k' : ObjectKey} {x y : α}
    (hx : c.Written k x) (hy : c.Written k' y) (hv : version x = version y) : x = y := by
  have := hx.1
  rw [hv, hy.1] at this
  exact (Option.some.inj this).symm

/-- **An update is accepted only over the version it carries**: when `x` is an edit of a
version `y` held at `k`, the server answers `x` with no error only if it stores `y` there. -/
theorem Valid.stored_of_answer {c : Collection α} {n : Nat} (h : c.Valid n) {ok : Bool}
    {k : ObjectKey} {x y : α} (hy : c.Written k y) (hk : key x = k)
    (hver : version x = version y) (hx : c.answer ok x = none) : c.objects k = some y := by
  obtain ⟨-, cur, hcur, hvc, -⟩ := answer_eq_none.mp hx
  rw [← hk, hcur, eq_of_version (h.objects _ cur hcur) hy (hvc.trans hver)]

/-- A write at a fresh resourceVersion leaves every version held before written. -/
theorem Valid.written_put {c : Collection α} {n : Nat} (h : c.Valid n) {k : ObjectKey} {y : α}
    (hy : c.Written k y) (x : α) : (c.put (n + 1) x).Written k y := by
  refine ⟨?_, hy.2⟩
  have hlt : version y ≠ n + 1 := by have := (h.history _ _ hy.1).2; omega
  simp only [put, Function.update_noteq hlt, hy.1]

theorem written_put_self (c : Collection α) (rv : Nat) (x : α) :
    (c.put rv x).Written (key x) (atVersion x rv) := by
  simp [Written, put]

theorem Valid.put {c : Collection α} {n : Nat} (h : c.Valid n) (x : α) :
    (c.put (n + 1) x).Valid (n + 1) where
  history r y hy := by
    by_cases hr : r = n + 1
    · subst hr
      simp only [Collection.put, Function.update_same, Option.some.injEq] at hy
      subst hy
      simp
    · simp only [Collection.put, Function.update_noteq hr] at hy
      exact ⟨(h.history r y hy).1, by have := (h.history r y hy).2; omega⟩
  objects k y hy := by
    by_cases hk : k = key x
    · subst hk
      simp only [Collection.put, Function.update_same, Option.some.injEq] at hy
      subst hy
      exact written_put_self c (n + 1) x
    · simp only [Collection.put, Function.update_noteq hk] at hy
      exact h.written_put (h.objects k y hy) x
  cache k y hy := h.written_put (h.cache k y hy) x
  events k y hy := by
    simp only [Collection.put, List.mem_append, List.mem_singleton, Prod.mk.injEq,
      Option.some.injEq] at hy
    rcases hy with hy | ⟨rfl, rfl⟩
    · exact h.written_put (h.events k y hy) x
    · exact written_put_self c (n + 1) x
  replay := by simp only [Collection.put, replay_append, h.replay]

theorem Valid.erase {c : Collection α} {n : Nat} (h : c.Valid n) (k : ObjectKey) :
    (c.erase k).Valid n where
  history := h.history
  objects k' y hy := by
    by_cases hk : k' = k
    · subst hk; simp [Collection.erase] at hy
    · simp only [Collection.erase, Function.update_noteq hk] at hy
      exact h.objects k' y hy
  cache := h.cache
  events k' y hy := by
    simp only [Collection.erase, List.mem_append, List.mem_singleton, Prod.mk.injEq,
      reduceCtorEq, and_false, or_false] at hy
    exact h.events k' y hy
  replay := by simp only [Collection.erase, replay_append, h.replay]

theorem Valid.deliver {c c' : Collection α} {n : Nat} {e : ObjectKey × Option α} (h : c.Valid n)
    (hd : c.deliver = some (e, c')) : c'.Valid n := by
  obtain ⟨es, hes, rfl⟩ := deliver_eq_some hd
  obtain ⟨k, v⟩ := e
  refine ⟨h.history, h.objects, fun k' y hy => ?_, fun k' y hy => h.events k' y (by simp [hes, hy]),
    ?_⟩
  · by_cases hk : k' = k
    · subst hk
      simp only [Function.update_same] at hy
      subst hy
      exact h.events k' y (by simp [hes])
    · simp only [Function.update_noteq hk] at hy
      exact h.cache k' y hy
  · have := h.replay
    rw [hes] at this
    exact this

omit [Resource α] in
theorem history_deliver {c c' : Collection α} {e : ObjectKey × Option α}
    (hd : c.deliver = some (e, c')) : c'.history = c.history := by
  obtain ⟨es, -, rfl⟩ := deliver_eq_some hd
  rfl

/-- With no event pending for a key, the cache holds the stored object. -/
theorem Valid.cache_eq {c : Collection α} {n : Nat} (h : c.Valid n) {k : ObjectKey}
    (hk : ∀ e ∈ c.events, e.1 ≠ k) : c.cache k = c.objects k := by
  rw [← h.replay, replay_of_forall_ne hk]

end Collection

/-- The API server: the HTTPTriggers, the Functions, and the last resourceVersion it
handed out. -/
structure Api where
  triggers : Collection HTTPTrigger
  functions : Collection Function
  revision : Nat

namespace Api

/-- A server with no objects. -/
def empty : Api := ⟨.empty, .empty, 0⟩

/-- A trigger written under the next resourceVersion. -/
def putTrigger (a : Api) (t : HTTPTrigger) : Api :=
  { a with triggers := a.triggers.put (a.revision + 1) t, revision := a.revision + 1 }

/-- A Function written under the next resourceVersion. -/
def putFunction (a : Api) (f : Function) : Api :=
  { a with functions := a.functions.put (a.revision + 1) f, revision := a.revision + 1 }

/-- `Update(t)` of a trigger: the server's answer, and the server after it. -/
def updateTrigger (a : Api) (ok : Bool) (t : HTTPTrigger) : Option StatusReason × Api :=
  match a.triggers.answer ok t with
  | none => (none, a.putTrigger t)
  | some r => (some r, a)

/-- `Update(f)` of a Function: the server's answer, and the server after it. -/
def updateFunction (a : Api) (ok : Bool) (f : Function) : Option StatusReason × Api :=
  match a.functions.answer ok f with
  | none => (none, a.putFunction f)
  | some r => (some r, a)

@[simp] theorem updateTrigger_fst (a : Api) (ok : Bool) (t : HTTPTrigger) :
    (a.updateTrigger ok t).1 = a.triggers.answer ok t := by
  unfold updateTrigger; split <;> simp_all

@[simp] theorem updateFunction_fst (a : Api) (ok : Bool) (f : Function) :
    (a.updateFunction ok f).1 = a.functions.answer ok f := by
  unfold updateFunction; split <;> simp_all

/-- An update of a trigger either is refused and changes nothing, or is accepted: it carried
the resourceVersion of the stored trigger, and it is written. -/
theorem updateTrigger_cases (a : Api) (ok : Bool) (t : HTTPTrigger) :
    (∃ r, a.updateTrigger ok t = (some r, a)) ∨
      (ok = true ∧ (∃ cur, a.triggers.objects (key t) = some cur ∧ version cur = version t) ∧
        a.updateTrigger ok t = (none, a.putTrigger t)) := by
  unfold Api.updateTrigger
  split
  · obtain ⟨hok, cur, hc, hv, -⟩ := Collection.answer_eq_none.mp ‹_›
    exact .inr ⟨hok, ⟨cur, hc, hv⟩, rfl⟩
  · exact .inl ⟨_, rfl⟩

/-- An update of a Function either is refused and changes nothing, or is accepted: it
carried the resourceVersion of the stored Function, and it is written. -/
theorem updateFunction_cases (a : Api) (ok : Bool) (f : Function) :
    (∃ r, a.updateFunction ok f = (some r, a)) ∨
      (ok = true ∧ (∃ cur, a.functions.objects (key f) = some cur ∧ version cur = version f) ∧
        a.updateFunction ok f = (none, a.putFunction f)) := by
  unfold Api.updateFunction
  split
  · obtain ⟨hok, cur, hc, hv, -⟩ := Collection.answer_eq_none.mp ‹_›
    exact .inr ⟨hok, ⟨cur, hc, hv⟩, rfl⟩
  · exact .inl ⟨_, rfl⟩

/-- An update that carries the stored trigger's resourceVersion, and adds no finalizer to a
trigger being deleted, is written when the server handles it. -/
theorem updateTrigger_of_stored {a : Api} {ok : Bool} {t cur : HTTPTrigger}
    (h : a.triggers.objects (key t) = some cur) (hv : version cur = version t)
    (hf : addsFinalizerWhileDeleting cur t = false) (hok : ok = true) :
    a.updateTrigger ok t = (none, a.putTrigger t) := by
  simp [updateTrigger, Collection.answer_eq_none.mpr ⟨hok, cur, h, hv, hf⟩]

end Api

end Kubeless
