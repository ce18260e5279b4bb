import Kubeless.Controller.Api
import Mathlib.Logic.Relation
import Mathlib.Data.List.Count

/-!
# Versions and Incarnations of Stored Objects

An object the API server stores goes through versions, one per write, under one key. A
removal ends an *incarnation*, and a later creation at the same key starts another one,
under a new uid. Every invariant of the finalizer protocol is about the versions of one
incarnation: which finalizers it carries, and whether it is being deleted.

This module says once what a write may change (`Change`): another client's edit, a change
that keeps the metadata, and the controller attaching its finalizer to an object that lacks
it or detaching it from an object that is being deleted. It also says what one step of the
cluster may do to a collection (`Move`): create, write such a change over the stored object,
remove, deliver, or only move the revision. Every fact about the history of a collection is
derived from these two relations, for both kinds of objects.

## Main results

* `Lineage.moves`: along any sequence of moves, the history stays a lineage. Every version
  is at or after its creation, one uid stays at one key, and the stored object is the latest
  version of its incarnation.
* `Persists.moves`: a property of versions that every change preserves holds, once true,
  of every later version of the incarnation (`Persists.stored`: of the stored object).
-/

namespace Kubeless

namespace Resource

variable {α : Type} [Resource α]

/-- The uid of an object, which is the resourceVersion it was created at. -/
def uid (x : α) : Nat := (metadata x).uid

/-- Whether the object has a deletion timestamp. -/
def deleting (x : α) : Bool := (metadata x).deletionTimestamp

/-- Whether the object carries the finalizer `fin`. -/
def hasFinalizer (fin : String) (x : α) : Bool := (metadata x).finalizers.contains fin

/-- The copies of the finalizer `fin` the object carries. -/
def finalizerCount (fin : String) (x : α) : Nat := (metadata x).finalizers.count fin

@[simp] theorem uid_atVersion (x : α) (rv : Nat) : uid (atVersion x rv) = uid x := by
  simp [uid]

@[simp] theorem deleting_atVersion (x : α) (rv : Nat) : deleting (atVersion x rv) = deleting x := by
  simp [deleting]

@[simp] theorem hasFinalizer_atVersion (fin : String) (x : α) (rv : Nat) :
    hasFinalizer fin (atVersion x rv) = hasFinalizer fin x := by
  simp [hasFinalizer]

@[simp] theorem finalizerCount_atVersion (fin : String) (x : α) (rv : Nat) :
    finalizerCount fin (atVersion x rv) = finalizerCount fin x := by
  simp [finalizerCount]

@[simp] theorem uid_created (x : α) (u : Nat) : uid (created x u) = u := by
  simp [uid]

theorem hasFinalizer_iff {fin : String} {x : α} :
    hasFinalizer fin x = true ↔ 0 < finalizerCount fin x := by
  simp [hasFinalizer, finalizerCount, List.count_pos_iff]

theorem hasFinalizer_eq_false {fin : String} {x : α} :
    hasFinalizer fin x = false ↔ finalizerCount fin x = 0 := by
  simp [hasFinalizer, finalizerCount, List.count_eq_zero]

/-- The validation of new finalizers only concerns an object being deleted. -/
theorem addsFinalizerWhileDeleting_of_live {x : α} (h : deleting x = false) (y : α) :
    addsFinalizerWhileDeleting x y = false := by
  simp only [deleting] at h
  simp [addsFinalizerWhileDeleting, h]

end Resource

open Resource

/-! ### Changes to an object -/

/-- A change that a user, or another controller, makes to a stored object. -/
inductive Edit
  /-- `Delete`: the server sets the deletion timestamp. -/
  | delete
  /-- Another controller adds its finalizer. -/
  | addFinalizer (f : String)
  /-- Another controller removes its finalizer. -/
  | removeFinalizer (f : String)

/-- The object after the change. -/
def Edit.apply {α : Type} [Resource α] : Edit → α → α
  | .delete, x => withMetadata x { metadata x with deletionTimestamp := true }
  | .addFinalizer f, x =>
      withMetadata x { metadata x with finalizers := (metadata x).finalizers ++ [f] }
  | .removeFinalizer f, x =>
      withMetadata x { metadata x with finalizers := (metadata x).finalizers.filter (· != f) }

/-- The edits other clients make, given the controller's finalizer `fin`: only a live object
is deleted, only the controller adds or removes `fin`, and the server takes no new finalizer
on an object being deleted. -/
def Edit.allowed {α : Type} [Resource α] (fin : String) : Edit → α → Bool
  | .delete, x => !deleting x
  | .addFinalizer f, x => f != fin && !deleting x
  | .removeFinalizer f, _ => f != fin

section Edit

variable {α : Type} [Resource α]

@[simp] theorem Edit.key_apply (e : Edit) (x : α) : key (e.apply x) = key x := by
  cases e <;> simp [Edit.apply, key, metadata_withMetadata]

@[simp] theorem Edit.version_apply (e : Edit) (x : α) : version (e.apply x) = version x := by
  cases e <;> simp [Edit.apply, version, metadata_withMetadata]

@[simp] theorem Edit.uid_apply (e : Edit) (x : α) : uid (e.apply x) = uid x := by
  cases e <;> simp [Edit.apply, uid, metadata_withMetadata]

@[simp] theorem deleting_delete (x : α) : deleting (Edit.delete.apply x) = true := by
  simp [Edit.apply, deleting, metadata_withMetadata]

@[simp] theorem deleting_addFinalizer (f : String) (x : α) :
    deleting ((Edit.addFinalizer f).apply x) = deleting x := by
  simp [Edit.apply, deleting, metadata_withMetadata]

@[simp] theorem deleting_removeFinalizer (f : String) (x : α) :
    deleting ((Edit.removeFinalizer f).apply x) = deleting x := by
  simp [Edit.apply, deleting, metadata_withMetadata]

@[simp] theorem finalizerCount_delete (fin : String) (x : α) :
    finalizerCount fin (Edit.delete.apply x) = finalizerCount fin x := by
  simp [Edit.apply, finalizerCount, metadata_withMetadata]

@[simp] theorem finalizerCount_addFinalizer (fin f : String) (x : α) :
    finalizerCount fin ((Edit.addFinalizer f).apply x) =
      finalizerCount fin x + if f = fin then 1 else 0 := by
  simp [Edit.apply, finalizerCount, metadata_withMetadata, List.count_singleton']

@[simp] theorem hasFinalizer_addFinalizer (fin : String) (x : α) :
    hasFinalizer fin ((Edit.addFinalizer fin).apply x) = true := by
  simp [Edit.apply, hasFinalizer, metadata_withMetadata]

theorem finalizerCount_removeFinalizer (fin f : String) (x : α) :
    finalizerCount fin ((Edit.removeFinalizer f).apply x) =
      if f = fin then 0 else finalizerCount fin x := by
  simp only [Edit.apply, finalizerCount, metadata_withMetadata]
  split_ifs with h
  · subst h; simp [List.count_eq_zero]
  · exact List.count_filter (by simpa using Ne.symm h)

/-- Removing a finalizer adds none, so the server takes it even from an object being
deleted. -/
@[simp] theorem addsFinalizerWhileDeleting_removeFinalizer (f : String) (x : α) :
    addsFinalizerWhileDeleting x ((Edit.removeFinalizer f).apply x) = false := by
  simp [addsFinalizerWhileDeleting, Edit.apply, metadata_withMetadata]
  exact fun _ _ h _ => h

/-- An allowed edit leaves the copies of the controller's finalizer alone. -/
theorem Edit.finalizerCount_apply {fin : String} {e : Edit} {x : α} (he : e.allowed fin x) :
    finalizerCount fin (e.apply x) = finalizerCount fin x := by
  cases e with
  | delete => simp
  | addFinalizer f => simp_all [Edit.allowed]
  | removeFinalizer f => simp_all [Edit.allowed, finalizerCount_removeFinalizer]

end Edit

/-- The changes one write makes to the stored object `cur`, where `fin` is the controller's
finalizer: another client's allowed edit; a change of anything but the metadata; the
controller attaching `fin` to an object without it; and the controller detaching `fin` from
an object being deleted, a version of it that the controller has `Seen`. -/
inductive Change {α : Type} [Resource α] (fin : String) (Seen : α → Prop) (cur : α) : α → Prop
  | edit (e : Edit) : e.allowed fin cur = true → Change fin Seen cur (e.apply cur)
  | respec {x : α} : metadata x = metadata cur → Change fin Seen cur x
  | attach : hasFinalizer fin cur = false → Change fin Seen cur ((Edit.addFinalizer fin).apply cur)
  | detach : deleting cur = true → Seen cur →
      Change fin Seen cur ((Edit.removeFinalizer fin).apply cur)

namespace Change

variable {α : Type} [Resource α] {fin : String} {Seen : α → Prop} {cur x : α}

theorem key_eq (h : Change fin Seen cur x) : key x = key cur := by
  cases h with
  | respec hm => simp [key, hm]
  | _ => simp

theorem version_eq (h : Change fin Seen cur x) : version x = version cur := by
  cases h with
  | respec hm => simp [version, hm]
  | _ => simp

theorem uid_eq (h : Change fin Seen cur x) : uid x = uid cur := by
  cases h with
  | respec hm => simp [uid, hm]
  | _ => simp

/-- Only `Edit.delete` sets the deletion timestamp, and nothing clears it. -/
theorem deleting_le (h : Change fin Seen cur x) (hd : deleting cur = true) :
    deleting x = true := by
  cases h with
  | edit e _ => cases e <;> simp_all
  | respec hm => simpa [deleting, hm] using hd
  | attach _ => simpa using hd
  | detach _ _ => simpa using hd

/-- **The controller's finalizer goes only by detaching**: a change of an object that carries
it keeps it, unless the object is being deleted and the controller has seen it. -/
theorem hasFinalizer_of (h : Change fin Seen cur x) (hf : hasFinalizer fin cur = true) :
    hasFinalizer fin x = true ∨ (deleting cur = true ∧ Seen cur) := by
  cases h with
  | edit e he =>
      rw [hasFinalizer_iff] at hf ⊢
      exact .inl ((Edit.finalizerCount_apply he).symm ▸ hf)
  | respec hm => exact .inl (by simpa [hasFinalizer, hm] using hf)
  | attach hf' => simp_all
  | detach hd hseen => exact .inr ⟨hd, hseen⟩

/-- **No change makes a second copy**: the controller attaches its finalizer only to an object
that lacks it. -/
theorem finalizerCount_le_one (h : Change fin Seen cur x) (hc : finalizerCount fin cur ≤ 1) :
    finalizerCount fin x ≤ 1 := by
  cases h with
  | edit e he => rwa [Edit.finalizerCount_apply he]
  | respec hm => simpa [finalizerCount, hm] using hc
  | attach hf => simp [hasFinalizer_eq_false.mp hf]
  | detach _ _ => simp [finalizerCount_removeFinalizer]

end Change

/-! ### Moves of a collection -/

namespace Collection

variable {α : Type} [Resource α]

theorem history_put (c : Collection α) (rv : Nat) (x : α) (r : Nat) :
    (c.put rv x).history r = if r = rv then some (atVersion x rv) else c.history r :=
  Function.update_apply _ _ _ _

theorem objects_put (c : Collection α) (rv : Nat) (x : α) (k : ObjectKey) :
    (c.put rv x).objects k = if k = key x then some (atVersion x rv) else c.objects k :=
  Function.update_apply _ _ _ _

/-- A write at the next revision keeps every recorded version. -/
theorem Valid.history_put {c : Collection α} {n r : Nat} {y : α} (hv : c.Valid n) (x : α)
    (hy : c.history r = some y) : (c.put (n + 1) x).history r = some y := by
  rw [Collection.history_put, if_neg (by have := (hv.history r y hy).2; omega)]
  exact hy

/-- What one step of the cluster does to a collection and its revision, where `fin` and
`Seen` say which changes a write may make. -/
inductive Move (fin : String) (Seen : α → Prop) : Collection α × Nat → Collection α × Nat → Prop
  /-- The collection is untouched; the revision may move on, for a write of the other kind. -/
  | bump {c : Collection α} {n n' : Nat} : n ≤ n' → Move fin Seen (c, n) (c, n')
  /-- A creation under a fresh uid. -/
  | create {c : Collection α} {n : Nat} (x : α) : uid x = n + 1 →
      Move fin Seen (c, n) (c.put (n + 1) x, n + 1)
  /-- A write over the stored object. -/
  | write {c : Collection α} {n : Nat} {cur x : α} : c.objects (key x) = some cur →
      Change fin Seen cur x → Move fin Seen (c, n) (c.put (n + 1) x, n + 1)
  /-- The garbage collector removes an object. -/
  | collect {c c' : Collection α} {n : Nat} {k : ObjectKey} : c.collect k = some c' →
      Move fin Seen (c, n) (c', n)
  /-- The informer handles an event. -/
  | deliver {c c' : Collection α} {n : Nat} {e : ObjectKey × Option α} :
      c.deliver = some (e, c') → Move fin Seen (c, n) (c', n)

/-- Any number of moves. -/
def Moves (fin : String) (Seen : α → Prop) : Collection α × Nat → Collection α × Nat → Prop :=
  Relation.ReflTransGen (Move fin Seen)

/-- The history only grows. -/
theorem Move.history {fin : String} {Seen : α → Prop} {c c' : Collection α} {n n' r : Nat}
    {y : α} (h : Move fin Seen (c, n) (c', n')) (hv : c.Valid n) (hy : c.history r = some y) :
    c'.history r = some y := by
  cases h with
  | bump => exact hy
  | create | write => exact hv.history_put _ hy
  | collect hc => obtain ⟨-, -, -, -, rfl⟩ := collect_eq_some hc; exact hy
  | deliver hd => rwa [history_deliver hd]

/-! ### Lineage -/

/-- The history of a valid collection is a lineage: every version is at or after its
incarnation's creation, which is the version at its uid; the versions of one uid are at one
key; and the stored object is the latest version of its incarnation. -/
structure Lineage (c : Collection α) (n : Nat) : Prop where
  valid : c.Valid n
  uid_le : ∀ r x, c.history r = some x → uid x ≤ r
  created : ∀ r x, c.history r = some x → ∃ x₀, c.history (uid x) = some x₀ ∧ uid x₀ = uid x
  key_eq : ∀ r r' x y, c.history r = some x → c.history r' = some y → uid x = uid y →
    key x = key y
  latest : ∀ k x r y, c.objects k = some x → c.history r = some y → uid y = uid x →
    r ≤ version x

theorem lineage_empty : (empty : Collection α).Lineage 0 :=
  ⟨valid_empty, by simp [empty], by simp [empty], by simp [empty], by simp [empty]⟩

/-- The version at an incarnation's uid is its creation. -/
theorem Lineage.uid_created {c : Collection α} {n r : Nat} (h : c.Lineage n) {x x₀ : α}
    (hx : c.history r = some x) (h₀ : c.history (uid x) = some x₀) : uid x₀ = uid x := by
  obtain ⟨y, hy, huy⟩ := h.created r x hx
  rw [hy] at h₀
  cases h₀
  exact huy

/-- A write at the next revision keeps a lineage when it creates an incarnation or continues a
recorded one, and every earlier version of its uid is at its key. -/
theorem Lineage.put {c : Collection α} {n : Nat} (h : c.Lineage n) (x : α)
    (hu : uid x = n + 1 ∨ ∃ x₀, c.history (uid x) = some x₀ ∧ uid x₀ = uid x)
    (hk : ∀ r y, c.history r = some y → uid y = uid x → key y = key x) :
    (c.put (n + 1) x).Lineage (n + 1) where
  valid := h.valid.put x
  uid_le r y hy := by
    rw [history_put] at hy
    split_ifs at hy with hr
    · cases hy
      rcases hu with hu | ⟨x₀, hx₀, -⟩
      · simp [hu, hr]
      · have := (h.valid.history _ _ hx₀).2; simp; omega
    · exact h.uid_le r y hy
  created r y hy := by
    rw [history_put] at hy
    split_ifs at hy with hr
    · cases hy
      rcases hu with hu | ⟨x₀, hx₀, hux₀⟩
      · exact ⟨atVersion x (n + 1), by simp [history_put, hu], rfl⟩
      · exact ⟨x₀, by simpa using h.valid.history_put x hx₀, by simpa using hux₀⟩
    · obtain ⟨x₀, hx₀, hux₀⟩ := h.created r y hy
      exact ⟨x₀, h.valid.history_put x hx₀, hux₀⟩
  key_eq r r' y z hy hz huz := by
    rw [history_put] at hy hz
    split_ifs at hy hz
    · cases hy; cases hz; rfl
    · cases hy; simpa using (hk _ z hz (by simpa using huz.symm)).symm
    · cases hz; simpa using hk _ y hy (by simpa using huz)
    · exact h.key_eq r r' y z hy hz huz
  latest k z r y hz hy huz := by
    rw [objects_put] at hz
    rw [history_put] at hy
    by_cases hkx : k = key x
    · rw [if_pos hkx] at hz
      cases hz
      have : r ≤ n + 1 := by
        split_ifs at hy with hr
        · omega
        · exact (h.valid.history r y hy).2.trans (Nat.le_succ n)
      simpa using this
    · rw [if_neg hkx] at hz
      have hwz := h.valid.objects k z hz
      split_ifs at hy with hr
      · cases hy
        exact absurd (hwz.2.symm.trans (hk _ z hwz.1 (by simpa using huz.symm))) hkx
      · exact h.latest k z r y hz hy huz

theorem Lineage.move {fin : String} {Seen : α → Prop} {c c' : Collection α} {n n' : Nat}
    (h : c.Lineage n) (hm : Move fin Seen (c, n) (c', n')) : c'.Lineage n' := by
  cases hm with
  | bump hn =>
      exact { h with valid := h.valid.mono hn }
  | create x hu =>
      refine h.put x (.inl hu) fun r y hy hyx => ?_
      have := (h.valid.history r y hy).2
      have := h.uid_le r y hy
      omega
  | @write _ _ cur x hc hch =>
      have hw := h.valid.objects _ _ hc
      refine h.put x (.inr ?_) fun r y hy hyx => ?_
      · rw [hch.uid_eq]; exact h.created _ _ hw.1
      · rw [h.key_eq r _ y _ hy hw.1 (hyx.trans hch.uid_eq), hw.2]
  | @collect _ _ _ k₀ hc =>
      obtain ⟨-, -, -, -, rfl⟩ := collect_eq_some hc
      refine { h with valid := h.valid.erase k₀, latest := fun k x r y hx => ?_ }
      by_cases hk : k = k₀
      · subst hk; simp [erase] at hx
      · exact h.latest k x r y (by simpa [erase, Function.update_noteq hk] using hx)
  | deliver hd =>
      obtain ⟨es, -, rfl⟩ := deliver_eq_some hd
      exact { h with valid := h.valid.deliver hd }

theorem Lineage.moves {fin : String} {Seen : α → Prop} {p p' : Collection α × Nat}
    (h : p.1.Lineage p.2) (hm : Moves fin Seen p p') : p'.1.Lineage p'.2 := by
  induction hm with
  | refl => exact h
  | tail _ hm ih => exact ih.move hm

/-- Along moves the history only grows. -/
theorem Moves.history {fin : String} {Seen : α → Prop} {p p' : Collection α × Nat} {r : Nat}
    {y : α} (hm : Moves fin Seen p p') (h : p.1.Lineage p.2) (hy : p.1.history r = some y) :
    p'.1.history r = some y := by
  induction hm with
  | refl => exact hy
  | tail hm₁ hm ih => exact hm.history (h.moves hm₁).valid ih

/-! ### Properties that persist along an incarnation -/

/-- Along the versions of every incarnation, `P` once true stays true. -/
def Persists (c : Collection α) (P : α → Prop) : Prop :=
  ∀ r r' y z, c.history r = some y → c.history r' = some z → uid y = uid z → r ≤ r' → P y → P z

theorem persists_empty (P : α → Prop) : (empty : Collection α).Persists P := by
  simp [Persists, empty]

/-- **The stored object inherits what persists**: it is the latest version of its
incarnation. -/
theorem Persists.stored {c : Collection α} {n : Nat} {P : α → Prop} (hp : c.Persists P)
    (h : c.Lineage n) {r : Nat} {y : α} {k : ObjectKey} {x : α} (hy : c.history r = some y)
    (hx : c.objects k = some x) (hu : uid y = uid x) (hP : P y) : P x :=
  hp r _ y x hy (h.valid.objects k x hx).1 hu (h.latest k x r y hx hy hu) hP

/-- A write at the next revision keeps `P` persisting when `P` of every earlier version of its
uid gives `P` of the new version. -/
theorem Persists.put {c : Collection α} {n : Nat} {P : α → Prop} (hp : c.Persists P)
    (h : c.Lineage n) (x : α)
    (hx : ∀ r y, c.history r = some y → uid y = uid x → P y → P (atVersion x (n + 1))) :
    (c.put (n + 1) x).Persists P := by
  intro r r' y z hy hz hu hr hP
  rw [history_put] at hy hz
  split_ifs at hy hz with h₁ h₂ h₂
  · cases hy; cases hz; exact hP
  · have := (h.valid.history r' z hz).2; omega
  · cases hz; exact hx r y hy (by simpa using hu) hP
  · exact hp r r' y z hy hz hu hr hP

theorem Persists.move {fin : String} {Seen : α → Prop} {c c' : Collection α} {n n' : Nat}
    {P : α → Prop} (hp : c.Persists P) (h : c.Lineage n) (hm : Move fin Seen (c, n) (c', n'))
    (hP : ∀ cur x, Change fin Seen cur x → P cur → P x)
    (hv : ∀ x rv, P (atVersion x rv) ↔ P x) : c'.Persists P := by
  cases hm with
  | bump => exact hp
  | create x hu =>
      refine hp.put h x fun r y hy hyx _ => ?_
      have := (h.valid.history r y hy).2
      have := h.uid_le r y hy
      omega
  | @write _ _ cur x hc hch =>
      refine hp.put h x fun r y hy hyx hPy => (hv _ _).mpr (hP _ _ hch ?_)
      exact hp.stored h hy hc (hyx.trans hch.uid_eq) hPy
  | collect hc => obtain ⟨-, -, -, -, rfl⟩ := collect_eq_some hc; exact hp
  | deliver hd => obtain ⟨es, -, rfl⟩ := deliver_eq_some hd; exact hp

theorem Persists.moves {fin : String} {Seen : α → Prop} {p p' : Collection α × Nat}
    {P : α → Prop} (hp : p.1.Persists P) (h : p.1.Lineage p.2) (hm : Moves fin Seen p p')
    (hP : ∀ cur x, Change fin Seen cur x → P cur → P x)
    (hv : ∀ x rv, P (atVersion x rv) ↔ P x) : p'.1.Persists P := by
  induction hm with
  | refl => exact hp
  | tail hm₁ hm ih => exact ih.move (h.moves hm₁) hm hP hv

end Collection

/-! ### Moves of the API server -/

namespace Api

open Collection

variable {fin : String} {seenTrigger : HTTPTrigger → Prop} {seenFunction : Function → Prop}

/-- Moves of both collections of the server, which share its revision. -/
def Moves (fin : String) (seenTrigger : HTTPTrigger → Prop) (seenFunction : Function → Prop)
    (a a' : Api) : Prop :=
  Collection.Moves fin seenTrigger (a.triggers, a.revision) (a'.triggers, a'.revision) ∧
    Collection.Moves fin seenFunction (a.functions, a.revision) (a'.functions, a'.revision)

theorem Moves.refl (a : Api) : a.Moves fin seenTrigger seenFunction a :=
  ⟨.refl, .refl⟩

theorem Moves.trans {a a' a'' : Api} (h : a.Moves fin seenTrigger seenFunction a')
    (h' : a'.Moves fin seenTrigger seenFunction a'') : a.Moves fin seenTrigger seenFunction a'' :=
  ⟨h.1.trans h'.1, h.2.trans h'.2⟩

/-- A move of the triggers alone. -/
theorem moves_of_triggers {a : Api} {c : Collection HTTPTrigger} {n : Nat}
    (h : Move fin seenTrigger (a.triggers, a.revision) (c, n)) (hn : a.revision ≤ n) :
    a.Moves fin seenTrigger seenFunction { a with triggers := c, revision := n } :=
  ⟨.single h, .single (.bump hn)⟩

/-- A move of the Functions alone. -/
theorem moves_of_functions {a : Api} {c : Collection Function} {n : Nat}
    (h : Move fin seenFunction (a.functions, a.revision) (c, n)) (hn : a.revision ≤ n) :
    a.Moves fin seenTrigger seenFunction { a with functions := c, revision := n } :=
  ⟨.single (.bump hn), .single h⟩

theorem moves_createTrigger (a : Api) (t : HTTPTrigger) :
    a.Moves fin seenTrigger seenFunction (a.putTrigger (created t (a.revision + 1))) :=
  moves_of_triggers (.create _ (uid_created _ _)) (Nat.le_succ _)

theorem moves_createFunction (a : Api) (f : Function) :
    a.Moves fin seenTrigger seenFunction (a.putFunction (created f (a.revision + 1))) :=
  moves_of_functions (.create _ (uid_created _ _)) (Nat.le_succ _)

theorem moves_putTrigger {a : Api} {cur t : HTTPTrigger}
    (hc : a.triggers.objects (key t) = some cur)
    (hch : Change fin seenTrigger cur t) :
    a.Moves fin seenTrigger seenFunction (a.putTrigger t) :=
  moves_of_triggers (.write hc hch) (Nat.le_succ _)

theorem moves_putFunction {a : Api} {cur f : Function} (hc : a.functions.objects (key f) = some cur)
    (hch : Change fin seenFunction cur f) :
    a.Moves fin seenTrigger seenFunction (a.putFunction f) :=
  moves_of_functions (.write hc hch) (Nat.le_succ _)

/-- **An accepted update changes what its writer read**: the update of a version `y` held
anywhere is accepted only when `y` is the stored trigger. -/
theorem moves_updateTrigger {a : Api} (hv : a.triggers.Valid a.revision) {k : ObjectKey}
    {y t : HTTPTrigger} (hy : a.triggers.Written k y) (hch : Change fin seenTrigger y t)
    (ok : Bool) : a.Moves fin seenTrigger seenFunction (a.updateTrigger ok t).2 := by
  rcases a.updateTrigger_cases ok t with ⟨r, h⟩ | ⟨-, ⟨cur, hc, hver⟩, h⟩
  · rw [h]; exact .refl a
  · rw [h]
    have := eq_of_version (hv.objects _ _ hc) hy (hver.trans hch.version_eq)
    exact moves_putTrigger hc (this ▸ hch)

theorem moves_updateFunction {a : Api} (hv : a.functions.Valid a.revision) {k : ObjectKey}
    {y f : Function} (hy : a.functions.Written k y) (hch : Change fin seenFunction y f)
    (ok : Bool) : a.Moves fin seenTrigger seenFunction (a.updateFunction ok f).2 := by
  rcases a.updateFunction_cases ok f with ⟨r, h⟩ | ⟨-, ⟨cur, hc, hver⟩, h⟩
  · rw [h]; exact .refl a
  · rw [h]
    have := eq_of_version (hv.objects _ _ hc) hy (hver.trans hch.version_eq)
    exact moves_putFunction hc (this ▸ hch)

end Api

end Kubeless
