import Kubeless.Go.Strings
import Kubeless.Go.Encoding

/-!
# Kubernetes Objects

The resources that kubeless reads and writes, reduced to the fields that some modelled
function reads or sets: object metadata, containers and pod templates, the Function and
HTTPTrigger custom resources, the derived ConfigMap, Service and Deployment, and the pods
they run.

Go maps (`map[string]string`) are association lists with Go's assignment semantics
(`GoMap.insert` overwrites the value of a present key), and every statement about them
goes through `GoMap.lookup`, so the order in which a Go `range` visits a map never
matters. The payload-carrying strings (the function source, the dependency manifest, the
ConfigMap values) are `Bytes`; all other strings are `String`s.
-/

namespace Kubeless

open Go

/-! ### Maps -/

/-- A Go map from strings, as an association list. -/
abbrev GoMap (β : Type) := List (String × β)

/-- A Go `map[string]string`. -/
abbrev StringMap := GoMap String

/-- `m[k]`, when present. -/
def GoMap.lookup {β : Type} : GoMap β → String → Option β
  | [], _ => none
  | e :: m, k => if e.1 = k then some e.2 else GoMap.lookup m k

/-- `m[k] = v`: overwrite the value of a present key, or add the key. -/
def GoMap.insert {β : Type} : GoMap β → String → β → GoMap β
  | [], k, v => [(k, v)]
  | e :: m, k, v => if e.1 = k then (k, v) :: m else e :: GoMap.insert m k v

@[simp] theorem GoMap.lookup_nil {β : Type} (k : String) : GoMap.lookup ([] : GoMap β) k = none :=
  rfl

@[simp] theorem GoMap.lookup_insert_self {β : Type} (m : GoMap β) (k : String) (v : β) :
    (m.insert k v).lookup k = some v := by
  induction m with
  | nil => simp [GoMap.insert, GoMap.lookup]
  | cons e m ih => by_cases h : e.1 = k <;> simp [GoMap.insert, GoMap.lookup, h, ih]

@[simp] theorem GoMap.lookup_insert_ne {β : Type} (m : GoMap β) {k k' : String} (v : β)
    (h : k ≠ k') : (m.insert k v).lookup k' = m.lookup k' := by
  induction m with
  | nil => simp [GoMap.insert, GoMap.lookup, h]
  | cons e m ih => by_cases he : e.1 = k <;> simp [GoMap.insert, GoMap.lookup, he, h, ih]

/-- `for k, v := range src { m[k] = v }`: every key of `src` takes its value from `src`. -/
def GoMap.merge {β : Type} (m src : GoMap β) : GoMap β :=
  src.foldr (fun e acc => acc.insert e.1 e.2) m

/-- The same loop under `if _, ok := m[k]; !ok`: the keys of `src` only fill absent keys. -/
def GoMap.mergeAbsent {β : Type} (m src : GoMap β) : GoMap β :=
  src.foldl (fun acc e => if (acc.lookup e.1).isSome then acc else acc.insert e.1 e.2) m

@[simp] theorem GoMap.lookup_cons {β : Type} (e : String × β) (m : GoMap β) (k : String) :
    GoMap.lookup (e :: m) k = if e.1 = k then some e.2 else m.lookup k := rfl

theorem GoMap.lookup_insert {β : Type} (m : GoMap β) (k k' : String) (v : β) :
    (m.insert k v).lookup k' = if k = k' then some v else m.lookup k' := by
  split_ifs with h
  · subst h; exact lookup_insert_self m k v
  · exact lookup_insert_ne m v h

/-- **Merging overwrites**: a key of `src` has its value from `src`. -/
@[simp] theorem GoMap.lookup_merge {β : Type} (m src : GoMap β) (k : String) :
    (m.merge src).lookup k = (src.lookup k).or (m.lookup k) := by
  induction src with
  | nil => rfl
  | cons e src ih =>
      simp only [merge, List.foldr_cons, lookup_insert, lookup_cons] at ih ⊢
      split_ifs <;> simp [ih]

/-- **Filling absent keys keeps** every value `m` already has. -/
@[simp] theorem GoMap.lookup_mergeAbsent {β : Type} (m src : GoMap β) (k : String) :
    (m.mergeAbsent src).lookup k = (m.lookup k).or (src.lookup k) := by
  induction src generalizing m with
  | nil => cases h : m.lookup k <;> simp [mergeAbsent, h]
  | cons e src ih =>
      simp only [mergeAbsent, List.foldl_cons] at ih ⊢
      rw [ih]
      by_cases he : e.1 = k
      · subst he
        cases hm : m.lookup e.1 <;> simp [hm]
      · split_ifs <;> simp [lookup_insert, he]

/-! ### Metadata and containers -/

/-- `metav1.ObjectMeta`, reduced to the fields kubeless reads or sets (`ns` is `Namespace`).
`deletionTimestamp` records whether `DeletionTimestamp` is set; no code reads its value. -/
structure ObjectMeta where
  name : String := ""
  ns : String := ""
  labels : StringMap := []
  annotations : StringMap := []
  ownerReferences : List String := []
  uid : Nat := 0
  resourceVersion : Nat := 0
  deletionTimestamp : Bool := false
  finalizers : List String := []
  deriving DecidableEq

/-- `v1.EnvVar`. -/
structure EnvVar where
  name : String
  value : String
  deriving DecidableEq

/-- `v1.VolumeMount`. -/
structure VolumeMount where
  name : String
  mountPath : String
  deriving DecidableEq

/-- `v1.ResourceRequirements`, with quantities in their canonical text. -/
structure ResourceRequirements where
  limits : StringMap := []
  requests : StringMap := []
  deriving DecidableEq

/-- `v1.Probe` with an `HTTPGet` handler. -/
structure Probe where
  initialDelaySeconds : Nat
  periodSeconds : Nat
  path : String
  port : Nat
  deriving DecidableEq

/-- `v1.Container`. -/
structure Container where
  name : String := ""
  image : String := ""
  command : List String := []
  args : List String := []
  env : List EnvVar := []
  ports : List Nat := []
  volumeMounts : List VolumeMount := []
  resources : ResourceRequirements := {}
  livenessProbe : Option Probe := none
  imagePullPolicy : String := ""
  deriving DecidableEq

/-- `v1.VolumeSource`: the two sources kubeless attaches. -/
inductive VolumeSource
  | emptyDir
  | configMap (name : String)
  deriving DecidableEq

/-- `v1.Volume`. -/
structure Volume where
  name : String
  source : VolumeSource
  deriving DecidableEq

/-- `v1.PodSpec`. -/
structure PodSpec where
  containers : List Container := []
  initContainers : List Container := []
  volumes : List Volume := []
  deriving DecidableEq

/-- `v1.PodTemplateSpec`. -/
structure PodTemplateSpec where
  metadata : ObjectMeta := {}
  spec : PodSpec := {}
  deriving DecidableEq

/-! ### Custom resources -/

/-- `spec.FunctionSpec`, the declarative description of a function. -/
structure FunctionSpec where
  handler : String := ""
  runtime : String := ""
  type : String := ""
  function : Bytes := []
  file : String := ""
  checksum : String := ""
  contentType : String := ""
  deps : Bytes := []
  topic : String := ""
  schedule : String := ""
  template : PodTemplateSpec := {}
  deriving DecidableEq

/-- The Function custom resource. -/
structure Function where
  metadata : ObjectMeta := {}
  spec : FunctionSpec := {}
  deriving DecidableEq

/-- The HTTPTrigger custom resource; its spec names the Function it serves. -/
structure HTTPTrigger where
  metadata : ObjectMeta := {}
  functionName : String := ""
  deriving DecidableEq

/-! ### Derived resources -/

/-- `v1.ConfigMap`. Its values are byte strings: the function source and the dependency
manifest are stored there verbatim. -/
structure ConfigMap where
  metadata : ObjectMeta := {}
  data : GoMap Bytes := []
  deriving DecidableEq

/-- `v1.ServicePort`. -/
structure ServicePort where
  name : String
  port : Nat
  targetPort : Nat
  protocol : String
  deriving DecidableEq

/-- `v1.Service`. -/
structure Service where
  metadata : ObjectMeta := {}
  ports : List ServicePort := []
  selector : StringMap := []
  type : String := ""
  deriving DecidableEq

/-- `v1beta1.Deployment`: a rolling update with at most `maxUnavailable` pods unavailable,
and the pod template. -/
structure Deployment where
  metadata : ObjectMeta := {}
  maxUnavailable : Nat := 0
  template : PodTemplateSpec := {}
  deriving DecidableEq

/-- `v1.ContainerStatus`, reduced to `Ready`. -/
structure ContainerStatus where
  ready : Bool
  deriving DecidableEq

/-- `v1.Pod`, reduced to its metadata and the container statuses of its `Status`, which
are empty until the kubelet reports on the pod's containers. -/
structure Pod where
  metadata : ObjectMeta := {}
  containerStatuses : List ContainerStatus := []
  deriving DecidableEq

/-- The UTF-8 bytes of a string, as Go's `[]byte(s)` gives them. -/
def utf8Bytes (s : String) : Bytes := s.data.flatMap String.utf8EncodeChar

end Kubeless
