import Kubeless.Runtime

/-!
# Autoscaling

`CreateAutoscale` (`pkg/utils/k8sutil.go`) derives a HorizontalPodAutoscaler for a
function's Deployment. A `cpu` target is an average utilisation; a `qps` target is the
`function_calls` rate of the function's Service, which prometheus only scrapes once a
ServiceMonitor selects the function's pods, so `createServiceMonitor` creates one first.

The calls change the cluster's ServiceMonitors and autoscalers, `AutoscaleState`: a
successful creation adds its object, and nothing else changes either set. What each call
answers is an `AutoscaleClient`, so that every result holds for every sequence of answers;
the two parsers of the target (`strconv.ParseInt` and `resource.ParseQuantity`) are part of
it as well. `DeleteAutoscale` and `DeleteServiceMonitor` remove the objects of a name, and
count an answer `NotFound` as done (`ignoreNotFound`); their answers are parameters too.

## Main results

* `createAutoscale_error`: a call that fails leaves both sets as they were, except when the
  ServiceMonitor was created and the autoscaler then refused.
* `createAutoscale_ok`: a call that succeeds has created the autoscaler, and for `qps` the
  ServiceMonitor, unless the lookup of the ServiceMonitor failed with another error than
  `NotFound`.
* `cleanup_undoes_createAutoscale`: the two deletions bring the cluster back to where
  `CreateAutoscale` started, whatever it answered.
-/

namespace Kubeless

/-- `v2alpha1.MetricSpec`: an average CPU utilisation, or a metric of an object. -/
inductive MetricSpec
  | resourceCPU (targetAverageUtilization : Int)
  | object (metricName targetValue kind name : String)
  deriving DecidableEq

/-- `v2alpha1.HorizontalPodAutoscaler`. -/
structure HorizontalPodAutoscaler where
  metadata : ObjectMeta
  /-- The kind and name of the scaled object. -/
  scaleTargetRef : String × String
  minReplicas : Int
  maxReplicas : Int
  metrics : List MetricSpec
  deriving DecidableEq

/-- `monitoringv1alpha1.ServiceMonitor`: the labels of the Services it selects, and the port
it scrapes. -/
structure ServiceMonitor where
  metadata : ObjectMeta
  matchLabels : StringMap
  endpoints : List String
  deriving DecidableEq

/-- The ServiceMonitors and autoscalers of the cluster. -/
structure AutoscaleState where
  serviceMonitors : List ServiceMonitor := []
  hpas : List HorizontalPodAutoscaler := []
  deriving DecidableEq

/-- The answers of the calls `CreateAutoscale` makes. -/
structure AutoscaleClient where
  /-- `strconv.ParseInt(value, 10, 32)`. -/
  parseInt : String → Except String Int
  /-- `resource.ParseQuantity(value)`, in canonical form. -/
  parseQuantity : String → Except String String
  /-- `GetServiceMonitorClientOutOfCluster()`: its error, if any. -/
  smClientError : Option String
  /-- `ServiceMonitors(ns).Get(name)`. -/
  getServiceMonitor : String → String → Except StatusReason ServiceMonitor
  /-- `ServiceMonitors(ns).Create(s)`: the refusal, if any. -/
  createServiceMonitor : String → ServiceMonitor → Option StatusReason
  /-- `HorizontalPodAutoscalers(ns).Create(hpa)`: the refusal, if any. -/
  createHPA : String → HorizontalPodAutoscaler → Option StatusReason

/-- The ServiceMonitor of a function: it selects `function=<funcName>` and scrapes the
function port. -/
def functionServiceMonitor (funcName ns : String) : ServiceMonitor :=
  { metadata := { name := funcName, ns, labels := [("service-monitor", "function")] }
    matchLabels := [("function", funcName)]
    endpoints := ["function-port"] }

/-- `createServiceMonitor(funcName, ns)`: create the function's ServiceMonitor when the
lookup answers `NotFound`; an existing one is an error, and any other lookup error is
dropped. -/
def createServiceMonitor (client : AutoscaleClient) (funcName ns : String)
    (s : AutoscaleState) : Except GoError Unit × AutoscaleState :=
  match client.smClientError with
  | some err => (.error (.error err), s)
  | none =>
      match client.getServiceMonitor ns funcName with
      | .error .notFound =>
          let sm := functionServiceMonitor funcName ns
          match client.createServiceMonitor ns sm with
          | some r => (.error (.status r), s)
          | none => (.ok (), { s with serviceMonitors := s.serviceMonitors ++ [sm] })
      | .error _ => (.ok (), s)
      | .ok _ => (.error (.error "service monitor has already existed"), s)

/-- The autoscaler of a function's Deployment. -/
def functionHPA (funcName ns : String) (min max : Int) (m : List MetricSpec) :
    HorizontalPodAutoscaler :=
  { metadata := { name := funcName, ns }, scaleTargetRef := ("Deployment", funcName),
    minReplicas := min, maxReplicas := max, metrics := m }

/-- The creation of the autoscaler that ends `CreateAutoscale`. -/
def createHPA (client : AutoscaleClient) (funcName ns : String) (min max : Int)
    (m : List MetricSpec) (s : AutoscaleState) : Except GoError Unit × AutoscaleState :=
  let hpa := functionHPA funcName ns min max m
  match client.createHPA ns hpa with
  | some r => (.error (.status r), s)
  | none => (.ok (), { s with hpas := s.hpas ++ [hpa] })

/-- `CreateAutoscale(client, funcName, ns, metric, min, max, value)`. -/
def createAutoscale (client : AutoscaleClient) (funcName ns metric : String) (min max : Int)
    (value : String) (s : AutoscaleState) : Except GoError Unit × AutoscaleState :=
  if metric = "cpu" then
    match client.parseInt value with
    | .error err => (.error (.error err), s)
    | .ok i => createHPA client funcName ns min max [.resourceCPU i] s
  else if metric = "qps" then
    match client.parseQuantity value with
    | .error err => (.error (.error err), s)
    | .ok q =>
        match createServiceMonitor client funcName ns s with
        | (.error err, s') => (.error err, s')
        | (.ok (), s') =>
            createHPA client funcName ns min max [.object "function_calls" q "Service" funcName] s'
  else (.error (.error "metric is not supported"), s)

/-! ### What each call does to the cluster -/

theorem createServiceMonitor_cases (client : AutoscaleClient) (funcName ns : String)
    (s : AutoscaleState) :
    createServiceMonitor client funcName ns s = (.ok (), { s with serviceMonitors :=
        s.serviceMonitors ++ [functionServiceMonitor funcName ns] }) ∨
      (∃ r, r ≠ .notFound ∧ client.getServiceMonitor ns funcName = .error r ∧
        createServiceMonitor client funcName ns s = (.ok (), s)) ∨
      ∃ err, createServiceMonitor client funcName ns s = (.error err, s) := by
  dsimp only [createServiceMonitor]
  split
  · exact .inr (.inr ⟨_, rfl⟩)
  · split
    · split
      · exact .inr (.inr ⟨_, rfl⟩)
      · exact .inl rfl
    · rename_i r hr hget
      exact .inr (.inl ⟨r, hr, hget, rfl⟩)
    · exact .inr (.inr ⟨_, rfl⟩)

theorem createHPA_cases (client : AutoscaleClient) (funcName ns : String) (min max : Int)
    (m : List MetricSpec) (s : AutoscaleState) :
    createHPA client funcName ns min max m s =
        (.ok (), { s with hpas := s.hpas ++ [functionHPA funcName ns min max m] }) ∨
      ∃ err, createHPA client funcName ns min max m s = (.error err, s) := by
  dsimp only [createHPA]
  split
  · exact .inr ⟨_, rfl⟩
  · exact .inl rfl

/-- The four outcomes of `CreateAutoscale`: an error with nothing created; the autoscaler
created, and for a `qps` target a lookup error other than `NotFound` dropped; both objects
created; or the ServiceMonitor created and the autoscaler refused. -/
theorem createAutoscale_eq {client : AutoscaleClient} {funcName ns metric : String}
    {min max : Int} {value : String} {s s' : AutoscaleState} {r : Except GoError Unit}
    (h : createAutoscale client funcName ns metric min max value s = (r, s')) :
    ((∃ err, r = .error err) ∧ s' = s) ∨
    (r = .ok () ∧ (∃ m, s' = { s with hpas := s.hpas ++ [functionHPA funcName ns min max m] }) ∧
      (metric = "qps" → ∃ e, e ≠ .notFound ∧ client.getServiceMonitor ns funcName = .error e)) ∨
    (metric = "qps" ∧ r = .ok () ∧ ∃ m, s' = { s with
      serviceMonitors := s.serviceMonitors ++ [functionServiceMonitor funcName ns],
      hpas := s.hpas ++ [functionHPA funcName ns min max m] }) ∨
    (metric = "qps" ∧ (∃ err, r = .error err) ∧
      s' = { s with serviceMonitors := s.serviceMonitors ++ [functionServiceMonitor funcName ns] }) := by
  unfold createAutoscale at h
  split_ifs at h with hc hq
  · split at h
    · cases h; exact .inl ⟨⟨_, rfl⟩, rfl⟩
    · rcases createHPA_cases client funcName ns min max _ s with he | ⟨e, he⟩ <;> rw [he] at h <;>
        cases h
      · exact .inr (.inl ⟨rfl, ⟨_, rfl⟩, fun hq => absurd (hq ▸ hc) (by decide)⟩)
      · exact .inl ⟨⟨_, rfl⟩, rfl⟩
  · split at h
    · cases h; exact .inl ⟨⟨_, rfl⟩, rfl⟩
    · rcases createServiceMonitor_cases client funcName ns s with hs | ⟨e, hne, hget, hs⟩ | ⟨e, hs⟩ <;>
        rw [hs] at h <;> dsimp only at h
      · rcases createHPA_cases client funcName ns min max _ _ with he | ⟨e, he⟩ <;> rw [he] at h <;>
          cases h
        · exact .inr (.inr (.inl ⟨hq, rfl, _, rfl⟩))
        · exact .inr (.inr (.inr ⟨hq, ⟨_, rfl⟩, rfl⟩))
      · rcases createHPA_cases client funcName ns min max _ s with he | ⟨e, he⟩ <;> rw [he] at h <;>
          cases h
        · exact .inr (.inl ⟨rfl, ⟨_, rfl⟩, fun _ => ⟨e, hne, hget⟩⟩)
        · exact .inl ⟨⟨_, rfl⟩, rfl⟩
      · cases h; exact .inl ⟨⟨_, rfl⟩, rfl⟩
  · cases h; exact .inl ⟨⟨_, rfl⟩, rfl⟩

/-- **A failed `CreateAutoscale` leaves both sets as they were**, except when it created the
ServiceMonitor of a `qps` target and the autoscaler was then refused. -/
theorem createAutoscale_error {client : AutoscaleClient} {funcName ns metric : String}
    {min max : Int} {value : String} {s s' : AutoscaleState} {err : GoError}
    (h : createAutoscale client funcName ns metric min max value s = (.error err, s')) :
    s' = s ∨ (metric = "qps" ∧
      s' = { s with serviceMonitors := s.serviceMonitors ++ [functionServiceMonitor funcName ns] }) := by
  rcases createAutoscale_eq h with ⟨-, rfl⟩ | ⟨⟨⟩, -⟩ | ⟨-, ⟨⟩, -⟩ | ⟨hq, -, rfl⟩
  · exact .inl rfl
  · exact .inr ⟨hq, rfl⟩

/-- **A successful `CreateAutoscale` has created the function's autoscaler**, and for a
`qps` target also its ServiceMonitor, unless the lookup of the ServiceMonitor answered
another error than `NotFound`, which is dropped. -/
theorem createAutoscale_ok {client : AutoscaleClient} {funcName ns metric : String}
    {min max : Int} {value : String} {s s' : AutoscaleState}
    (h : createAutoscale client funcName ns metric min max value s = (.ok (), s')) :
    (∃ m, s'.hpas = s.hpas ++ [functionHPA funcName ns min max m]) ∧
    (metric = "qps" →
      s'.serviceMonitors = s.serviceMonitors ++ [functionServiceMonitor funcName ns] ∨
      ∃ r, r ≠ .notFound ∧ client.getServiceMonitor ns funcName = .error r ∧
        s'.serviceMonitors = s.serviceMonitors) := by
  rcases createAutoscale_eq h with ⟨⟨_, ⟨⟩⟩, -⟩ | ⟨-, ⟨m, rfl⟩, hr⟩ | ⟨-, -, m, rfl⟩ | ⟨-, ⟨_, ⟨⟩⟩, -⟩
  · exact ⟨⟨m, rfl⟩, fun hq => let ⟨e, he, hget⟩ := hr hq; .inr ⟨e, he, hget, rfl⟩⟩
  · exact ⟨⟨m, rfl⟩, fun _ => .inl rfl⟩

/-! ### Removing a function's autoscaling -/

/-- The object is `name` in the namespace `ns`. -/
def ObjectMeta.Named (m : ObjectMeta) (name ns : String) : Prop := m.name = name ∧ m.ns = ns

instance (m : ObjectMeta) (name ns : String) : Decidable (m.Named name ns) :=
  inferInstanceAs (Decidable (_ ∧ _))

/-- The deletion `DeleteAutoscale` and `DeleteServiceMonitor` make among the objects `xs` of
one kind: on success the objects named `name` in `ns` go, and `NotFound` is no error. -/
def deleteNamed {α : Type} (metadata : α → ObjectMeta) (answer : Option StatusReason)
    (name ns : String) (xs : List α) : Except GoError Unit × List α :=
  (ignoreNotFound answer,
    if answer = none then xs.filter fun x => !decide ((metadata x).Named name ns) else xs)

/-- `DeleteAutoscale(client, name, ns)`, given the answer to
`HorizontalPodAutoscalers(ns).Delete(name)`. -/
def deleteAutoscale (deleteHPA : String → String → Option StatusReason) (name ns : String)
    (s : AutoscaleState) : Except GoError Unit × AutoscaleState :=
  let d := deleteNamed HorizontalPodAutoscaler.metadata (deleteHPA ns name) name ns s.hpas
  (d.1, { s with hpas := d.2 })

/-- `DeleteServiceMonitor(name, ns)`, given the answer to `ServiceMonitors(ns).Delete(name)`:
unlike `DeleteAutoscale`, it first builds its client, and returns that error. -/
def deleteServiceMonitor (client : AutoscaleClient)
    (deleteSM : String → String → Option StatusReason) (name ns : String) (s : AutoscaleState) :
    Except GoError Unit × AutoscaleState :=
  match client.smClientError with
  | some err => (.error (.error err), s)
  | none =>
      let d := deleteNamed ServiceMonitor.metadata (deleteSM ns name) name ns s.serviceMonitors
      (d.1, { s with serviceMonitors := d.2 })

/-- An answer to `Delete(name)` in `ns` that a cluster holding `xs` gives when the call goes
through: the objects were deleted, or the cluster holds none of that name and says
`NotFound`. -/
def DeleteAnswered {α : Type} (metadata : α → ObjectMeta) (name ns : String) (xs : List α) :
    Option StatusReason → Prop
  | none => True
  | some r => r = .notFound ∧ ∀ x ∈ xs, ¬(metadata x).Named name ns

section Cleanup

variable {α : Type} {metadata : α → ObjectMeta} {name ns : String}

/-- A deletion that goes through answers `nil` and leaves exactly the objects of other
names. -/
theorem deleteNamed_of_answered {answer : Option StatusReason} {xs : List α}
    (h : DeleteAnswered metadata name ns xs answer) :
    deleteNamed metadata answer name ns xs =
      (.ok (), xs.filter fun x => !decide ((metadata x).Named name ns)) := by
  rcases answer with _ | r
  · rfl
  · obtain ⟨rfl, hxs⟩ := h
    simp only [deleteNamed, ignoreNotFound, reduceCtorEq, if_false, Prod.mk.injEq, true_and]
    exact (List.filter_eq_self.mpr fun x hx => by simpa using hxs x hx).symm

/-- Deleting `name` from objects of other names extended by objects of that name gives back
the former. -/
theorem deleteNamed_append {answer : Option StatusReason} {xs ys : List α}
    (hxs : ∀ x ∈ xs, ¬(metadata x).Named name ns) (hys : ∀ y ∈ ys, (metadata y).Named name ns)
    (h : DeleteAnswered metadata name ns (xs ++ ys) answer) :
    deleteNamed metadata answer name ns (xs ++ ys) = (.ok (), xs) := by
  rw [deleteNamed_of_answered h, List.filter_append,
    List.filter_eq_self.mpr fun x hx => by simpa using hxs x hx,
    List.filter_eq_nil_iff.mpr fun y hy => by simpa using hys y hy, List.append_nil]

end Cleanup

/-- `CreateAutoscale` only adds objects named after the function, whatever it answers. -/
theorem createAutoscale_adds_named {client : AutoscaleClient} {funcName ns metric : String}
    {min max : Int} {value : String} {s s' : AutoscaleState} {r : Except GoError Unit}
    (h : createAutoscale client funcName ns metric min max value s = (r, s')) :
    ∃ hpas sms, s'.hpas = s.hpas ++ hpas ∧ s'.serviceMonitors = s.serviceMonitors ++ sms ∧
      (∀ x ∈ hpas, x.metadata.Named funcName ns) ∧
      ∀ x ∈ sms, x.metadata.Named funcName ns := by
  have hhpa : ∀ m x, x ∈ [functionHPA funcName ns min max m] → x.metadata.Named funcName ns := by
    rintro m x (_ | ⟨_, ⟨⟩⟩); exact ⟨rfl, rfl⟩
  have hsm : ∀ x ∈ [functionServiceMonitor funcName ns], x.metadata.Named funcName ns := by
    rintro x (_ | ⟨_, ⟨⟩⟩); exact ⟨rfl, rfl⟩
  rcases createAutoscale_eq h with ⟨-, rfl⟩ | ⟨-, ⟨m, rfl⟩, -⟩ | ⟨-, -, m, rfl⟩ | ⟨-, -, rfl⟩
  · exact ⟨[], [], by simp, by simp, by simp, by simp⟩
  · exact ⟨_, [], rfl, by simp, hhpa m, by simp⟩
  · exact ⟨_, _, rfl, rfl, hhpa m, hsm⟩
  · exact ⟨[], _, by simp, rfl, by simp, hsm⟩

/-- **Deleting a function's autoscaling undoes `CreateAutoscale`**, whatever it answered:
from a cluster with no autoscaler and no ServiceMonitor of that name, `DeleteAutoscale` and
then `DeleteServiceMonitor` answer `nil` and bring the cluster back, the ServiceMonitor that
a refused `qps` autoscaler leaves behind included, as long as each deletion goes through. -/
theorem cleanup_undoes_createAutoscale {client : AutoscaleClient} {funcName ns metric : String}
    {min max : Int} {value : String} {s s₁ : AutoscaleState} {r : Except GoError Unit}
    {deleteHPA deleteSM : String → String → Option StatusReason}
    (h : createAutoscale client funcName ns metric min max value s = (r, s₁))
    (hhpa : ∀ x ∈ s.hpas, ¬x.metadata.Named funcName ns)
    (hsm : ∀ x ∈ s.serviceMonitors, ¬x.metadata.Named funcName ns)
    (hc : client.smClientError = none)
    (h₁ : DeleteAnswered HorizontalPodAutoscaler.metadata funcName ns s₁.hpas
      (deleteHPA ns funcName))
    (h₂ : DeleteAnswered ServiceMonitor.metadata funcName ns s₁.serviceMonitors
      (deleteSM ns funcName)) :
    (deleteAutoscale deleteHPA funcName ns s₁).1 = .ok () ∧
      deleteServiceMonitor client deleteSM funcName ns (deleteAutoscale deleteHPA funcName ns s₁).2 =
        (.ok (), s) := by
  obtain ⟨hpas, sms, hh, hm, hhpas, hsms⟩ := createAutoscale_adds_named h
  rw [hh] at h₁
  rw [hm] at h₂
  have hd₁ := deleteNamed_append hhpa hhpas h₁
  have hd₂ := deleteNamed_append hsm hsms h₂
  simp only [deleteAutoscale, deleteServiceMonitor, hc, hh, hm, hd₁, hd₂, true_and]

/-- A cluster that creates the ServiceMonitor and refuses the autoscaler for its quota. -/
def quotaClient : AutoscaleClient :=
  { parseInt := fun _ => .ok 50, parseQuantity := .ok, smClientError := none,
    getServiceMonitor := fun _ _ => .error .notFound, createServiceMonitor := fun _ _ => none,
    createHPA := fun _ _ => some (.other "exceeded quota") }

theorem cleanup_undoes_createAutoscale_quota :
    let s₁ := (createAutoscale quotaClient "hello" "default" "qps" 1 3 "10" {}).2
    (deleteAutoscale (fun _ _ => some .notFound) "hello" "default" s₁).1 = .ok () ∧
      deleteServiceMonitor quotaClient (fun _ _ => none) "hello" "default"
        (deleteAutoscale (fun _ _ => some .notFound) "hello" "default" s₁).2 = (.ok (), {}) :=
  @cleanup_undoes_createAutoscale quotaClient "hello" "default" "qps" 1 3 "10" {} _ _ _ _ rfl
    (fun _ h => nomatch h) (fun _ h => nomatch h) rfl
    ⟨rfl, fun _ h => nomatch h⟩ trivial

/-- A cluster that finds no ServiceMonitor and creates one, and refuses the autoscaler, which
exists already. -/
def leftoverClient : AutoscaleClient :=
  { parseInt := fun _ => .ok 50, parseQuantity := .ok, smClientError := none,
    getServiceMonitor := fun _ _ => .error .notFound, createServiceMonitor := fun _ _ => none,
    createHPA := fun _ _ => some .alreadyExists }

/-- A cluster whose ServiceMonitor lookup is unavailable, and which creates the
autoscaler. -/
def lookupFailsClient : AutoscaleClient :=
  { leftoverClient with getServiceMonitor := fun _ _ => .error .unavailable,
                        createHPA := fun _ _ => none }

/-- A `qps` autoscaler for a function that has a `cpu` one fails and leaves a new
ServiceMonitor behind; and with the ServiceMonitor lookup unavailable, `CreateAutoscale`
succeeds with no ServiceMonitor. -/
theorem createAutoscale_not_atomic :
    let s₀ : AutoscaleState := { hpas := [functionHPA "hello" "default" 1 3 [.resourceCPU 50]] }
    createAutoscale leftoverClient "hello" "default" "qps" 1 3 "10" s₀ =
      (.error (.status .alreadyExists),
        { s₀ with serviceMonitors := [functionServiceMonitor "hello" "default"] }) ∧
    createAutoscale lookupFailsClient "hello" "default" "qps" 1 3 "10" {} =
      (.ok (), { hpas := [functionHPA "hello" "default" 1 3
        [.object "function_calls" "10" "Service" "hello"]] }) :=
  ⟨rfl, rfl⟩

end Kubeless
