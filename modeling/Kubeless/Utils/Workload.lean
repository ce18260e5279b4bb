import Kubeless.Utils.Provision

/-!
# The Derived Workload

`EnsureFuncConfigMap`, `EnsureFuncService` and `EnsureFuncDeployment` (`pkg/utils/k8sutil.go`)
compile a Function into the objects that run it: a ConfigMap holding the handler, the source
and the dependency manifest; a Service on port 8080 selecting the Function's labels; and a
Deployment whose pod mounts that ConfigMap at `/dependencies`, unpacks the source into the
`/kubeless` volume with the prepare init container, installs dependencies with the runtime's
build container, and runs the runtime image with the handler in its environment.

Each `Ensure` function is a pure derivation (`funcConfigMapData`, `funcDeployment`) followed
by its calls to the API server. The API server is a `Client`: the answer to each call as a
function of the call's argument, so that every result holds for every sequence of answers.
`json.Marshal` of the init containers, which only fills an annotation, is a parameter.

## Main results

* `lookup_funcConfigMapData`: the ConfigMap data, key by key, when the keys are distinct.
* `funcDeployment_prepare`: the prepare container of the Deployment is `getProvisionContainer`
  on the same file name that keys the source in the ConfigMap.
* `mem_env_funcDeployment`: the main container is given the handler's module as `MOD_NAME`.
* `funcDeployment_eq_ok`: the pod template of a derived Deployment, field by field, from
  which `funcDeployment_pod_shape` (its containers and init containers) and
  `funcDeployment_merge` (what it keeps of the Function's template) follow.
* `ensureFuncDeployment_refresh`: after an update, `EnsureFuncDeployment` returns the answer
  to the last stale-pod deletion.
* `getReadyPod_eq`: `GetReadyPod` is decided by the first pod that is ready or has no
  status, and panics on the latter.
-/

namespace Kubeless

open Go

/-- The API server as the `Ensure` functions call it: for each call, its answer for the
namespace and argument the call is made with (`none` when the call succeeds). -/
structure Client where
  createConfigMap : String → ConfigMap → Option StatusReason
  updateConfigMap : String → ConfigMap → Option StatusReason
  getService : String → String → Except StatusReason Service
  createService : String → Service → Option StatusReason
  updateService : String → Service → Option StatusReason
  createDeployment : String → Deployment → Option StatusReason
  updateDeployment : String → Deployment → Option StatusReason
  /-- `GetPodsByLabel(c, ns, k, v)`: the names of the pods selected by `k=v`. -/
  listPods : String → String → Except StatusReason (List String)
  deletePod : String → String → Option StatusReason

/-! ### The ConfigMap -/

/-- The data of the Function's ConfigMap: the handler, then the source under its file name,
then the dependency manifest under the runtime's dependency file name, each assignment
overwriting an equal key; no data when the Function has no handler. -/
def funcConfigMapData (rt : Runtimes) (funcObj : Function) : Except GoError (GoMap Bytes) :=
  if funcObj.spec.handler ≠ "" then do
    let fileName ← getFileName rt funcObj.spec.file funcObj.spec.handler funcObj.spec.runtime
    let depName := (rt.getRuntimeDepName funcObj.spec.runtime).1
    let configMapData :=
      (GoMap.insert [] "handler" (utf8Bytes funcObj.spec.handler)).insert fileName
        funcObj.spec.function
    pure (if depName ≠ "" then configMapData.insert depName funcObj.spec.deps else configMapData)
  else pure []

/-- `EnsureFuncConfigMap(client, funcObj, or)`: create the ConfigMap, or update it when it
exists; an update answered with `AlreadyExists` counts as done. -/
def ensureFuncConfigMap (rt : Runtimes) (client : Client) (funcObj : Function)
    (or : List String) : Except GoError Unit := do
  let configMapData ← funcConfigMapData rt funcObj
  let configMap : ConfigMap :=
    { metadata := { name := funcObj.metadata.name, labels := funcObj.metadata.labels,
                    ownerReferences := or }
      data := configMapData }
  match client.createConfigMap funcObj.metadata.ns configMap with
  | some .alreadyExists =>
      match client.updateConfigMap funcObj.metadata.ns configMap with
      | some .alreadyExists => pure ()
      | err => checkStatus err
  | err => checkStatus err

/-! ### The Service -/

/-- The port of every function Service. -/
def functionPort : ServicePort :=
  { name := "function-port", port := 8080, targetPort := 8080, protocol := "TCP" }

/-- The Service `EnsureFuncService` creates when there is none: a ClusterIP Service on the
function port selecting the Function's labels. -/
def funcService (funcObj : Function) (or : List String) : Service :=
  { metadata := { name := funcObj.metadata.name, labels := funcObj.metadata.labels,
                  ownerReferences := or },
    ports := [functionPort], selector := funcObj.metadata.labels, type := "ClusterIP" }

/-- The Service `EnsureFuncService` writes over an existing one: its labels, owners, ports
and selector. -/
def funcServiceUpdate (svc : Service) (funcObj : Function) (or : List String) : Service :=
  { svc with metadata := { svc.metadata with labels := funcObj.metadata.labels,
                                             ownerReferences := or },
             ports := [functionPort], selector := funcObj.metadata.labels }

/-- `EnsureFuncService(client, funcObj, or)`: create the Service, or, when one exists, update
it; an update answered with `AlreadyExists` counts as done. -/
def ensureFuncService (client : Client) (funcObj : Function) (or : List String) :
    Except GoError Unit :=
  let ns := funcObj.metadata.ns
  match client.getService ns funcObj.metadata.name with
  | .error .notFound => checkStatus (client.createService ns (funcService funcObj or))
  | .error r => .error (.status r)
  | .ok svc =>
      match client.updateService ns (funcServiceUpdate svc funcObj or) with
      | some .alreadyExists => pure ()
      | err => checkStatus err

/-! ### The Deployment -/

/-- The mount path of the runtime volume, where the function runs from. -/
def runtimePath : String := "/kubeless"

/-- The mount path of the ConfigMap volume. -/
def depsPath : String := "/dependencies"

/-- The pod annotations that point prometheus at `/metrics` on port 8080. -/
def podAnnotations : StringMap :=
  [("prometheus.io/scrape", "true"), ("prometheus.io/path", "/metrics"),
   ("prometheus.io/port", "8080")]

/-- Only resolve the image name if it has not been already set. -/
def resolveImage (rt : Runtimes) (spec : FunctionSpec) (image : String) :
    Except GoError String :=
  if image = "" then
    match rt.getFunctionImage spec.runtime spec.type with
    | .ok imageName => .ok imageName
    | .error msg => .error (.error msg)
  else .ok image

/-- The `Handler != ""` block: the image, and the handler's function and module names in the
environment. -/
def handlerContainer (rt : Runtimes) (spec : FunctionSpec) (c : Container) :
    Except GoError Container := do
  let (modName, handlerName) ← splitHandler spec.handler
  let image ← resolveImage rt spec c.image
  pure { c with image, env := c.env ++ [⟨"FUNC_HANDLER", handlerName⟩, ⟨"MOD_NAME", modName⟩] }

/-- The main container: the handler block, then its name, port 8080, the topic in the
environment and the runtime volume. -/
def mainContainer (rt : Runtimes) (funcObj : Function) (runtimeVolume : VolumeMount)
    (c : Container) : Except GoError Container := do
  let c ← if funcObj.spec.handler ≠ "" then handlerContainer rt funcObj.spec c else pure c
  pure { c with name := funcObj.metadata.name, ports := c.ports ++ [8080],
                env := c.env ++ [⟨"TOPIC_NAME", funcObj.spec.topic⟩],
                volumeMounts := c.volumeMounts ++ [runtimeVolume] }

/-- Prepare init-containers if some function is specified: the prepare container replaces
the template's init containers. -/
def prepareInitContainers (rt : Runtimes) (spec : FunctionSpec) (init : List Container)
    (runtimeVolume depsVolume : VolumeMount) : Except GoError (List Container) :=
  if spec.function ≠ [] then do
    let fileName ← getFileName rt spec.file spec.handler spec.runtime
    let provisionContainer ← getProvisionContainer rt spec.function spec.checksum fileName
      spec.handler spec.contentType spec.runtime runtimeVolume depsVolume
    pure [provisionContainer]
  else pure init

/-- Dependencies need a runtime with a dependency file; they are installed by the runtime's
build container, after the other init containers, and the runtime's patch adds its
variables to the main container. -/
def installDeps (rt : Runtimes) (spec : FunctionSpec) (main : Container)
    (init : List Container) (runtimeVolume depsVolume : VolumeMount) :
    Except GoError (Container × List Container) :=
  let runtime := spec.runtime
  if spec.deps ≠ [] ∧ (rt.getRuntimeDepName runtime).2.isSome then
    .error (.error s!"Unable to install dependencies for the runtime {runtime}")
  else if spec.deps ≠ [] then
    match rt.getBuildContainer runtime main.env runtimeVolume depsVolume with
    | .error msg => .error (.error msg)
    | .ok buildContainer =>
        pure ({ main with env := main.env ++ rt.deploymentEnv runtimeVolume.mountPath runtime },
          init ++ [buildContainer])
  else pure (main, init)

/-- `v1.PodInitContainersAnnotationKey`. -/
def podInitContainersAnnotationKey : String := "pod.alpha.kubernetes.io/init-containers"

/-- `v1.PodInitContainersBetaAnnotationKey`. -/
def podInitContainersBetaAnnotationKey : String := "pod.beta.kubernetes.io/init-containers"

/-- `addInitContainerAnnotation`: the serialised init containers under both init-container
annotations, when there are any. -/
def addInitContainerAnnotation (marshal : List Container → String) (init : List Container)
    (annotations : StringMap) : StringMap :=
  if init ≠ [] then
    (annotations.insert podInitContainersAnnotationKey (marshal init)).insert
      podInitContainersBetaAnnotationKey (marshal init)
  else annotations

/-- The liveness probe of every non-PubSub function. -/
def livenessProbe : Probe :=
  { initialDelaySeconds := 3, periodSeconds := 30, path := "/healthz", port := 8080 }

/-- The Deployment that `EnsureFuncDeployment(client, funcObj, or)` creates or updates: the
Function's template, with the Function's labels over the template's, the prometheus
annotations where the template has none, the two volumes, the main container, the init
containers and a rolling update with no unavailable pod. -/
def funcDeployment (rt : Runtimes) (marshal : List Container → String) (funcObj : Function)
    (or : List String) : Except GoError Deployment := do
  let tmpl := funcObj.spec.template
  let runtimeVolume : VolumeMount := ⟨funcObj.metadata.name, runtimePath⟩
  let depsVolume : VolumeMount := ⟨funcObj.metadata.name ++ "-deps", depsPath⟩
  let main ← mainContainer rt funcObj runtimeVolume (tmpl.spec.containers.headD {})
  let init ← prepareInitContainers rt funcObj.spec tmpl.spec.initContainers runtimeVolume
    depsVolume
  let (main, init) ← installDeps rt funcObj.spec main init runtimeVolume depsVolume
  let main := if funcObj.spec.type ≠ "PubSub" then { main with livenessProbe := livenessProbe }
    else main
  pure
    { metadata := { name := funcObj.metadata.name, labels := funcObj.metadata.labels,
                    ownerReferences := or }
      maxUnavailable := 0
      template :=
        { metadata := { tmpl.metadata with
            labels := tmpl.metadata.labels.merge funcObj.metadata.labels
            annotations := addInitContainerAnnotation marshal init
              (tmpl.metadata.annotations.mergeAbsent podAnnotations) }
          spec := { tmpl.spec with
            containers := main :: tmpl.spec.containers.tail
            initContainers := init
            volumes := tmpl.spec.volumes ++
              [⟨runtimeVolume.name, .emptyDir⟩,
                ⟨depsVolume.name, .configMap funcObj.metadata.name⟩] } } }

/-- The stale-pod loop: every listed pod is deleted in turn and a failure is only logged,
so `err` ends holding the answer to the last deletion. -/
def deleteStalePods (client : Client) (ns : String) (pods : List String) : Option StatusReason :=
  pods.foldl (fun _ pod => client.deletePod ns pod) none

/-- `EnsureFuncDeployment(client, funcObj, or)`: create the Deployment, or update it when it
exists and then delete the function's pods so that they restart on the new ConfigMap. -/
def ensureFuncDeployment (rt : Runtimes) (marshal : List Container → String) (client : Client)
    (funcObj : Function) (or : List String) : Except GoError Unit := do
  let dpm ← funcDeployment rt marshal funcObj or
  let ns := funcObj.metadata.ns
  match client.createDeployment ns dpm with
  | some .alreadyExists =>
      match client.updateDeployment ns dpm with
      | some r => .error (.status r)
      | none =>
          match client.listPods ns ("function=" ++ funcObj.metadata.name) with
          | .error r => .error (.status r)
          | .ok pods => checkStatus (deleteStalePods client ns pods)
  | err => checkStatus err

/-- `GetReadyPod(pods)`: the first pod whose first container status is ready. The first
status is read by index, so a pod whose statuses are not reported yet panics. -/
def getReadyPod : List Pod → Except GoError Pod
  | [] => .error (.error "There is no pod ready")
  | pod :: pods => do
      let status ← index pod.containerStatuses 0
      if status.ready then pure pod else getReadyPod pods

/-! ### The ConfigMap data -/

/-- The data keys are distinct: the source's file name is not `handler`, and the runtime's
dependency file name, when there is one, is neither. -/
def DistinctKeys (fileName depName : String) : Prop :=
  fileName ≠ "handler" ∧ (depName ≠ "" → depName ≠ fileName ∧ depName ≠ "handler")

theorem funcConfigMapData_of_handler {rt : Runtimes} {funcObj : Function} {fileName : String}
    (hh : funcObj.spec.handler ≠ "")
    (hfile : getFileName rt funcObj.spec.file funcObj.spec.handler funcObj.spec.runtime =
      .ok fileName) :
    funcConfigMapData rt funcObj =
      let depName := (rt.getRuntimeDepName funcObj.spec.runtime).1
      let configMapData := (GoMap.insert [] "handler" (utf8Bytes funcObj.spec.handler)).insert
        fileName funcObj.spec.function
      .ok (if depName ≠ "" then configMapData.insert depName funcObj.spec.deps
        else configMapData) := by
  simp only [funcConfigMapData, hh, hfile, ne_eq, not_false_eq_true, if_true]
  rfl

/-- **The ConfigMap data, key by key**: with distinct keys, the source is under its file
name, the dependency manifest under the dependency file name and the handler under
`handler`. -/
theorem lookup_funcConfigMapData {rt : Runtimes} {funcObj : Function} {fileName : String}
    {data : GoMap Bytes} (hh : funcObj.spec.handler ≠ "")
    (hfile : getFileName rt funcObj.spec.file funcObj.spec.handler funcObj.spec.runtime =
      .ok fileName)
    (hkeys : DistinctKeys fileName (rt.getRuntimeDepName funcObj.spec.runtime).1)
    (hdata : funcConfigMapData rt funcObj = .ok data) :
    data.lookup fileName = some funcObj.spec.function ∧
      ((rt.getRuntimeDepName funcObj.spec.runtime).1 ≠ "" →
        data.lookup (rt.getRuntimeDepName funcObj.spec.runtime).1 = some funcObj.spec.deps) ∧
      data.lookup "handler" = some (utf8Bytes funcObj.spec.handler) := by
  rw [funcConfigMapData_of_handler hh hfile] at hdata
  obtain ⟨hfh, hdep⟩ := hkeys
  cases hdata
  by_cases hd : (rt.getRuntimeDepName funcObj.spec.runtime).1 = ""
  · simp [hd, GoMap.lookup_insert, hfh, Ne.symm hfh]
  · obtain ⟨hdf, hdh⟩ := hdep hd
    simp [hd, GoMap.lookup_insert, hfh, Ne.symm hfh, hdf, hdh, Ne.symm hdf, Ne.symm hdh]

/-! ### The Deployment's containers -/

theorem installDeps_init {rt : Runtimes} {spec : FunctionSpec} {main main' : Container}
    {init init' : List Container} {runtimeVolume depsVolume : VolumeMount}
    (h : installDeps rt spec main init runtimeVolume depsVolume = .ok (main', init')) :
    (∃ extra, init' = init ++ extra) ∧ ∃ extra, main'.env = main.env ++ extra := by
  simp only [installDeps] at h
  split_ifs at h
  · split at h
    · cases h
    · cases h; exact ⟨⟨_, rfl⟩, ⟨_, rfl⟩⟩
  · cases h; exact ⟨⟨[], by simp⟩, ⟨[], by simp⟩⟩

/-- The pieces of a derived Deployment: its main container and init containers come from
`mainContainer`, `prepareInitContainers` and `installDeps`, in this order. -/
theorem funcDeployment_ok {rt : Runtimes} {marshal : List Container → String}
    {funcObj : Function} {or : List String} {dpm : Deployment}
    (h : funcDeployment rt marshal funcObj or = .ok dpm) :
    ∃ main init main' init',
      mainContainer rt funcObj ⟨funcObj.metadata.name, runtimePath⟩
        (funcObj.spec.template.spec.containers.headD {}) = .ok main ∧
      prepareInitContainers rt funcObj.spec funcObj.spec.template.spec.initContainers
        ⟨funcObj.metadata.name, runtimePath⟩ ⟨funcObj.metadata.name ++ "-deps", depsPath⟩ =
          .ok init ∧
      installDeps rt funcObj.spec main init ⟨funcObj.metadata.name, runtimePath⟩
        ⟨funcObj.metadata.name ++ "-deps", depsPath⟩ = .ok (main', init') ∧
      dpm.template.spec.initContainers = init' ∧
      ∃ probe, dpm.template.spec.containers.head? = some { main' with livenessProbe := probe } := by
  simp only [funcDeployment, bind_eq_ok] at h
  obtain ⟨main, hmain, init, hinit, ⟨main', init'⟩, hdeps, h⟩ := h
  refine ⟨main, init, main', init', hmain, hinit, hdeps, ?_⟩
  split_ifs at h <;> cases h
  · exact ⟨rfl, _, rfl⟩
  · exact ⟨rfl, main'.livenessProbe, rfl⟩

/-- The pod mounts the template's volumes, then the runtime volume and the Function's
ConfigMap. -/
theorem funcDeployment_volumes {rt : Runtimes} {marshal : List Container → String}
    {funcObj : Function} {or : List String} {dpm : Deployment}
    (h : funcDeployment rt marshal funcObj or = .ok dpm) :
    dpm.template.spec.volumes = funcObj.spec.template.spec.volumes ++
      [⟨funcObj.metadata.name, .emptyDir⟩,
        ⟨funcObj.metadata.name ++ "-deps", .configMap funcObj.metadata.name⟩] := by
  simp only [funcDeployment, bind_eq_ok] at h
  obtain ⟨_, -, _, -, _, -, h⟩ := h
  cases h
  rfl

/-- **The prepare container of the Deployment** is `getProvisionContainer` on the Function's
file name, with the runtime volume at `/kubeless` and the ConfigMap volume at
`/dependencies`. -/
theorem funcDeployment_prepare {rt : Runtimes} {marshal : List Container → String}
    {funcObj : Function} {or : List String} {dpm : Deployment} {fileName : String}
    (hfun : funcObj.spec.function ≠ [])
    (hfile : getFileName rt funcObj.spec.file funcObj.spec.handler funcObj.spec.runtime =
      .ok fileName)
    (h : funcDeployment rt marshal funcObj or = .ok dpm) :
    ∃ prepare, getProvisionContainer rt funcObj.spec.function funcObj.spec.checksum fileName
        funcObj.spec.handler funcObj.spec.contentType funcObj.spec.runtime
        ⟨funcObj.metadata.name, runtimePath⟩ ⟨funcObj.metadata.name ++ "-deps", depsPath⟩ =
          .ok prepare ∧
      dpm.template.spec.initContainers.head? = some prepare := by
  obtain ⟨main, init, main', init', -, hinit, hdeps, hdpm, -⟩ := funcDeployment_ok h
  simp only [prepareInitContainers, hfun, ne_eq, not_false_eq_true, if_true, hfile,
    bind_eq_ok] at hinit
  obtain ⟨_, ⟨⟩, prepare, hprep, ⟨⟩⟩ := hinit
  obtain ⟨⟨extra, rfl⟩, -⟩ := installDeps_init hdeps
  exact ⟨prepare, hprep, by simp [hdpm]⟩

theorem mem_env_handlerContainer {rt : Runtimes} {spec : FunctionSpec} {c c' : Container}
    {modName handlerName : String} (hs : splitHandler spec.handler = .ok (modName, handlerName))
    (h : handlerContainer rt spec c = .ok c') : (⟨"MOD_NAME", modName⟩ : EnvVar) ∈ c'.env := by
  simp only [handlerContainer, hs, bind_eq_ok] at h
  obtain ⟨_, ⟨⟩, image, -, ⟨⟩⟩ := h
  simp

/-- **The main container is given the handler's module as `MOD_NAME`.** -/
theorem mem_env_funcDeployment {rt : Runtimes} {marshal : List Container → String}
    {funcObj : Function} {or : List String} {dpm : Deployment}
    (hh : funcObj.spec.handler ≠ "") (h : funcDeployment rt marshal funcObj or = .ok dpm) :
    ∃ modName handlerName main, splitHandler funcObj.spec.handler = .ok (modName, handlerName) ∧
      dpm.template.spec.containers.head? = some main ∧
      (⟨"MOD_NAME", modName⟩ : EnvVar) ∈ main.env := by
  obtain ⟨main, init, main', init', hmain, -, hdeps, -, probe, hhead⟩ := funcDeployment_ok h
  simp only [mainContainer, hh, ne_eq, not_false_eq_true, if_true, bind_eq_ok] at hmain
  obtain ⟨c, hc, ⟨⟩⟩ := hmain
  obtain ⟨⟨modName, handlerName⟩, hs, -⟩ := bind_eq_ok.mp hc
  obtain ⟨-, extra, henv⟩ := installDeps_init hdeps
  refine ⟨modName, handlerName, _, hs, hhead, ?_⟩
  simp [henv, mem_env_handlerContainer hs hc]

/-! ### The derived pod template -/

/-- **The pod template of a derived Deployment**, field by field: the labels, the annotations,
the containers and the init containers, from the three stages of the derivation. -/
theorem funcDeployment_eq_ok {rt : Runtimes} {marshal : List Container → String}
    {funcObj : Function} {or : List String} {dpm : Deployment}
    (h : funcDeployment rt marshal funcObj or = .ok dpm) :
    let tmpl := funcObj.spec.template
    let runtimeVolume : VolumeMount := ⟨funcObj.metadata.name, runtimePath⟩
    let depsVolume : VolumeMount := ⟨funcObj.metadata.name ++ "-deps", depsPath⟩
    ∃ main init main' init',
      mainContainer rt funcObj runtimeVolume (tmpl.spec.containers.headD {}) = .ok main ∧
      prepareInitContainers rt funcObj.spec tmpl.spec.initContainers runtimeVolume depsVolume =
        .ok init ∧
      installDeps rt funcObj.spec main init runtimeVolume depsVolume = .ok (main', init') ∧
      dpm.template.metadata.labels = tmpl.metadata.labels.merge funcObj.metadata.labels ∧
      dpm.template.metadata.annotations = addInitContainerAnnotation marshal init'
        (tmpl.metadata.annotations.mergeAbsent podAnnotations) ∧
      dpm.template.spec.containers =
        (if funcObj.spec.type ≠ "PubSub" then { main' with livenessProbe := livenessProbe }
          else main') :: tmpl.spec.containers.tail ∧
      dpm.template.spec.initContainers = init' := by
  simp only [funcDeployment, bind_eq_ok] at h
  obtain ⟨main, hmain, init, hinit, ⟨main', init'⟩, hdeps, h⟩ := h
  cases h
  exact ⟨main, init, main', init', hmain, hinit, hdeps, rfl, rfl, rfl, rfl⟩

theorem prepareInitContainers_eq_ok {rt : Runtimes} {spec : FunctionSpec}
    {init init' : List Container} {runtimeVolume depsVolume : VolumeMount}
    (h : prepareInitContainers rt spec init runtimeVolume depsVolume = .ok init') :
    (spec.function ≠ [] → ∃ fileName prepare,
      getFileName rt spec.file spec.handler spec.runtime = .ok fileName ∧
      getProvisionContainer rt spec.function spec.checksum fileName spec.handler
        spec.contentType spec.runtime runtimeVolume depsVolume = .ok prepare ∧
      init' = [prepare]) ∧
    (spec.function = [] → init' = init) := by
  unfold prepareInitContainers at h
  split_ifs at h with hf
  · simp only [bind_eq_ok] at h
    obtain ⟨fileName, hfile, prepare, hprep, h⟩ := h
    cases h
    exact ⟨fun _ => ⟨fileName, prepare, hfile, hprep, rfl⟩, fun h' => absurd h' hf⟩
  · cases h
    exact ⟨fun h' => absurd (not_not.mp hf) h', fun _ => rfl⟩

/-- Installing dependencies appends the build container and the runtime's variables, and
nothing else. -/
theorem installDeps_eq_ok {rt : Runtimes} {spec : FunctionSpec} {main main' : Container}
    {init init' : List Container} {runtimeVolume depsVolume : VolumeMount}
    (h : installDeps rt spec main init runtimeVolume depsVolume = .ok (main', init')) :
    (spec.deps = [] ∧ main' = main ∧ init' = init) ∨
    (spec.deps ≠ [] ∧ ∃ buildContainer,
      rt.getBuildContainer spec.runtime main.env runtimeVolume depsVolume = .ok buildContainer ∧
      main' = { main with env := main.env ++ rt.deploymentEnv runtimeVolume.mountPath spec.runtime }
        ∧ init' = init ++ [buildContainer]) := by
  simp only [installDeps] at h
  split_ifs at h with h₁ h₂
  · split at h
    · cases h
    · rename_i buildContainer hb
      cases h
      exact .inr ⟨h₂, buildContainer, hb, rfl, rfl⟩
  · cases h
    exact .inl ⟨not_not.mp h₂, rfl, rfl⟩

/-- The image the template names is kept; only an empty one is resolved in the registry. -/
theorem resolveImage_eq_ok {rt : Runtimes} {spec : FunctionSpec} {image image' : String}
    (h : resolveImage rt spec image = .ok image') :
    (image ≠ "" → image' = image) ∧
    (image' ≠ image → image = "" ∧ rt.getFunctionImage spec.runtime spec.type = .ok image') := by
  unfold resolveImage at h
  split_ifs at h with hi
  · split at h
    · rename_i imageName hn
      cases h
      exact ⟨fun h' => absurd hi h', fun _ => ⟨hi, hn⟩⟩
    · cases h
  · cases h
    exact ⟨fun _ => rfl, fun h' => absurd rfl h'⟩

theorem mainContainer_image {rt : Runtimes} {funcObj : Function} {runtimeVolume : VolumeMount}
    {c main : Container} (h : mainContainer rt funcObj runtimeVolume c = .ok main) :
    (c.image ≠ "" → main.image = c.image) ∧
    (main.image ≠ c.image →
      c.image = "" ∧ rt.getFunctionImage funcObj.spec.runtime funcObj.spec.type = .ok main.image) := by
  by_cases hh : funcObj.spec.handler ≠ ""
  · simp only [mainContainer, if_pos hh, bind_eq_ok] at h
    obtain ⟨c', hc', h⟩ := h
    cases h
    simp only [handlerContainer, bind_eq_ok] at hc'
    obtain ⟨_, -, image, himage, h⟩ := hc'
    cases h
    exact resolveImage_eq_ok himage
  · simp only [mainContainer, if_neg hh] at h
    cases h
    exact ⟨fun _ => rfl, fun h' => absurd rfl h'⟩

/-- **The shape of the derived pod**: for a template with at most one container, one
container; the init containers are the prepare container when the Function has a source,
else the template's own, followed by the install container when it has dependencies. -/
theorem funcDeployment_pod_shape {rt : Runtimes} {marshal : List Container → String}
    {funcObj : Function} {or : List String} {dpm : Deployment}
    (hc : funcObj.spec.template.spec.containers.length ≤ 1)
    (h : funcDeployment rt marshal funcObj or = .ok dpm) :
    let spec := funcObj.spec
    let runtimeVolume : VolumeMount := ⟨funcObj.metadata.name, runtimePath⟩
    let depsVolume : VolumeMount := ⟨funcObj.metadata.name ++ "-deps", depsPath⟩
    dpm.template.spec.containers.length = 1 ∧
    ∃ prepare install, dpm.template.spec.initContainers = prepare ++ install ∧
      (spec.function ≠ [] → ∃ fileName provisionContainer,
        getFileName rt spec.file spec.handler spec.runtime = .ok fileName ∧
        getProvisionContainer rt spec.function spec.checksum fileName spec.handler
          spec.contentType spec.runtime runtimeVolume depsVolume = .ok provisionContainer ∧
        prepare = [provisionContainer]) ∧
      (spec.function = [] → prepare = spec.template.spec.initContainers) ∧
      (spec.deps ≠ [] → ∃ env buildContainer,
        rt.getBuildContainer spec.runtime env runtimeVolume depsVolume = .ok buildContainer ∧
        install = [buildContainer]) ∧
      (spec.deps = [] → install = []) := by
  obtain ⟨main, init, main', init', -, hinit, hdeps, -, -, hcs, hinits⟩ := funcDeployment_eq_ok h
  have htail : funcObj.spec.template.spec.containers.tail = [] :=
    List.eq_nil_of_length_eq_zero (by rw [List.length_tail]; omega)
  refine ⟨by rw [hcs, htail]; rfl, ?_⟩
  rcases installDeps_eq_ok hdeps with ⟨hd, -, hi⟩ | ⟨hd, b, hb, -, hi⟩
  · exact ⟨init, [], by rw [hinits, hi, List.append_nil], (prepareInitContainers_eq_ok hinit).1,
      (prepareInitContainers_eq_ok hinit).2, fun h' => absurd hd h', fun _ => rfl⟩
  · exact ⟨init, [b], by rw [hinits, hi], (prepareInitContainers_eq_ok hinit).1,
      (prepareInitContainers_eq_ok hinit).2, fun _ => ⟨main.env, b, hb, rfl⟩,
      fun h' => absurd h' hd⟩

/-- A Function with no source and a template with an init container of its own. -/
def sidecarFunction : Function :=
  { metadata := { name := "hello", ns := "default" }
    spec := { handler := "hello.foo", runtime := "python2.7",
              template := { spec := { containers := [{ image := "python:2.7" }],
                                      initContainers := [{ name := "setup" }] } } } }

/-- A Function with neither source nor dependencies keeps the init container of its
template. -/
theorem funcDeployment_keeps_template_init :
    ∃ dpm, funcDeployment sampleRuntimes (fun _ => "") sidecarFunction [] = .ok dpm ∧
      sidecarFunction.spec.function = [] ∧ sidecarFunction.spec.deps = [] ∧
      dpm.template.spec.initContainers = [{ name := "setup" }] :=
  ⟨_, rfl, rfl, rfl, rfl⟩

/-- The annotation keys `addInitContainerAnnotation` writes. -/
def initContainerAnnotationKeys : List String :=
  [podInitContainersAnnotationKey, podInitContainersBetaAnnotationKey]

theorem lookup_withInitContainers (marshal : List Container → String)
    (init : List Container) (annotations : StringMap) (k : String) :
    ( addInitContainerAnnotation marshal init annotations).lookup k =
      if init ≠ [] ∧ k ∈ initContainerAnnotationKeys then some (marshal init)
      else annotations.lookup k := by
  unfold addInitContainerAnnotation initContainerAnnotationKeys
  by_cases hi : init = []
  · simp [hi]
  · by_cases h₁ : k = podInitContainersAnnotationKey
    · subst h₁; simp [hi, GoMap.lookup_insert, podInitContainersAnnotationKey,
        podInitContainersBetaAnnotationKey]
    · by_cases h₂ : k = podInitContainersBetaAnnotationKey
      · subst h₂; simp [hi, GoMap.lookup_insert]
      · simp [hi, GoMap.lookup_insert, h₁, h₂, Ne.symm h₁, Ne.symm h₂]

/-- **What the pod template takes from the Function's template**: every annotation but the
two init-container annotations, which hold the serialised init containers when there are
any, with the prometheus defaults only where the template has no value; the Function's
labels over the template's, so that the Service's selector matches the pods; and the
template's image, resolved in the registry only when it is empty. -/
theorem funcDeployment_merge {rt : Runtimes} {marshal : List Container → String}
    {funcObj : Function} {or : List String} {dpm : Deployment}
    (h : funcDeployment rt marshal funcObj or = .ok dpm) :
    let tmpl := funcObj.spec.template
    let annotations := dpm.template.metadata.annotations
    let labels := dpm.template.metadata.labels
    let init := dpm.template.spec.initContainers
    let image₀ := (tmpl.spec.containers.headD {}).image
    (∀ k, k ∉ initContainerAnnotationKeys ∨ init = [] →
      annotations.lookup k = (tmpl.metadata.annotations.lookup k).or (podAnnotations.lookup k)) ∧
    (init ≠ [] → ∀ k ∈ initContainerAnnotationKeys, annotations.lookup k = some (marshal init)) ∧
    (∀ k, labels.lookup k = (funcObj.metadata.labels.lookup k).or (tmpl.metadata.labels.lookup k)) ∧
    (∀ k v, (funcService funcObj or).selector.lookup k = some v → labels.lookup k = some v) ∧
    (∀ svc k v, (funcServiceUpdate svc funcObj or).selector.lookup k = some v →
      labels.lookup k = some v) ∧
    ∃ main, dpm.template.spec.containers.head? = some main ∧
      (image₀ ≠ "" → main.image = image₀) ∧
      (main.image ≠ image₀ →
        image₀ = "" ∧ rt.getFunctionImage funcObj.spec.runtime funcObj.spec.type = .ok main.image) := by
  obtain ⟨main, init, main', init', hmain, -, hdeps, hl, ha, hcs, hinits⟩ := funcDeployment_eq_ok h
  have hlabels : ∀ k, dpm.template.metadata.labels.lookup k =
      (funcObj.metadata.labels.lookup k).or (funcObj.spec.template.metadata.labels.lookup k) :=
    fun k => by rw [hl, GoMap.lookup_merge]
  have hsel : ∀ k v, funcObj.metadata.labels.lookup k = some v →
      dpm.template.metadata.labels.lookup k = some v :=
    fun k v hk => by rw [hlabels, hk]; rfl
  have himage : main'.image = main.image := by
    rcases installDeps_eq_ok hdeps with ⟨-, rfl, -⟩ | ⟨-, b, -, rfl, -⟩ <;> rfl
  refine ⟨fun k hk => ?_, fun hi k hk => ?_, hlabels, hsel, fun _ => hsel, ?_⟩
  · rw [ha, lookup_withInitContainers, if_neg (by rw [← hinits]; tauto),
      GoMap.lookup_mergeAbsent]
  · rw [ha, lookup_withInitContainers, if_pos ⟨by rwa [← hinits], hk⟩, hinits]
  · refine ⟨_, by rw [hcs]; rfl, ?_⟩
    split_ifs <;> simpa only [himage] using mainContainer_image hmain

/-- A Function with a source whose template sets both init-container annotations. -/
def annotatedFunction : Function :=
  { metadata := { name := "hello", ns := "default" }
    spec := { handler := "hello.foo", runtime := "python2.7", function := utf8Bytes "print 1",
              template := { metadata := { annotations := [
                              (podInitContainersAnnotationKey, "a"),
                              (podInitContainersBetaAnnotationKey, "b")] },
                            spec := { containers := [{ image := "python:2.7" }] } } } }

/-- The prepare container overwrites the template's init-container annotations: both come
out equal, so at least one of the template's two values is lost, whatever the
serialisation. -/
theorem funcDeployment_init_annotations_collide (marshal : List Container → String) :
    ∃ dpm, funcDeployment sampleRuntimes marshal annotatedFunction [] = .ok dpm ∧
      ¬ ∀ k v, annotatedFunction.spec.template.metadata.annotations.lookup k = some v →
        dpm.template.metadata.annotations.lookup k = some v := by
  refine ⟨_, rfl, fun h => ?_⟩
  have ha := h podInitContainersAnnotationKey "a" rfl
  have hb := h podInitContainersBetaAnnotationKey "b" rfl
  simp only [lookup_withInitContainers, initContainerAnnotationKeys] at ha hb
  simp at ha hb
  exact absurd (ha.symm.trans hb) (by decide)

/-- No serialisation of the init containers keeps every annotation of every template. -/
theorem funcDeployment_loses_template_annotation :
    ¬ ∃ marshal : List Container → String, ∀ (funcObj : Function) (dpm : Deployment),
      funcDeployment sampleRuntimes marshal funcObj [] = .ok dpm →
      ∀ k v, funcObj.spec.template.metadata.annotations.lookup k = some v →
        dpm.template.metadata.annotations.lookup k = some v := by
  rintro ⟨marshal, h⟩
  obtain ⟨dpm, hdpm, hlost⟩ := funcDeployment_init_annotations_collide marshal
  exact hlost (h annotatedFunction dpm hdpm)

/-! ### The ConfigMap against the prepare script -/

instance (fileName depName : String) : Decidable (DistinctKeys fileName depName) :=
  inferInstanceAs (Decidable (_ ∧ _))

/-- The ConfigMap and the prepare container agree on the files of the deps volume. The pod
mounts the Function's ConfigMap (`EnsureFuncConfigMap` names it after the Function) as the
volume `<name>-deps`, and its first init container runs `sh -c` on a script, with that
volume at `/dependencies`. Under `/dependencies` the script's commands read the source
`originFile`, the checksum file they write beside it, and the dependency manifest `depsFile`
when the runtime has one. The data holds the source under its file name, the dependency
manifest under the dependency file name and the handler under `handler`. A source that is
not a zip archive is copied into `/kubeless` under the runtime's file name for the module
that the main container gets as `MOD_NAME`. -/
def ConfigMapMatchesPrepare (rt : Runtimes) (funcObj : Function) (fileName : String)
    (data : GoMap Bytes) (dpm : Deployment) : Prop :=
  let spec := funcObj.spec
  let name := funcObj.metadata.name
  let depName := (rt.getRuntimeDepName spec.runtime).1
  let originFile := pathJoin [depsPath, fileName]
  let depsFile := pathJoin [depsPath, depName]
  let shaFile := originFile ++ ".sha256"
  let copyDeps := if depName ≠ "" then [s!"cp {depsFile} {runtimePath}"] else []
  (⟨name ++ "-deps", .configMap name⟩ : Volume) ∈ dpm.template.spec.volumes ∧
  (∃ prepare decode verify extract,
    dpm.template.spec.initContainers.head? = some prepare ∧
    prepare.command = ["sh", "-c"] ∧
    prepare.args = [stringsJoin " && " (decode ++ verify ++ extract ++ copyDeps)] ∧
    prepare.volumeMounts = [⟨name, runtimePath⟩, ⟨name ++ "-deps", depsPath⟩] ∧
    (decode = [] ∨ decode = [s!"cat {originFile} | base64 -d > {originFile}"]) ∧
    (verify = [] ∨ ∃ digest : String,
      verify = [s!"echo \x27{digest}  {originFile}\x27 > {shaFile}", s!"sha256sum -c {shaFile}"]) ∧
    (filepathExt fileName = ".zip" → extract = [s!"unzip -o {originFile} -d {runtimePath}"]) ∧
    (filepathExt fileName ≠ ".zip" → ∃ modName handlerName main,
      splitHandler spec.handler = .ok (modName, handlerName) ∧
      dpm.template.spec.containers.head? = some main ∧
      (⟨"MOD_NAME", modName⟩ : EnvVar) ∈ main.env ∧
      let dest := pathJoin [runtimePath, rt.getFunctionFileName modName spec.runtime]
      extract = [s!"cp {originFile} {dest}"])) ∧
  data.lookup fileName = some spec.function ∧
  (depName ≠ "" → data.lookup depName = some spec.deps) ∧
  data.lookup "handler" = some (utf8Bytes spec.handler)

/-- A python Function whose template names its image. -/
def pythonFunction : Function :=
  { metadata := { name := "hello", ns := "default" }
    spec := { handler := "hello.foo", runtime := "python2.7", function := utf8Bytes "print 1",
              template := { spec := { containers := [{ image := "python:2.7" }] } } } }

/-- A ruby Function with a Gemfile and no image of its own: the registry names its image, and
the runtime's build container installs the Gemfile. -/
def rubyFunction : Function :=
  { metadata := { name := "hello", ns := "default" }
    spec := { handler := "hello.foo", runtime := "ruby2.4", type := "HTTP",
              function := utf8Bytes "puts 1", deps := utf8Bytes "gem \x27sinatra\x27" } }

theorem funcDeployment_pod_shape_ruby :
    ∃ dpm, rubyFunction.spec.template.spec.containers.length ≤ 1 ∧
      funcDeployment sampleRuntimes (fun _ => "") rubyFunction [] = .ok dpm ∧
      let spec := rubyFunction.spec
      let runtimeVolume : VolumeMount := ⟨rubyFunction.metadata.name, runtimePath⟩
      let depsVolume : VolumeMount := ⟨rubyFunction.metadata.name ++ "-deps", depsPath⟩
      dpm.template.spec.containers.length = 1 ∧
      ∃ prepare install, dpm.template.spec.initContainers = prepare ++ install ∧
        (spec.function ≠ [] → ∃ fileName provisionContainer,
          getFileName sampleRuntimes spec.file spec.handler spec.runtime = .ok fileName ∧
          getProvisionContainer sampleRuntimes spec.function spec.checksum fileName spec.handler
            spec.contentType spec.runtime runtimeVolume depsVolume = .ok provisionContainer ∧
          prepare = [provisionContainer]) ∧
        (spec.function = [] → prepare = spec.template.spec.initContainers) ∧
        (spec.deps ≠ [] → ∃ env buildContainer,
          sampleRuntimes.getBuildContainer spec.runtime env runtimeVolume depsVolume =
            .ok buildContainer ∧ install = [buildContainer]) ∧
        (spec.deps = [] → install = []) :=
  ⟨_, by decide, rfl, funcDeployment_pod_shape (by decide) rfl⟩

theorem funcDeployment_merge_python :
    ∃ dpm, funcDeployment sampleRuntimes (fun _ => "") pythonFunction [] = .ok dpm ∧
      let tmpl := pythonFunction.spec.template
      let annotations := dpm.template.metadata.annotations
      let labels := dpm.template.metadata.labels
      let init := dpm.template.spec.initContainers
      let image₀ := (tmpl.spec.containers.headD {}).image
      (∀ k, k ∉ initContainerAnnotationKeys ∨ init = [] →
        annotations.lookup k =
          (tmpl.metadata.annotations.lookup k).or (podAnnotations.lookup k)) ∧
      (init ≠ [] → ∀ k ∈ initContainerAnnotationKeys, annotations.lookup k = some "") ∧
      (∀ k, labels.lookup k =
        (pythonFunction.metadata.labels.lookup k).or (tmpl.metadata.labels.lookup k)) ∧
      (∀ k v, (funcService pythonFunction []).selector.lookup k = some v →
        labels.lookup k = some v) ∧
      (∀ svc k v, (funcServiceUpdate svc pythonFunction []).selector.lookup k = some v →
        labels.lookup k = some v) ∧
      ∃ main, dpm.template.spec.containers.head? = some main ∧
        (image₀ ≠ "" → main.image = image₀) ∧
        (main.image ≠ image₀ → image₀ = "" ∧
          sampleRuntimes.getFunctionImage pythonFunction.spec.runtime pythonFunction.spec.type =
            .ok main.image) :=
  ⟨_, rfl, @funcDeployment_merge sampleRuntimes (fun _ => "") pythonFunction [] _ rfl⟩

/-! ### Handlers with an empty part -/

/-- A python Function whose handler has an empty module name. -/
def emptyModuleFunction : Function :=
  { pythonFunction with spec := { pythonFunction.spec with handler := ".foo" } }

/-- A handler with an empty module name is accepted: the source file is `.py` and the main
container gets an empty `MOD_NAME`. -/
theorem funcDeployment_empty_module :
    ∀ marshal : List Container → String,
      splitHandler ".foo" = .ok ("", "foo") ∧
      getFileName sampleRuntimes "" ".foo" "python2.7" = .ok ".py" ∧
      ∃ dpm main, funcDeployment sampleRuntimes marshal emptyModuleFunction [] = .ok dpm ∧
        dpm.template.spec.containers.head? = some main ∧
        (⟨"MOD_NAME", ""⟩ : EnvVar) ∈ main.env :=
  fun _ => ⟨rfl, rfl, _, _, rfl, rfl, by decide⟩

/-! ### Refreshing the pods -/

/-- The stale-pod loop ends holding the answer to the last deletion. -/
theorem deleteStalePods_eq (client : Client) (ns : String) (pods : List String) :
    deleteStalePods client ns pods = pods.getLast?.bind (client.deletePod ns) := by
  have h : ∀ (a : Option StatusReason) (pods : List String),
      pods.foldl (fun _ pod => client.deletePod ns pod) a =
        (pods.getLast?.map (client.deletePod ns)).getD a := by
    intro a pods
    induction pods generalizing a with
    | nil => rfl
    | cons p pods ih =>
        rw [List.foldl_cons, ih, List.getLast?_cons]
        cases pods.getLast? <;> rfl
  rw [deleteStalePods, h]
  cases pods.getLast? <;> rfl

/-- **After an update, `EnsureFuncDeployment` returns the answer to the last pod
deletion.** -/
theorem ensureFuncDeployment_refresh {rt : Runtimes} {marshal : List Container → String}
    {client : Client} {funcObj : Function} {or : List String} {dpm : Deployment}
    {pods : List String} (hd : funcDeployment rt marshal funcObj or = .ok dpm)
    (hc : client.createDeployment funcObj.metadata.ns dpm = some .alreadyExists)
    (hu : client.updateDeployment funcObj.metadata.ns dpm = none)
    (hl : client.listPods funcObj.metadata.ns ("function=" ++ funcObj.metadata.name) = .ok pods) :
    ensureFuncDeployment rt marshal client funcObj or =
      checkStatus (pods.getLast?.bind (client.deletePod funcObj.metadata.ns)) := by
  simp only [ensureFuncDeployment, hd, bind, Except.bind, hc, hu, hl, deleteStalePods_eq]

/-- A cluster where the Deployment exists, its update succeeds, one pod is listed, and the
pod is gone by the time it is deleted. -/
def refreshClient : Client :=
  { createConfigMap := fun _ _ => none, updateConfigMap := fun _ _ => none,
    getService := fun _ _ => .error .notFound, createService := fun _ _ => none,
    updateService := fun _ _ => none, createDeployment := fun _ _ => some .alreadyExists,
    updateDeployment := fun _ _ => none, listPods := fun _ _ => .ok ["hello-1"],
    deletePod := fun _ _ => some .notFound }

/-- A stale pod that is already gone makes the refresh fail with `NotFound`. -/
theorem ensureFuncDeployment_stale_pod_gone :
    ∀ marshal : List Container → String,
      ensureFuncDeployment sampleRuntimes marshal refreshClient pythonFunction [] =
        .error (.status .notFound) :=
  fun _ => rfl

/-! ### Ready pods -/

/-- **`GetReadyPod` is decided by the first pod that is ready or has no status**: it
returns that pod when it is ready, panics when it has no status, and fails when there is
no such pod. -/
theorem getReadyPod_eq (pods : List Pod) :
    getReadyPod pods =
      match pods.find? (fun pod => pod.containerStatuses.head?.all (·.ready)) with
      | none => .error (.error "There is no pod ready")
      | some pod => if pod.containerStatuses = [] then
          .error (.panic "runtime error: index out of range") else .ok pod := by
  induction pods with
  | nil => rfl
  | cons pod pods ih =>
      rcases hs : pod.containerStatuses with _ | ⟨status, rest⟩
      · simp [getReadyPod, index, hs, List.find?_cons, bind, Except.bind]
      · cases hr : status.ready <;>
          simp [getReadyPod, index, hs, hr, List.find?_cons, ih, bind, Except.bind, pure,
            Except.pure]

/-- A pod that is still pending, and one that is ready. -/
def pendingPod : Pod := { metadata := { name := "hello-1" } }

def readyPod : Pod := { metadata := { name := "hello-2" }, containerStatuses := [⟨true⟩] }

/-- A pending pod ahead of a ready one makes `GetReadyPod` panic. -/
theorem getReadyPod_pending_panics :
    getReadyPod [pendingPod, readyPod] = .error (.panic "runtime error: index out of range") ∧
      readyPod.containerStatuses.head? = some ⟨true⟩ :=
  ⟨rfl, rfl⟩

end Kubeless
