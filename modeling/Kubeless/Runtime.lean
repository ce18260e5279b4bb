import Kubeless.K8s.Types

/-!
# The Runtime Registry

`pkg/utils` resolves everything runtime-specific through `pkg/runtime`: the dependency file
name, the default source file name, the function image, the build container and a
deployment patch. The registry itself is not part of these sources (only its tests are), so
the model takes it as a parameter, `Runtimes`, and every result about the derivations holds
for every registry.

Go errors are `GoError`s: the `error` a function returns (a message, or the status the API
server answered with), or a run-time panic such as an index out of range, which unwinds
through every caller.
-/

namespace Kubeless

open Go

/-- Why the API server refused a call, as the `k8sErrors` predicates classify it: the
object is not there, it is there already, the update carried a stale resourceVersion, the
update failed validation, the server could not handle the request, or another reason. -/
inductive StatusReason
  | notFound
  | alreadyExists
  | conflict
  | invalid
  | unavailable
  | other (msg : String)
  deriving DecidableEq

/-- How a Go call fails: an `error` it returns, the status of a refused API call, or a
run-time panic. -/
inductive GoError
  | error (msg : String)
  | status (reason : StatusReason)
  | panic (msg : String)
  deriving DecidableEq

/-- `xs[i]`: a panic when `i` is out of range. -/
def index {α : Type} (xs : List α) (i : Nat) : Except GoError α :=
  match xs[i]? with
  | some x => .ok x
  | none => .error (.panic "runtime error: index out of range")

@[simp] theorem index_eq_ok {α : Type} {xs : List α} {i : Nat} {x : α} :
    index xs i = .ok x ↔ xs[i]? = some x := by
  cases h : xs[i]? <;> simp [index, h]

/-- `return err` for the answer of an API call. -/
def checkStatus : Option StatusReason → Except GoError Unit
  | none => .ok ()
  | some r => .error (.status r)

@[simp] theorem checkStatus_eq_ok {a : Option StatusReason} :
    checkStatus a = .ok () ↔ a = none := by
  cases a <;> simp [checkStatus]

/-- `if err != nil && !k8sErrors.IsNotFound(err) { return err }; return nil`: the answer of a
deletion, where an object that is not there counts as deleted. -/
def ignoreNotFound : Option StatusReason → Except GoError Unit
  | some .notFound => .ok ()
  | a => checkStatus a

@[simp] theorem ignoreNotFound_eq_ok {a : Option StatusReason} :
    ignoreNotFound a = .ok () ↔ a = none ∨ a = some .notFound := by
  rcases a with _ | ⟨_ | _ | _ | _ | _ | _⟩ <;> simp [ignoreNotFound, checkStatus]

/-- A sequence of Go calls succeeds when its first call does and the rest succeeds on the
result. -/
theorem bind_eq_ok {α β : Type} {x : Except GoError α} {f : α → Except GoError β} {b : β} :
    x >>= f = .ok b ↔ ∃ a, x = .ok a ∧ f a = .ok b := by
  cases x <;> simp [bind, Except.bind]

/-- The registry of `pkg/runtime`, as the functions of it that `pkg/utils` calls. -/
structure Runtimes where
  /-- `GetRuntimeDepName(runtime)`: the dependency file name, and the lookup error if any. -/
  getRuntimeDepName : String → String × Option String
  /-- `GetFunctionFileName(modName, runtime)`: the source file name for a module. -/
  getFunctionFileName : String → String → String
  /-- `GetFunctionImage(runtime, ftype)`. -/
  getFunctionImage : String → String → Except String String
  /-- `GetBuildContainer(runtime, env, runtimeVolume, depsVolume)`: the `install` container. -/
  getBuildContainer : String → List EnvVar → VolumeMount → VolumeMount → Except String Container
  /-- `UpdateDeployment(dpm, runtimePath, runtime)`: the runtime's deployment patch, which
  appends these variables (the runtime's search paths under `runtimePath`) to the
  environment of the main container. -/
  deploymentEnv : String → String → List EnvVar

/-- A registry with what `runtime_test.go` pins: the dependency and source file names of the
six runtimes it names, the images of `ruby2.4` under the test's `RUBY_RUNTIME` and
`RUBY_PUBSUB_RUNTIME`, the build containers of `python2.7` and `ruby2.4`, and no deployment
patch. What the test does not pin is an error. -/
def sampleRuntimes : Runtimes where
  getRuntimeDepName r :=
    if r = "python2.7" ∨ r = "python3.4" then ("requirements.txt", none)
    else if r = "nodejs6" ∨ r = "nodejs8" then ("package.json", none)
    else if r = "ruby2.4" then ("Gemfile", none)
    else if r = "dotnetcore2.0" then ("requirements.xml", none)
    else ("",
      some ("The given runtime and version \x27" ++ r ++ "\x27 does not have a valid image"))
  getFunctionFileName m r :=
    if r = "python2.7" ∨ r = "python3.4" then m ++ ".py"
    else if r = "nodejs6" ∨ r = "nodejs8" then m ++ ".js"
    else if r = "ruby2.4" then m ++ ".rb"
    else if r = "dotnetcore2.0" then m ++ ".cs"
    else m
  getFunctionImage r ftype :=
    if r = "ruby2.4" ∧ ftype = "HTTP" then .ok "ruby-test-image"
    else if r = "ruby2.4" ∧ ftype = "PubSub" then .ok "ruby-pubsub-test-image"
    else .error ("The given runtime and version \x27" ++ r ++ "\x27 does not have a valid image")
  getBuildContainer r env runtimeVolume depsVolume :=
    let installPath := runtimeVolume.mountPath
    let depsPath := depsVolume.mountPath
    let install (image script : String) : Container :=
      { name := "install", image, command := ["sh", "-c"], args := [script],
        volumeMounts := [runtimeVolume, depsVolume], imagePullPolicy := "IfNotPresent", env }
    if r = "python2.7" then
      .ok (install "tuna/python-pillow:2.7.11-alpine"
        s!"pip install --prefix={installPath} -r {depsPath}/requirements.txt")
    else if r = "ruby2.4" then
      .ok (install "bitnami/ruby:2.4" s!"bundle install --gemfile={depsPath}/Gemfile --path={installPath}")
    else .error ("The given runtime and version \x27" ++ r ++ "\x27 does not have a valid image")
  deploymentEnv _ _ := []

end Kubeless
