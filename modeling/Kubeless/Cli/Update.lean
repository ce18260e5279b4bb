import Kubeless.Cli.Function

/-!
# Updating a Function from the Command Line

`kubeless function update` (`cmd/kubeless/update.go`) reads the stored Function, builds the
Function to submit with `getFunctionDescription`, passing no dependencies, and writes it back
with `UpdateK8sCustomResource`. Any error ends the command and leaves the stored Function as
it was, so a sequence of commands is a run over the stored Function (`updateRun`).

The trigger fields of a Function are exclusive: a topic belongs to a `PubSub` function and a
schedule to a `Scheduled` one (`FunctionSpec.TriggerExclusive`). `getFunctionDescription`
either clears the fields of the other kinds or inherits all three from the stored Function,
so exclusivity is an invariant of every run of updates.

## Main results

* `triggerFields_exclusive`: the type, topic and schedule an update sets are exclusive when
  the stored ones are.
* `getFunctionDescription_keeps_exclusive`: every Function built from an exclusive one is
  exclusive, and so is the stored Function after every run of updates.
-/

namespace Kubeless

open Go

/-- A topic only on a `PubSub` function, and a schedule only on a `Scheduled` one. -/
def FunctionSpec.TriggerExclusive (s : FunctionSpec) : Prop :=
  (s.topic ≠ "" → s.type = "PubSub") ∧ (s.schedule ≠ "" → s.type = "Scheduled")

instance (s : FunctionSpec) : Decidable s.TriggerExclusive :=
  inferInstanceAs (Decidable (_ ∧ _))

/-- The flags of `kubeless function update`, each empty when not given. -/
structure UpdateFlags where
  handler : String := ""
  file : String := ""
  runtime : String := ""
  triggerHTTP : Bool := false
  schedule : String := ""
  topic : String := ""
  labels : List String := []
  envs : List String := []
  runtimeImage : String := ""
  mem : String := ""

/-- `updateCmd`: the Function the command submits in place of `previousFunction`, the one
stored under the name and namespace it is given. -/
def updateCmd (env : CliEnv) (flags : UpdateFlags) (previousFunction : Function) :
    Except GoError Function :=
  getFunctionDescription env previousFunction.metadata.name previousFunction.metadata.ns
    flags.handler flags.file [] flags.runtime flags.topic flags.schedule flags.runtimeImage
    flags.mem flags.triggerHTTP flags.envs flags.labels previousFunction

/-- One run of the command: what it sees of the world, its flags, and whether
`UpdateK8sCustomResource` succeeds. -/
structure Update where
  env : CliEnv
  flags : UpdateFlags
  accepted : Bool

/-- The stored Function after a sequence of update commands. -/
def updateRun : Function → List Update → Function
  | f, [] => f
  | f, u :: us =>
      match updateCmd u.env u.flags f with
      | .ok f' => updateRun (if u.accepted then f' else f) us
      | .error _ => updateRun f us

/-- The trigger fields an update sets are exclusive when the stored ones are: each flag
clears the fields of the other kinds, and with no flag all three are inherited. -/
theorem triggerFields_exclusive (triggerHTTP : Bool) (topic schedule : String)
    {dspec : FunctionSpec} (h : dspec.TriggerExclusive) :
    let fields := triggerFields triggerHTTP topic schedule dspec
    (fields.2.1 ≠ "" → fields.1 = "PubSub") ∧ (fields.2.2 ≠ "" → fields.1 = "Scheduled") := by
  unfold triggerFields
  split_ifs with hh hs ht
  · simp
  · simp
  · simp
  · exact h

/-- The trigger fields of a built Function are `triggerFields` of the flags and the stored
Function. -/
theorem getFunctionDescription_trigger {env : CliEnv}
    {funcName ns handler file runtime topic schedule runtimeImage mem : String} {deps : Bytes}
    {triggerHTTP : Bool} {envs labels : List String} {defaultFunction f : Function}
    (h : getFunctionDescription env funcName ns handler file deps runtime topic schedule
      runtimeImage mem triggerHTTP envs labels defaultFunction = .ok f) :
    (f.spec.type, f.spec.topic, f.spec.schedule) =
      triggerFields triggerHTTP topic schedule defaultFunction.spec := by
  unfold getFunctionDescription at h
  by_cases hf : file = ""
  · rw [if_pos hf] at h
    obtain ⟨_, -, h⟩ := bind_eq_ok.mp h
    obtain ⟨resources, -, h⟩ := bind_eq_ok.mp h
    cases h
    rfl
  · -- the file is uploaded first
    rw [if_neg hf] at h
    obtain ⟨_, -, h⟩ := bind_eq_ok.mp h
    obtain ⟨_, -, h⟩ := bind_eq_ok.mp h
    obtain ⟨resources, -, h⟩ := bind_eq_ok.mp h
    cases h
    rfl

/-- A Function built from an exclusive one is exclusive. -/
theorem getFunctionDescription_exclusive {env : CliEnv}
    {funcName ns handler file runtime topic schedule runtimeImage mem : String} {deps : Bytes}
    {triggerHTTP : Bool} {envs labels : List String} {defaultFunction f : Function}
    (hd : defaultFunction.spec.TriggerExclusive)
    (h : getFunctionDescription env funcName ns handler file deps runtime topic schedule
      runtimeImage mem triggerHTTP envs labels defaultFunction = .ok f) :
    f.spec.TriggerExclusive := by
  have hx := triggerFields_exclusive triggerHTTP topic schedule hd
  rw [← getFunctionDescription_trigger h] at hx
  exact hx

/-- **Trigger exclusivity is an invariant of updates**: every Function built from an
exclusive one, for every combination of flags, is exclusive; so the stored Function stays
exclusive along every run of update commands. -/
theorem getFunctionDescription_keeps_exclusive {defaultFunction : Function}
    (h : defaultFunction.spec.TriggerExclusive) :
    (∀ (env : CliEnv) (funcName ns handler file : String) (deps : Bytes)
        (runtime topic schedule runtimeImage mem : String) (triggerHTTP : Bool)
        (envs labels : List String) (f : Function),
      getFunctionDescription env funcName ns handler file deps runtime topic schedule
        runtimeImage mem triggerHTTP envs labels defaultFunction = .ok f →
      f.spec.TriggerExclusive) ∧
    ∀ us, (updateRun defaultFunction us).spec.TriggerExclusive := by
  refine ⟨fun _ _ _ _ _ _ _ _ _ _ _ _ _ _ _ => getFunctionDescription_exclusive h, fun us => ?_⟩
  induction us generalizing defaultFunction with
  | nil => exact h
  | cons u us ih =>
      unfold updateRun
      split
      · rename_i f' hf
        split_ifs
        · exact ih (getFunctionDescription_exclusive h hf)
        · exact ih h
      · exact ih h

/-- A Function run every five minutes. -/
def cronFunction : Function :=
  { metadata := { name := "hello", ns := "default" }
    spec := { handler := "hello.foo", runtime := "python2.7", type := "Scheduled",
              schedule := "*/5 * * * *" } }

theorem getFunctionDescription_keeps_exclusive_cron :
    cronFunction.spec.TriggerExclusive ∧
      (∀ (env : CliEnv) (funcName ns handler file : String) (deps : Bytes)
          (runtime topic schedule runtimeImage mem : String) (triggerHTTP : Bool)
          (envs labels : List String) (f : Function),
        getFunctionDescription env funcName ns handler file deps runtime topic schedule
          runtimeImage mem triggerHTTP envs labels cronFunction = .ok f →
        f.spec.TriggerExclusive) ∧
      ∀ us, (updateRun cronFunction us).spec.TriggerExclusive :=
  ⟨by decide, getFunctionDescription_keeps_exclusive (by decide)⟩

end Kubeless
