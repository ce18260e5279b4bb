import Kubeless.Runtime

/-!
# Creating an HTTP Trigger from the Command Line

`kubeless trigger http create <name> --function-name <f>` (`cmd/kubeless/trigger/http/create.go`)
checks that it has one argument, defaults the namespace, checks that the Function exists,
builds the HTTPTrigger custom resource that the controller reconciles, checks the `--port`
flag, and submits the trigger. Each failed check is a `logrus.Fatal`, which ends the command
with its message, before anything is submitted.

The `--port` flag is read and range-checked, and then never used: the trigger names only the
Function, and the Service the controller's trigger leads to listens on port 8080 whatever
was asked. (`--headless` is declared and never read; the model leaves it out.)

## Main results

* `createCmd_eq_ok`: what a successful command submitted: the one argument as its name, the
  flag's namespace or the default one, the label `created-by=kubeless`, and the Function it
  found.
* `createCmd_port_only_checked`: the port flag only decides whether the command ends before
  submitting: any two valid ports give the same run, and an invalid one is an error.
-/

namespace Kubeless

/-- What `kubeless trigger http create` sees of the world. -/
structure TriggerCliEnv where
  /-- `utils.GetDefaultNamespace()`. -/
  defaultNamespace : String
  /-- `utils.GetKubelessClientOutCluster()`: its error, if any. -/
  clientError : Option String
  /-- `utils.GetFunctionCustomResource(kubelessClient, functionName, ns)`. -/
  getFunction : String → String → Except String Function
  /-- `utils.CreateHTTPTriggerCustomResource(kubelessClient, httpTrigger)`: its error, if
  any. -/
  createTrigger : HTTPTrigger → Option String

/-- The flags of the command, each at its default when not given. -/
structure TriggerFlags where
  ns : String := ""
  functionName : String := ""
  port : Int := 8080

/-- `createCmd`: the trigger the command submitted, or the message of the `logrus.Fatal`
that ended it. -/
def createCmd (env : TriggerCliEnv) (args : List String) (flags : TriggerFlags) :
    Except String HTTPTrigger :=
  match args with
  | [triggerName] =>
      let ns := if flags.ns = "" then env.defaultNamespace else flags.ns
      let functionName := flags.functionName
      match env.clientError with
      | some err => .error s!"Can not create out-of-cluster client: {err}"
      | none =>
          match env.getFunction functionName ns with
          | .error err =>
              .error s!"Unable to find Function {functionName} in namespace {ns}. Error {err}"
          | .ok _ =>
              let httpTrigger : HTTPTrigger :=
                { metadata := { name := triggerName, ns, labels := [("created-by", "kubeless")] },
                  functionName }
              let port := flags.port
              if port ≤ 0 ∨ port > 65535 then .error s!"Invalid port number {port} specified"
              else
                match env.createTrigger httpTrigger with
                | some err =>
                    .error s!"Failed to deploy HTTP trigger {triggerName} in namespace {ns}. Error: {err}"
                | none => .ok httpTrigger
  | _ => .error "Need exactly one argument - http trigger name"

/-- A successful command had one argument, found the Function, had a valid port, and
submitted the trigger of that name, in the flag's namespace or the default one, labelled
`created-by=kubeless` and naming the Function. -/
theorem createCmd_eq_ok {env : TriggerCliEnv} {args : List String} {flags : TriggerFlags}
    {t : HTTPTrigger} (h : createCmd env args flags = .ok t) :
    let ns := if flags.ns = "" then env.defaultNamespace else flags.ns
    (∃ f, env.getFunction flags.functionName ns = .ok f) ∧ 0 < flags.port ∧
      flags.port ≤ 65535 ∧ env.createTrigger t = none ∧
      args = [t.metadata.name] ∧
      t = { metadata := { name := t.metadata.name, ns, labels := [("created-by", "kubeless")] },
            functionName := flags.functionName } := by
  obtain ⟨triggerName, rfl⟩ : ∃ triggerName, args = [triggerName] := by
    match args, h with
    | [triggerName], _ => exact ⟨triggerName, rfl⟩
  simp only [createCmd] at h
  cases hc : env.clientError with
  | some err => simp [hc] at h
  | none =>
    cases hf : env.getFunction flags.functionName
        (if flags.ns = "" then env.defaultNamespace else flags.ns) with
    | error err => simp [hc, hf] at h
    | ok f =>
      by_cases hp : flags.port ≤ 0 ∨ flags.port > 65535
      · simp [hc, hf, hp] at h
      · simp only [hc, hf, hp, if_false] at h
        split at h
        · cases h
        · rename_i ht
          cases h
          exact ⟨⟨f, hf⟩, by omega, by omega, ht, rfl, rfl⟩

/-- **The port flag is only checked**: any two ports in range give the same run, and a port
out of range ends the command with an error, whatever the rest of the world answers. -/
theorem createCmd_port_only_checked (env : TriggerCliEnv) (args : List String)
    (flags : TriggerFlags) :
    (∀ p q : Int, 0 < p → p ≤ 65535 → 0 < q → q ≤ 65535 →
      createCmd env args { flags with port := p } = createCmd env args { flags with port := q }) ∧
    ∀ p : Int, (p ≤ 0 ∨ 65535 < p) → ∃ msg, createCmd env args { flags with port := p } = .error msg := by
  constructor
  · intro p q hp hp' hq hq'
    simp only [createCmd, show ¬(p ≤ 0 ∨ p > 65535) by omega,
      show ¬(q ≤ 0 ∨ q > 65535) by omega, if_false]
  · intro p hp
    simp only [createCmd, show p ≤ 0 ∨ p > 65535 from hp, if_true]
    split
    · split
      · exact ⟨_, rfl⟩
      · split <;> exact ⟨_, rfl⟩
    · exact ⟨_, rfl⟩

/-- A cluster where the Function `hello` exists in `default` and every trigger is
accepted. -/
def helloTriggerEnv : TriggerCliEnv :=
  { defaultNamespace := "default", clientError := none,
    getFunction := fun name ns =>
      if name = "hello" ∧ ns = "default" then .ok { metadata := { name, ns } } else .error "not found",
    createTrigger := fun _ => none }

theorem createCmd_port_only_checked_hello :
    createCmd helloTriggerEnv ["hello"] { functionName := "hello", port := 9090 } =
        createCmd helloTriggerEnv ["hello"] { functionName := "hello" } ∧
      ∃ msg, createCmd helloTriggerEnv ["hello"] { functionName := "hello", port := 0 } = .error msg :=
  ⟨(createCmd_port_only_checked helloTriggerEnv ["hello"] { functionName := "hello" }).1 9090 8080
      (by omega) (by omega) (by omega) (by omega),
    (createCmd_port_only_checked helloTriggerEnv ["hello"] { functionName := "hello" }).2 0
      (.inl (by omega))⟩

end Kubeless
