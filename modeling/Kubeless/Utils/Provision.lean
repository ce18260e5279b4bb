import Kubeless.Runtime

/-!
# The Prepare Container

`getProvisionContainer` (`pkg/utils/k8sutil.go`) derives the `prepare` init container of a
function's pod: a shell script that takes the function source from the ConfigMap volume,
decodes it, verifies its checksum, unpacks or copies it into the runtime volume, and copies
the dependency manifest beside it. The script is grown one step at a time by
`appendToCommand`; the file names come from `getFileName` and `splitHandler`.

The faithful definitions come first. `getProvisionContainer_eq` then reads the script as
the `" && "`-join of four blocks of commands (`decodeSteps`, `checksumSteps`,
`extractSteps`, `depsSteps`), one per block of the Go function, and every later result is
proved from that equation and one lemma per block.

## Main results

* `getProvisionContainer_eq`: the script is the join of the four blocks, in order.
* `checksumSteps_sha256`, `checksumSteps_other`, `checksumSteps_sha256_panic`: what each
  form of checksum gives.
* `getProvisionContainer_checksum`: the script for each form of checksum other than the bare
  `sha256`, which indexes past the end of its fields.
* `getProvisionContainer_script`: the command, the script and the mounts of every successful
  derivation, the script block by block.
* `splitHandler_eq_ok`: `splitHandler` accepts exactly the handlers with one `.`.
-/

namespace Kubeless

open Go

/-- The image of the prepare container (`unzip` in the source). -/
def unzip : String :=
  "kubeless/unzip@sha256:f162c062973cca05459834de6ed14c039d45df8cdb76097f50b028a1621b3697"

/-- `appendToCommand(orig, command...)`: the commands joined by `" && "`, after `orig`
unless `orig` is empty. -/
def appendToCommand (orig : String) (command : List String) : String :=
  if orig.length > 0 then orig ++ " && " ++ stringsJoin " && " command
  else stringsJoin " && " command

/-- `splitHandler(handler)`: the module and function names of `module.function`. -/
def splitHandler (handler : String) : Except GoError (String × String) :=
  match stringsSplit handler '.' with
  | [modName, handlerName] => .ok (modName, handlerName)
  | _ => .error (.error "Failed: incorrect handler format. It should be module_name.handler_name")

/-- `getFileName(file, handler, runtime)`: the explicit file name, or (deprecated) the
runtime's file name for the handler's module. -/
def getFileName (rt : Runtimes) (file handler runtime : String) : Except GoError String :=
  if file = "" then do
    let (modName, _) ← splitHandler handler
    pure (rt.getFunctionFileName modName runtime)
  else pure file

/-- The prepare container around a script. -/
def prepareContainer (prepareCommand : String) (runtimeVolume depsVolume : VolumeMount) :
    Container :=
  { name := "prepare", image := unzip, command := ["sh", "-c"], args := [prepareCommand],
    volumeMounts := [runtimeVolume, depsVolume], imagePullPolicy := "IfNotPresent" }

@[simp] theorem prepareContainer_command (prepareCommand : String)
    (runtimeVolume depsVolume : VolumeMount) :
    (prepareContainer prepareCommand runtimeVolume depsVolume).command = ["sh", "-c"] := rfl

@[simp] theorem prepareContainer_args (prepareCommand : String)
    (runtimeVolume depsVolume : VolumeMount) :
    (prepareContainer prepareCommand runtimeVolume depsVolume).args = [prepareCommand] := rfl

@[simp] theorem prepareContainer_volumeMounts (prepareCommand : String)
    (runtimeVolume depsVolume : VolumeMount) :
    (prepareContainer prepareCommand runtimeVolume depsVolume).volumeMounts =
      [runtimeVolume, depsVolume] := rfl

/-! ### The blocks of the script -/

/-- Prepare Function file and dependencies: an in-place base64 decode for `base64` content,
nothing for `text` or unset content, and an error for any other content type. -/
def decodeSteps (contentType originFile : String) : Except GoError (List String) :=
  if contentType = "base64" then .ok [s!"cat {originFile} | base64 -d > {originFile}"]
  else if contentType = "text" ∨ contentType = "" then .ok []
  else .error (.error s!"Unable to prepare function of type {contentType}: Unknown format")

/-- Validate checksum: nothing for an empty checksum (deprecated); for a `sha256` one, write
the digest (the field after the first `:`) and the file it covers to `originFile.sha256`
and check it with `sha256sum -c`; an error for any other algorithm. -/
def checksumSteps (checksum originFile : String) : Except GoError (List String) :=
  if checksum = "" then .ok []
  else do
    let checksumInfo := stringsSplit checksum ':'
    let algorithm ← index checksumInfo 0
    if algorithm = "sha256" then do
      let digest ← index checksumInfo 1
      let shaFile := originFile ++ ".sha256"
      pure [s!"echo \x27{digest}  {originFile}\x27 > {shaFile}", s!"sha256sum -c {shaFile}"]
    else .error (.error s!"Unable to verify checksum {checksum}: Unknown format")

/-- Extract content in case it is a Zip file; otherwise copy the single file to the
runtime's file name for the handler's module. -/
def extractSteps (rt : Runtimes) (fileName handler runtime originFile runtimePath : String) :
    Except GoError (List String) :=
  if filepathExt fileName = ".zip" then .ok [s!"unzip -o {originFile} -d {runtimePath}"]
  else do
    let destFileName ← getFileName rt "" handler runtime
    let dest := pathJoin [runtimePath, destFileName]
    pure [s!"cp {originFile} {dest}"]

/-- Copy deps file to the installation path, when the runtime has one. -/
def depsSteps (depName depsPath runtimePath : String) : List String :=
  if depName ≠ "" then
    let depsFile := pathJoin [depsPath, depName]
    [s!"cp {depsFile} {runtimePath}"]
  else []

/-- A block appends its commands to the script with one `appendToCommand` call, when it has
any. -/
def appendSteps (prepareCommand : String) (steps : List String) : String :=
  if steps = [] then prepareCommand else appendToCommand prepareCommand steps

/-- `getProvisionContainer(function, checksum, fileName, handler, contentType, runtime,
runtimeVolume, depsVolume)`, block by block as in the source. The `function` argument is
not read. -/
def getProvisionContainer (rt : Runtimes) (_function : Bytes)
    (checksum fileName handler contentType runtime : String)
    (runtimeVolume depsVolume : VolumeMount) : Except GoError Container := do
  let originFile := pathJoin [depsVolume.mountPath, fileName]
  let depName := (rt.getRuntimeDepName runtime).1
  let decode ← decodeSteps contentType originFile
  let prepareCommand := appendSteps "" decode
  let verify ← checksumSteps checksum originFile
  let prepareCommand := appendSteps prepareCommand verify
  let extract ← extractSteps rt fileName handler runtime originFile runtimeVolume.mountPath
  let prepareCommand := appendSteps prepareCommand extract
  let prepareCommand :=
    appendSteps prepareCommand (depsSteps depName depsVolume.mountPath runtimeVolume.mountPath)
  pure (prepareContainer prepareCommand runtimeVolume depsVolume)

/-! ### Handlers and file names -/

@[simp] theorem getFileName_of_ne {rt : Runtimes} {file : String} (handler runtime : String)
    (h : file ≠ "") : getFileName rt file handler runtime = .ok file := by
  simp [getFileName, h, pure, Except.pure]

/-- **`splitHandler` accepts exactly the handlers with one `.`**, and returns the parts
before and after it, either of which may be empty. -/
theorem splitHandler_eq_ok {handler modName handlerName : String} :
    splitHandler handler = .ok (modName, handlerName) ↔
      '.' ∉ modName.data ∧ '.' ∉ handlerName.data ∧ handler = modName ++ "." ++ handlerName := by
  rw [show modName ++ "." ++ handlerName = modName ++ String.singleton '.' ++ handlerName from rfl,
    ← stringsSplit_eq_pair]
  unfold splitHandler
  split
  · rename_i m e h
    simp [h]
  · rename_i h
    simpa using h modName handlerName

theorem getFileName_empty (rt : Runtimes) (handler runtime : String) :
    getFileName rt "" handler runtime =
      (splitHandler handler).map fun p => rt.getFunctionFileName p.1 runtime := by
  simp only [getFileName, if_true]
  cases splitHandler handler <;> rfl

/-! ### Each block -/

/-- The commands of a block are non-empty strings. -/
def NonEmptyCommands (cs : List String) : Prop := ∀ c ∈ cs, c ≠ ""

theorem NonEmptyCommands.nil : NonEmptyCommands [] := by simp [NonEmptyCommands]

theorem NonEmptyCommands.cons {c : String} {cs : List String} (hc : c ≠ "")
    (hcs : NonEmptyCommands cs) : NonEmptyCommands (c :: cs) := by
  simpa [NonEmptyCommands, hc] using hcs

theorem decodeSteps_nonEmpty {contentType originFile : String} {cs : List String}
    (h : decodeSteps contentType originFile = .ok cs) : NonEmptyCommands cs := by
  unfold decodeSteps at h
  split_ifs at h <;> cases h
  · exact .cons (by simp [String.ext_iff]) .nil
  · exact .nil

/-- The fields of `sha256:r` split at `:`. -/
theorem stringsSplit_sha256 (r : String) :
    stringsSplit ("sha256:" ++ r) ':' = "sha256" :: stringsSplit r ':' := by
  have : "sha256:" ++ r = "sha256" ++ String.singleton ':' ++ r := rfl
  rw [this, stringsSplit_append_sep (by decide)]

/-- The first field of a string split at `:`: everything before its first `:`. -/
theorem index_stringsSplit_zero (c : String) :
    index (stringsSplit c ':') 0 = .ok (String.mk (c.data.takeWhile (· ≠ ':'))) := by
  rw [index_eq_ok, stringsSplit, List.getElem?_map, ← List.head?_eq_getElem?, head_splitChars]
  rfl

/-- **A `sha256:` checksum** gives the two verification commands, with the digest the part
of the rest before its first `:`. -/
theorem checksumSteps_sha256 (r originFile : String) :
    checksumSteps ("sha256:" ++ r) originFile =
      let digest := String.mk (r.data.takeWhile (· ≠ ':'))
      let shaFile := originFile ++ ".sha256"
      .ok [s!"echo \x27{digest}  {originFile}\x27 > {shaFile}", s!"sha256sum -c {shaFile}"] := by
  have hne : "sha256:" ++ r ≠ "" := by simp [String.ext_iff]
  have h1 : (stringsSplit r ':')[0]? = some (String.mk (r.data.takeWhile (· ≠ ':'))) := by
    rw [stringsSplit, List.getElem?_map, ← List.head?_eq_getElem?, head_splitChars]
    rfl
  simp [checksumSteps, hne, stringsSplit_sha256, index, h1, bind, Except.bind, pure, Except.pure]

/-- A checksum whose first field is not `sha256` is rejected. -/
theorem checksumSteps_other {checksum : String} (originFile : String) (hc : checksum ≠ "")
    (halg : String.mk (checksum.data.takeWhile (· ≠ ':')) ≠ "sha256") :
    checksumSteps checksum originFile =
      .error (.error s!"Unable to verify checksum {checksum}: Unknown format") := by
  simp only [checksumSteps, hc, if_false, index_stringsSplit_zero, halg, bind, Except.bind]

/-- A checksum whose first field is `sha256` is the bare algorithm name, or `sha256:` and a
rest. -/
theorem eq_sha256_of_field {c : String}
    (h : String.mk (c.data.takeWhile (· ≠ ':')) = "sha256") :
    c = "sha256" ∨ ∃ r, c = "sha256:" ++ r := by
  have hsplit := List.takeWhile_append_dropWhile (fun x => decide (x ≠ ':')) c.data
  rw [show c.data.takeWhile (fun x => decide (x ≠ ':')) = "sha256".data from
    congrArg String.data h] at hsplit
  cases hd : c.data.dropWhile (fun x => decide (x ≠ ':')) with
  | nil =>
      left
      rw [hd, List.append_nil] at hsplit
      exact String.ext hsplit.symm
  | cons x rest =>
      have hx := List.head_dropWhile_not (fun x => decide (x ≠ ':')) c.data
        (by rw [hd]; exact List.cons_ne_nil x rest)
      simp only [hd, List.head_cons, decide_eq_false_iff_not, not_not] at hx
      subst hx
      rw [hd] at hsplit
      exact .inr ⟨String.mk rest, String.ext (by rw [← hsplit]; rfl)⟩

/-- The bare algorithm name indexes past the end of its one field. -/
theorem checksumSteps_sha256_panic (originFile : String) :
    checksumSteps "sha256" originFile = .error (.panic "runtime error: index out of range") := by
  rfl

theorem checksumSteps_nonEmpty {checksum originFile : String} {cs : List String}
    (h : checksumSteps checksum originFile = .ok cs) : NonEmptyCommands cs := by
  unfold checksumSteps at h
  split_ifs at h with hc
  · cases h; exact .nil
  · simp only [bind, Except.bind] at h
    split at h
    · cases h
    · split_ifs at h
      · split at h
        · cases h
        · cases h
          exact .cons (by simp [String.ext_iff]) (.cons (by simp [String.ext_iff]) .nil)

theorem extractSteps_nonEmpty {rt : Runtimes}
    {fileName handler runtime originFile runtimePath : String} {cs : List String}
    (h : extractSteps rt fileName handler runtime originFile runtimePath = .ok cs) :
    NonEmptyCommands cs := by
  unfold extractSteps at h
  split_ifs at h
  · cases h; exact .cons (by simp [String.ext_iff]) .nil
  · simp only [bind, Except.bind] at h
    split at h
    · cases h
    · cases h; exact .cons (by simp [String.ext_iff]) .nil

/-- A source that is not a zip archive is copied to the runtime's file for the handler's
module. -/
theorem extractSteps_of_ne_zip {rt : Runtimes} {fileName handler : String}
    {modName handlerName : String} (runtime originFile runtimePath : String)
    (hz : filepathExt fileName ≠ ".zip") (hs : splitHandler handler = .ok (modName, handlerName)) :
    extractSteps rt fileName handler runtime originFile runtimePath =
      let dest := pathJoin [runtimePath, rt.getFunctionFileName modName runtime]
      .ok [s!"cp {originFile} {dest}"] := by
  simp only [extractSteps, hz, if_false, getFileName_empty, hs]
  rfl

/-! ### The script -/

/-- Appending a block to a script of non-empty commands joins the blocks. -/
theorem appendSteps_stringsJoin {xs : List String} (ys : List String) (hx : NonEmptyCommands xs) :
    appendSteps (stringsJoin " && " xs) ys = stringsJoin " && " (xs ++ ys) := by
  unfold appendSteps appendToCommand
  by_cases hy : ys = []
  · simp [hy]
  · rw [if_neg hy]
    cases xs with
    | nil => simp
    | cons x xs =>
        have hne : stringsJoin " && " (x :: xs) ≠ "" :=
          stringsJoin_ne_empty hx (List.cons_ne_nil x xs)
        rw [if_pos ((length_pos_iff_ne_empty _).mpr hne),
          stringsJoin_append _ (List.cons_ne_nil x xs) hy]

theorem NonEmptyCommands.append {xs ys : List String} (hx : NonEmptyCommands xs)
    (hy : NonEmptyCommands ys) : NonEmptyCommands (xs ++ ys) := by
  intro c hc
  rcases List.mem_append.mp hc with h | h
  exacts [hx c h, hy c h]

/-- **The prepare script is the `" && "`-join of its four blocks, in order.** -/
theorem getProvisionContainer_eq (rt : Runtimes) (function : Bytes)
    (checksum fileName handler contentType runtime : String)
    (runtimeVolume depsVolume : VolumeMount) :
    getProvisionContainer rt function checksum fileName handler contentType runtime
      runtimeVolume depsVolume = (do
        let originFile := pathJoin [depsVolume.mountPath, fileName]
        let decode ← decodeSteps contentType originFile
        let verify ← checksumSteps checksum originFile
        let extract ← extractSteps rt fileName handler runtime originFile runtimeVolume.mountPath
        let deps := depsSteps (rt.getRuntimeDepName runtime).1 depsVolume.mountPath
          runtimeVolume.mountPath
        pure (prepareContainer (stringsJoin " && " (decode ++ verify ++ extract ++ deps))
          runtimeVolume depsVolume)) := by
  simp only [getProvisionContainer, bind, Except.bind]
  cases hd : decodeSteps contentType (pathJoin [depsVolume.mountPath, fileName]) with
  | error e => rfl
  | ok a =>
    cases hv : checksumSteps checksum (pathJoin [depsVolume.mountPath, fileName]) with
    | error e => rfl
    | ok b =>
      cases hx : extractSteps rt fileName handler runtime
          (pathJoin [depsVolume.mountPath, fileName]) runtimeVolume.mountPath with
      | error e => rfl
      | ok c =>
        have ha := decodeSteps_nonEmpty hd
        have hb := checksumSteps_nonEmpty hv
        have hc := extractSteps_nonEmpty hx
        have h0 : appendSteps "" a = stringsJoin " && " a :=
          @appendSteps_stringsJoin [] a .nil
        simp only [h0, appendSteps_stringsJoin _ ha, appendSteps_stringsJoin _ (ha.append hb),
          appendSteps_stringsJoin _ ((ha.append hb).append hc)]

/-- A successful derivation took each block without error, and runs their join. -/
theorem getProvisionContainer_ok {rt : Runtimes} {function : Bytes}
    {checksum fileName handler contentType runtime : String}
    {runtimeVolume depsVolume : VolumeMount} {c : Container}
    (h : getProvisionContainer rt function checksum fileName handler contentType runtime
      runtimeVolume depsVolume = .ok c) :
    let originFile := pathJoin [depsVolume.mountPath, fileName]
    ∃ decode verify extract, decodeSteps contentType originFile = .ok decode ∧
      checksumSteps checksum originFile = .ok verify ∧
      extractSteps rt fileName handler runtime originFile runtimeVolume.mountPath = .ok extract ∧
      c = prepareContainer (stringsJoin " && " (decode ++ verify ++ extract ++
        depsSteps (rt.getRuntimeDepName runtime).1 depsVolume.mountPath runtimeVolume.mountPath))
        runtimeVolume depsVolume := by
  rw [getProvisionContainer_eq] at h
  simp only [bind_eq_ok] at h
  obtain ⟨decode, hd, verify, hv, extract, hx, hc⟩ := h
  cases hc
  exact ⟨decode, verify, extract, hd, hv, hx, rfl⟩

/-! ### The blocks a successful derivation takes -/

theorem decodeSteps_eq_ok {contentType originFile : String} {cs : List String}
    (h : decodeSteps contentType originFile = .ok cs) :
    cs = if contentType = "base64" then [s!"cat {originFile} | base64 -d > {originFile}"]
      else [] := by
  unfold decodeSteps at h
  split_ifs at h with h₁ <;> cases h
  · rw [if_pos h₁]
  · rw [if_neg h₁]

/-- A checksum the script accepts is empty, or `sha256:` and a rest whose first field is
the digest. -/
theorem checksumSteps_eq_ok {checksum originFile : String} {cs : List String}
    (h : checksumSteps checksum originFile = .ok cs) :
    (checksum = "" ∧ cs = []) ∨ ∃ r, checksum = "sha256:" ++ r ∧
      let digest := String.mk (r.data.takeWhile (· ≠ ':'))
      let shaFile := originFile ++ ".sha256"
      cs = [s!"echo \x27{digest}  {originFile}\x27 > {shaFile}", s!"sha256sum -c {shaFile}"] := by
  by_cases h0 : checksum = ""
  · subst h0
    exact .inl ⟨rfl, by simpa [checksumSteps] using h.symm⟩
  by_cases halg : String.mk (checksum.data.takeWhile (· ≠ ':')) = "sha256"
  · rcases eq_sha256_of_field halg with rfl | ⟨r, rfl⟩
    · rw [checksumSteps_sha256_panic] at h; cases h
    · rw [checksumSteps_sha256] at h
      cases h
      exact .inr ⟨r, rfl, rfl⟩
  · rw [checksumSteps_other _ h0 halg] at h; cases h

/-- A zip archive is unpacked; any other source is copied to the runtime's file for the
handler's module, which needs a handler that splits. -/
theorem extractSteps_eq_ok {rt : Runtimes} {fileName handler runtime originFile runtimePath : String}
    {cs : List String} (h : extractSteps rt fileName handler runtime originFile runtimePath = .ok cs) :
    (filepathExt fileName = ".zip" → cs = [s!"unzip -o {originFile} -d {runtimePath}"]) ∧
    (filepathExt fileName ≠ ".zip" → ∃ modName handlerName,
      splitHandler handler = .ok (modName, handlerName) ∧
      let dest := pathJoin [runtimePath, rt.getFunctionFileName modName runtime]
      cs = [s!"cp {originFile} {dest}"]) := by
  by_cases hz : filepathExt fileName = ".zip"
  · simp only [extractSteps, hz, if_true] at h
    cases h
    exact ⟨fun _ => rfl, fun h => absurd hz h⟩
  · refine ⟨fun h' => absurd h' hz, fun _ => ?_⟩
    cases hs : splitHandler handler with
    | error e =>
        simp [extractSteps, hz, getFileName_empty, hs, bind, Except.bind, Except.map] at h
    | ok p =>
        obtain ⟨modName, handlerName⟩ := p
        rw [extractSteps_of_ne_zip runtime originFile runtimePath hz hs] at h
        cases h
        exact ⟨modName, handlerName, rfl, rfl⟩

/-- **The prepare script of every derivation that succeeds**: `sh -c` on the script, with
the runtime and the deps volumes mounted. The script, block by block, is the decode
exactly for `base64` content, the checksum verification exactly for a non-empty checksum,
then the unzip or the copy of the source, then the copy of the dependency manifest exactly
when the runtime has one. The verification comes after the decode and before every command
that writes into the runtime volume. -/
theorem getProvisionContainer_script {rt : Runtimes} {function : Bytes}
    {checksum fileName handler contentType runtime : String}
    {runtimeVolume depsVolume : VolumeMount} {c : Container}
    (h : getProvisionContainer rt function checksum fileName handler contentType runtime
      runtimeVolume depsVolume = .ok c) :
    let originFile := pathJoin [depsVolume.mountPath, fileName]
    let depName := (rt.getRuntimeDepName runtime).1
    let depsFile := pathJoin [depsVolume.mountPath, depName]
    let runtimePath := runtimeVolume.mountPath
    let decode := if contentType = "base64" then
      [s!"cat {originFile} | base64 -d > {originFile}"] else []
    let copyDeps := if depName ≠ "" then [s!"cp {depsFile} {runtimePath}"] else []
    ∃ verify extract,
      c.command = ["sh", "-c"] ∧
      c.args = [stringsJoin " && " (decode ++ verify ++ extract ++ copyDeps)] ∧
      c.volumeMounts = [runtimeVolume, depsVolume] ∧
      (checksum = "" → verify = []) ∧
      (checksum ≠ "" → ∃ r, checksum = "sha256:" ++ r ∧
        let digest := String.mk (r.data.takeWhile (· ≠ ':'))
        let shaFile := originFile ++ ".sha256"
        verify = [s!"echo \x27{digest}  {originFile}\x27 > {shaFile}",
          s!"sha256sum -c {shaFile}"]) ∧
      (filepathExt fileName = ".zip" → extract = [s!"unzip -o {originFile} -d {runtimePath}"]) ∧
      (filepathExt fileName ≠ ".zip" → ∃ modName handlerName,
        splitHandler handler = .ok (modName, handlerName) ∧
        let dest := pathJoin [runtimePath, rt.getFunctionFileName modName runtime]
        extract = [s!"cp {originFile} {dest}"]) := by
  obtain ⟨decode, verify, extract, hd, hv, hx, rfl⟩ := getProvisionContainer_ok h
  refine ⟨verify, extract, rfl, by rw [prepareContainer_args, decodeSteps_eq_ok hd]; rfl, rfl,
    fun h0 => ?_, fun h0 => ?_, (extractSteps_eq_ok hx).1, (extractSteps_eq_ok hx).2⟩
  · rcases checksumSteps_eq_ok hv with ⟨-, rfl⟩ | ⟨r, rfl, -⟩
    · rfl
    · simp [String.ext_iff] at h0
  · rcases checksumSteps_eq_ok hv with ⟨h0', -⟩ | hr
    · exact absurd h0' h0
    · exact hr

theorem getProvisionContainer_script_base64 :
    let runtimeVolume : VolumeMount := ⟨"hello", "/kubeless"⟩
    let depsVolume : VolumeMount := ⟨"hello-deps", "/dependencies"⟩
    ∃ c, getProvisionContainer sampleRuntimes [] "sha256:ab" "hello.py" "hello.foo" "base64"
        "python2.7" runtimeVolume depsVolume = .ok c ∧
      let originFile := pathJoin [depsVolume.mountPath, "hello.py"]
      let depName := (sampleRuntimes.getRuntimeDepName "python2.7").1
      let depsFile := pathJoin [depsVolume.mountPath, depName]
      let runtimePath := runtimeVolume.mountPath
      let decode := if "base64" = "base64" then
        [s!"cat {originFile} | base64 -d > {originFile}"] else []
      let copyDeps := if depName ≠ "" then [s!"cp {depsFile} {runtimePath}"] else []
      ∃ verify extract,
        c.command = ["sh", "-c"] ∧
        c.args = [stringsJoin " && " (decode ++ verify ++ extract ++ copyDeps)] ∧
        c.volumeMounts = [runtimeVolume, depsVolume] ∧
        ("sha256:ab" = "" → verify = []) ∧
        ("sha256:ab" ≠ "" → ∃ r, "sha256:ab" = "sha256:" ++ r ∧
          let digest := String.mk (r.data.takeWhile (· ≠ ':'))
          let shaFile := originFile ++ ".sha256"
          verify = [s!"echo \x27{digest}  {originFile}\x27 > {shaFile}",
            s!"sha256sum -c {shaFile}"]) ∧
        (filepathExt "hello.py" = ".zip" →
          extract = [s!"unzip -o {originFile} -d {runtimePath}"]) ∧
        (filepathExt "hello.py" ≠ ".zip" → ∃ modName handlerName,
          splitHandler "hello.foo" = .ok (modName, handlerName) ∧
          let dest := pathJoin [runtimePath, sampleRuntimes.getFunctionFileName modName "python2.7"]
          extract = [s!"cp {originFile} {dest}"]) :=
  ⟨_, rfl, @getProvisionContainer_script sampleRuntimes [] _ _ _ _ _ _ _ _ rfl⟩

/-- **Checksum handling of the prepare container**: for every checksum but the bare
`sha256`, and every content type and file the rest of the script accepts, an empty checksum
adds no step, a checksum `sha256:r` adds the two verification commands with the digest `d`,
the part of `r` before its first `:`, and any other checksum is rejected. -/
theorem getProvisionContainer_checksum {rt : Runtimes} {function : Bytes}
    {checksum fileName handler contentType runtime : String}
    {runtimeVolume depsVolume : VolumeMount} {decode extract : List String}
    (hd : decodeSteps contentType (pathJoin [depsVolume.mountPath, fileName]) = .ok decode)
    (hx : extractSteps rt fileName handler runtime (pathJoin [depsVolume.mountPath, fileName])
      runtimeVolume.mountPath = .ok extract)
    (hc : checksum ≠ "sha256") :
    let originFile := pathJoin [depsVolume.mountPath, fileName]
    let deps := depsSteps (rt.getRuntimeDepName runtime).1 depsVolume.mountPath
      runtimeVolume.mountPath
    let result := getProvisionContainer rt function checksum fileName handler contentType runtime
      runtimeVolume depsVolume
    (checksum = "" → ∃ c, result = .ok c ∧
      c.args = [stringsJoin " && " (decode ++ extract ++ deps)]) ∧
    (∀ r, checksum = "sha256:" ++ r →
      let d := String.mk (r.data.takeWhile (· ≠ ':'))
      let shaFile := originFile ++ ".sha256"
      ∃ c, result = .ok c ∧ c.args = [stringsJoin " && " (decode ++
        [s!"echo \x27{d}  {originFile}\x27 > {shaFile}", s!"sha256sum -c {shaFile}"] ++
        extract ++ deps)]) ∧
    (checksum ≠ "" → (∀ r, checksum ≠ "sha256:" ++ r) →
      result = .error (.error s!"Unable to verify checksum {checksum}: Unknown format")) := by
  refine ⟨fun h0 => ⟨prepareContainer _ runtimeVolume depsVolume, ?_, rfl⟩,
    fun r hr => ⟨prepareContainer _ runtimeVolume depsVolume, ?_, rfl⟩, fun h0 hr => ?_⟩
  · simp [getProvisionContainer_eq, hd, hx, h0, checksumSteps, bind, Except.bind, pure,
      Except.pure]
  · subst hr
    simp [getProvisionContainer_eq, hd, hx, checksumSteps_sha256, bind, Except.bind, pure,
      Except.pure]
  · have halg : String.mk (checksum.data.takeWhile (· ≠ ':')) ≠ "sha256" := fun h =>
      (eq_sha256_of_field h).elim hc fun ⟨r, hr'⟩ => hr r hr'
    simp [getProvisionContainer_eq, hd, checksumSteps_other _ h0 halg, bind, Except.bind]

theorem getProvisionContainer_checksum_zip :
    let checksum := "sha256:ab"
    let originFile := pathJoin ["/dependencies", "func.zip"]
    let runtimeVolume : VolumeMount := ⟨"hello", "/kubeless"⟩
    let depsVolume : VolumeMount := ⟨"hello-deps", "/dependencies"⟩
    let deps := depsSteps (sampleRuntimes.getRuntimeDepName "python2.7").1 "/dependencies"
      "/kubeless"
    let result := getProvisionContainer sampleRuntimes [] checksum "func.zip" "hello.foo" "text"
      "python2.7" runtimeVolume depsVolume
    ∃ extract, extractSteps sampleRuntimes "func.zip" "hello.foo" "python2.7" originFile
        "/kubeless" = .ok extract ∧
      (checksum = "" → ∃ c, result = .ok c ∧
        c.args = [stringsJoin " && " ([] ++ extract ++ deps)]) ∧
      (∀ r, checksum = "sha256:" ++ r →
        let d := String.mk (r.data.takeWhile (· ≠ ':'))
        let shaFile := originFile ++ ".sha256"
        ∃ c, result = .ok c ∧ c.args = [stringsJoin " && " ([] ++
          [s!"echo \x27{d}  {originFile}\x27 > {shaFile}", s!"sha256sum -c {shaFile}"] ++
          extract ++ deps)]) ∧
      (checksum ≠ "" → (∀ r, checksum ≠ "sha256:" ++ r) →
        result = .error (.error s!"Unable to verify checksum {checksum}: Unknown format")) := by
  obtain ⟨extract, hx⟩ : ∃ extract, extractSteps sampleRuntimes "func.zip" "hello.foo"
      "python2.7" (pathJoin ["/dependencies", "func.zip"]) "/kubeless" = .ok extract :=
    ⟨_, rfl⟩
  exact ⟨extract, hx, getProvisionContainer_checksum (by rfl) hx (by decide)⟩

/-- The bare algorithm name panics, and a digest with a `:` in it is accepted (the script
then checks its first field). -/
theorem getProvisionContainer_bare_sha256 :
    getProvisionContainer sampleRuntimes [] "sha256" "func.zip" "hello.foo" "text" "python2.7"
        ⟨"hello", "/kubeless"⟩ ⟨"hello-deps", "/dependencies"⟩ =
      .error (.panic "runtime error: index out of range") ∧
    ∃ c, getProvisionContainer sampleRuntimes [] "sha256:a:b" "func.zip" "hello.foo" "text"
      "python2.7" ⟨"hello", "/kubeless"⟩ ⟨"hello-deps", "/dependencies"⟩ = .ok c :=
  ⟨rfl, _, rfl⟩

end Kubeless
