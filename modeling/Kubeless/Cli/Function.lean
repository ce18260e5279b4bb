import Kubeless.Go.Sniff
import Kubeless.Go.Sha256
import Kubeless.Utils.Provision

/-!
# Provisioning a Function from the Command Line

`kubeless function deploy` and `kubeless function update` (`cmd/kubeless/function.go`) turn a
source file into the content fields of a Function. `uploadFunction` stores the file in the
cluster's object storage when that is healthy (content type `URL`, the content being the
object's URL), or else inlines it in the Function: verbatim as `text` when the sniffer calls
it text, base64-encoded otherwise. The checksum is always `sha256:` and the hexadecimal
SHA-256 digest of the file. `getFunctionDescription` builds the Function that an update
submits: each flag left empty inherits the value of the stored Function.

The command sees the world as a `CliEnv`: the local files, the object storage, and two
functions of libraries outside these sources, `minio.UploadFunction` and
`resource.ParseQuantity`.

## Main results

* `uploadFunction_ok`: what a successful upload returns, branch by branch.
* `jsonString_inlineContent`: inline content survives the JSON string of the Function when
  it is base64, or text that is valid UTF-8.
* `getFunctionDescription_inherit`: an update with every flag empty resubmits the stored spec,
  with the file name replaced by its base name.
-/

namespace Kubeless

open Go

/-- What the command line sees of the world. -/
structure CliEnv where
  /-- The local file system: the content of each file that exists. -/
  files : String → Option Bytes
  /-- `Services("kubeless").Get("minio")` succeeds. -/
  minioService : Bool
  /-- The phases of the pods labelled `kubeless=minio`. -/
  minioPodPhases : List String
  /-- `minio.UploadFunction(file, checksum, cli)`: the URL of the stored object, or the
  upload's error. -/
  minioUpload : String → String → Except String String
  /-- `resource.ParseQuantity(mem)`: the quantity in its canonical form, or the parse
  error. -/
  parseQuantity : String → Except String String

/-! ### `uploadFunction` -/

/-- `os.Stat(file).Size()`. -/
def statSize (env : CliEnv) (file : String) : Except GoError Nat :=
  match env.files file with
  | some content => .ok content.length
  | none => .error (.error s!"stat {file}: no such file or directory")

/-- `ioutil.ReadFile(file)`. -/
def readFile (env : CliEnv) (file : String) : Except GoError Bytes :=
  match env.files file with
  | some content => .ok content
  | none => .error (.error s!"open {file}: no such file or directory")

/-- `getFileSha256(file)`: the hexadecimal SHA-256 digest of the file. -/
def getFileSha256 (env : CliEnv) (file : String) : Except GoError String :=
  (readFile env file).map fun content => hexEncodeToString (sha256 content)

/-- `isMinioAvailable(cli)`: the minio service exists and all its pods are `Running`. -/
def isMinioAvailable (env : CliEnv) : Bool :=
  env.minioService && env.minioPodPhases.all (· == "Running")

/-- The inline payload: the file verbatim when the sniffer's answer contains `text/plain`,
its base64 encoding otherwise. -/
def inlineContent (functionBytes : Bytes) : Bytes × String :=
  if stringsContains (detectContentType functionBytes) "text/plain" then (functionBytes, "text")
  else (base64Encode functionBytes, "base64")

/-- `uploadFunction(file, cli)`: the content, content type and checksum of a source file. -/
def uploadFunction (env : CliEnv) (file : String) : Except GoError (Bytes × String × String) := do
  let size ← statSize env file
  if size > 50 * 1024 * 1024 then .error (.error "The maximum size of a function is 50MB")
  else if isMinioAvailable env then do
    let rawChecksum ← getFileSha256 env file
    let function ← match env.minioUpload file rawChecksum with
      | .ok url => pure url
      | .error msg => .error (.error msg)
    pure (utf8Bytes function, "URL", "sha256:" ++ rawChecksum)
  else if size > 1 * 1024 * 1024 then
    .error (.error "Unable to deploy functions over 1MB withouth a storage service")
  else do
    let functionBytes ← readFile env file
    let (function, contentType) := inlineContent functionBytes
    let c ← getFileSha256 env file
    pure (function, contentType, "sha256:" ++ c)

/-- **What a successful upload returns**: the file exists and has at most 50 MiB, the
checksum is its digest, and either the object storage is healthy and the content is the URL
of the uploaded object, or the file has at most 1 MiB and is inlined. -/
theorem uploadFunction_ok {env : CliEnv} {file : String} {p : Bytes} {ct c : String}
    (h : uploadFunction env file = .ok (p, ct, c)) :
    ∃ b, env.files file = some b ∧ b.length ≤ 50 * 1024 * 1024 ∧
      c = "sha256:" ++ hexEncodeToString (sha256 b) ∧
      ((isMinioAvailable env = true ∧ ct = "URL" ∧
          ∃ url, env.minioUpload file (hexEncodeToString (sha256 b)) = .ok url ∧
            p = utf8Bytes url) ∨
        (isMinioAvailable env = false ∧ b.length ≤ 1024 * 1024 ∧ (p, ct) = inlineContent b)) := by
  cases hb : env.files file with
  | none => simp [uploadFunction, statSize, hb, bind, Except.bind] at h
  | some b =>
    simp only [uploadFunction, statSize, getFileSha256, readFile, hb, bind_eq_ok,
      Except.map] at h
    obtain ⟨_, ⟨⟩, h⟩ := h
    refine ⟨b, rfl, ?_⟩
    split_ifs at h with hbig hm hone
    · obtain ⟨_, ⟨⟩, h⟩ := bind_eq_ok.mp h
      split at h
      · rename_i url hurl
        cases h
        exact ⟨by omega, rfl, .inl ⟨hm, rfl, url, hurl, rfl⟩⟩
      · cases h
    · cases h
      exact ⟨by omega, rfl, .inr ⟨by simpa using hm, by omega, rfl⟩⟩

/-- **Object-storage content cannot be provisioned**: the storage branch of `uploadFunction`
answers the content type `URL`, and the prepare container rejects it for every file name,
handler and runtime. -/
theorem uploadFunction_url_unprovisionable {rt : Runtimes} {env : CliEnv} {file : String}
    {p : Bytes} {ct c : String} (h : uploadFunction env file = .ok (p, ct, c))
    (hm : isMinioAvailable env = true) (fileName handler runtime : String)
    (runtimeVolume depsVolume : VolumeMount) :
    ct = "URL" ∧ getProvisionContainer rt p c fileName handler ct runtime runtimeVolume
      depsVolume = .error (.error "Unable to prepare function of type URL: Unknown format") := by
  obtain ⟨b, -, -, -, ⟨-, rfl, -⟩ | ⟨hm', -⟩⟩ := uploadFunction_ok h
  · exact ⟨rfl, rfl⟩
  · simp [hm] at hm'

/-- A healthy object storage that accepts every upload, and a one-byte source file. -/
def minioEnv : CliEnv :=
  { files := fun f => if f = "hello.py" then some [0x31] else none
    minioService := true, minioPodPhases := ["Running"]
    minioUpload := fun file checksum =>
      .ok ("http://minio.kubeless:9000/functions/" ++ file ++ "." ++ checksum)
    parseQuantity := .ok }

theorem uploadFunction_url_unprovisionable_minio :
    ∃ p ct c, uploadFunction minioEnv "hello.py" = .ok (p, ct, c) ∧ ct = "URL" ∧
      getProvisionContainer sampleRuntimes p c "hello.py" "hello.foo" ct "python2.7"
        ⟨"hello", "/kubeless"⟩ ⟨"hello-deps", "/dependencies"⟩ =
        .error (.error "Unable to prepare function of type URL: Unknown format") := by
  obtain ⟨p, ct, c, h⟩ : ∃ p ct c, uploadFunction minioEnv "hello.py" = .ok (p, ct, c) :=
    ⟨_, _, _, rfl⟩
  exact ⟨p, ct, c, h, uploadFunction_url_unprovisionable h rfl _ _ _ _ _⟩

/-- **The inline payload has the size of the file**, at most 1 MiB, when it is text, and
`4 * ⌈n / 3⌉` bytes, at most 1398104, when it is base64; an upload succeeds only for files
of at most 50 MiB. -/
theorem uploadFunction_payload_length {env : CliEnv} {file : String} {p : Bytes} {ct c : String}
    (h : uploadFunction env file = .ok (p, ct, c)) :
    ∃ b, env.files file = some b ∧ b.length ≤ 52428800 ∧
      (ct = "text" → p = b ∧ p.length ≤ 1048576) ∧
      (ct = "base64" → p.length = 4 * ((b.length + 2) / 3) ∧ p.length ≤ 1398104) := by
  obtain ⟨b, hb, hsize, -, ⟨-, rfl, -⟩ | ⟨-, hone, hinline⟩⟩ := uploadFunction_ok h
  · exact ⟨b, hb, hsize, by simp, by simp⟩
  · refine ⟨b, hb, hsize, ?_⟩
    unfold inlineContent at hinline
    split_ifs at hinline <;> cases hinline
    · exact ⟨fun _ => ⟨rfl, by omega⟩, by simp⟩
    · have := length_base64Encode b
      exact ⟨by simp, fun _ => ⟨this, by omega⟩⟩

/-- No object storage, and a file of one byte. -/
def inlineEnv : CliEnv :=
  { files := fun f => if f = "f" then some [0xFF] else none
    minioService := false, minioPodPhases := []
    minioUpload := fun _ _ => .error "no storage", parseQuantity := .ok }

theorem uploadFunction_payload_length_inline :
    ∃ p ct c, uploadFunction inlineEnv "f" = .ok (p, ct, c) ∧
      ∃ b, inlineEnv.files "f" = some b ∧ b.length ≤ 52428800 ∧
        (ct = "text" → p = b ∧ p.length ≤ 1048576) ∧
        (ct = "base64" → p.length = 4 * ((b.length + 2) / 3) ∧ p.length ≤ 1398104) := by
  obtain ⟨p, ct, c, h⟩ : ∃ p ct c, uploadFunction inlineEnv "f" = .ok (p, ct, c) :=
    ⟨_, _, _, rfl⟩
  exact ⟨p, ct, c, h, uploadFunction_payload_length h⟩

/-- No object storage, and a file of 1 MiB of zero bytes. -/
def zerosEnv : CliEnv :=
  { files := fun f => if f = "f" then some (List.replicate 1048576 0) else none
    minioService := false, minioPodPhases := []
    minioUpload := fun _ _ => .error "no storage", parseQuantity := .ok }

set_option maxRecDepth 8000 in
/-- Zero bytes are binary to the sniffer; only the first 512 are looked at. -/
theorem detectContentType_zeros :
    detectContentType (List.replicate 1048576 0) = "application/octet-stream" := by
  rw [← detectContentType_take, List.take_replicate]
  decide

theorem uploadFunction_zerosEnv : uploadFunction zerosEnv "f" =
    .ok (base64Encode (List.replicate 1048576 0), "base64",
      "sha256:" ++ hexEncodeToString (sha256 (List.replicate 1048576 0))) := by
  have hbin : stringsContains "application/octet-stream" "text/plain" = false := by decide
  simp only [uploadFunction, zerosEnv, statSize, readFile, getFileSha256, isMinioAvailable,
    inlineContent, if_true, List.length_replicate]
  simp only [bind, Except.bind, pure, Except.pure, Except.map]
  rw [if_neg (by decide), if_neg (by decide), if_neg (by decide)]
  simp only [detectContentType_zeros, hbin, Bool.false_eq_true, if_false]

/-- A binary file of exactly 1 MiB is inlined, base64-encoded, as 1398104 bytes. -/
theorem uploadFunction_base64_over_limit :
    ¬ ∀ (env : CliEnv) (file : String) (p : Bytes) (ct c : String),
      uploadFunction env file = .ok (p, ct, c) → ct = "text" ∨ ct = "base64" →
        p.length ≤ 1048576 := by
  intro h
  have := h _ _ _ _ _ uploadFunction_zerosEnv (.inr rfl)
  rw [length_base64Encode, List.length_replicate] at this
  omega

/-! ### The content after persistence -/

/-- The prepare script's decode step on a stored payload: nothing for text. For base64 the
step is `cat F | base64 -d > F`, whose redirection truncates `F` while `cat` may still be
reading it: what it leaves in `F` depends on which side of the pipe runs first, and the model
gives that step no outcome. -/
def decodeContent (contentType : String) (payload : Bytes) : Option Bytes :=
  if contentType = "base64" then none
  else if contentType = "text" then some payload
  else none

/-- **Inline content survives persistence** when it is base64, or text that is valid UTF-8:
the JSON string of the Function is the payload itself. -/
theorem jsonString_inlineContent (b : Bytes)
    (hvalid : (inlineContent b).2 = "text" → utf8Valid b = true) :
    jsonString (inlineContent b).1 = (inlineContent b).1 := by
  unfold inlineContent at hvalid ⊢
  split_ifs at hvalid ⊢
  · exact jsonString_of_utf8Valid (hvalid rfl)
  · exact jsonString_of_ascii (base64Encode_ascii b)

/-- A source file of the single byte `0xFF` is sniffed as text and inlined verbatim; its JSON
string, and so the file the prepare script checks, holds U+FFFD instead. -/
theorem uploadFunction_byte_FF_corrupted :
    ∃ p c, uploadFunction inlineEnv "f" = .ok (p, "text", c) ∧
      decodeContent "text" (jsonString p) = some [0xEF, 0xBF, 0xBD] :=
  ⟨_, _, rfl, by simp [decodeContent, jsonString, runeLen, leadRange]⟩

/-! ### `getFunctionDescription` -/

/-- `getKV(input)`: the text before the first `=` or `:` and the text after it, or the whole
input and an empty value when it has neither. -/
def getKV (input : String) : String × String :=
  let isSep := fun c => c == '=' || c == ':'
  (String.mk (input.data.takeWhile (! isSep ·)),
    String.mk (input.data.dropWhile (! isSep ·)).tail)

/-- `parseLabel(labels)`: the `key=value` pairs as a map, later keys overwriting. -/
def parseLabel (labels : List String) : StringMap :=
  labels.foldl (fun funcLabels label => funcLabels.insert (getKV label).1 (getKV label).2) []

/-- `parseEnv(envs)`: the `key=value` pairs as environment variables, in order. -/
def parseEnv (envs : List String) : List EnvVar :=
  envs.map fun env => ⟨(getKV env).1, (getKV env).2⟩

/-- The type, topic and schedule: the HTTP flag wins, then a schedule, then a topic, else
the stored Function's. -/
def triggerFields (triggerHTTP : Bool) (topic schedule : String) (dspec : FunctionSpec) :
    String × String × String :=
  if triggerHTTP then ("HTTP", "", "")
  else if schedule ≠ "" then ("Scheduled", "", schedule)
  else if topic ≠ "" then ("PubSub", topic, "")
  else (dspec.type, dspec.topic, dspec.schedule)

/-- The memory request and limit, or the first container's resources of the stored
Function when no memory is given. -/
def functionResources (env : CliEnv) (mem : String) (defaultContainer : Option Container) :
    Except GoError ResourceRequirements :=
  if mem ≠ "" then
    match env.parseQuantity mem with
    | .ok funcMem => .ok { limits := [("memory", funcMem)], requests := [("memory", funcMem)] }
    | .error err => .error (.error s!"Wrong format of the memory value: {err}")
  else .ok ((defaultContainer.map (·.resources)).getD {})

/-- `getFunctionDescription(funcName, ns, handler, file, deps, runtime, topic, schedule,
runtimeImage, mem, triggerHTTP, envs, labels, defaultFunction, cli)`: the Function an update
submits. Empty flags inherit from `defaultFunction`; a new file is uploaded. -/
def getFunctionDescription (env : CliEnv) (funcName ns handler file : String) (deps : Bytes)
    (runtime topic schedule runtimeImage mem : String) (triggerHTTP : Bool)
    (envs labels : List String) (defaultFunction : Function) : Except GoError Function := do
  let dspec := defaultFunction.spec
  let defaultContainer := dspec.template.spec.containers.head?
  let handler := if handler = "" then dspec.handler else handler
  let (file, function, contentType, checksum) ← if file = "" then
      pure (dspec.file, dspec.function, dspec.contentType, dspec.checksum)
    else do
      let (function, contentType, checksum) ← uploadFunction env file
      pure (file, function, contentType, checksum)
  let deps := if deps = [] then dspec.deps else deps
  let runtime := if runtime = "" then dspec.runtime else runtime
  let (funcType, topic, schedule) := triggerFields triggerHTTP topic schedule dspec
  let funcEnv := match parseEnv envs, defaultContainer with
    | [], some c => c.env
    | funcEnv, _ => funcEnv
  let funcLabels := match parseLabel labels with
    | [] => defaultFunction.metadata.labels
    | funcLabels => funcLabels
  let resources ← functionResources env mem defaultContainer
  let runtimeImage := match runtimeImage, defaultContainer with
    | "", some c => c.image
    | runtimeImage, _ => runtimeImage
  pure
    { metadata := { name := funcName, ns, labels := funcLabels }
      spec :=
        { handler, runtime, type := funcType, function, file := pathBase file, checksum,
          contentType, deps, topic, schedule
          template := { spec := { containers :=
            [{ env := funcEnv, resources, image := runtimeImage }] } } } }

/-- A stored Function whose template is one container with only an environment, resources
and an image: the shape of every Function that `getFunctionDescription` builds. -/
def PlainTemplate (f : Function) : Prop :=
  ∃ c : Container, f.spec.template =
    { spec := { containers := [{ env := c.env, resources := c.resources, image := c.image }] } }

/-- **An update with every flag empty resubmits the stored spec**, except that the file name
becomes its base name. -/
theorem getFunctionDescription_inherit (env : CliEnv) (f : Function) (hf : PlainTemplate f) :
    getFunctionDescription env f.metadata.name f.metadata.ns "" "" [] "" "" "" "" "" false [] []
      f = .ok { metadata := { name := f.metadata.name, ns := f.metadata.ns,
                               labels := f.metadata.labels }
                spec := { f.spec with file := pathBase f.spec.file } } := by
  obtain ⟨c, hc⟩ := hf
  cases f with
  | mk metadata spec =>
    cases spec
    simp only at hc
    subst hc
    unfold getFunctionDescription
    rfl

/-- A stored Function from before file names were recorded: its `file` is empty. -/
def legacyFunction : Function :=
  { metadata := { name := "hello", ns := "default" }
    spec := { handler := "hello.foo", runtime := "python2.7", function := utf8Bytes "print 1"
              template := { spec := { containers := [{}] } } } }

/-- An update of a legacy Function that supplies nothing records the file name `.`. -/
theorem getFunctionDescription_legacy_file (env : CliEnv) :
    ∃ f, getFunctionDescription env "hello" "default" "" "" [] "" "" "" "" "" false [] []
      legacyFunction = .ok f ∧ legacyFunction.spec.file = "" ∧ f.spec.file = "." :=
  ⟨_, getFunctionDescription_inherit env legacyFunction ⟨{}, rfl⟩, rfl, rfl⟩

end Kubeless
