/-
# `KahunaOperator.Provision` — a pass as the calls it makes

`Reconcile` of `internal/controller/kahunacluster_controller.go` as a program of calls to
the API server (`Lib.Api`), with the objects it provisions on its way: the Secrets and the
Certificate of `certificate.go`, the Services, the ConfigMap and the PodDisruptionBudget
of `resources.go`, the claim and the key of `backup.go`.

An object is written in one of three ways:

    createOrUpdate   found and then updated, or created; it is made the cluster's own,
                     and one that somebody else controls is an error
    createOnce       created where there is none, and never written again
    deletes          of a budget that is not wanted, a claim that never bound and a keystore
                     its password does not open

A pass reads the cluster live and everything else through a cache.  What it only looks
at comes with its input: the pods, the answers of the nodes, the StatefulSet read back
for the status, and whether the keystore is ready.
-/
import KahunaOperator.Deploy
import KahunaOperator.Lib.Api
import KahunaOperator.OneSize

namespace KahunaOperator

open Lib.Api (Call Calls Server)
open Lib.Guarded (Obj)

/-! ## The objects -/

structure ServicePort where
  name : String
  port : Nat
  targetPort : Nat
  protocol : Protocol
deriving DecidableEq, Repr

inductive ServiceType where
  | unset
  | clusterIP
deriving DecidableEq, Repr

structure Service where
  labels : StringMap
  type : ServiceType := .unset
  clusterIP : String := ""
  publishNotReadyAddresses : Bool := false
  selector : StringMap
  ports : List ServicePort

def servicePort (name : String) (port : Nat) : ServicePort :=
  { name := name, port := port, targetPort := port, protocol := .tcp }

/-- The headless Service.  It publishes pods that are not ready, because a node is ready
only once it has found the others. -/
def desiredPeerService (cluster : KahunaCluster) : Service :=
  let p := ports cluster
  { labels := podLabels cluster
    clusterIP := "None"
    publishNotReadyAddresses := true
    selector := selectorLabels cluster
    ports := [servicePort "http" p.http, servicePort "https" p.https,
      servicePort "internal-http" p.internalHTTP, servicePort "raft" p.raft] }

def desiredClientService (cluster : KahunaCluster) : Service :=
  let p := ports cluster
  { labels := podLabels cluster
    type := .clusterIP
    selector := selectorLabels cluster
    ports := [servicePort "http" p.http, servicePort "https" p.https] }

structure BudgetObject extends PodDisruptionBudget where
  labels : StringMap
  selector : StringMap

def desiredBudgetObject (cluster : KahunaCluster) : BudgetObject :=
  { toPodDisruptionBudget := desiredPDB cluster
    labels := podLabels cluster
    selector := selectorLabels cluster }

structure ConfigMapObject where
  labels : StringMap
  data : ConfigMap

def certificateDNSNames (cluster : KahunaCluster) : List String :=
  let peer := peerServiceName cluster
  let svc := clientServiceName cluster
  let ns := cluster.ns
  ["*." ++ peer ++ "." ++ ns ++ ".svc.cluster.local",
    peer ++ "." ++ ns ++ ".svc.cluster.local",
    svc ++ "." ++ ns ++ ".svc.cluster.local",
    svc ++ "." ++ ns ++ ".svc",
    svc ++ "." ++ ns,
    svc]

/-- cert-manager's Certificate, without its issuer and its durations. -/
structure Certificate where
  labels : StringMap
  secretName : String
  commonName : String
  dnsNames : List String
  passwordSecretRef : Option SecretKeySelector

def desiredCertificate (cluster : KahunaCluster) : Certificate :=
  { labels := podLabels cluster
    secretName := certificateName cluster
    commonName := clientServiceName cluster ++ "." ++ cluster.ns ++ ".svc"
    dnsNames := certificateDNSNames cluster
    passwordSecretRef := tlsPasswordRef cluster }

structure Secret where
  labels : StringMap := .of []
  annotations : List (String × String) := []
  data : List (String × String) := []

/-! ## What is stored -/

def Resource : Kind → Type
  | .statefulSet => StatefulSetObject
  | .service => Service
  | .configMap => ConfigMapObject
  | .podDisruptionBudget => BudgetObject
  | .certificate => Certificate
  | .secret => Secret
  | .persistentVolumeClaim => Claim

inductive Controller where
  | cluster (name : String)
  | other (kind name : String)
deriving DecidableEq, Repr

structure Owned (α : Type) where
  controller : Option Controller := none
  value : α

/-- The clusters of a namespace and their objects. -/
inductive Key where
  | cluster (name : String)
  | object (ref : ObjectRef)
deriving DecidableEq, Repr

/-- A KahunaCluster is stored under its name, and its spec has passed the schema. -/
structure ClusterNamed (name : String) where
  cluster : KahunaCluster
  named : cluster.name = name
  references : cluster.spec.ReferencesAccepted

abbrev Content : Key → Type
  | .cluster name => ClusterNamed name
  | .object ref => Owned (Resource ref.kind)

abbrev Program (α : Type) := Calls Content Point α

namespace KahunaClusterReconciler

/-! ## Ways to write an object -/

section Objects
variable (point : Point) (ref : ObjectRef)

def getObject {α : Type}
    (next : Except Lib.Api.ApiError (Obj (Owned (Resource ref.kind))) → Program α) :
    Program α :=
  .call (.get (V := Content) (Key.object ref) false) next

def createObject (v : Owned (Resource ref.kind)) : Program (Obj (Owned (Resource ref.kind))) :=
  .ask point (.create (V := Content) (Key.object ref) v)

def updateObject (version : Nat) (v : Owned (Resource ref.kind)) :
    Program (Obj (Owned (Resource ref.kind))) :=
  .ask point (.update (V := Content) (Key.object ref) version v)

/-- controller-runtime's `SetControllerReference`, a library function outside this
repository: it succeeds on an object that nobody controls, or this cluster. -/
def mayControl (name : String) (controller : Option Controller) : Bool :=
  controller.isNone || controller == some (.cluster name)

/-- controller-runtime's `CreateOrUpdate`, a library function outside this repository,
with a `mutate` that also sets the controller reference. -/
def createOrUpdate (name : String)
    (mutate : Option (Resource ref.kind) → Resource ref.kind) :
    Program (Obj (Owned (Resource ref.kind))) :=
  getObject ref fun
    | .error .notFound =>
        createObject point ref { controller := some (.cluster name), value := mutate none }
    | .error _ => .failed point
    | .ok o =>
        if mayControl name o.value.controller then
          updateObject point ref o.version
            { controller := some (.cluster name), value := mutate (some o.value.value) }
        else .failed point

/-- A create that another one may have forestalled. -/
def createTolerant (v : Owned (Resource ref.kind)) : Program Unit :=
  .call (.create (V := Content) (Key.object ref) v) fun
    | .ok _ => .done ()
    | .error .alreadyExists => .done ()
    | .error _ => .failed point

/-- Created where there is none, and never written again.  There is nothing to create
when the source of randomness fails. -/
def createOnce (v : Option (Owned (Resource ref.kind))) : Program Unit :=
  getObject ref fun
    | .ok _ => .done ()
    | .error .notFound =>
        match v with
        | none => .failed point
        | some v => createTolerant point ref v
    | .error _ => .failed point

/-- A delete that may come too late: the object is gone, or was changed since. -/
def deletePinned (pin : Nat × Nat) : Program Unit :=
  .call (.delete (V := Content) (Key.object ref) (some pin)) fun
    | .ok _ => .done ()
    | .error .notFound => .done ()
    | .error .conflict => .done ()
    | .error _ => .failed point

end Objects

/-! ## The steps of a pass -/

/-- What the surroundings supply to the calls of a pass: the digest of a script, the
reading of a keystore, and the two generated secrets, `none` when the source of
randomness fails. -/
structure CallEnv where
  digest : String → String
  decodeKeystore : String → KeystoreBlob
  password : Option String
  macKey : Option String

section Steps
variable (env : CallEnv) (cluster : KahunaCluster)

def passwordRef : ObjectRef := { kind := .secret, name := certPasswordSecretName cluster }

def passwordSecret (password : String) : Owned Secret :=
  { controller := some (.cluster cluster.name)
    value := { labels := podLabels cluster, data := [(keystorePasswordKey, password)] } }

/-- Only the generated password is the operator's. -/
def reconcileKeystorePassword : Program Unit :=
  if cluster.spec.tls.certManager && cluster.spec.tls.passwordSecretRef.isNone then
    createOnce .keystorePassword (passwordRef cluster) (env.password.map (passwordSecret cluster))
  else .done ()

def keystoreRef : ObjectRef := { kind := .secret, name := tlsSecretName cluster }

def asKeystore (decode : String → KeystoreBlob) (s : Owned Secret) : KeystoreSecret :=
  { annotations := s.value.annotations
    data := s.value.data.map fun entry => (entry.1, decode entry.2) }

def asPassword (s : Owned Secret) : PasswordSecret := { data := s.value.data }

/-- The reads of `replaceStaleKeystore`, and the delete it decides on. -/
def replaceStaleKeystore : Program Unit :=
  match tlsPasswordRef cluster with
  | none => .done ()
  | some ref =>
      getObject (keystoreRef cluster) fun
        | .error .notFound => .done ()
        | .error _ => .failed .certificate
        | .ok (o : Obj (Owned Secret)) =>
            if (o.value.value.data.lookup (keystoreKey cluster)).isNone then .done ()
            else
              getObject { kind := .secret, name := ref.name } fun
                | .error .notFound => .done ()
                | .error _ => .failed .certificate
                | .ok (pw : Obj (Owned Secret)) =>
                    match KahunaOperator.replaceStaleKeystore cluster
                        (some (Calls.mapValue (asKeystore env.decodeKeystore) o))
                        (some (asPassword pw.value)) with
                    | none => .done ()
                    | some pin => deletePinned .certificate (keystoreRef cluster) pin

def certificateRef : ObjectRef := { kind := .certificate, name := certificateName cluster }

def reconcileCertificate : Program Unit :=
  if cluster.spec.tls.certManager then do
    let _ ← createOrUpdate .certificate (certificateRef cluster) cluster.name fun _ =>
      desiredCertificate cluster
    replaceStaleKeystore env cluster
  else .done ()

/-- The address of a Service is given by the API server, and kept. -/
def mutateService (desired : Service) : Option Service → Service
  | none => desired
  | some svc =>
      { desired with
        clusterIP := if svc.clusterIP ≠ "" then svc.clusterIP else desired.clusterIP }

def peerServiceRef : ObjectRef := { kind := .service, name := peerServiceName cluster }

def clientServiceRef : ObjectRef := { kind := .service, name := clientServiceName cluster }

def reconcileServices : Program Unit := do
  let _ ← createOrUpdate .services (peerServiceRef cluster) cluster.name
    (mutateService (desiredPeerService cluster))
  let _ ← createOrUpdate .services (clientServiceRef cluster) cluster.name
    (mutateService (desiredClientService cluster))
  return ()

def configMapRef : ObjectRef := { kind := .configMap, name := configMapName cluster }

def desiredConfigMapObject : ConfigMapObject :=
  { labels := podLabels cluster, data := desiredConfigMap cluster cluster.status.bootstrapSize }

def reconcileConfigMap : Program Unit := do
  let _ ← createOrUpdate .configMap (configMapRef cluster) cluster.name fun _ =>
    desiredConfigMapObject cluster
  return ()

def pdbRef : ObjectRef := { kind := .podDisruptionBudget, name := pdbName cluster }

/-- A budget that is not wanted is deleted, whoever controls it. -/
def reconcilePDB : Program Unit :=
  if wantsPDB cluster then do
    let _ ← createOrUpdate .podDisruptionBudget (pdbRef cluster) cluster.name fun _ =>
      desiredBudgetObject cluster
    return ()
  else
    .call (.delete (V := Content) (Key.object (pdbRef cluster)) none) fun
      | .ok _ => .done ()
      | .error .notFound => .done ()
      | .error _ => .failed .podDisruptionBudget

def backupClaimRef (b : BackupSpec) : ObjectRef :=
  { kind := .persistentVolumeClaim, name := backupClaimName cluster b }

/-- The claim has no controller: it outlives the cluster. -/
def reconcileClaim (b : BackupSpec) : Program Unit :=
  if b.claim.isSome then
    getObject (backupClaimRef cluster b) fun
      | .error .notFound =>
          match reconcileBackupClaim cluster none with
          | .create claim =>
              createTolerant .backupResources (backupClaimRef cluster b) { value := claim }
          | _ => .done ()
      | .error _ => .failed .backupResources
      | .ok (o : Obj (Owned Claim)) =>
          match reconcileBackupClaim cluster (some (Calls.mapValue Owned.value o)) with
          | .delete uid version =>
              deletePinned .backupResources (backupClaimRef cluster b) (uid, version)
          | _ => .done ()
  else .done ()

def macRef : ObjectRef := { kind := .secret, name := backupMACSecretName cluster }

def macSecret (key : String) : Owned Secret :=
  { value := { labels := podLabels cluster, data := [("key", key)] } }

def reconcileBackupResources : Program Unit :=
  match cluster.spec.backup with
  | none => .done ()
  | some b => do
      reconcileClaim cluster b
      if b.macKeySecretRef.isNone then
        createOnce .backupResources (macRef cluster) (env.macKey.map (macSecret cluster))
      else .done ()

def stsRef : ObjectRef := { kind := .statefulSet, name := stsName cluster }

/-- The second half of `CreateOrUpdate`, on the StatefulSet it has read. -/
def updateStatefulSet (p : Plan) (again : Obj (Owned StatefulSetObject)) :
    Program StatefulSetObject :=
  if mayControl cluster.name again.value.controller then do
    let written ← updateObject .writeStatefulSet (stsRef cluster) again.version
      { controller := some (.cluster cluster.name)
        value := applyPlanObject env.digest cluster p again.value.value }
    return written.value.value
  else .failed .writeStatefulSet

/-- The StatefulSet is read to plan with and, when there is one, once more to be written.
One that is gone by then would be created without a selector, which the API server
refuses. -/
def reconcileStatefulSet (passEnv : PassEnv) (bootstrapped : Bool) (observed : Observed) :
    Program StatefulSetObject :=
  getObject (stsRef cluster) fun
    | .error .notFound => do
        let created ← createObject .writeStatefulSet (stsRef cluster)
          { controller := some (.cluster cluster.name)
            value := reconcileStatefulSetObject env.digest passEnv cluster bootstrapped observed
              none }
        return created.value.value
    | .error _ => .failed .getStatefulSet
    | .ok existing =>
        getObject (stsRef cluster) fun
          | .error _ => .failed .writeStatefulSet
          | .ok again =>
              updateStatefulSet env cluster
                (planStatefulSet passEnv cluster bootstrapped observed
                  (StatefulSet.size existing.value.value.toStatefulSet))
                again

end Steps

/-! ## The pass -/

def withStatus {name : String} (c : ClusterNamed name) (status : KahunaClusterStatus) :
    ClusterNamed name where
  cluster := { c.cluster with status := status }
  named := c.named
  references := c.references

/-- `Status().Update`: refused when the cluster was changed since it was read. -/
def updateStatus {name : String} (point : Point) (o : Obj (ClusterNamed name))
    (status : KahunaClusterStatus) : Program (Obj (ClusterNamed name)) :=
  .ask point (.update (V := Content) (Key.cluster name) o.version (withStatus o.value status))

/-- The founding size is pinned before anything else. -/
def pinStatus {name : String} (o : Obj (ClusterNamed name)) :
    Program (Obj (ClusterNamed name)) :=
  if o.value.cluster.status.bootstrapSize = 0 then
    updateStatus .pinStatus o (pinBootstrapSize o.value.cluster).status
  else .done o

/-- Everything that the pods mount or are found by. -/
def provision (env : CallEnv) (cluster : KahunaCluster) : Program Unit := do
  reconcileKeystorePassword env cluster
  reconcileCertificate env cluster
  reconcileServices cluster
  reconcileConfigMap cluster
  reconcilePDB cluster
  reconcileBackupResources env cluster

def deployAndReport (env : CallEnv) (inp : PassInput) {name : String}
    (o : Obj (ClusterNamed name)) : Program Unit :=
  let cluster := o.value.cluster
  match autoscaled inp.toPassEnv cluster with
  | .error _ => .failed .getStatefulSet
  | .ok cl => do
      let sts ← reconcileStatefulSet env cl inp.toPassEnv cluster.status.bootstrapped
        (observe inp.toPassEnv cluster)
      let _ ← updateStatus .writeStatus o (reported inp cluster cl sts.toStatefulSet)
      return ()

/-- A pass of the cluster of that name, which is read live. -/
def reconcile (env : CallEnv) (inp : PassInput) (name : String) : Program Unit :=
  .call (.get (V := Content) (Key.cluster name) true) fun
    | .error .notFound => .done ()
    | .error _ => .failed .pinStatus
    | .ok found => do
        let o ← pinStatus found
        provision env o.value.cluster
        deployAndReport env inp o

end KahunaClusterReconciler

end KahunaOperator
