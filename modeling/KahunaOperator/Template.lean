/-
# `KahunaOperator.Template` — the pod template, and what may change it

`desiredStatefulSet` of `internal/controller/resources.go`, with the helpers it
calls.  A change of the pod template restarts every node, one after another, and
nothing else does.  So two things are asked of it:

* an edit that only sizes or schedules must leave it alone.  Nothing the template
  is made of reads the size, the status, the partition or the backup schedules
                                                        (`scaling_keeps_template`);

* an edit that changes the startup script must change it.  The script is mounted
  from a ConfigMap, so the template carries the script's digest as an annotation.
  `maps.Copy` then writes the user's annotations over it, where `podLabels` writes
  its own labels last:

    an edit of the script reaches the template, and the annotation is the digest
    that `backupBlocked` compares with
      ⟺  `spec.podAnnotations` sets that key to nothing else
                                                (`config_reaches_template_iff`)

`digest` stands for the truncated SHA-256 of `configHash`.
-/
import KahunaOperator.BackupClaim
import KahunaOperator.BackupPass
import KahunaOperator.Quoting

namespace KahunaOperator

/-! ## String maps -/

/-- A `map[string]string`. -/
abbrev StringMap := String → Option String

def StringMap.of (entries : List (String × String)) : StringMap := fun key => entries.lookup key

/-- The entries of `src` replace those of `dst`. -/
def mapsCopy (dst src : StringMap) : StringMap := fun key => (src key).or (dst key)

theorem mapsCopy_of_some {src : StringMap} {key value : String} (h : src key = some value)
    (dst : StringMap) : mapsCopy dst src key = some value := by
  rw [mapsCopy, h, Option.some_or]

theorem mapsCopy_of_none {src : StringMap} {key : String} (h : src key = none)
    (dst : StringMap) : mapsCopy dst src key = dst key := by
  rw [mapsCopy, h, Option.none_or]

/-! ## Labels -/

def appName : String := "kahuna"

def selectorLabels (cluster : KahunaCluster) : StringMap :=
  .of [("app.kubernetes.io/name", appName), ("app.kubernetes.io/instance", cluster.name)]

def podLabels (cluster : KahunaCluster) : StringMap :=
  mapsCopy
    (mapsCopy
      (.of [("app.kubernetes.io/component", "server"),
        ("app.kubernetes.io/managed-by", "kahuna-operator")])
      (.of cluster.spec.podLabels))
    (selectorLabels cluster)

/-- A user's label cannot break the selector: its labels are copied last. -/
theorem podLabels_selector {cluster : KahunaCluster} {key value : String}
    (h : selectorLabels cluster key = some value) : podLabels cluster key = some value :=
  mapsCopy_of_some h _

/-! ## The parts of a pod template -/

structure KeyToPath where
  key : String
  path : String
deriving DecidableEq, Repr

inductive VolumeSource where
  | configMap (name : String) (defaultMode : Nat)
  | secret (secretName : String) (items : List KeyToPath) (defaultMode : Nat)
  | persistentVolumeClaim (claimName : String)
deriving DecidableEq, Repr

structure Volume where
  name : String
  source : VolumeSource
deriving DecidableEq, Repr

structure VolumeMount where
  name : String
  mountPath : String
  readOnly : Bool := false
deriving DecidableEq, Repr

inductive EnvValue where
  | value (text : String)
  | fieldRef (fieldPath : String)
deriving DecidableEq, Repr

structure EnvVar where
  name : String
  value : EnvValue
deriving DecidableEq, Repr

inductive Protocol where
  | tcp
  | udp
  | sctp
deriving DecidableEq, Repr

structure ContainerPort where
  name : String
  containerPort : Nat
  protocol : Protocol
deriving DecidableEq, Repr

structure Probe where
  path : String
  port : Nat
  initialDelaySeconds : Nat
  periodSeconds : Nat
  timeoutSeconds : Nat
  failureThreshold : Nat
deriving DecidableEq, Repr

inductive Affinity where
  | given (affinity : Manifest)
  | preferredAntiAffinity (weight : Nat) (selector : StringMap) (topologyKey : String)

structure ContainerSpec where
  name : String
  image : String
  imagePullPolicy : Option PullPolicy
  command : List String
  env : List EnvVar
  resources : Option Manifest
  securityContext : Option Manifest
  volumeMounts : List VolumeMount
  ports : List ContainerPort
  livenessProbe : Probe
  readinessProbe : Probe
deriving DecidableEq, Repr

structure PodSpec where
  serviceAccountName : String
  imagePullSecrets : List String
  securityContext : Option Manifest
  nodeSelector : StringMap
  tolerations : List Manifest
  affinity : Affinity
  topologySpreadConstraints : List Manifest
  terminationGracePeriodSeconds : Option Int
  volumes : List Volume
  containers : List ContainerSpec

structure PodTemplateSpec where
  labels : StringMap
  annotations : StringMap
  spec : PodSpec

/-! ## Its contents -/

def LogLevel.name : LogLevel → String
  | .trace => "Trace"
  | .debug => "Debug"
  | .information => "Information"
  | .warning => "Warning"
  | .error => "Error"
  | .critical => "Critical"
  | .none => "None"

def containerEnv (cluster : KahunaCluster) : List EnvVar :=
  let logLevel := (cluster.spec.logLevel.getD .information).name
  [{ name := "POD_NAME", value := .fieldRef "metadata.name" },
    { name := "POD_NAMESPACE", value := .fieldRef "metadata.namespace" },
    { name := "Logging__LogLevel__Default", value := .value logLevel },
    { name := "Logging__LogLevel__Kahuna", value := .value logLevel },
    { name := "Logging__LogLevel__Kommander", value := .value logLevel },
    { name := "DOTNET_SYSTEM_NET_SOCKETS_INLINE_COMPLETIONS", value := .value "1" }]

/-- The user's affinity, or a preference for one node a host. -/
def defaultAffinity (cluster : KahunaCluster) : Affinity :=
  match cluster.spec.affinity with
  | some affinity => .given affinity
  | none => .preferredAntiAffinity 100 (selectorLabels cluster) "kubernetes.io/hostname"

/-- The key that signs backup manifests: the user's own, or the generated one. -/
def backupMACKeyRef (cluster : KahunaCluster) (b : BackupSpec) : SecretKeySelector :=
  b.macKeySecretRef.getD { name := backupMACSecretName cluster, key := "key" }

def tlsPasswordVolume (ref : SecretKeySelector) : Volume :=
  { name := "tls-password"
    source := .secret ref.name [{ key := ref.key, path := "password" }] 0o400 }

def backupVolumes (cluster : KahunaCluster) (b : BackupSpec) : List Volume :=
  let mac := backupMACKeyRef cluster b
  [{ name := "backup", source := .persistentVolumeClaim (backupClaimName cluster b) },
    { name := "backup-mac"
      source := .secret mac.name [{ key := mac.key, path := "key" }] 0o400 }]

/-- The volumes that are not claims of the StatefulSet. -/
def podVolumes (cluster : KahunaCluster) : List Volume :=
  [{ name := "config", source := .configMap (configMapName cluster) 0o555 },
    { name := "tls", source := .secret (tlsSecretName cluster) [] 0o400 }] ++
  ((tlsPasswordRef cluster).map tlsPasswordVolume).toList ++
  (cluster.spec.backup.map (backupVolumes cluster)).getD []

def backupMACMountPath : String := "/etc/kahuna/backup-mac"

def podVolumeMounts (cluster : KahunaCluster) : List VolumeMount :=
  [{ name := "data", mountPath := storageMountPath },
    { name := "config", mountPath := configMountPath },
    { name := "tls", mountPath := tlsMountPath, readOnly := true }] ++
  (if cluster.spec.storage.wal.isSome then [{ name := "wal", mountPath := walPath }] else []) ++
  (if (tlsPasswordRef cluster).isSome then
    [{ name := "tls-password", mountPath := tlsPasswordMountPath, readOnly := true }]
  else []) ++
  (if cluster.spec.backup.isSome then
    [{ name := "backup", mountPath := backupMountPath },
      { name := "backup-mac", mountPath := backupMACMountPath, readOnly := true }]
  else [])

def containerPorts (p : PortsSpec) : List ContainerPort :=
  [{ name := "http", containerPort := p.http, protocol := .tcp },
    { name := "https", containerPort := p.https, protocol := .tcp },
    { name := "internal-http", containerPort := p.internalHTTP, protocol := .tcp },
    { name := "raft", containerPort := p.raft, protocol := .tcp }]

def entrypointPath : String := configMountPath ++ "/" ++ "entrypoint.sh"

def kahunaContainer (cluster : KahunaCluster) : ContainerSpec :=
  let p := ports cluster
  { name := containerName
    image := cluster.spec.image
    imagePullPolicy := cluster.spec.imagePullPolicy
    command := ["/bin/bash", entrypointPath]
    env := containerEnv cluster
    resources := cluster.spec.resources
    securityContext := cluster.spec.securityContext
    volumeMounts := podVolumeMounts cluster
    ports := containerPorts p
    -- liveness asks only that the server answers; readiness asks for membership
    livenessProbe :=
      { path := "/", port := p.http, initialDelaySeconds := 30, periodSeconds := 10
        timeoutSeconds := 5, failureThreshold := 6 }
    readinessProbe :=
      { path := "/v1/cluster/health", port := p.http, initialDelaySeconds := 5
        periodSeconds := 5, timeoutSeconds := 5, failureThreshold := 3 } }

def configHashAnnotation : String := "kahuna.kahunakv.io/config-hash"

def configHash (digest : String → String) (script : Script) : String := digest script.text

/-- The hash, and then the user's annotations. -/
def templateAnnotations (hash : String) (podAnnotations : List (String × String)) : StringMap :=
  mapsCopy (.of [Prod.mk configHashAnnotation hash]) (.of podAnnotations)

def podTemplate (digest : String → String) (cluster : KahunaCluster) : PodTemplateSpec :=
  { labels := podLabels cluster
    annotations :=
      templateAnnotations (configHash digest (entrypointScript cluster))
        cluster.spec.podAnnotations
    spec :=
      { serviceAccountName := cluster.spec.serviceAccountName
        imagePullSecrets := cluster.spec.imagePullSecrets
        securityContext := cluster.spec.podSecurityContext
        nodeSelector := .of cluster.spec.nodeSelector
        tolerations := cluster.spec.tolerations
        affinity := defaultAffinity cluster
        topologySpreadConstraints := cluster.spec.topologySpreadConstraints
        terminationGracePeriodSeconds := cluster.spec.terminationGracePeriodSeconds
        volumes := podVolumes cluster
        containers := [kahunaContainer cluster] } }

/-! ## The object -/

inductive PodManagementPolicy where
  | orderedReady
  | parallel
deriving DecidableEq, Repr

/-- The StatefulSet as it is written: the fields `StatefulSet` has for the size
decisions, and the rest. -/
structure StatefulSetObject extends StatefulSet where
  name : String
  ns : String
  labels : StringMap
  serviceName : String
  selector : StringMap
  podManagementPolicy : PodManagementPolicy
  whenDeleted : PVCRetentionPolicy
  volumeClaimTemplates : List (String × Claim)
  template : PodTemplateSpec

def claimTemplates (s : StorageSpec) : List (String × Claim) :=
  ("data", volumeClaim s.data) :: (s.wal.map fun wal => ("wal", volumeClaim wal)).toList

def desiredStatefulSetObject (digest : String → String) (cluster : KahunaCluster)
    (partition : Nat) : StatefulSetObject :=
  { toStatefulSet := desiredStatefulSet cluster partition
    name := stsName cluster
    ns := cluster.ns
    labels := podLabels cluster
    serviceName := peerServiceName cluster
    selector := selectorLabels cluster
    podManagementPolicy := .parallel
    whenDeleted := .retain
    volumeClaimTemplates := claimTemplates cluster.spec.storage
    template := podTemplate digest cluster }

/-! ## What the template does not read -/

/-- The spec of the backups without what says when they are taken. -/
def BackupSpec.unscheduled (b : BackupSpec) : BackupSpec :=
  { b with schedule := "", incrementalSchedule := "", suspend := none, timeout := none }

/-- The spec without what sizes the cluster, guards its disruptions, keeps or
deletes its volumes and schedules its backups. -/
def KahunaClusterSpec.unscaled (spec : KahunaClusterSpec) : KahunaClusterSpec :=
  { spec with
    replicas := none
    autoscaling := none
    podDisruptionBudget := none
    storage := { spec.storage with pvcRetentionPolicy := .retain }
    backup := spec.backup.map BackupSpec.unscheduled }

/-- The cluster without that, and without its status. -/
def KahunaCluster.unscaled (cluster : KahunaCluster) : KahunaCluster :=
  { name := cluster.name, ns := cluster.ns, spec := cluster.spec.unscaled }

/-- What is made of the backup block without its schedules is made of the block. -/
theorem backup_unscaled {α : Type} {f g : BackupSpec → α} (cluster : KahunaCluster)
    (h : ∀ b, f b.unscheduled = g b) :
    cluster.unscaled.spec.backup.map f = cluster.spec.backup.map g := by
  rw [show cluster.unscaled.spec.backup = cluster.spec.backup.map BackupSpec.unscheduled from rfl,
    Option.map_map]
  exact congrArg (cluster.spec.backup.map ·) (funext h)

theorem backup_isSome_unscaled (cluster : KahunaCluster) :
    cluster.unscaled.spec.backup.isSome = cluster.spec.backup.isSome :=
  Option.isSome_map

theorem staticArgs_unscaled (cluster : KahunaCluster) :
    staticArgs cluster.unscaled = staticArgs cluster := by
  have hbackup : cluster.unscaled.spec.backup.map (backupArgs cluster.unscaled) =
      cluster.spec.backup.map (backupArgs cluster) :=
    backup_unscaled cluster fun _ => rfl
  simp only [staticArgs, generatedArgs, hbackup]
  rfl

theorem entrypointScript_unscaled (cluster : KahunaCluster) :
    entrypointScript cluster.unscaled = entrypointScript cluster := by
  simp only [entrypointScript, staticArgs_unscaled]
  rfl

theorem podVolumes_unscaled (cluster : KahunaCluster) :
    podVolumes cluster.unscaled = podVolumes cluster := by
  have hbackup : cluster.unscaled.spec.backup.map (backupVolumes cluster.unscaled) =
      cluster.spec.backup.map (backupVolumes cluster) :=
    backup_unscaled cluster fun _ => rfl
  simp only [podVolumes, hbackup]
  rfl

theorem podVolumeMounts_unscaled (cluster : KahunaCluster) :
    podVolumeMounts cluster.unscaled = podVolumeMounts cluster := by
  simp only [podVolumeMounts, backup_isSome_unscaled]
  rfl

theorem kahunaContainer_unscaled (cluster : KahunaCluster) :
    kahunaContainer cluster.unscaled = kahunaContainer cluster := by
  simp only [kahunaContainer, podVolumeMounts_unscaled]
  rfl

theorem podTemplate_unscaled (digest : String → String) (cluster : KahunaCluster) :
    podTemplate digest cluster.unscaled = podTemplate digest cluster := by
  simp only [podTemplate, entrypointScript_unscaled, podVolumes_unscaled,
    kahunaContainer_unscaled]
  rfl

/-- Clusters that differ in nothing but their size, disruption budget, retention
policy, backup schedules and status have the same pod template. -/
theorem scaling_keeps_template (digest : String → String) {a b : KahunaCluster}
    (h : a.unscaled = b.unscaled) (p q : Nat) :
    (desiredStatefulSetObject digest a p).template =
      (desiredStatefulSetObject digest b q).template :=
  calc podTemplate digest a
      = podTemplate digest a.unscaled := (podTemplate_unscaled digest a).symm
    _ = podTemplate digest b.unscaled := by rw [h]
    _ = podTemplate digest b := podTemplate_unscaled digest b

/-- A cluster of three without autoscaling, and the same cluster at five nodes,
autoscaled, with its backups scheduled otherwise. -/
def resizedCluster (replicas : Nat) (autoscaling : Option AutoscalingSpec) (schedule : String)
    (status : KahunaClusterStatus) : KahunaCluster :=
  { name := "kv"
    ns := "default"
    spec :=
      { replicas := some replicas
        autoscaling := autoscaling
        backup := some { schedule := schedule, claimName := some "shared" } }
    status := status }

theorem scaled_keeps_template :
    (desiredStatefulSetObject id (resizedCluster 3 none "0 2 * * *" {}) 0).template =
      (desiredStatefulSetObject id
        (resizedCluster 5 (some { minReplicas := 3, maxReplicas := 9 }) "0 4 * * *"
          { bootstrapped := true }) 4).template :=
  scaling_keeps_template id rfl 0 4

/-! ## The annotation -/

/-- The user's annotations set the hash to nothing but the hash. -/
def HashUnpinned (digest : String → String) (cluster : KahunaCluster) : Prop :=
  ∀ value, cluster.spec.podAnnotations.lookup configHashAnnotation = some value →
    value = configHash digest (entrypointScript cluster)

/-- The template carries the hash of the script that `backupBlocked` asks the pods
for. -/
def HashAnnotated (digest : String → String) (cluster : KahunaCluster) (partition : Nat) : Prop :=
  (desiredStatefulSetObject digest cluster partition).template.annotations configHashAnnotation =
    some (configHash digest (entrypointScript cluster))

theorem templateAnnotations_hash (hash : String) (podAnnotations : List (String × String)) :
    templateAnnotations hash podAnnotations configHashAnnotation =
      some ((podAnnotations.lookup configHashAnnotation).getD hash) := by
  unfold templateAnnotations
  cases h : podAnnotations.lookup configHashAnnotation with
  | some value => exact mapsCopy_of_some h _
  | none =>
      rw [mapsCopy_of_none h]
      simp [StringMap.of]

/-- Annotations that set the hash leave nothing of it. -/
theorem templateAnnotations_pinned {podAnnotations : List (String × String)} {value : String}
    (h : podAnnotations.lookup configHashAnnotation = some value) (hash other : String) :
    templateAnnotations hash podAnnotations = templateAnnotations other podAnnotations := by
  funext key
  by_cases hkey : key = configHashAnnotation
  · subst hkey
    rw [templateAnnotations_hash, templateAnnotations_hash, h]
    rfl
  · have hnone : ∀ x, StringMap.of [Prod.mk configHashAnnotation x] key = none := by
      intro x
      refine List.lookup_eq_none_iff.mpr ?_
      simpa using hkey
    simp only [templateAnnotations, mapsCopy, hnone]

theorem template_hash (digest : String → String) (cluster : KahunaCluster) (partition : Nat) :
    (desiredStatefulSetObject digest cluster partition).template.annotations
        configHashAnnotation =
      some ((cluster.spec.podAnnotations.lookup configHashAnnotation).getD
        (configHash digest (entrypointScript cluster))) :=
  templateAnnotations_hash _ _

theorem hashAnnotated_iff {digest : String → String} {cluster : KahunaCluster} {p : Nat} :
    HashAnnotated digest cluster p ↔ HashUnpinned digest cluster := by
  unfold HashAnnotated HashUnpinned
  rw [template_hash, Option.some_inj]
  cases cluster.spec.podAnnotations.lookup configHashAnnotation with
  | none => simp
  | some value => simp

/-- With the hash on both templates, different scripts make different templates. -/
theorem template_ne_of_text_ne {digest : String → String} (hinj : Function.Injective digest)
    {a b : KahunaCluster} {p q : Nat} (ha : HashAnnotated digest a p)
    (hb : HashAnnotated digest b q)
    (htext : (entrypointScript a).text ≠ (entrypointScript b).text) :
    (desiredStatefulSetObject digest a p).template ≠
      (desiredStatefulSetObject digest b q).template := by
  intro heq
  unfold HashAnnotated at ha hb
  rw [heq, hb] at ha
  exact htext (hinj (Option.some.inj ha)).symm

/-- For any two clusters, a change of the script reaches the template and both
templates carry the hash that pods are compared with, exactly when neither spec's own
annotations set it to something else. -/
theorem config_reaches_template_iff {digest : String → String} (hinj : Function.Injective digest)
    (a b : KahunaCluster) (p q : Nat) :
    (((entrypointScript a).text ≠ (entrypointScript b).text →
        (desiredStatefulSetObject digest a p).template ≠
          (desiredStatefulSetObject digest b q).template) ∧
      HashAnnotated digest a p ∧ HashAnnotated digest b q) ↔
    HashUnpinned digest a ∧ HashUnpinned digest b := by
  rw [hashAnnotated_iff, hashAnnotated_iff]
  constructor
  · exact And.right
  · intro h
    refine ⟨template_ne_of_text_ne hinj ?_ ?_, h⟩
    · exact hashAnnotated_iff.mpr h.1
    · exact hashAnnotated_iff.mpr h.2

def annotatedCluster (podAnnotations : List (String × String)) (extraArgs : List String) :
    KahunaCluster :=
  { name := "kv"
    ns := "default"
    spec :=
      { replicas := some 3
        extraArgs := extraArgs
        podAnnotations := podAnnotations }
    status := { bootstrapped := true } }

def editedArgs : List String := ["--max-concurrent-sessions", "1"]

theorem edited_text_ne (podAnnotations : List (String × String)) :
    (entrypointScript (annotatedCluster podAnnotations [])).text ≠
      (entrypointScript (annotatedCluster podAnnotations editedArgs)).text := by
  have hplain : (entrypointScript (annotatedCluster [] [])).text ≠
      (entrypointScript (annotatedCluster [] editedArgs)).text :=
    Script.text_ne (by decide) (by decide) (by decide)
  -- the script reads no annotation
  exact hplain

theorem unpinned_edit_reaches_template :
    (desiredStatefulSetObject id (annotatedCluster [] []) 0).template ≠
        (desiredStatefulSetObject id (annotatedCluster [] editedArgs) 0).template ∧
      HashAnnotated id (annotatedCluster [] []) 0 ∧
      HashAnnotated id (annotatedCluster [] editedArgs) 0 := by
  have hnone : ∀ args, HashUnpinned id (annotatedCluster [] args) := by
    intro args value h
    cases h
  obtain ⟨hreaches, hannotated⟩ :=
    (config_reaches_template_iff Function.injective_id (annotatedCluster [] [])
      (annotatedCluster [] editedArgs) 0 0).mpr ⟨hnone [], hnone editedArgs⟩
  exact ⟨hreaches (edited_text_ne []), hannotated⟩

/-! ## The pods -/

/-- The hash on the pods that a template makes, empty when it has none. -/
def carriedHash (template : PodTemplateSpec) : String :=
  (template.annotations configHashAnnotation).getD ""

theorem carriedHash_iff {digest : String → String} {cluster : KahunaCluster} (partition : Nat) :
    carriedHash (desiredStatefulSetObject digest cluster partition).template =
      configHash digest (entrypointScript cluster) ↔ HashUnpinned digest cluster := by
  rw [← hashAnnotated_iff (p := partition)]
  unfold HashAnnotated carriedHash
  rw [template_hash, Option.getD_some, Option.some_inj]

/-- A bootstrapped cluster with an exact roster, all of whose pods are ready and were
made from its template, takes backups exactly when the hash is its own. -/
theorem template_pods_unblocked_iff {digest : String → String} {cluster : KahunaCluster}
    {m : Membership} (partition : Nat) (hboot : cluster.status.bootstrapped = true)
    (hroster : ExactVoters cluster m (desiredReplicas cluster))
    (hnodes : 0 < desiredReplicas cluster) :
    backupBlocked (configHash digest) cluster (some m)
        (steadyPods cluster (desiredReplicas cluster)
          (carriedHash (desiredStatefulSetObject digest cluster partition).template)) = "" ↔
      HashUnpinned digest cluster := by
  rw [← carriedHash_iff partition]
  constructor
  · intro hfree
    obtain ⟨_, _, _, hall⟩ := backupBlocked_free (steadyPods_named _ _ hroster.small) hfree
    obtain ⟨p, hp, _, hfit⟩ := hall 0 hnodes
    exact (steadyPods_fit _ _ _ p hp).configured.symm.trans hfit.configured
  · intro hhash
    refine backupBlocked_steady hboot hroster ?_ (steadyPods_below _ _ hroster.small)
    rw [← hhash]
    exact steadyPods_fit _ _ _

def pinnedHash : List (String × String) := [Prod.mk configHashAnnotation "pinned"]

theorem not_hashUnpinned (extraArgs : List String) :
    ¬ HashUnpinned id (annotatedCluster pinnedHash extraArgs) := by
  intro h
  have htext : "pinned" = (entrypointScript (annotatedCluster pinnedHash extraArgs)).text :=
    h "pinned" (by simp [annotatedCluster, pinnedHash])
  -- the name of the array alone is longer
  have hlength := congrArg String.length htext
  simp only [Script.text, staticArgsText, String.length_append] at hlength
  have hlong : "STATIC_ARGS".length = 11 := rfl
  have hshort : "pinned".length = 6 := rfl
  omega

/-- The scripts differ and the templates do not, the annotation is not the hash, and
three ready nodes made from the template take no backup. -/
theorem pinned_hash_hides_change :
    (entrypointScript (annotatedCluster pinnedHash [])).text ≠
        (entrypointScript (annotatedCluster pinnedHash editedArgs)).text ∧
      (desiredStatefulSetObject id (annotatedCluster pinnedHash []) 0).template =
        (desiredStatefulSetObject id (annotatedCluster pinnedHash editedArgs) 0).template ∧
      ¬ HashAnnotated id (annotatedCluster pinnedHash []) 0 ∧
      backupBlocked (configHash id) (annotatedCluster pinnedHash [])
        (some (rosterOf (annotatedCluster pinnedHash []) 3 three_small))
        (steadyPods (annotatedCluster pinnedHash []) 3
          (carriedHash
            (desiredStatefulSetObject id (annotatedCluster pinnedHash []) 0).template)) ≠ "" := by
  refine ⟨edited_text_ne pinnedHash, ?_, ?_, ?_⟩
  · have hpin : pinnedHash.lookup configHashAnnotation = some "pinned" := by simp [pinnedHash]
    have hsame := templateAnnotations_pinned hpin
      (configHash id (entrypointScript (annotatedCluster pinnedHash [])))
      (configHash id (entrypointScript (annotatedCluster pinnedHash editedArgs)))
    exact congrArg
      (fun annotations =>
        ({ podTemplate id (annotatedCluster pinnedHash []) with annotations := annotations } :
          PodTemplateSpec)) hsame
  · exact fun h => not_hashUnpinned [] (hashAnnotated_iff.mp h)
  · intro hfree
    have hroster := exactVoters_rosterOf (annotatedCluster pinnedHash []) 3 three_small
    exact not_hashUnpinned [] ((template_pods_unblocked_iff 0 rfl hroster (by decide)).mp hfree)

end KahunaOperator
