/-
# `KahunaOperator.Api` — the KahunaCluster resource

The part of `api/v1alpha1/kahunacluster_types.go` that the operator's decisions
read and write: `spec` (what the user asks for), `status` (the operator's own
memory), and the validation rules the API server applies to a spec when it is
created and when it is updated.

Sizes are `Nat`.  The source has `int32`, and every size the API server stores
is non-negative: `spec.replicas` has minimum 1, the autoscaling bounds have
minimum 3, a StatefulSet refuses negative replicas.  Roster versions, node ids
and partition ids come from the server unchecked and are `Int`.  Times are
nanoseconds.
-/
import Mathlib.Data.Rat.Floor

namespace KahunaOperator

abbrev Time := Int

def seconds (n : Int) : Time := n * 1000000000

/-! ## Spec -/

inductive PVCRetentionPolicy where
  | retain
  | delete
deriving DecidableEq, Repr

/-- `PortsSpec`; `0` is an unset port. -/
structure PortsSpec where
  http : Nat := 0
  https : Nat := 0
  internalHTTP : Nat := 0
  raft : Nat := 0
deriving DecidableEq, Repr

structure ReplicationSpec where
  factor : Nat
deriving DecidableEq, Repr

structure AutoscalingSpec where
  minReplicas : Nat
  maxReplicas : Nat
  targetWritesPerSecond : Option Nat := none
  targetQueueDepth : Option Nat := none
  scaleUpStabilizationSeconds : Option Nat := none
  scaleDownStabilizationSeconds : Option Nat := none
  tolerancePercent : Option Nat := none
deriving DecidableEq, Repr

inductive StorageBackend where
  | rocksdb
  | sqlite
  | memory
deriving DecidableEq, Repr

inductive AccessMode where
  | readWriteOnce
  | readOnlyMany
  | readWriteMany
  | readWriteOncePod
deriving DecidableEq, Repr

/-- `VolumeSpec`; a quantity is its value, however it is written. -/
structure VolumeSpec where
  size : Rat
  storageClassName : Option String := none
  accessModes : List AccessMode := []
deriving DecidableEq, Repr

/-- An absent backend is the empty string in the source. -/
structure StorageSpec where
  backend : Option StorageBackend := none
  revision : String := ""
  walBackend : Option StorageBackend := none
  walRevision : String := ""
  data : VolumeSpec := { size := 0 }
  wal : Option VolumeSpec := none
  syncWrites : Option Bool := none
  directReads : Option Bool := none
  sharedMemory : Option Bool := none
  sharedMemoryBudgetMB : Option Int := none
  sharedMemtableBudgetMB : Option Int := none
  pvcRetentionPolicy : PVCRetentionPolicy := .retain
deriving DecidableEq, Repr

structure SecretKeySelector where
  name : String
  key : String
deriving DecidableEq, Repr

/-- `TLSSpec`, with only the presence of a cert-manager block. -/
structure TLSSpec where
  certManager : Bool := false
  secretRef : Option String := none
  keystoreKey : String := ""
  passwordSecretRef : Option SecretKeySelector := none
  insecureSkipVerify : Option Bool := none
deriving DecidableEq, Repr

structure RaftSpec where
  heartbeatIntervalMs : Option Int := none
  votingTimeoutMs : Option Int := none
  startElectionTimeoutMs : Option Int := none
  endElectionTimeoutMs : Option Int := none
  enableCheckQuorum : Option Bool := none
  gossipIntervalMs : Option Int := none
  gossipFanout : Option Int := none
  pingTimeoutMs : Option Int := none
  indirectPingFanout : Option Int := none
  suspicionTimeoutMs : Option Int := none
  deadMemberEvictionGraceMs : Option Int := none
  backfillThreshold : Option Int := none
  maxBackfillEntriesPerRound : Option Int := none
  learnerPromotionLag : Option Int := none
  learnerPromotionStableWindowMs : Option Int := none
deriving DecidableEq, Repr

structure TransactionsSpec where
  defaultTimeoutMs : Option Int := none
  defaultAdmissionWaitMs : Option Int := none
  maxAdmissionWaitMs : Option Int := none
  maxConcurrentTransactions : Option Int := none
  maxConcurrentSessions : Option Int := none
deriving DecidableEq, Repr

structure WorkersSpec where
  locks : Option Int := none
  keyValue : Option Int := none
  sequencer : Option Int := none
  backgroundWriter : Option Int := none
deriving DecidableEq, Repr

/-- `BackupRetentionSpec`; `maxAge` in whole seconds, `maxBytes` in bytes. -/
structure BackupRetentionSpec where
  maxChains : Option Int := none
  maxAge : Option Int := none
  maxBytes : Option Int := none
deriving DecidableEq, Repr

/-- `BackupSpec`, with `volume.claimName` and `volume.claim` as fields of its own. -/
structure BackupSpec where
  schedule : String := ""
  incrementalSchedule : String := ""
  suspend : Option Bool := none
  timeout : Option Time := none
  claimName : Option String := none
  claim : Option VolumeSpec := none
  clusterID : String := ""
  macKeySecretRef : Option SecretKeySelector := none
  retention : Option BackupRetentionSpec := none
deriving DecidableEq, Repr

inductive PullPolicy where
  | always
  | ifNotPresent
  | never
deriving DecidableEq, Repr

inductive LogLevel where
  | trace
  | debug
  | information
  | warning
  | error
  | critical
  | none
deriving DecidableEq, Repr

/-- A Kubernetes value that is copied into the pod template unread, as it is
written. -/
structure Manifest where
  text : String
deriving DecidableEq, Repr

structure KahunaClusterSpec where
  replicas : Option Nat := none
  replication : Option ReplicationSpec := none
  autoscaling : Option AutoscalingSpec := none
  backup : Option BackupSpec := none
  image : String := ""
  imagePullPolicy : Option PullPolicy := none
  imagePullSecrets : List String := []
  partitions : Option Int := none
  storage : StorageSpec := {}
  tls : TLSSpec := {}
  ports : Option PortsSpec := none
  raft : Option RaftSpec := none
  transactions : Option TransactionsSpec := none
  workers : Option WorkersSpec := none
  logLevel : Option LogLevel := none
  extraArgs : List String := []
  resources : Option Manifest := none
  nodeSelector : List (String × String) := []
  tolerations : List Manifest := []
  affinity : Option Manifest := none
  topologySpreadConstraints : List Manifest := []
  podAnnotations : List (String × String) := []
  podLabels : List (String × String) := []
  serviceAccountName : String := ""
  podSecurityContext : Option Manifest := none
  securityContext : Option Manifest := none
  terminationGracePeriodSeconds : Option Int := none
  podDisruptionBudget : Option Bool := none
deriving DecidableEq, Repr

/-! ## Status -/

/-- Roles the server reports.  The operator compares them as strings, so a
value it does not know is kept as it came. -/
inductive Role where
  | voter
  | learner
  | leaving
  | notMember
  | other (name : String)
deriving DecidableEq, Repr

inductive ClusterPhase where
  | pending
  | bootstrapping
  | running
  | scalingUp
  | scalingDown
  | upgrading
  | degraded
deriving DecidableEq, Repr

inductive ConditionType where
  | available
  | progressing
  | rosterConverged
  | autoscalingLimited
  | keystoreReady
  | backupFailing
  | backupVolumeReady
deriving DecidableEq, Repr

/-- A status condition.  The transition time is left out: the operator never
reads it and compares statuses without it. -/
structure Condition where
  type : ConditionType
  status : Bool
  reason : String
  message : String
deriving DecidableEq, Repr

/-- `apimeta.SetStatusCondition`, a library function outside this repository: replace
the condition of that type in place, or append it. -/
def setStatusCondition (conditions : List Condition) (c : Condition) : List Condition :=
  if conditions.any (·.type == c.type) then
    conditions.map fun old => if old.type = c.type then c else old
  else
    conditions ++ [c]

/-- `apimeta.RemoveStatusCondition`, of the same library. -/
def removeStatusCondition (conditions : List Condition) (type : ConditionType) : List Condition :=
  conditions.filter (·.type != type)

structure MemberStatus where
  podName : String
  endpoint : String
  nodeID : Int
  role : Role
  joinedVersion : Int
  ready : Bool
deriving DecidableEq, Repr

structure AutoscalingStatus where
  desiredReplicas : Nat := 0
  recommendedReplicas : Nat := 0
  writesPerSecondPerNode : Option Int := none
  queueDepthPerNode : Option Int := none
  aboveTargetSince : Option Time := none
  belowTargetSince : Option Time := none
  lastScaleTime : Option Time := none
deriving DecidableEq, Repr

structure BackupStatus where
  lastFullScheduleTime : Option Time := none
  lastIncrementalScheduleTime : Option Time := none
  lastSuccessfulTime : Option Time := none
  lastBackupID : String := ""
  lastBackupType : String := ""
  consecutiveFailures : Int := 0
  lastFailureTime : Option Time := none
  lastFailureMessage : String := ""
  unclaimedSince : Option Time := none
  lastUnclaimedTime : Option Time := none
deriving DecidableEq, Repr

structure KahunaClusterStatus where
  observedGeneration : Int := 0
  phase : ClusterPhase := .pending
  replicas : Nat := 0
  readyReplicas : Nat := 0
  voters : Nat := 0
  learners : Nat := 0
  membershipVersion : Int := 0
  members : List MemberStatus := []
  bootstrapped : Bool := false
  bootstrapSize : Nat := 0
  currentImage : String := ""
  updatePartition : Option Nat := none
  autoscaling : Option AutoscalingStatus := none
  conditions : List Condition := []
deriving DecidableEq, Repr

def setCondition (status : KahunaClusterStatus) (type : ConditionType) (active : Bool)
    (trueReason falseReason message : String) : KahunaClusterStatus :=
  { status with
    conditions := setStatusCondition status.conditions
      { type := type, status := active, reason := if active then trueReason else falseReason,
        message := message } }

structure KahunaCluster where
  name : String
  ns : String
  generation : Int := 0
  spec : KahunaClusterSpec
  status : KahunaClusterStatus := {}
deriving DecidableEq, Repr

/-! ## Admission

The CRD's rules, evaluated by the API server after it has filled in defaults:
an omitted `spec.replicas` is stored as 3. -/

/-- `spec.replicas` as stored. -/
def KahunaClusterSpec.size (spec : KahunaClusterSpec) : Nat :=
  spec.replicas.getD 3

def ReplicationSpec.Accepted (r : ReplicationSpec) : Prop :=
  1 ≤ r.factor ∧ r.factor ≤ 3

/-- The schema of `spec.autoscaling`: minima, the order of the bounds, and at
least one target. -/
def AutoscalingSpec.Accepted (a : AutoscalingSpec) : Prop :=
  3 ≤ a.minReplicas ∧ 3 ≤ a.maxReplicas ∧ a.minReplicas ≤ a.maxReplicas ∧
    (a.targetWritesPerSecond.isSome ∨ a.targetQueueDepth.isSome) ∧
    (∀ t ∈ a.targetWritesPerSecond, 1 ≤ t) ∧ (∀ t ∈ a.targetQueueDepth, 1 ≤ t) ∧
    (∀ t ∈ a.tolerancePercent, t ≤ 100)

/-- What creation checks: a size that is neither 0 nor 2, well-formed blocks,
and replication whenever there is autoscaling. -/
def KahunaClusterSpec.Accepted (spec : KahunaClusterSpec) : Prop :=
  1 ≤ spec.size ∧ spec.size ≠ 2 ∧
    (∀ r ∈ spec.replication, r.Accepted) ∧ (∀ a ∈ spec.autoscaling, a.Accepted) ∧
    (spec.autoscaling.isSome → spec.replication.isSome)

/-- The fields whose rule is `self == oldSelf`, as stored. -/
def KahunaClusterSpec.immutable (spec : KahunaClusterSpec) :
    Int × StorageBackend × String × StorageBackend × String :=
  (spec.partitions.getD 3,
    spec.storage.backend.getD .rocksdb,
    if spec.storage.revision = "" then "v1" else spec.storage.revision,
    spec.storage.walBackend.getD .rocksdb,
    if spec.storage.walRevision = "" then "v1" else spec.storage.walRevision)

/-- What an update checks on top: `(oldSelf.spec.replicas == 1) ==
(self.spec.replicas == 1)`, and the immutable fields. -/
def KahunaClusterSpec.AcceptedUpdate (old spec : KahunaClusterSpec) : Prop :=
  spec.Accepted ∧ (old.size = 1 ↔ spec.size = 1) ∧ old.immutable = spec.immutable

instance (r : ReplicationSpec) : Decidable r.Accepted :=
  inferInstanceAs (Decidable (_ ∧ _))

instance (a : AutoscalingSpec) : Decidable a.Accepted :=
  inferInstanceAs (Decidable (_ ∧ _))

instance (spec : KahunaClusterSpec) : Decidable spec.Accepted :=
  inferInstanceAs (Decidable (_ ∧ _))

instance (old spec : KahunaClusterSpec) : Decidable (old.AcceptedUpdate spec) :=
  inferInstanceAs (Decidable (_ ∧ _))

end KahunaOperator
