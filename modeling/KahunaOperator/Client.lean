/-
# `KahunaOperator.Client` — what a Kahuna node answers

`internal/kahuna/client.go`: the roster, the placement, the answer to a leave
request, the metrics, and the errors the operator tells apart.  A `Client` is
one assignment of answers to nodes, addressed by base URL; a pass asks each
node each question at most once, so a function of the URL is every behaviour
the cluster can show within a pass.

`Membership` carries a bound on its length.  The response body is cut at
2^20 bytes before it is decoded, so a roster of 2^31 entries cannot be read,
and the `int32` conversions of its length lose nothing.
-/
import KahunaOperator.Lib.Rounding
import KahunaOperator.Naming

namespace KahunaOperator

open Lib (Rounding)

/-- `ErrPlacementUnsupported`, or any other error with its text. -/
inductive KahunaError where
  | placementUnsupported
  | other (message : String)
deriving DecidableEq, Repr

def KahunaError.message : KahunaError → String
  | .placementUnsupported => "the server does not support replica placement"
  | .other message => message

/-! ## The roster -/

structure Member where
  endpoint : String
  nodeID : Int
  role : Role
  joinedVersion : Int := 0
deriving DecidableEq, Repr

structure Membership where
  membershipVersion : Int
  members : List Member
  small : members.length < 2 ^ 31

/-- An entry for one of the phantom witnesses a standalone node forms its quorum
with, `embedded-witness-N:0`. -/
def Member.isWitness (mem : Member) : Bool :=
  mem.nodeID == 0 && ":0".toList.isSuffixOf mem.endpoint.toList

def Membership.withoutWitnesses (m : Membership) : Membership :=
  { m with
    members := m.members.filter fun mem => !mem.isWitness
    small := lt_of_le_of_lt (List.length_filter_le _ _) m.small }

/-- `HTTPClient.Membership`, from the outcome of its request: the status code and
the document. -/
def HTTPClient.membership (answer : Except KahunaError (Nat × Membership)) :
    Except KahunaError Membership :=
  match answer with
  | .error e => .error e
  | .ok (code, m) =>
      if code ≠ 200 then .error (.other ("membership query returned HTTP " ++ toString code))
      else .ok m.withoutWitnesses

def Membership.hasVoter (m : Membership) (endpoint : String) : Bool :=
  m.members.any fun mem => mem.endpoint == endpoint && mem.role == .voter

def Membership.voters (m : Membership) : List Member :=
  m.members.filter fun mem => mem.role == .voter

/-- What a membership test can see of an entry. -/
def Member.key (mem : Member) : String × Role := (mem.endpoint, mem.role)

theorem Membership.hasVoter_iff {m : Membership} {endpoint : String} :
    m.hasVoter endpoint = true ↔ (endpoint, Role.voter) ∈ m.members.map Member.key := by
  simp only [Membership.hasVoter, List.any_eq_true, Bool.and_eq_true, beq_iff_eq, List.mem_map,
    Member.key, Prod.mk.injEq]

/-! ## Leaving -/

inductive LeaveOutcome where
  | committed
  | notAMember
  | refusedInsufficientVoters
  | other (name : String)
deriving DecidableEq, Repr

structure LeaveResult where
  outcome : LeaveOutcome
  retryable : Bool := false
  reason : String := ""
deriving DecidableEq, Repr

/-- The node is out of the roster, by this call or before it. -/
def LeaveResult.removed (l : LeaveResult) : Bool :=
  l.outcome == .committed || l.outcome == .notAMember

theorem LeaveResult.removed_iff {l : LeaveResult} :
    l.removed = true ↔ l.outcome = .committed ∨ l.outcome = .notAMember := by
  simp only [LeaveResult.removed, Bool.or_eq_true, beq_iff_eq]

/-! ## Placement -/

inductive PartitionState where
  | active
  | other (name : String)
deriving DecidableEq, Repr

structure ReplicaPlacement where
  endpoint : String
  role : Role
deriving DecidableEq, Repr

structure PartitionPlacement where
  partitionID : Int
  state : PartitionState
  replicas : List ReplicaPlacement
deriving DecidableEq, Repr

structure Placement where
  partitions : List PartitionPlacement
deriving DecidableEq, Repr

/-- The active data partitions without a replica set; partition 0 is the system
partition and does not count. -/
def Placement.fullyReplicated (p : Placement) : List Int :=
  (p.partitions.filter fun part =>
    decide (0 < part.partitionID) && part.state == .active && part.replicas.isEmpty).map
    (·.partitionID)

/-! ## Metrics -/

inductive MetricKind where
  | counter
  | gauge
  | other (name : String)
deriving DecidableEq, Repr

/-- One row of the metrics document.  A `float64` is the rational it stands for. -/
structure MetricRow where
  metric : String
  kind : MetricKind
  total : Option Rat
  last : Option Rat
deriving DecidableEq, Repr

structure Metrics where
  rows : List MetricRow
  monotonicMs : Int
deriving DecidableEq, Repr

/-- A counter summed over its tag sets; zero when it has no row. -/
def Metrics.counterTotal (f : Rounding) (m : Metrics) (metric : String) : Rat :=
  ((m.rows.filter fun r => r.metric == metric && r.kind == .counter).filterMap (·.total)).foldl
    f.add 0

def Metrics.gaugeSum (f : Rounding) (m : Metrics) (metric : String) : Rat :=
  ((m.rows.filter fun r => r.metric == metric && r.kind == .gauge).filterMap (·.last)).foldl
    f.add 0

/-! ## Backups -/

/-- Why a node refused a backup.  Only the outcomes the operator acts on are
named. -/
inductive BackupOutcome where
  | notBackupCoordinator
  | retryableLeadershipLoss
  | cutUnverified
  | notConfigured
  | parentMissing
  | topologyChanged
  | partitionCaptureFailed
  | other (name : String)
deriving DecidableEq, Repr

/-- The server's description of a backup it took, as far as the operator records
it. -/
structure BackupInfo where
  backupID : String
  type : String := ""
  actualKind : String := ""
deriving DecidableEq, Repr

/-! ## The nodes' answers -/

structure Client where
  membership : String → Except KahunaError Membership
  leave : String → Except KahunaError LeaveResult
  placement : String → Except KahunaError Placement
  metrics : String → Except KahunaError Metrics

end KahunaOperator
