/-
# `KahunaOperator.Status` — what a pass reports

`reconcileStatus` of `internal/controller/kahunacluster_controller.go`: the
status recomputed from the StatefulSet, the pods and the roster.  The two
fields other modules depend on are the permanent ones.  `bootstrapped` latches
when a readable, seeded roster has at least as many Voters as the cluster's
desired size; `bootstrapSize` is passed through.  `reconcileStatus_frame` and
`reconcileStatus_bootstrapped` are what their proofs use.
-/
import KahunaOperator.StatefulSet

namespace KahunaOperator

def containerName : String := "kahuna"

def podImage (pod : Pod) : String :=
  match pod.containers.find? (·.name == containerName) with
  | some c => c.image
  | none => ""

def podsBelow (pods : List Pod) (replicas : Nat) : List Pod :=
  pods.filter fun p => decide (0 ≤ ordinalOf p.name ∧ ordinalOf p.name < replicas)

/-- Every node the StatefulSet now has runs the cluster's image and is ready. -/
def imageRolledOut (cluster : KahunaCluster) (sts : StatefulSet) (pods : List Pod) : Bool :=
  let nodes := podsBelow pods sts.size
  nodes.all (fun p => !p.deleting && podIsReady p && podImage p == cluster.spec.image) &&
    decide (0 < sts.size) && nodes.length == sts.size

def hasQuorum (ready desired : Nat) : Bool :=
  decide (0 < desired) && decide (desired / 2 + 1 ≤ ready)

def rosterMessage (known : Bool) (voters learners desired : Nat) : String :=
  if !known then "cluster membership could not be read from any node"
  else if 0 < learners then
    toString voters ++ " voters, " ++ toString learners ++ " learners still catching up (want " ++
      toString desired ++ " voters)"
  else toString voters ++ " voters (want " ++ toString desired ++ ")"

def keystoreOrDefault (msg : String) : String :=
  if msg = "" then "PKCS#12 keystore is present" else msg

def observedStatus (cluster : KahunaCluster) (sts : StatefulSet) (pods : List Pod) :
    KahunaClusterStatus :=
  { cluster.status with
    observedGeneration := cluster.generation
    replicas := sts.statusReplicas
    readyReplicas := sts.readyReplicas
    currentImage :=
      if imageRolledOut cluster sts pods then cluster.spec.image
      else cluster.status.currentImage
    updatePartition :=
      match sts.rollingUpdate with
      | some ru => ru.partition
      | none => cluster.status.updatePartition }

/-- The roster's part of the status; an unreadable roster keeps the last one. -/
def withRoster (cluster : KahunaCluster) (pods : List Pod) (membership : Option Membership)
    (status : KahunaClusterStatus) : KahunaClusterStatus :=
  match membership with
  | none => status
  | some m =>
      let members := buildMemberStatus cluster m pods
      { status with
        membershipVersion := m.membershipVersion
        members := members
        voters := (countRoles members).1
        learners := (countRoles members).2 }

/-- The latch: a known roster, a committed version, enough Voters. -/
def withBootstrapped (membership : Option Membership) (desired : Nat)
    (status : KahunaClusterStatus) : KahunaClusterStatus :=
  match membership with
  | none => status
  | some m =>
      if status.bootstrapped = false ∧ 0 < m.membershipVersion ∧ desired ≤ status.voters then
        { status with bootstrapped := true }
      else status

def phaseOf (status : KahunaClusterStatus) (desired : Nat) (rosterKnown progressing : Bool) :
    ClusterPhase :=
  if !status.bootstrapped then .bootstrapping
  else if !hasQuorum status.readyReplicas desired || !rosterKnown then .degraded
  else if status.replicas < desired ∨ status.voters < desired then .scalingUp
  else if desired < status.replicas ∨ desired < status.voters then .scalingDown
  else if progressing then .upgrading
  else .running

def statusConverged (status : KahunaClusterStatus) (desired : Nat) (rosterKnown : Bool) : Bool :=
  rosterKnown && status.voters == desired && status.learners == 0

def statusProgressing (cluster : KahunaCluster) (status : KahunaClusterStatus) (desired : Nat)
    (rosterKnown : Bool) : Bool :=
  decide (status.readyReplicas < desired) || !statusConverged status desired rosterKnown ||
    !(status.currentImage == cluster.spec.image)

def progressMessage (cluster : KahunaCluster) (status : KahunaClusterStatus) (desired : Nat) :
    String :=
  toString status.readyReplicas ++ "/" ++ toString desired ++ " nodes ready, " ++
    toString status.voters ++ " voters" ++
    if status.currentImage == cluster.spec.image then ""
    else ", rolling out image " ++ cluster.spec.image

/-- The four conditions, in the order they are set. -/
def withConditions (cluster : KahunaCluster) (desired : Nat) (rosterKnown : Bool)
    (keystore : Bool × String) (status : KahunaClusterStatus) : KahunaClusterStatus :=
  let st := setCondition status .keystoreReady keystore.1 "KeystoreAvailable" "KeystorePending"
    (keystoreOrDefault keystore.2)
  let st := setCondition st .progressing (statusProgressing cluster status desired rosterKnown)
    "Converging" "Converged" (progressMessage cluster status desired)
  let st := setCondition st .rosterConverged (statusConverged status desired rosterKnown)
    "RosterMatchesSpec" "RosterDiffers"
    (rosterMessage rosterKnown status.voters status.learners desired)
  setCondition st .available (hasQuorum status.readyReplicas desired) "QuorumReady" "QuorumLost"
    (toString status.readyReplicas ++ " of " ++ toString desired ++ " nodes ready")

/-- Status as a pass recomputes it.  `sts` is the StatefulSet as read back, or as
written when the read fails; `keystore` is the answer of `certificateReady`. -/
def reconcileStatus (cluster : KahunaCluster) (sts : StatefulSet) (pods : List Pod)
    (membership : Option Membership) (keystore : Bool × String) : KahunaClusterStatus :=
  let desired := desiredReplicas cluster
  let known := membership.isSome
  let status := withBootstrapped membership desired
    (withRoster cluster pods membership (observedStatus cluster sts pods))
  let phase := phaseOf status desired known (statusProgressing cluster status desired known)
  withConditions cluster desired known keystore { status with phase := phase }

def requeueProgressing : Time := seconds 10

def requeueAutoscaling : Time := seconds 15

def requeueSteady : Time := seconds 60

/-- When the next pass is due, by the status just computed. -/
def requeueAfter (cluster : KahunaCluster) (status : KahunaClusterStatus) (rosterKnown : Bool) :
    Time :=
  let desired := desiredReplicas cluster
  if statusProgressing cluster status desired rosterKnown || status.replicas != desired then
    requeueProgressing
  else if cluster.spec.autoscaling.isSome then requeueAutoscaling
  else requeueSteady

/-! ## The permanent fields -/

@[simp] theorem withRoster_frame (cluster : KahunaCluster) (pods : List Pod)
    (m : Option Membership) (st : KahunaClusterStatus) :
    (withRoster cluster pods m st).bootstrapped = st.bootstrapped ∧
      (withRoster cluster pods m st).bootstrapSize = st.bootstrapSize ∧
      (withRoster cluster pods m st).autoscaling = st.autoscaling := by
  cases m <;> exact ⟨rfl, rfl, rfl⟩

theorem withBootstrapped_eq (m : Option Membership) (desired : Nat) (st : KahunaClusterStatus) :
    withBootstrapped m desired st =
      { st with bootstrapped := (withBootstrapped m desired st).bootstrapped } := by
  cases m with
  | none => rfl
  | some m =>
      simp only [withBootstrapped]
      split <;> rfl

/-- The founding size and the autoscaler's record pass through. -/
theorem reconcileStatus_frame (cluster : KahunaCluster) (sts : StatefulSet) (pods : List Pod)
    (m : Option Membership) (keystore : Bool × String) :
    (reconcileStatus cluster sts pods m keystore).bootstrapSize = cluster.status.bootstrapSize ∧
      (reconcileStatus cluster sts pods m keystore).autoscaling = cluster.status.autoscaling := by
  have hb := withBootstrapped_eq m (desiredReplicas cluster)
    (withRoster cluster pods m (observedStatus cluster sts pods))
  have hr := withRoster_frame cluster pods m (observedStatus cluster sts pods)
  exact ⟨(congrArg KahunaClusterStatus.bootstrapSize hb).trans hr.2.1,
    (congrArg KahunaClusterStatus.autoscaling hb).trans hr.2.2⟩

/-- The version recorded is the roster's, or the last one when none was read. -/
theorem reconcileStatus_version (cluster : KahunaCluster) (sts : StatefulSet) (pods : List Pod)
    (m : Option Membership) (keystore : Bool × String) :
    (reconcileStatus cluster sts pods m keystore).membershipVersion =
      (m.map Membership.membershipVersion).getD cluster.status.membershipVersion := by
  have hrw : (reconcileStatus cluster sts pods m keystore).membershipVersion =
      (withBootstrapped m (desiredReplicas cluster)
        (withRoster cluster pods m (observedStatus cluster sts pods))).membershipVersion := rfl
  rw [hrw, withBootstrapped_eq]
  cases m with
  | none => rfl
  | some r => rfl

/-- When the latch is set: it was before, or this pass read a seeded roster with
enough Voters. -/
theorem reconcileStatus_bootstrapped (cluster : KahunaCluster) (sts : StatefulSet)
    (pods : List Pod) (m : Option Membership) (keystore : Bool × String) :
    (reconcileStatus cluster sts pods m keystore).bootstrapped = true ↔
      cluster.status.bootstrapped = true ∨
        ∃ r, m = some r ∧ 0 < r.membershipVersion ∧
          desiredReplicas cluster ≤ r.members.countP (·.role == .voter) := by
  have hrw : (reconcileStatus cluster sts pods m keystore).bootstrapped =
      (withBootstrapped m (desiredReplicas cluster)
        (withRoster cluster pods m (observedStatus cluster sts pods))).bootstrapped := rfl
  rw [hrw]
  cases m with
  | none => simp [withBootstrapped, withRoster, observedStatus]
  | some r =>
      have hvoters : (withRoster cluster pods (some r) (observedStatus cluster sts pods)).voters =
          r.members.countP (·.role == .voter) :=
        congrArg Prod.fst (countRoles_buildMemberStatus cluster r pods)
      have hold := (withRoster_frame cluster pods (some r) (observedStatus cluster sts pods)).1
      simp only [withBootstrapped, hvoters, hold]
      split
      · next h => simp [h.2.1, h.2.2]
      · next h =>
          rw [hold]
          cases hb : cluster.status.bootstrapped <;> simp_all [observedStatus]

end KahunaOperator
