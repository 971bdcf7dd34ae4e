/-
# `KahunaOperator.Naming` — names, endpoints and the size a cluster is driven to

`internal/controller/naming.go`.  Two facts carry everything built on these
names:

* an ordinal can be read back from a pod name and from a Raft endpoint
  (`podName_inj`, `raftEndpoint_inj`), so counting distinct endpoints counts
  nodes;
* names and endpoints depend on the metadata and the ports alone, never on the
  status, so a pass may rewrite the status and keep talking about the same
  nodes.

`desiredReplicas` is the one number that sizes the cluster: the autoscaler's
choice under autoscaling, `spec.replicas` otherwise.
-/
import KahunaOperator.Api
import Std.Data.String.ToNat

namespace KahunaOperator

/-! ## Names -/

def stsName (cluster : KahunaCluster) : String := cluster.name

def peerServiceName (cluster : KahunaCluster) : String := cluster.name ++ "-peer"

def clientServiceName (cluster : KahunaCluster) : String := cluster.name

def configMapName (cluster : KahunaCluster) : String := cluster.name ++ "-config"

def pdbName (cluster : KahunaCluster) : String := cluster.name

def certificateName (cluster : KahunaCluster) : String := cluster.name ++ "-tls"

/-- The user's own claim, or the one the operator creates. -/
def backupClaimName (cluster : KahunaCluster) (spec : BackupSpec) : String :=
  spec.claimName.getD (cluster.name ++ "-backup")

def backupMACSecretName (cluster : KahunaCluster) : String := cluster.name ++ "-backup-mac"

def podName (cluster : KahunaCluster) (ordinal : Nat) : String :=
  stsName cluster ++ "-" ++ toString ordinal

def peerDomain (cluster : KahunaCluster) : String :=
  peerServiceName cluster ++ "." ++ cluster.ns ++ ".svc.cluster.local"

def podFQDN (cluster : KahunaCluster) (ordinal : Nat) : String :=
  podName cluster ordinal ++ "." ++ peerDomain cluster

/-- The port block with its defaults filled in. -/
def ports (cluster : KahunaCluster) : PortsSpec :=
  match cluster.spec.ports with
  | none => { http := 2070, https := 2071, internalHTTP := 8081, raft := 8082 }
  | some p =>
      { http := if p.http ≠ 0 then p.http else 2070
        https := if p.https ≠ 0 then p.https else 2071
        internalHTTP := if p.internalHTTP ≠ 0 then p.internalHTTP else 8081
        raft := if p.raft ≠ 0 then p.raft else 8082 }

/-- The address a node registers in the Raft roster. -/
def raftEndpoint (cluster : KahunaCluster) (ordinal : Nat) : String :=
  podFQDN cluster ordinal ++ ":" ++ toString (ports cluster).raft

theorem podName_inj {cluster : KahunaCluster} {i j : Nat}
    (h : podName cluster i = podName cluster j) : i = j := by
  simp only [podName, String.append_right_inj] at h
  exact Nat.repr_inj.mp h

theorem raftEndpoint_inj {cluster : KahunaCluster} {i j : Nat}
    (h : raftEndpoint cluster i = raftEndpoint cluster j) : i = j := by
  simp only [raftEndpoint, podFQDN, String.append_left_inj] at h
  exact podName_inj h

theorem raftEndpoint_injective (cluster : KahunaCluster) :
    Function.Injective (raftEndpoint cluster) :=
  fun _ _ => raftEndpoint_inj

theorem raftEndpoint_congr {c₁ c₂ : KahunaCluster} (hname : c₁.name = c₂.name)
    (hns : c₁.ns = c₂.ns) (hports : c₁.spec.ports = c₂.spec.ports) (i : Nat) :
    raftEndpoint c₁ i = raftEndpoint c₂ i := by
  simp only [raftEndpoint, podFQDN, podName, stsName, peerDomain, peerServiceName, ports, hname,
    hns, hports]

/-- The decimal digits of a number are digits, and there is at least one. -/
theorem toString_digits (n : Nat) :
    (toString n).toList ≠ [] ∧ ∀ c ∈ (toString n).toList, c.isDigit = true := by
  have hlist : (toString n).toList = Nat.toDigits 10 n := Nat.toList_repr
  rw [hlist]
  refine ⟨Nat.toDigits_ne_nil, ?_⟩
  intro c hc
  exact Nat.isDigit_of_mem_toDigits (by decide) (by decide) hc

/-! ## The size the cluster is driven to -/

/-- `spec.replicas`, defaulting to 3. -/
def specReplicas (cluster : KahunaCluster) : Nat :=
  match cluster.spec.replicas with
  | none => 3
  | some r => r

/-- Where the autoscaler starts: `spec.replicas` held inside its bounds. -/
def initialAutoscaledReplicas (cluster : KahunaCluster) (as : AutoscalingSpec) : Nat :=
  min (max (specReplicas cluster) as.minReplicas) as.maxReplicas

def desiredReplicas (cluster : KahunaCluster) : Nat :=
  match cluster.spec.autoscaling with
  | some as =>
      match cluster.status.autoscaling with
      | some st =>
          if 0 < st.desiredReplicas then st.desiredReplicas
          else initialAutoscaledReplicas cluster as
      | none => initialAutoscaledReplicas cluster as
  | none => specReplicas cluster

/-- One node, and by the source's comment one node for good. -/
def singleNode (cluster : KahunaCluster) : Bool :=
  cluster.spec.autoscaling.isNone && specReplicas cluster == 1

theorem specReplicas_eq_size (cluster : KahunaCluster) :
    specReplicas cluster = cluster.spec.size := by
  unfold specReplicas KahunaClusterSpec.size
  cases cluster.spec.replicas <;> rfl

theorem desiredReplicas_fixed {cluster : KahunaCluster} (h : cluster.spec.autoscaling = none) :
    desiredReplicas cluster = specReplicas cluster := by
  simp only [desiredReplicas, h]

/-- Under autoscaling the size is the recorded choice, or the initial one while
nothing has been chosen. -/
theorem desiredReplicas_autoscaled {cluster : KahunaCluster} {as : AutoscalingSpec}
    (h : cluster.spec.autoscaling = some as) :
    desiredReplicas cluster =
      match cluster.status.autoscaling with
      | some st =>
          if 0 < st.desiredReplicas then st.desiredReplicas
          else initialAutoscaledReplicas cluster as
      | none => initialAutoscaledReplicas cluster as := by
  simp only [desiredReplicas, h]

theorem desiredReplicas_recorded {cluster : KahunaCluster} {as : AutoscalingSpec}
    {st : AutoscalingStatus} (has : cluster.spec.autoscaling = some as)
    (hst : cluster.status.autoscaling = some st) (hpos : 0 < st.desiredReplicas) :
    desiredReplicas cluster = st.desiredReplicas := by
  simp only [desiredReplicas, has, hst, hpos, if_true]

theorem desiredReplicas_pos {cluster : KahunaCluster} (h : cluster.spec.Accepted) :
    0 < desiredReplicas cluster := by
  obtain ⟨hsize, _, _, hbounds, _⟩ := h
  cases has : cluster.spec.autoscaling with
  | none =>
      rw [desiredReplicas_fixed has, specReplicas_eq_size]
      exact hsize
  | some as =>
      obtain ⟨hmin, hmax, _⟩ := hbounds as has
      have hinitial : 0 < initialAutoscaledReplicas cluster as := by
        unfold initialAutoscaledReplicas
        omega
      rw [desiredReplicas_autoscaled has]
      cases cluster.status.autoscaling with
      | none => exact hinitial
      | some st =>
          simp only
          split
          · next hpos => exact hpos
          · exact hinitial

/-- Only `spec.replicas`, `spec.autoscaling` and the autoscaler's record enter
the size. -/
theorem desiredReplicas_congr {c₁ c₂ : KahunaCluster}
    (hr : c₁.spec.replicas = c₂.spec.replicas) (ha : c₁.spec.autoscaling = c₂.spec.autoscaling)
    (hs : c₁.status.autoscaling = c₂.status.autoscaling) :
    desiredReplicas c₁ = desiredReplicas c₂ := by
  simp only [desiredReplicas, initialAutoscaledReplicas, specReplicas, hr, ha, hs]

/-! ## Formatting -/

/-- `%v` of a slice: the elements between brackets, separated by blanks. -/
def fmtSlice {α : Type} [ToString α] (l : List α) : String :=
  "[" ++ " ".intercalate (l.map toString) ++ "]"

end KahunaOperator
