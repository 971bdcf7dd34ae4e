/-
# `KahunaOperator.Founding` — the founding nodes of a cluster

A node decides at its start whether it founds the cluster or joins it, by
comparing its ordinal with the founding size.  That size is pinned by the first
pass and kept for good; what it is compared with is not:

*Late arrivals join.*  An ordinal below the founding size never joins, even
when it was scaled away and comes back with an empty volume:

    no pass drives the cluster below its founding size
      ⟹  every start with an empty data directory joins                    (`late_arrivals_join`)

*Founders agree.*  The peers a founder is given are counted up to the desired
size, not up to the founding size:

    two founders are given the founding set  ⟺  at each start the two sizes
    are equal, or the founder is the one node they differ by                (`founders_agree_iff`)
-/
import KahunaOperator.Removal

namespace KahunaOperator

open Lib (Run Transition)

/-! ## Late arrivals -/

/-- A bootstrapped cluster that has all of its `B` founding ordinals, each with
its data. -/
structure FoundersKept (B : Nat) (w : World) : Prop where
  pos : B ≠ 0
  pinned : w.cluster.status.bootstrapSize = B
  bootstrapped : w.cluster.status.bootstrapped = true
  topology : ∀ cm, w.config = some cm → cm.topology.bootstrapSize = B
  size : B ≤ w.size
  data : ∀ i < B, w.hasData i = true

/-- Every pass drives the cluster to at least `B` nodes. -/
def TargetsAtLeast (B : Nat) (t : Transition World Event) : Prop :=
  ∀ inp cl, t.event = .pass inp →
    autoscaled inp.toPassEnv (pinBootstrapSize t.before.cluster) = .ok cl →
    B ≤ desiredReplicas cl

theorem World.sts_of_size_pos {w : World} (h : 0 < w.size) : ∃ sts, w.sts = some sts := by
  cases hs : w.sts with
  | some sts => exact ⟨sts, rfl⟩
  | none =>
      unfold World.size at h
      rw [hs] at h
      cases h

theorem FoundersKept.pass_size {B : Nat} {w : World} {inp : PassInput} (h : FoundersKept B w)
    (htarget : ∀ cl, autoscaled inp.toPassEnv (pinBootstrapSize w.cluster) = .ok cl →
      B ≤ desiredReplicas cl) : B ≤ (pass inp w).size := by
  have hB := h.size
  obtain ⟨sts, hsts⟩ := World.sts_of_size_pos (Nat.lt_of_lt_of_le (Nat.pos_of_ne_zero h.pos) hB)
  rw [World.size_of_sts hsts] at hB
  cases hcl : autoscaled inp.toPassEnv (pinBootstrapSize w.cluster) with
  | error e =>
      rw [World.size_of_sts ((pass_panicked hcl).trans hsts)]
      exact hB
  | ok cl =>
      have hgate := (pass_gated hsts h.bootstrapped hcl).size
      have ht := htarget cl hcl
      omega

theorem FoundersKept.pass {B : Nat} {w : World} {inp : PassInput} (h : FoundersKept B w)
    (htarget : ∀ cl, autoscaled inp.toPassEnv (pinBootstrapSize w.cluster) = .ok cl →
      B ≤ desiredReplicas cl) : FoundersKept B (KahunaOperator.pass inp w) := by
  have hpassed := pass_passed inp w
  have hpinned : w.cluster.status.bootstrapSize ≠ 0 := by
    rw [h.pinned]
    exact h.pos
  refine ⟨h.pos, ?_, hpassed.bootstrapped.mpr (Or.inl h.bootstrapped), ?_, h.pass_size htarget, ?_⟩
  · rcases hpassed.bootstrapSize with hkeep | ⟨hzero, _⟩
    · exact hkeep.trans h.pinned
    · exact absurd hzero hpinned
  · intro cm hcm
    rcases hpassed.config with hkeep | hnew
    · exact h.topology cm (hkeep.symm.trans hcm)
    · rw [hnew] at hcm
      cases hcm
      rw [pinBootstrapSize_of_ne hpinned]
      exact h.pinned
  · rw [hpassed.frame.2.2.2]
    exact h.data

theorem FoundersKept.step {B : Nat} {a b : World} {e : Event} (h : FoundersKept B a)
    (htarget : TargetsAtLeast B ⟨a, e, b⟩) (hstep : Step a e b) : FoundersKept B b := by
  cases hstep with
  | edit _ => exact ⟨h.pos, h.pinned, h.bootstrapped, h.topology, h.size, h.data⟩
  | pass inp => exact h.pass fun cl hcl => htarget inp cl rfl hcl
  | @start i _ _ _ wrote _ _ _ _ =>
      refine ⟨h.pos, h.pinned, h.bootstrapped, h.topology, h.size, ?_⟩
      intro j hj
      show (if j = i then (a.hasData i || wrote) else a.hasData j) = true
      split
      · next heq =>
          subst heq
          rw [h.data j hj]
          rfl
      · exact h.data j hj
  | @reclaim i sts hsts _ hout =>
      refine ⟨h.pos, h.pinned, h.bootstrapped, h.topology, h.size, ?_⟩
      intro j hj
      -- A reclaimed ordinal is beyond the size, hence beyond the founders.
      have hsize := h.size
      rw [World.size_of_sts hsts] at hsize
      show (if j = i then false else a.hasData j) = true
      rw [if_neg (by omega)]
      exact h.data j hj

/-- A start on a topology with founding size `B` joins exactly when the ordinal
is beyond it and the data directory empty. -/
theorem start_joins {w w' : World} {i : Nat} {roster : Membership} {password : Option String}
    {launch : Launch} {wrote : Bool} {B : Nat}
    (htopology : ∀ cm, w.config = some cm → cm.topology.bootstrapSize = B)
    (h : Step w (.start i roster password launch wrote) w') :
    launch.joinExisting = (decide (B ≤ i) && !w.hasData i) := by
  cases h with
  | @start _ _ _ _ _ cm _ hcm hlaunch =>
      rw [← htopology cm hcm]
      exact (entrypoint_at hlaunch).2.1

/-- Over every run of a bootstrapped cluster whose founders have their data, and
in which no pass drives it below its founding size: a pod that starts outside
the roster with an empty data directory joins the running cluster. -/
theorem late_arrivals_join {w w' : World} {ts : List (Transition World Event)} {B : Nat}
    (hrun : Run Step w ts w') (h₀ : FoundersKept B w)
    (htarget : ∀ t ∈ ts, TargetsAtLeast B t) :
    ∀ t ∈ ts, ∀ i roster password launch wrote,
      t.event = .start i roster password launch wrote →
      (∀ mem ∈ roster.members, mem.endpoint ≠ raftEndpoint t.before.cluster i) →
      t.before.hasData i = false → launch.joinExisting = true := by
  refine Run.forall_mem_of (fun h hC hs => FoundersKept.step h hC hs) ?_ hrun h₀ htarget
  intro a e b h _ hstep i roster password launch wrote hevent _ hempty
  cases hevent
  have hempty : a.hasData i = false := hempty
  have hlate : B ≤ i := by
    by_contra hfounder
    have := h.data i (by omega)
    rw [hempty] at this
    cases this
  rw [start_joins h.topology hstep, hempty]
  simp [hlate]

/-- Founded with five nodes and grown to six; the sixth has nothing on disk. -/
def grownWorld : World :=
  { cluster := foundedCluster 5 6
    sts := some { replicas := some 6 }
    config := some (desiredConfigMap (foundedCluster 5 6) 5)
    hasData := fun i => decide (i < 5) }

theorem grownWorld_founders : FoundersKept 5 grownWorld where
  pos := by decide
  pinned := rfl
  bootstrapped := rfl
  topology := by
    intro cm hcm
    cases hcm
    rfl
  size := by decide
  data := fun _ hi => decide_eq_true hi

def grownPass : PassInput :=
  { agreedEnv (foundedCluster 5 6) 5
      { membership := rosterOf (foundedCluster 5 6) 5 five_small
        leave := { outcome := .committed } } with }

/-- The sixth node starts after another pass, and joins. -/
theorem sixth_node_joins :
    ∃ launch w',
      Step (pass grownPass grownWorld)
        (.start 5 (rosterOf (foundedCluster 5 6) 5 (by decide)) none launch false) w' ∧
      launch.joinExisting = true := by
  have htarget : ∀ cl, autoscaled grownPass.toPassEnv (pinBootstrapSize grownWorld.cluster) =
      .ok cl → 5 ≤ desiredReplicas cl := by
    intro cl hcl
    obtain ⟨cl', hcl', hdesired⟩ := autoscaled_fixed grownPass.toPassEnv
      (show grownWorld.cluster.spec.autoscaling = none from rfl)
    cases hcl.symm.trans hcl'
    rw [hdesired]
    decide
  have hpassed := pass_passed grownPass grownWorld
  have hcm := hpassed.config_written rfl
  have hsize : 5 < (pass grownPass grownWorld).size := by
    obtain ⟨cl, hcl, hdesired⟩ := autoscaled_fixed grownPass.toPassEnv
      (show grownWorld.cluster.spec.autoscaling = none from rfl)
    have hgate := (pass_gated (show grownWorld.sts = some { replicas := some 6 } from rfl) rfl
      hcl).size
    have hsix : desiredReplicas cl = 6 := hdesired
    have hfound : StatefulSet.size { replicas := some 6 } = 6 := rfl
    omega
  obtain ⟨launch, hlaunch⟩ := entrypoint_starts
    (entrypointScript (pinBootstrapSize grownWorld.cluster)) (pass grownPass grownWorld).cluster
    (topologyEnv (pinBootstrapSize grownWorld.cluster)
      (pinBootstrapSize grownWorld.cluster).status.bootstrapSize) 5
    (!(pass grownPass grownWorld).hasData 5) none (List.cons_ne_nil _ _)
  have hstep : Step (pass grownPass grownWorld)
      (.start 5 (rosterOf (foundedCluster 5 6) 5 (by decide)) none launch false) _ :=
    .start hsize hcm hlaunch
  refine ⟨launch, _, hstep, ?_⟩
  have hrun : Run Step grownWorld
      [⟨grownWorld, .pass grownPass, pass grownPass grownWorld⟩,
        ⟨pass grownPass grownWorld,
          .start 5 (rosterOf (foundedCluster 5 6) 5 (by decide)) none launch false, _⟩] _ :=
    .cons (.pass _) (.cons hstep (.nil _))
  refine late_arrivals_join hrun grownWorld_founders ?_ _
    (List.mem_cons_of_mem _ List.mem_cons_self) 5 _ none launch false rfl ?_ ?_
  · intro t ht inp cl hevent hcl
    rcases List.mem_cons.mp ht with rfl | ht
    · cases hevent
      exact htarget cl hcl
    · cases List.mem_singleton.mp ht
      cases hevent
  · have hendpoint := raftEndpoint_congr hpassed.frame.2.1 hpassed.frame.2.2.1
      (congrArg KahunaClusterSpec.ports hpassed.frame.1)
    intro mem hmem
    obtain ⟨i, hi, rfl⟩ := List.mem_map.mp hmem
    show raftEndpoint (foundedCluster 5 6) i ≠ raftEndpoint (pass grownPass grownWorld).cluster 5
    rw [hendpoint]
    intro heq
    have := raftEndpoint_inj heq
    have := List.mem_range.mp hi
    omega
  · show (pass grownPass grownWorld).hasData 5 = false
    rw [hpassed.frame.2.2.2]
    rfl

/-! ## A founder that comes back -/

/-- Founded with five nodes; volumes are deleted on scale-down. -/
def reclaimingCluster (replicas : Nat) : KahunaCluster :=
  { name := "kahuna"
    ns := "kv"
    spec := { replicas := some replicas, storage := { pvcRetentionPolicy := .delete } }
    status := { bootstrapped := true, bootstrapSize := 5 } }

def reclaimingAnswers (n : Nat) (h : n < 2 ^ 31) : Answers :=
  { membership := rosterOf (reclaimingCluster 4) n h, leave := { outcome := .committed } }

/-- A full pass in which `n` nodes agree on being the roster. -/
def reclaimingPass (n : Nat) (h : n < 2 ^ 31) : PassInput :=
  { agreedEnv (reclaimingCluster 4) 5 (reclaimingAnswers n h) with }

theorem reclaimingPods : SomeReadyPod (readyPods (reclaimingCluster 4) 5) :=
  someReadyPod_readyPods (reclaimingCluster 4) (by decide)

def foundersWorld : World :=
  { cluster := reclaimingCluster 4
    sts := some { replicas := some 5, whenScaled := .delete }
    config := some (desiredConfigMap (reclaimingCluster 4) 5)
    hasData := fun i => decide (i < 5) }

def loweredWorld : World := pass (reclaimingPass 5 five_small) foundersWorld

def reclaimedWorld : World := loweredWorld.setData 4 false

def raisedSpecWorld : World :=
  { reclaimedWorld with cluster := { reclaimedWorld.cluster with
      spec := (reclaimingCluster 5).spec
      generation := reclaimedWorld.cluster.generation + 1 } }

def raisedWorld : World := pass (reclaimingPass 4 four_small) raisedSpecWorld

theorem loweredWorld_sts :
    ∃ sts, loweredWorld.sts = some sts ∧ sts.size = 4 ∧ sts.whenScaled = .delete := by
  obtain ⟨cl, hcl, _⟩ := autoscaled_fixed (reclaimingPass 5 (by decide)).toPassEnv
    (show foundersWorld.cluster.spec.autoscaling = none from rfl)
  have hpassed := pass_passed (reclaimingPass 5 (by decide)) foundersWorld
  have hwritten := hpassed.sts_written hcl rfl
  have hsts : foundersWorld.sts = some { replicas := some 5, whenScaled := .delete } := rfl
  have hroster := exactVoters_rosterOf (reclaimingCluster 4) 5 (by decide)
  have hkahuna : (reclaimingPass 5 (by decide)).kahuna =
      agreedClient (reclaimingAnswers 5 (by decide)) := rfl
  have hsize : loweredWorld.size = 4 :=
    settled_pass_size hsts rfl rfl rfl hkahuna reclaimingPods hroster rfl rfl
  refine ⟨_, hwritten, (World.size_of_sts hwritten).symm.trans hsize, ?_⟩
  show cl.spec.storage.pvcRetentionPolicy = .delete
  rw [autoscaled_spec hcl]
  rfl

theorem raisedSpecWorld_cluster :
    raisedSpecWorld.cluster.status.bootstrapped = true ∧
      raisedSpecWorld.cluster.status.bootstrapSize = 5 ∧
      ∀ i, raftEndpoint raisedSpecWorld.cluster i = raftEndpoint (reclaimingCluster 4) i := by
  have hpassed := pass_passed (reclaimingPass 5 (by decide)) foundersWorld
  refine ⟨hpassed.bootstrapped.mpr (Or.inl rfl), ?_, ?_⟩
  · rcases hpassed.bootstrapSize with hkeep | ⟨hzero, _⟩
    · exact hkeep
    · cases hzero
  · exact raftEndpoint_congr hpassed.frame.2.1 hpassed.frame.2.2.1 rfl

theorem raisedWorld_size : raisedWorld.size = 5 := by
  obtain ⟨sts, hsts, hsize, _⟩ := loweredWorld_sts
  have hsts : raisedSpecWorld.sts = some sts := hsts
  obtain ⟨hboot, _, hendpoint⟩ := raisedSpecWorld_cluster
  have hroster : ExactVoters raisedSpecWorld.cluster
      (reclaimingAnswers 4 (by decide)).membership sts.size := by
    rw [hsize, exactVoters_congr hendpoint]
    exact exactVoters_rosterOf (reclaimingCluster 4) 4 (by decide)
  have hkahuna : (reclaimingPass 4 (by decide)).kahuna =
      agreedClient (reclaimingAnswers 4 (by decide)) := rfl
  have hnext := settled_pass_size hsts hboot rfl rfl hkahuna reclaimingPods hroster rfl rfl
  rw [hsize] at hnext
  exact hnext

theorem pinned_topology {inp : PassInput} {w : World} {B : Nat} (hB : B ≠ 0)
    (hsize : w.cluster.status.bootstrapSize = B) (hfixed : w.cluster.spec.autoscaling = none)
    (hreached : inp.reached .configMap = true) :
    ∃ cm, (pass inp w).config = some cm ∧
      cm.topology = { replicas := specReplicas w.cluster, bootstrapSize := B } := by
  subst hsize
  refine ⟨_, (pass_passed inp w).config_written hreached, ?_⟩
  rw [pinBootstrapSize_of_ne hB, ← desiredReplicas_fixed hfixed]
  rfl

theorem raisedWorld_config :
    ∃ cm, raisedWorld.config = some cm ∧ cm.topology = { replicas := 5, bootstrapSize := 5 } := by
  obtain ⟨_, hsize, _⟩ := raisedSpecWorld_cluster
  exact pinned_topology (by decide) hsize rfl rfl

theorem raisedWorld_empty : raisedWorld.hasData 4 = false := by
  show (pass (reclaimingPass 4 (by decide)) raisedSpecWorld).hasData 4 = false
  rw [(pass_passed _ raisedSpecWorld).frame.2.2.2]
  rfl

/-- The fifth founder leaves, its volume is deleted, and the cluster grows back:
the node starts outside the roster, with nothing on disk, and does not join. -/
theorem returning_founder_does_not_join :
    ∃ launch w',
      Run Step foundersWorld
        [⟨foundersWorld, .pass (reclaimingPass 5 (by decide)), loweredWorld⟩,
          ⟨loweredWorld, .reclaim 4, reclaimedWorld⟩,
          ⟨reclaimedWorld, .edit (reclaimingCluster 5).spec, raisedSpecWorld⟩,
          ⟨raisedSpecWorld, .pass (reclaimingPass 4 (by decide)), raisedWorld⟩,
          ⟨raisedWorld, .start 4 (rosterOf (reclaimingCluster 4) 4 (by decide)) none launch false,
            w'⟩] w' ∧
      foundersWorld.cluster.status.bootstrapped = true ∧
      (∀ mem ∈ (rosterOf (reclaimingCluster 4) 4 (by decide)).members,
        mem.endpoint ≠ raftEndpoint (reclaimingCluster 4) 4) ∧
      raisedWorld.hasData 4 = false ∧ launch.joinExisting = false := by
  obtain ⟨sts, hsts, hsize, hdelete⟩ := loweredWorld_sts
  obtain ⟨cm, hcm, htopology⟩ := raisedWorld_config
  have hpeers : peers cm.script cm.topology.replicas 4 ≠ [] := by
    rw [htopology]
    exact List.cons_ne_nil _ _
  obtain ⟨launch, hlaunch⟩ := entrypoint_starts cm.script raisedWorld.cluster cm.topology 4
    (!raisedWorld.hasData 4) none hpeers
  have hspec : reclaimedWorld.cluster.spec = (reclaimingCluster 4).spec :=
    (pass_passed (reclaimingPass 5 (by decide)) foundersWorld).frame.1
  have hedit : reclaimedWorld.cluster.spec.AcceptedUpdate (reclaimingCluster 5).spec := by
    rw [hspec]
    decide
  refine ⟨launch, _, .cons (.pass _) (.cons (.reclaim hsts hdelete (by omega))
    (.cons (.edit hedit) (.cons (.pass _) (.cons (.start ?_ hcm hlaunch) (.nil _))))),
    rfl, ?_, raisedWorld_empty, ?_⟩
  · rw [raisedWorld_size]
    decide
  · intro mem hmem
    obtain ⟨i, hi, rfl⟩ := List.mem_map.mp hmem
    intro heq
    have := raftEndpoint_inj heq
    have := List.mem_range.mp hi
    omega
  · rw [(entrypoint_at hlaunch).2.1, htopology]
    rfl

/-! ## The pinned size along a run -/

/-- A founding size, once set, is the same in every later state. -/
theorem bootstrapSize_step {B : Nat} (hB : B ≠ 0) {a b : World} {e : Event}
    (h : a.cluster.status.bootstrapSize = B) (hstep : Step a e b) :
    b.cluster.status.bootstrapSize = B := by
  cases hstep with
  | edit _ => exact h
  | pass inp =>
      rcases (pass_passed inp a).bootstrapSize with hkeep | ⟨hzero, _⟩
      · exact hkeep.trans h
      · exact absurd (h.symm.trans hzero) hB
  | start _ _ _ => exact h
  | reclaim _ _ _ => exact h

theorem bootstrapSize_final {w w' : World} {ts : List (Transition World Event)}
    (hrun : Run Step w ts w') {t : Transition World Event} (ht : t ∈ ts)
    (hset : t.before.cluster.status.bootstrapSize ≠ 0) :
    w'.cluster.status.bootstrapSize = t.before.cluster.status.bootstrapSize := by
  exact (Run.after_mem (fun h hs => bootstrapSize_step hset h hs) hrun ht rfl).2

/-! ## The founding set -/

/-- The peers given to the node at ordinal `o`, and the node itself, are the
founding endpoints. -/
def SeesFounders (cluster : KahunaCluster) (B o : Nat) (l : Launch) : Prop :=
  ∀ e, (e ∈ l.initialCluster ∨ e = raftEndpoint cluster o) ↔
    ∃ i < B, raftEndpoint cluster i = e

/-- `REPLICAS` names every founder, or all but the node itself. -/
def NamesFounders (topo : Topology) (o : Nat) : Prop :=
  topo.replicas = topo.bootstrapSize ∨
    (topo.replicas + 1 = topo.bootstrapSize ∧ o + 1 = topo.bootstrapSize)

/-- The script addresses the nodes of the cluster. -/
structure Addresses (script : Script) (cluster : KahunaCluster) : Prop where
  stsName : script.stsName = stsName cluster
  peerDomain : script.peerDomain = peerDomain cluster
  raftPort : script.raftPort = (ports cluster).raft

theorem Addresses.mem_peers {script : Script} {cluster : KahunaCluster}
    (h : Addresses script cluster) {replicas o : Nat} {e : String} :
    e ∈ peers script replicas o ↔ ∃ i < replicas, i ≠ o ∧ raftEndpoint cluster i = e := by
  have hpeers : peers script replicas o = peers (entrypointScript cluster) replicas o := by
    simp only [peers, entrypointScript, h.stsName, h.peerDomain, h.raftPort]
  rw [hpeers]
  exact KahunaOperator.mem_peers

/-- The step lemma: what one founder is given. -/
theorem seesFounders_iff {script : Script} {cluster : KahunaCluster} {topo : Topology} {o : Nat}
    {l : Launch} (haddr : Addresses script cluster) (hfounder : o < topo.bootstrapSize)
    (hpeers : l.initialCluster = peers script topo.replicas o) :
    SeesFounders cluster topo.bootstrapSize o l ↔ NamesFounders topo o := by
  have hseen : ∀ i, (raftEndpoint cluster i ∈ l.initialCluster ∨
      raftEndpoint cluster i = raftEndpoint cluster o) ↔ i < topo.replicas ∨ i = o := by
    intro i
    rw [hpeers, haddr.mem_peers]
    constructor
    · rintro (⟨j, hj, _, heq⟩ | heq)
      · rw [raftEndpoint_inj heq] at hj
        exact Or.inl hj
      · exact Or.inr (raftEndpoint_inj heq)
    · rintro (hi | rfl)
      · by_cases ho : i = o
        · exact Or.inr (by rw [ho])
        · exact Or.inl ⟨i, hi, ho, rfl⟩
      · exact Or.inr rfl
  constructor
  · intro h
    -- Compare the two sets at the two sizes and at the last founder.
    have hat : ∀ i, (i < topo.replicas ∨ i = o) ↔ i < topo.bootstrapSize := by
      intro i
      rw [← hseen, h]
      constructor
      · rintro ⟨j, hj, heq⟩
        rw [raftEndpoint_inj heq] at hj
        exact hj
      · intro hi
        exact ⟨i, hi, rfl⟩
    have hreplicas := hat topo.replicas
    have hbootstrap := hat topo.bootstrapSize
    have hlast := hat (topo.bootstrapSize - 1)
    have hnext := hat (topo.replicas + 1)
    unfold NamesFounders
    omega
  · intro h e
    constructor
    · rintro (he | rfl)
      · rw [hpeers, haddr.mem_peers] at he
        obtain ⟨i, hi, _, rfl⟩ := he
        exact ⟨i, by unfold NamesFounders at h; omega, rfl⟩
      · exact ⟨o, hfounder, rfl⟩
    · rintro ⟨i, hi, rfl⟩
      refine (hseen i).mpr ?_
      unfold NamesFounders at h
      omega

/-! ## Two founders of one run -/

/-- An edit of `spec.replicas` and of nothing else. -/
def EditsOnlyReplicas (t : Transition World Event) : Prop :=
  ∀ spec, t.event = .edit spec → spec = { t.before.cluster.spec with replicas := spec.replicas }

/-- Nodes keep their addresses, and the ConfigMap, if any, carries them and the
pinned size. -/
structure Rendered (origin : KahunaCluster) (w : World) : Prop where
  name : w.cluster.name = origin.name
  ns : w.cluster.ns = origin.ns
  ports : w.cluster.spec.ports = origin.spec.ports
  accepted : w.cluster.spec.Accepted
  config : ∀ cm, w.config = some cm → Addresses cm.script origin ∧
    cm.topology.bootstrapSize = w.cluster.status.bootstrapSize ∧
    w.cluster.status.bootstrapSize ≠ 0

/-- What a cluster with the addresses of `origin` renders addresses its nodes. -/
theorem addresses_of_origin {origin cluster : KahunaCluster} (hname : cluster.name = origin.name)
    (hns : cluster.ns = origin.ns) (hports : cluster.spec.ports = origin.spec.ports) :
    Addresses (entrypointScript cluster) origin := by
  refine ⟨hname, ?_, ?_⟩
  · simp only [entrypointScript, KahunaOperator.peerDomain, peerServiceName, hname, hns]
  · simp only [entrypointScript, KahunaOperator.ports, hports]

theorem pinBootstrapSize_ne_zero {cluster : KahunaCluster} (h : cluster.spec.Accepted) :
    (pinBootstrapSize cluster).status.bootstrapSize ≠ 0 := by
  unfold pinBootstrapSize
  split
  · exact Nat.ne_of_gt (desiredReplicas_pos h)
  · next hset => exact hset

theorem Rendered.pass {origin : KahunaCluster} {w : World} (h : Rendered origin w)
    (inp : PassInput) : Rendered origin (pass inp w) := by
  have hpassed := pass_passed inp w
  obtain ⟨hspec, hname, hns, _⟩ := hpassed.frame
  refine ⟨hname.trans h.name, hns.trans h.ns, by rw [hspec]; exact h.ports,
    by rw [hspec]; exact h.accepted, ?_⟩
  intro cm hcm
  rcases hpassed.rendered with ⟨hkeep, hsize⟩ | ⟨hnew, hsize⟩
  · obtain ⟨haddr, htopology, hset⟩ := h.config cm (hkeep.symm.trans hcm)
    rcases hsize with hsize | hzero
    · rw [hsize]
      exact ⟨haddr, htopology, hset⟩
    · exact absurd hzero hset
  · rw [hnew] at hcm
    cases hcm
    rw [hsize]
    refine ⟨?_, rfl, pinBootstrapSize_ne_zero h.accepted⟩
    have hpin := pinBootstrapSize_name w.cluster
    exact addresses_of_origin (hpin.1.trans h.name) (hpin.2.trans h.ns)
      (by rw [pinBootstrapSize_spec]; exact h.ports)

theorem Rendered.step {origin : KahunaCluster} {a b : World} {e : Event} (h : Rendered origin a)
    (hedit : EditsOnlyReplicas ⟨a, e, b⟩) (hstep : Step a e b) : Rendered origin b := by
  have haccepted := accepted_step h.accepted hstep
  cases hstep with
  | edit _ =>
      refine ⟨h.name, h.ns, ?_, haccepted, h.config⟩
      have hports := congrArg KahunaClusterSpec.ports (hedit _ rfl)
      exact hports.trans h.ports
  | start _ _ _ => exact ⟨h.name, h.ns, h.ports, haccepted, h.config⟩
  | reclaim _ _ _ => exact ⟨h.name, h.ns, h.ports, haccepted, h.config⟩
  | pass inp => exact h.pass inp

theorem Created.rendered {w : World} (h : Created w) : Rendered w.cluster w where
  name := rfl
  ns := rfl
  ports := rfl
  accepted := h.accepted
  config := by
    intro cm hcm
    rw [h.config] at hcm
    cases hcm

def StartGiven (origin : KahunaCluster) (t : Transition World Event) : Prop :=
  ∀ o roster password launch wrote cm, t.event = .start o roster password launch wrote →
    t.before.config = some cm → o < cm.topology.bootstrapSize →
    cm.topology.bootstrapSize = t.before.cluster.status.bootstrapSize ∧
    t.before.cluster.status.bootstrapSize ≠ 0 ∧
    (SeesFounders origin cm.topology.bootstrapSize o launch ↔ NamesFounders cm.topology o)

theorem Rendered.startGiven {origin : KahunaCluster} {a b : World} {e : Event}
    (h : Rendered origin a) (hstep : Step a e b) : StartGiven origin ⟨a, e, b⟩ := by
  intro o roster password launch wrote cm hevent hcm hfounder
  cases hevent
  obtain ⟨haddr, htopology, hset⟩ := h.config cm hcm
  refine ⟨htopology, hset, ?_⟩
  cases hstep with
  | @start _ _ _ _ _ cm' _ hcm' hlaunch =>
      cases hcm.symm.trans hcm'
      exact seesFounders_iff haddr hfounder (entrypoint_at hlaunch).1

theorem starts_given {w w' : World} {ts : List (Transition World Event)} (hcreated : Created w)
    (hrun : Run Step w ts w') (hedits : ∀ t ∈ ts, EditsOnlyReplicas t) :
    ∀ t ∈ ts, StartGiven w.cluster t :=
  Run.forall_mem_of (fun h hC hs => Rendered.step h hC hs) (fun h _ hs => h.startGiven hs) hrun
    hcreated.rendered hedits

/-- Over every run from creation in which only `spec.replicas` is edited: any two
founders start under one founding size, and both are given the founding set
exactly when, at each start, the desired size then rendered names it. -/
theorem founders_agree_iff {w w' : World} {ts : List (Transition World Event)}
    (hcreated : Created w) (hrun : Run Step w ts w') (hedits : ∀ t ∈ ts, EditsOnlyReplicas t) :
    ∀ t₁ ∈ ts, ∀ t₂ ∈ ts, ∀ o₁ r₁ p₁ l₁ d₁ cm₁ o₂ r₂ p₂ l₂ d₂ cm₂,
      t₁.event = .start o₁ r₁ p₁ l₁ d₁ → t₂.event = .start o₂ r₂ p₂ l₂ d₂ →
      t₁.before.config = some cm₁ → t₂.before.config = some cm₂ →
      o₁ < cm₁.topology.bootstrapSize → o₂ < cm₂.topology.bootstrapSize →
      cm₁.topology.bootstrapSize = cm₂.topology.bootstrapSize ∧
      ((SeesFounders w.cluster cm₁.topology.bootstrapSize o₁ l₁ ∧
          SeesFounders w.cluster cm₂.topology.bootstrapSize o₂ l₂) ↔
        (NamesFounders cm₁.topology o₁ ∧ NamesFounders cm₂.topology o₂)) := by
  have hgiven := starts_given hcreated hrun hedits
  intro t₁ ht₁ t₂ ht₂ o₁ r₁ p₁ l₁ d₁ cm₁ o₂ r₂ p₂ l₂ d₂ cm₂ he₁ he₂ hcm₁ hcm₂ hf₁ hf₂
  obtain ⟨hB₁, hset₁, hsees₁⟩ := hgiven t₁ ht₁ o₁ r₁ p₁ l₁ d₁ cm₁ he₁ hcm₁ hf₁
  obtain ⟨hB₂, hset₂, hsees₂⟩ := hgiven t₂ ht₂ o₂ r₂ p₂ l₂ d₂ cm₂ he₂ hcm₂ hf₂
  refine ⟨?_, and_congr hsees₁ hsees₂⟩
  -- Both sizes are the one the run ends with.
  calc cm₁.topology.bootstrapSize
      = t₁.before.cluster.status.bootstrapSize := hB₁
    _ = w'.cluster.status.bootstrapSize := (bootstrapSize_final hrun ht₁ hset₁).symm
    _ = t₂.before.cluster.status.bootstrapSize := bootstrapSize_final hrun ht₂ hset₂
    _ = cm₂.topology.bootstrapSize := hB₂.symm

/-! ## Founders that disagree -/

theorem setData_fresh {w : World} (h : w.hasData = fun _ => false) (i : Nat) :
    w.setData i (w.hasData i || false) = w := by
  obtain ⟨cluster, sts, config, hasData⟩ := w
  subst h
  simp [World.setData]

def rerenderedWorld : World := pass creatingPass (editedWorld 3)

theorem bootWorld_fresh : bootWorld.hasData = fun _ => false :=
  (pass_passed creatingPass newWorld).frame.2.2.2

theorem rerenderedWorld_fresh : rerenderedWorld.hasData = fun _ => false :=
  (pass_passed creatingPass (editedWorld 3)).frame.2.2.2.trans bootWorld_fresh

theorem bootWorld_config :
    ∃ cm, bootWorld.config = some cm ∧ cm.topology = { replicas := 5, bootstrapSize := 5 } :=
  ⟨_, (pass_passed creatingPass newWorld).config_written rfl, rfl⟩

theorem rerenderedWorld_config :
    ∃ cm, rerenderedWorld.config = some cm ∧
      cm.topology = { replicas := 3, bootstrapSize := 5 } := by
  have hsize : (editedWorld 3).cluster.status.bootstrapSize = 5 := bootWorld_bootstrapSize
  exact pinned_topology (by decide) hsize rfl rfl

theorem rerenderedWorld_size : rerenderedWorld.size = 3 := by
  obtain ⟨sts, hsts, hsize⟩ := bootWorld_sts
  have hsts : (editedWorld 3).sts = some sts := hsts
  refine greenfield_pass_size hsts bootWorld_bootstrapping rfl rfl ?_ (fun _ => rfl)
  rw [hsize]
  decide

theorem fresh_start {w : World} {cm : ConfigMap} {i : Nat} (roster : Membership)
    (hfresh : w.hasData = fun _ => false) (hsize : i < w.size) (hcm : w.config = some cm)
    (hpeers : peers cm.script cm.topology.replicas i ≠ []) :
    ∃ launch, Step w (.start i roster none launch false) w := by
  obtain ⟨launch, hlaunch⟩ := entrypoint_starts cm.script w.cluster cm.topology i
    (!w.hasData i) none hpeers
  have hstep : Step w (.start i roster none launch false) _ := .start hsize hcm hlaunch
  rw [setData_fresh hfresh] at hstep
  exact ⟨launch, hstep⟩

/-- Two founders start on the topology the first pass rendered. -/
def sameTopology (l₀ l₁ : Launch) : List (Transition World Event) :=
  [⟨newWorld, .pass creatingPass, bootWorld⟩,
    ⟨bootWorld, .start 0 bootAnswers.membership none l₀ false, bootWorld⟩,
    ⟨bootWorld, .start 1 bootAnswers.membership none l₁ false, bootWorld⟩]

/-- The size is edited, and rendered, between the two starts. -/
def editBetween (l₀ l₁ : Launch) : List (Transition World Event) :=
  [⟨newWorld, .pass creatingPass, bootWorld⟩,
    ⟨bootWorld, .start 0 bootAnswers.membership none l₀ false, bootWorld⟩,
    ⟨bootWorld, .edit { replicas := some 3 }, editedWorld 3⟩,
    ⟨editedWorld 3, .pass creatingPass, rerenderedWorld⟩,
    ⟨rerenderedWorld, .start 1 bootAnswers.membership none l₁ false, rerenderedWorld⟩]

theorem sameTopology_edits (l₀ l₁ : Launch) : ∀ t ∈ sameTopology l₀ l₁, EditsOnlyReplicas t := by
  intro t ht spec hevent
  simp only [sameTopology, List.mem_cons, List.not_mem_nil, or_false] at ht
  rcases ht with rfl | rfl | rfl <;> cases hevent

theorem editBetween_edits (l₀ l₁ : Launch) : ∀ t ∈ editBetween l₀ l₁, EditsOnlyReplicas t := by
  intro t ht spec hevent
  simp only [editBetween, List.mem_cons, List.not_mem_nil, or_false] at ht
  rcases ht with rfl | rfl | rfl | rfl | rfl
  · cases hevent
  · cases hevent
  · cases hevent
    rw [bootWorld_spec]
    rfl
  · cases hevent
  · cases hevent

/-- Both founders are given the five endpoints. -/
theorem same_topology_agrees :
    ∃ l₀ l₁, Run Step newWorld (sameTopology l₀ l₁) bootWorld ∧
      SeesFounders newWorld.cluster 5 0 l₀ ∧ SeesFounders newWorld.cluster 5 1 l₁ := by
  obtain ⟨cm, hcm, htopology⟩ := bootWorld_config
  have hsize := bootWorld_size
  obtain ⟨l₀, h₀⟩ := fresh_start bootAnswers.membership bootWorld_fresh
    (by omega : 0 < bootWorld.size) hcm (by rw [htopology]; exact List.cons_ne_nil _ _)
  obtain ⟨l₁, h₁⟩ := fresh_start bootAnswers.membership bootWorld_fresh
    (by omega : 1 < bootWorld.size) hcm (by rw [htopology]; exact List.cons_ne_nil _ _)
  have hrun : Run Step newWorld (sameTopology l₀ l₁) bootWorld :=
    .cons (.pass _) (.cons h₀ (.cons h₁ (.nil _)))
  have hnames : ∀ o, NamesFounders cm.topology o := fun o => Or.inl (by rw [htopology])
  have hfounders : ∀ o < 5, o < cm.topology.bootstrapSize := fun o ho => by rwa [htopology]
  have hagree := (founders_agree_iff newWorld_created hrun (sameTopology_edits l₀ l₁)
    ⟨bootWorld, .start 0 bootAnswers.membership none l₀ false, bootWorld⟩ (by simp [sameTopology])
    ⟨bootWorld, .start 1 bootAnswers.membership none l₁ false, bootWorld⟩ (by simp [sameTopology])
    0 _ none l₀ false cm 1 _ none l₁ false cm rfl rfl hcm hcm (hfounders 0 (by decide))
    (hfounders 1 (by decide))).2.mpr ⟨hnames 0, hnames 1⟩
  rw [htopology] at hagree
  exact ⟨l₀, l₁, hrun, hagree⟩

/-- The first founder is given five endpoints and the second, started after the
edit and before the bootstrap is over, three. -/
theorem edit_between_starts_disagrees :
    ∃ l₀ l₁, Run Step newWorld (editBetween l₀ l₁) rerenderedWorld ∧
      rerenderedWorld.cluster.status.bootstrapped = false ∧
      SeesFounders newWorld.cluster 5 0 l₀ ∧ ¬ SeesFounders newWorld.cluster 5 1 l₁ := by
  obtain ⟨cm₀, hcm₀, htopology₀⟩ := bootWorld_config
  obtain ⟨cm₁, hcm₁, htopology₁⟩ := rerenderedWorld_config
  have hsize₀ := bootWorld_size
  have hsize₁ := rerenderedWorld_size
  obtain ⟨l₀, h₀⟩ := fresh_start bootAnswers.membership bootWorld_fresh
    (by omega : 0 < bootWorld.size) hcm₀ (by rw [htopology₀]; exact List.cons_ne_nil _ _)
  obtain ⟨l₁, h₁⟩ := fresh_start bootAnswers.membership rerenderedWorld_fresh
    (by omega : 1 < rerenderedWorld.size) hcm₁ (by rw [htopology₁]; exact List.cons_ne_nil _ _)
  have hedit : bootWorld.cluster.spec.AcceptedUpdate { replicas := some 3 } := by
    rw [bootWorld_spec]
    decide
  have hrun : Run Step newWorld (editBetween l₀ l₁) rerenderedWorld :=
    .cons (.pass _) (.cons h₀ (.cons (.edit hedit) (.cons (.pass _) (.cons h₁ (.nil _)))))
  have hgiven := starts_given newWorld_created hrun (editBetween_edits l₀ l₁)
  have hfirst := (hgiven ⟨bootWorld, .start 0 bootAnswers.membership none l₀ false, bootWorld⟩
    (by simp [editBetween]) 0 _ none l₀ false cm₀ rfl hcm₀ (by rw [htopology₀]; decide)).2.2
  have hsecond := (hgiven
    ⟨rerenderedWorld, .start 1 bootAnswers.membership none l₁ false, rerenderedWorld⟩
    (by simp [editBetween]) 1 _ none l₁ false cm₁ rfl hcm₁ (by rw [htopology₁]; decide)).2.2
  rw [htopology₀] at hfirst
  rw [htopology₁] at hsecond
  refine ⟨l₀, l₁, hrun, bootstrapping_of_no_pods rfl bootWorld_bootstrapping,
    hfirst.mpr (Or.inl rfl), ?_⟩
  intro hsees
  rcases hsecond.mp hsees with h | ⟨h, _⟩
  · cases h
  · cases h

end KahunaOperator
