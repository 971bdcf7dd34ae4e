/-
# `KahunaOperator.CurrentImage` — which image `status.currentImage` names

`reconcileStatus` of `internal/controller/kahunacluster_controller.go` moves
`currentImage` only when `imageRolledOut` says that "every node the StatefulSet now
has runs the cluster's image and is ready".  The check walks over the pods in the
order they are listed, passes over those above the size, and finds a node without a
pod by counting.

    imageRolledOut    ⟺  every ordinal below the size, of which there is at least
                          one, has its pod ready, staying and on the spec's image
                                                             (`imageRolledOut_iff_nodes`)
    currentImage      =   the spec's image of the last call that found it so, or
                          what it was at the start          (`current_image_names_nodes`)

over every run of calls, with the spec edited and the rest of the status written in
between.
-/
import KahunaOperator.Agreed
import KahunaOperator.BackupGate
import KahunaOperator.Lib.Run

namespace KahunaOperator

/-! ## The check -/

structure Runs (image : String) (pod : Pod) : Prop where
  ready : podIsReady pod = true
  staying : pod.deleting = false
  image : podImage pod = image

/-- What `imageRolledOut` tests of any list: as many pods below the size as the size,
and all of them on the image. -/
structure RolledOut (cluster : KahunaCluster) (sts : StatefulSet) (pods : List Pod) : Prop where
  some_node : 0 < sts.size
  count : (podsBelow pods sts.size).length = sts.size
  runs : ∀ p ∈ podsBelow pods sts.size, Runs cluster.spec.image p

theorem imageRolledOut_iff {cluster : KahunaCluster} {sts : StatefulSet} {pods : List Pod} :
    imageRolledOut cluster sts pods = true ↔ RolledOut cluster sts pods := by
  simp only [imageRolledOut, Bool.and_eq_true, List.all_eq_true, decide_eq_true_eq, beq_iff_eq,
    Bool.not_eq_true']
  constructor
  · rintro ⟨⟨hall, hsome⟩, hcount⟩
    refine ⟨hsome, hcount, ?_⟩
    intro p hp
    obtain ⟨⟨hstaying, hready⟩, himage⟩ := hall p hp
    exact ⟨hready, hstaying, himage⟩
  · rintro ⟨hsome, hcount, hruns⟩
    refine ⟨⟨?_, hsome⟩, hcount⟩
    intro p hp
    exact ⟨⟨(hruns p hp).staying, (hruns p hp).ready⟩, (hruns p hp).image⟩

/-- Every node of the StatefulSet, and there is one, runs the spec's image. -/
structure NodesRun (cluster : KahunaCluster) (sts : StatefulSet) (pods : List Pod) : Prop where
  some_node : 1 ≤ sts.size
  runs : ∀ i < sts.size, ∃ p ∈ pods, p.name = podName cluster i ∧ Runs cluster.spec.image p

section Named
variable {cluster : KahunaCluster} {sts : StatefulSet} {pods : List Pod}

theorem NamedPods.eq_of_name (h : NamedPods cluster pods) {p q : Pod} (hp : p ∈ pods)
    (hq : q ∈ pods) (hname : p.name = q.name) : p = q :=
  List.inj_on_of_nodup_map h.distinct hp hq hname

theorem imageRolledOut_iff_nodes (h : NamedPods cluster pods) (hsize : sts.size < 2 ^ 31) :
    imageRolledOut cluster sts pods = true ↔ NodesRun cluster sts pods := by
  rw [imageRolledOut_iff]
  constructor
  · rintro ⟨hsome, hcount, hruns⟩
    refine ⟨hsome, ?_⟩
    intro i hi
    obtain ⟨p, hp, hname⟩ := (h.count hsize).2 (le_of_eq hcount.symm) i hi
    exact ⟨p, ((h.mem_podsBelow hsize).mp hp).1, hname, hruns p hp⟩
  · rintro ⟨hsome, hruns⟩
    have hall : ∀ i < sts.size, ∃ p ∈ pods, p.name = podName cluster i := by
      intro i hi
      obtain ⟨p, hp, hname, _⟩ := hruns i hi
      exact ⟨p, hp, hname⟩
    refine ⟨hsome, h.length_podsBelow hsize hall, ?_⟩
    intro p hp
    -- A pod below the size is the one its ordinal has, for names are not repeated.
    obtain ⟨hmem, i, hi, hname⟩ := (h.mem_podsBelow hsize).mp hp
    obtain ⟨q, hq, hqname, hqruns⟩ := hruns i hi
    rw [h.eq_of_name hmem hq (hname.trans hqname.symm)]
    exact hqruns

end Named

/-! ## Runs of calls -/

/-- What happens to the cluster between its creation and its end, as far as this
field goes: calls of `reconcileStatus`, and edits of the spec and of the rest of the
status. -/
inductive StatusEvent where
  | call (sts : StatefulSet) (pods : List Pod) (membership : Option Membership)
      (keystore : Bool × String)
  | editSpec (spec : KahunaClusterSpec)
  | writeStatus (status : KahunaClusterStatus)

/-- A call sees the pods of a StatefulSet, whose size is an `int32`. -/
inductive StatusStep : KahunaCluster → StatusEvent → KahunaCluster → Prop
  | call {cluster : KahunaCluster} {sts : StatefulSet} {pods : List Pod}
      {membership : Option Membership} {keystore : Bool × String} :
      NamedPods cluster pods → sts.size < 2 ^ 31 →
      StatusStep cluster (.call sts pods membership keystore)
        { cluster with status := reconcileStatus cluster sts pods membership keystore }
  | editSpec {cluster : KahunaCluster} (spec : KahunaClusterSpec) :
      StatusStep cluster (.editSpec spec) { cluster with spec := spec }
  | writeStatus {cluster : KahunaCluster} {status : KahunaClusterStatus} :
      status.currentImage = cluster.status.currentImage →
      StatusStep cluster (.writeStatus status) { cluster with status := status }

def FindsNodesRun (t : Lib.Transition KahunaCluster StatusEvent) : Prop :=
  ∃ sts pods membership keystore, t.event = .call sts pods membership keystore ∧
    NodesRun t.before sts pods

theorem findsNodesRun_call {a b : KahunaCluster} {sts : StatefulSet} {pods : List Pod}
    {membership : Option Membership} {keystore : Bool × String} :
    FindsNodesRun ⟨a, .call sts pods membership keystore, b⟩ ↔ NodesRun a sts pods := by
  constructor
  · rintro ⟨_, _, _, _, ⟨⟩, hruns⟩
    exact hruns
  · intro hruns
    exact ⟨sts, pods, membership, keystore, rfl, hruns⟩

theorem reconcileStatus_currentImage (cluster : KahunaCluster) (sts : StatefulSet)
    (pods : List Pod) (membership : Option Membership) (keystore : Bool × String) :
    (reconcileStatus cluster sts pods membership keystore).currentImage =
      if imageRolledOut cluster sts pods then cluster.spec.image
      else cluster.status.currentImage := by
  have hrw : (reconcileStatus cluster sts pods membership keystore).currentImage =
      (withBootstrapped membership (desiredReplicas cluster)
        (withRoster cluster pods membership (observedStatus cluster sts pods))).currentImage := rfl
  rw [hrw, withBootstrapped_eq]
  cases membership with
  | none => rfl
  | some m => rfl

theorem StatusStep.currentImage {a b : KahunaCluster} {e : StatusEvent} (h : StatusStep a e b) :
    (FindsNodesRun ⟨a, e, b⟩ ∧ b.status.currentImage = a.spec.image) ∨
      (¬ FindsNodesRun ⟨a, e, b⟩ ∧ b.status.currentImage = a.status.currentImage) := by
  cases h with
  | @call sts pods membership keystore hpods hsize =>
      rw [findsNodesRun_call, ← imageRolledOut_iff_nodes hpods hsize]
      by_cases hrolled : imageRolledOut a sts pods = true
      · refine Or.inl ⟨hrolled, ?_⟩
        rw [reconcileStatus_currentImage, if_pos hrolled]
      · refine Or.inr ⟨hrolled, ?_⟩
        rw [reconcileStatus_currentImage, if_neg hrolled]
  | editSpec spec =>
      refine Or.inr ⟨?_, rfl⟩
      rintro ⟨_, _, _, _, ⟨⟩, _⟩
  | writeStatus hkept =>
      refine Or.inr ⟨?_, hkept⟩
      rintro ⟨_, _, _, _, ⟨⟩, _⟩

/-- The field remembers the last call that found every node on the image. -/
theorem currentImage_last {c c' : KahunaCluster}
    {ts : List (Lib.Transition KahunaCluster StatusEvent)} (h : Lib.Run StatusStep c ts c') :
    ((∀ t ∈ ts, ¬ FindsNodesRun t) ∧ c'.status.currentImage = c.status.currentImage) ∨
      Lib.Since (fun t => FindsNodesRun t ∧ c'.status.currentImage = t.before.spec.image)
        FindsNodesRun ts := by
  have hlaw := h.history (I := fun past a =>
    ((∀ t ∈ past, ¬ FindsNodesRun t) ∧ a.status.currentImage = c.status.currentImage) ∨
      Lib.Since (fun t => FindsNodesRun t ∧ a.status.currentImage = t.before.spec.image)
        FindsNodesRun past) ?_ [] (Or.inl ⟨by simp, rfl⟩)
  · exact hlaw
  · intro past a e b hpast hstep
    rcases hstep.currentImage with ⟨hfinds, himage⟩ | ⟨hnot, hkept⟩
    · exact Or.inr (Lib.Since.now ⟨hfinds, himage⟩)
    · rw [hkept]
      rcases hpast with ⟨hnone, hstart⟩ | hsince
      · refine Or.inl ⟨?_, hstart⟩
        intro t ht
        rcases List.mem_append.mp ht with ht | ht
        · exact hnone t ht
        · rw [List.mem_singleton.mp ht]
          exact hnot
      · exact Or.inr (hsince.snoc hnot)

/-- In every run: the field changes only in a call that finds every node of the
StatefulSet on the spec's image, and then to that image; every such call sets it; and
so it names the image of the last such call, or what it named at the start. -/
theorem current_image_names_nodes {c c' : KahunaCluster}
    {ts : List (Lib.Transition KahunaCluster StatusEvent)} (h : Lib.Run StatusStep c ts c') :
    (∀ t ∈ ts, t.after.status.currentImage ≠ t.before.status.currentImage →
        FindsNodesRun t ∧ t.after.status.currentImage = t.before.spec.image) ∧
      (∀ t ∈ ts, FindsNodesRun t → t.after.status.currentImage = t.before.spec.image) ∧
      (((∀ t ∈ ts, ¬ FindsNodesRun t) ∧ c'.status.currentImage = c.status.currentImage) ∨
        Lib.Since (fun t => FindsNodesRun t ∧ c'.status.currentImage = t.before.spec.image)
          FindsNodesRun ts) := by
  have hstep := h.forall_step (P := fun t =>
    (FindsNodesRun t ∧ t.after.status.currentImage = t.before.spec.image) ∨
      (¬ FindsNodesRun t ∧ t.after.status.currentImage = t.before.status.currentImage))
    fun hs => hs.currentImage
  refine ⟨?_, ?_, currentImage_last h⟩
  · intro t ht hchanged
    rcases hstep t ht with hset | ⟨_, hkept⟩
    · exact hset
    · exact absurd hkept hchanged
  · intro t ht hfinds
    rcases hstep t ht with ⟨_, hset⟩ | ⟨hnot, _⟩
    · exact hset
    · exact absurd hfinds hnot

/-! ## Three nodes on a new image -/

/-- A cluster whose image has just been raised. -/
def raisedCluster : KahunaCluster :=
  { name := "kahuna"
    ns := "kv"
    spec := { image := "kahunakv/kahuna:1.12.9" }
    status := { currentImage := "kahunakv/kahuna:1.12.8" } }

def podOn (image : String) (i : Nat) : Pod :=
  { readyPod raisedCluster i with containers := [{ name := containerName, image := image }] }

def raisedPods : List Pod := (List.range 3).map (podOn "kahunakv/kahuna:1.12.9")

/-- The call that finds all three on it names it. -/
theorem raised_image_named :
    (reconcileStatus raisedCluster { replicas := some 3 } raisedPods none
      (true, "")).currentImage = "kahunakv/kahuna:1.12.9" := by
  have hstep : StatusStep raisedCluster
      (.call { replicas := some 3 } raisedPods none (true, "")) _ :=
    .call (namedPods_range (fun _ => rfl) (by decide)) (by decide)
  have hruns : NodesRun raisedCluster { replicas := some 3 } raisedPods := by
    refine ⟨by decide, ?_⟩
    intro i hi
    refine ⟨podOn "kahunakv/kahuna:1.12.9" i, List.mem_map.mpr ⟨i, List.mem_range.mpr hi, rfl⟩,
      rfl, ?_⟩
    exact ⟨rfl, rfl, rfl⟩
  exact (current_image_names_nodes (Lib.Run.single hstep)).2.1 _ List.mem_cons_self
    (findsNodesRun_call.mpr hruns)

end KahunaOperator
