/-
# `KahunaOperator.MemberTable` — the roster joined to its pods

`buildMemberStatus` of `internal/controller/membership.go` turns the committed
roster into `status.members`.  An entry finds its pod through a map from endpoints
to pod names, and that map is filled for a guessed range of ordinals:

    0  ≤  ordinal  <  number of pods listed + desired size

The guess covers every listed pod as long as the list has no gaps below it.  While
a cluster shrinks, the ordinals above the desired size are still running and still
members, and a list that lacks some of the lower pods makes the range too short:

    every member is joined to its pod  ⟺  no listed pod of a member has an ordinal
                                          beyond the range        (`member_table_iff`)

An entry that is not joined has no pod name, and is shown not ready.  By the
comment on `podName` that is "how an orphaned roster entry shows up".
-/
import KahunaOperator.Agreed
import KahunaOperator.Entrypoint

namespace KahunaOperator

/-! ## What the table keeps -/

def Member.copied (mem : Member) : String × Int × Role × Int :=
  (mem.endpoint, mem.nodeID, mem.role, mem.joinedVersion)

def MemberStatus.copied (st : MemberStatus) : String × Int × Role × Int :=
  (st.endpoint, st.nodeID, st.role, st.joinedVersion)

/-- One entry for each of the roster, with its fields, by endpoint. -/
structure KeepsRoster (m : Membership) (table : List MemberStatus) : Prop where
  entries : (table.map MemberStatus.copied).Perm (m.members.map Member.copied)
  sorted : table.Pairwise fun a b => a.endpoint ≤ b.endpoint

/-- An entry of an ordinal whose pod is listed names the pod and says whether it is
ready. -/
def JoinsPods (cluster : KahunaCluster) (pods : List Pod) (table : List MemberStatus) : Prop :=
  ∀ st ∈ table, ∀ o, ∀ p ∈ pods, st.endpoint = raftEndpoint cluster o →
    p.name = podName cluster o → st.podName = podName cluster o ∧ st.ready = podIsReady p

section Join
variable {cluster : KahunaCluster} {pods : List Pod} {n o : Nat} {mem : Member}

theorem joinMember_copied (cluster : KahunaCluster) (pods : List Pod) (n : Nat) (mem : Member) :
    (joinMember cluster pods n mem).copied = mem.copied := by
  unfold joinMember
  split <;> rfl

theorem joinMember_endpoint (cluster : KahunaCluster) (pods : List Pod) (n : Nat)
    (mem : Member) : (joinMember cluster pods n mem).endpoint = mem.endpoint :=
  congrArg Prod.fst (joinMember_copied cluster pods n mem)

theorem mergeSort_sorted (table : List MemberStatus) :
    (table.mergeSort fun a b => decide (a.endpoint ≤ b.endpoint)).Pairwise
      fun a b => a.endpoint ≤ b.endpoint := by
  have hsorted : (table.mergeSort fun a b => decide (a.endpoint ≤ b.endpoint)).Pairwise
      fun a b => decide (a.endpoint ≤ b.endpoint) = true := by
    refine List.pairwise_mergeSort ?_ ?_ table
    · intro a b c hab hbc
      exact decide_eq_true (String.le_trans (of_decide_eq_true hab) (of_decide_eq_true hbc))
    · intro a b
      simpa using String.le_total a.endpoint b.endpoint
  refine hsorted.imp ?_
  intro a b hab
  exact of_decide_eq_true hab

theorem buildMemberStatus_keeps (cluster : KahunaCluster) (m : Membership) (pods : List Pod) :
    KeepsRoster m (buildMemberStatus cluster m pods) := by
  refine ⟨?_, mergeSort_sorted _⟩
  refine ((List.mergeSort_perm _ _).map MemberStatus.copied).trans (List.Perm.of_eq ?_)
  rw [List.map_map]
  refine List.map_congr_left ?_
  intro mem _
  exact joinMember_copied cluster pods _ mem

/-! ## Who is joined -/

theorem find_endpoint (ho : o < n) :
    (List.range n).find? (fun i => raftEndpoint cluster i == raftEndpoint cluster o) = some o := by
  rw [List.find?_range_eq_some]
  refine ⟨beq_self_eq_true _, List.mem_range.mpr ho, ?_⟩
  intro i hi
  simp only [Bool.not_eq_true', beq_eq_false_iff_ne]
  intro hsame
  exact absurd (raftEndpoint_inj hsame) (Nat.ne_of_lt hi)

theorem find_endpoint_none (ho : n ≤ o) :
    (List.range n).find? (fun i => raftEndpoint cluster i == raftEndpoint cluster o) = none := by
  rw [List.find?_eq_none]
  intro i hi
  rw [beq_iff_eq]
  intro hsame
  have hi := List.mem_range.mp hi
  rw [raftEndpoint_inj hsame] at hi
  omega

theorem find_pod (hnames : (pods.map (·.name)).Nodup) {p : Pod} (hp : p ∈ pods) :
    pods.reverse.find? (·.name == p.name) = some p := by
  have hsome : (pods.reverse.find? (·.name == p.name)).isSome = true := by
    rw [List.find?_isSome]
    exact ⟨p, List.mem_reverse.mpr hp, beq_self_eq_true _⟩
  obtain ⟨q, hq⟩ := Option.isSome_iff_exists.mp hsome
  have hname : q.name = p.name := by simpa using List.find?_some hq
  have hmem : q ∈ pods := List.mem_reverse.mp (List.mem_of_find?_eq_some hq)
  rw [hq, List.inj_on_of_nodup_map hnames hmem hp hname]

theorem joinMember_joined (hnames : (pods.map (·.name)).Nodup) {p : Pod} (hp : p ∈ pods)
    (hendpoint : mem.endpoint = raftEndpoint cluster o) (hname : p.name = podName cluster o)
    (ho : o < n) :
    (joinMember cluster pods n mem).podName = podName cluster o ∧
      (joinMember cluster pods n mem).ready = podIsReady p := by
  have hpod := find_pod hnames hp
  rw [hname] at hpod
  simp only [joinMember, hendpoint, find_endpoint ho, hpod, Option.map_some, Option.getD_some,
    and_self]

theorem joinMember_orphan (hendpoint : mem.endpoint = raftEndpoint cluster o) (ho : n ≤ o) :
    (joinMember cluster pods n mem).podName = "" ∧
      (joinMember cluster pods n mem).ready = false := by
  simp only [joinMember, hendpoint, find_endpoint_none ho, and_self]

end Join

/-! ## The table -/

section Table
variable {cluster : KahunaCluster} {m : Membership} {pods : List Pod}

/-- The range of the loop, with the additions of the source taken together. -/
theorem ordinals_eq (pods : List Pod) (desired : Nat) :
    int32 (int32 pods.length + desired) = int32 (pods.length + desired) := by
  unfold int32
  exact Int.bmod_add_bmod

/-- Every listed pod of a member has an ordinal the loop gets to: one below the
number of pods and the desired size together, as `int32` adds them. -/
def InRange (cluster : KahunaCluster) (m : Membership) (pods : List Pod) : Prop :=
  ∀ mem ∈ m.members, ∀ o, ∀ p ∈ pods, mem.endpoint = raftEndpoint cluster o →
    p.name = podName cluster o → (o : Int) < int32 (pods.length + desiredReplicas cluster)

theorem mem_buildMemberStatus {st : MemberStatus} :
    st ∈ buildMemberStatus cluster m pods ↔ ∃ mem ∈ m.members,
      joinMember cluster pods (int32 (pods.length + desiredReplicas cluster)).toNat mem = st := by
  simp only [buildMemberStatus, List.mem_mergeSort, List.mem_map, ordinals_eq]

theorem joinsPods_iff (hnames : (pods.map (·.name)).Nodup) :
    JoinsPods cluster pods (buildMemberStatus cluster m pods) ↔ InRange cluster m pods := by
  constructor
  · intro hjoins mem hmem o p hp hendpoint hname
    by_contra hout
    obtain ⟨st, hst⟩ : ∃ st, joinMember cluster pods
        (int32 (pods.length + desiredReplicas cluster)).toNat mem = st := ⟨_, rfl⟩
    have hjoined := hjoins st (mem_buildMemberStatus.mpr ⟨mem, hmem, hst⟩) o p hp
    rw [← hst, joinMember_endpoint, (joinMember_orphan hendpoint (by omega)).1] at hjoined
    exact podName_ne_empty cluster o (hjoined hendpoint hname).1.symm
  · intro hrange st hst o p hp hendpoint hname
    obtain ⟨mem, hmem, rfl⟩ := mem_buildMemberStatus.mp hst
    rw [joinMember_endpoint] at hendpoint
    have ho := hrange mem hmem o p hp hendpoint hname
    exact joinMember_joined hnames hp hendpoint hname (by omega)

/-- For every roster and every list of pods with names of their own: the table keeps
the roster and joins every entry whose pod is listed exactly when the loop's range
reaches the ordinals of those pods. -/
theorem member_table_iff (hnames : (pods.map (·.name)).Nodup) :
    (KeepsRoster m (buildMemberStatus cluster m pods) ∧
        JoinsPods cluster pods (buildMemberStatus cluster m pods)) ↔
      InRange cluster m pods := by
  rw [joinsPods_iff hnames]
  exact and_iff_right (buildMemberStatus_keeps cluster m pods)

end Table

/-! ## Six nodes on the way to three -/

/-- A cluster scaled from six nodes to three, all of them still members. -/
def shrinkingCluster : KahunaCluster :=
  { name := "kahuna", ns := "kv", spec := { replicas := some 3 }, status := {} }

def sixMembers : Membership := rosterOf shrinkingCluster 6 (by decide)

/-- With every pod listed, every member is joined. -/
theorem all_listed_joined :
    JoinsPods shrinkingCluster (readyPods shrinkingCluster 6)
      (buildMemberStatus shrinkingCluster sixMembers (readyPods shrinkingCluster 6)) := by
  have hnames : ((readyPods shrinkingCluster 6).map (·.name)).Nodup := by decide +kernel
  have hrange : InRange shrinkingCluster sixMembers (readyPods shrinkingCluster 6) := by
    rintro mem hmem o p _ hendpoint _
    obtain ⟨i, hi, rfl⟩ := List.mem_map.mp hmem
    have ho : i = o := raftEndpoint_inj hendpoint
    have hsix : i < 6 := List.mem_range.mp hi
    have hreach : int32 ((readyPods shrinkingCluster 6).length +
        desiredReplicas shrinkingCluster) = 9 := by decide
    rw [hreach]
    omega
  exact ((member_table_iff hnames).mpr hrange).2

/-- The pods of the two highest ordinals, all that is listed. -/
def highestPods : List Pod :=
  [readyPod shrinkingCluster 4, readyPod shrinkingCluster 5]

/-- The range is then the ordinals below five: the member of ordinal 5 is shown as an
orphan that is not ready, while its pod is listed and ready. -/
theorem highest_pod_orphaned :
    (highestPods.map (·.name)).Nodup ∧
      (∃ p ∈ highestPods, p.name = podName shrinkingCluster 5 ∧ podIsReady p = true) ∧
      (∃ st ∈ buildMemberStatus shrinkingCluster sixMembers highestPods,
        st.endpoint = raftEndpoint shrinkingCluster 5 ∧ st.podName = "" ∧ st.ready = false) ∧
      ¬ JoinsPods shrinkingCluster highestPods
        (buildMemberStatus shrinkingCluster sixMembers highestPods) := by
  have hnames : (highestPods.map (·.name)).Nodup := by decide +kernel
  have hpod : readyPod shrinkingCluster 5 ∈ highestPods := by simp [highestPods]
  have hmem : (⟨raftEndpoint shrinkingCluster 5, 6, .voter, 0⟩ : Member) ∈ sixMembers.members :=
    List.mem_map.mpr ⟨5, by decide, rfl⟩
  have hreach : int32 (highestPods.length + desiredReplicas shrinkingCluster) = 5 := by decide
  refine ⟨hnames, ⟨_, hpod, rfl, by decide⟩, ?_, ?_⟩
  · refine ⟨_, mem_buildMemberStatus.mpr ⟨_, hmem, rfl⟩, joinMember_endpoint _ _ _ _, ?_⟩
    exact joinMember_orphan rfl (by rw [hreach]; decide)
  · rw [joinsPods_iff hnames]
    intro hrange
    have hfive := hrange _ hmem 5 _ hpod rfl rfl
    rw [hreach] at hfive
    exact absurd hfive (by decide)

end KahunaOperator
