/-
# `KahunaOperator.Latch` — what the end of the bootstrap says

`Status.Bootstrapped` is set once, by the first pass that reads a seeded roster
with at least as many Voters as the desired size, and kept for good.  The test
counts Voters; it looks at no endpoint, and the desired size it compares with
need not be the founding size.  So the latch says that every founder is a Voter
only when few enough of the Voters are somebody else:

    strangers + founding size ≤ target
      ⟹  a pass that ends the bootstrap read every founder as a Voter       (`latch_sound`)

Beside that, in every run and without a condition: a founding size once set and
a bootstrap once ended stay as they are.
-/
import KahunaOperator.Founding

namespace KahunaOperator

open Lib (Run Transition)

/-! ## The founders in a roster -/

def foundingSize (cluster : KahunaCluster) : Nat :=
  (pinBootstrapSize cluster).status.bootstrapSize

def founders (cluster : KahunaCluster) : List String :=
  (List.range (foundingSize cluster)).map (raftEndpoint cluster)

/-- The Voters left over once every founder is taken out of the roster once:
foreign endpoints, later nodes, and second entries of a founder. -/
def strangers (cluster : KahunaCluster) (m : Membership) : List String :=
  (voterEndpoints m).diff (founders cluster)

def FoundersVote (cluster : KahunaCluster) (B : Nat) (m : Membership) : Prop :=
  ∀ i < B, ∃ mem ∈ m.members, mem.role = .voter ∧ mem.endpoint = raftEndpoint cluster i

theorem mem_voterEndpoints {m : Membership} {e : String} :
    e ∈ voterEndpoints m ↔ ∃ mem ∈ m.members, mem.role = .voter ∧ mem.endpoint = e := by
  constructor
  · intro h
    obtain ⟨k, hk, rfl⟩ := List.mem_map.mp h
    obtain ⟨hk, hvoter⟩ := List.mem_filter.mp hk
    obtain ⟨mem, hmem, rfl⟩ := List.mem_map.mp hk
    exact ⟨mem, hmem, eq_of_beq hvoter, rfl⟩
  · rintro ⟨mem, hmem, hvoter, rfl⟩
    refine List.mem_map.mpr ⟨mem.key, List.mem_filter.mpr ⟨List.mem_map_of_mem hmem, ?_⟩, rfl⟩
    exact beq_iff_eq.mpr hvoter

theorem length_voterEndpoints (m : Membership) :
    (voterEndpoints m).length = m.members.countP (·.role == .voter) := by
  unfold voterEndpoints
  rw [List.length_map, ← List.countP_eq_length_filter, List.countP_map]
  rfl

/-- The counting step: with few strangers, enough Voters are all the founders. -/
theorem foundersVote_of_count {cluster : KahunaCluster} {m : Membership}
    (h : (strangers cluster m).length + foundingSize cluster ≤
      m.members.countP (·.role == .voter)) :
    FoundersVote cluster (foundingSize cluster) m := by
  have hlength : (founders cluster).length = foundingSize cluster := by
    unfold founders
    rw [List.length_map, List.length_range]
  have hsub : (founders cluster).Subperm (voterEndpoints m) := by
    refine Lib.subperm_of_length_diff ?_
    rw [hlength, length_voterEndpoints]
    exact h
  intro i hi
  have hfounder : raftEndpoint cluster i ∈ founders cluster :=
    List.mem_map_of_mem (List.mem_range.mpr hi)
  exact mem_voterEndpoints.mp (hsub.subset hfounder)

/-! ## The pass that ends the bootstrap -/

/-- The strangers in the roster the pass reads, with the founding size, do not
exceed the size the cluster is driven to. -/
def FewStrangers (inp : PassInput) (w : World) : Prop :=
  ∀ m, inp.roster w = some m →
    (strangers w.cluster m).length + foundingSize w.cluster ≤ greenfieldTarget w.cluster

theorem foundersVote_of_ended {inp : PassInput} {w : World} (haccepted : w.cluster.spec.Accepted)
    (hfew : FewStrangers inp w) (hbefore : w.cluster.status.bootstrapped = false)
    (hafter : (pass inp w).cluster.status.bootstrapped = true) :
    ∃ m, inp.roster w = some m ∧
      FoundersVote w.cluster (pass inp w).cluster.status.bootstrapSize m := by
  rcases (pass_passed inp w).bootstrapped.mp hafter with
    hold | ⟨cl, m, hcl, hreached, hm, _, hvoters⟩
  · rw [hbefore] at hold
    cases hold
  · have hcount := hfew m hm
    rw [← autoscaled_greenfield haccepted hbefore hcl] at hcount
    rw [(pass_passed inp w).bootstrapSize_pinned
      (PassInput.reached_mono (by decide) hreached)]
    exact ⟨m, hm, foundersVote_of_count (hcount.trans hvoters)⟩

theorem bootstrapped_step {a b : World} {e : Event} (h : a.cluster.status.bootstrapped = true)
    (hstep : Step a e b) : b.cluster.status.bootstrapped = true := by
  cases hstep with
  | edit _ => exact h
  | pass inp => exact (pass_passed inp a).bootstrapped.mpr (Or.inl h)
  | start _ _ _ => exact h
  | reclaim _ _ _ => exact h

/-- Over every run from an accepted spec: a pass with few strangers that ends the
bootstrap read every founder as a Voter; and a founding size once set, and a
bootstrap once ended, are the same after every later step. -/
theorem latch_sound {w w' : World} {ts : List (Transition World Event)}
    (haccepted : w.cluster.spec.Accepted) (hrun : Run Step w ts w') :
    (∀ t ∈ ts, ∀ inp, t.event = .pass inp → FewStrangers inp t.before →
      t.before.cluster.status.bootstrapped = false → t.after.cluster.status.bootstrapped = true →
      ∃ m, inp.roster t.before = some m ∧
        FoundersVote t.before.cluster t.after.cluster.status.bootstrapSize m) ∧
    ∀ t ∈ ts,
      (t.before.cluster.status.bootstrapSize ≠ 0 →
        t.after.cluster.status.bootstrapSize = t.before.cluster.status.bootstrapSize ∧
        w'.cluster.status.bootstrapSize = t.before.cluster.status.bootstrapSize) ∧
      (t.before.cluster.status.bootstrapped = true →
        t.after.cluster.status.bootstrapped = true ∧
        w'.cluster.status.bootstrapped = true) := by
  constructor
  · refine Run.forall_mem (I := fun w => w.cluster.spec.Accepted) accepted_step ?_ hrun haccepted
    intro a e b haccepted hstep inp hevent hfew hbefore hafter
    cases hevent
    cases hstep.pass_inv
    exact foundersVote_of_ended haccepted hfew hbefore hafter
  · intro t ht
    constructor
    · intro hset
      exact Run.after_mem (fun h hs => bootstrapSize_step hset h hs) hrun ht rfl
    · intro hended
      exact Run.after_mem (I := fun w => w.cluster.status.bootstrapped = true)
        (fun h hs => bootstrapped_step h hs) hrun ht hended

/-! ## Bootstraps that end -/

/-- A cluster of fixed size ends its bootstrap on a seeded roster with that many
Voters. -/
theorem ended_of_voters {w : World} {cluster : KahunaCluster} {n : Nat} {a : Answers}
    (hn : 0 < n) (hfixed : w.cluster.spec.autoscaling = none)
    (hseeded : 0 < a.membership.membershipVersion)
    (hvoters : specReplicas w.cluster ≤ a.membership.members.countP (·.role == .voter)) :
    (pass { agreedEnv cluster n a with } w).cluster.status.bootstrapped = true := by
  obtain ⟨cl, hcl, hdesired⟩ := autoscaled_fixed (agreedEnv cluster n a) hfixed
  refine (pass_passed _ w).bootstrapped.mpr (Or.inr ⟨cl, a.membership, hcl, rfl, ?_, hseeded, ?_⟩)
  · exact congrArg Observed.membership (observe_agreedEnv cluster _ n a hn)
  · rw [hdesired]
    exact hvoters

theorem strangers_exact {cluster : KahunaCluster} {m : Membership}
    (h : ExactVoters cluster m (foundingSize cluster)) : strangers cluster m = [] := by
  have hperm : (voterEndpoints m).Perm (founders cluster) := voterEndpoints_exact h
  have hnodup : (voterEndpoints m).Nodup :=
    hperm.nodup_iff.mpr (Lib.nodup_map_range (raftEndpoint_injective cluster) _)
  refine List.eq_nil_iff_forall_not_mem.mpr ?_
  intro e he
  obtain ⟨hvoter, hstranger⟩ := hnodup.mem_sdiff_iff.mp he
  exact hstranger (hperm.mem_iff.mp hvoter)

theorem bootWorld_endpoint (i : Nat) :
    raftEndpoint bootWorld.cluster i = raftEndpoint (sizedCluster 5) i := by
  obtain ⟨hspec, hname, hns, _⟩ := (pass_passed creatingPass newWorld).frame
  exact raftEndpoint_congr hname hns (congrArg KahunaClusterSpec.ports hspec) i

theorem bootWorld_foundingSize : foundingSize bootWorld.cluster = 5 := by
  have hset : bootWorld.cluster.status.bootstrapSize ≠ 0 := by
    rw [bootWorld_bootstrapSize]
    decide
  unfold foundingSize
  rw [pinBootstrapSize_of_ne hset]
  exact bootWorld_bootstrapSize

theorem bootPass_fewStrangers : FewStrangers bootPass bootWorld := by
  intro m hm
  have hread : bootPass.roster bootWorld = some bootAnswers.membership :=
    congrArg Observed.membership (observe_agreedEnv (sizedCluster 5) _ 5 bootAnswers (by decide))
  cases hread.symm.trans hm
  have hexact : ExactVoters bootWorld.cluster bootAnswers.membership
      (foundingSize bootWorld.cluster) := by
    rw [bootWorld_foundingSize, exactVoters_congr bootWorld_endpoint]
    exact exactVoters_rosterOf (sizedCluster 5) 5 (by decide)
  rw [strangers_exact hexact, bootWorld_foundingSize]
  unfold greenfieldTarget specReplicas
  rw [bootWorld_spec]
  decide

/-- Five founders, five Voters: the latch is set and means what it says. -/
theorem five_voters_end_bootstrap :
    Run Step newWorld
      [⟨newWorld, .pass creatingPass, bootWorld⟩,
        ⟨bootWorld, .pass bootPass, pass bootPass bootWorld⟩] (pass bootPass bootWorld) ∧
    (pass bootPass bootWorld).cluster.status.bootstrapped = true ∧
    ∃ m, bootPass.roster bootWorld = some m ∧
      FoundersVote bootWorld.cluster (pass bootPass bootWorld).cluster.status.bootstrapSize m := by
  have hrun : Run Step newWorld
      [⟨newWorld, .pass creatingPass, bootWorld⟩,
        ⟨bootWorld, .pass bootPass, pass bootPass bootWorld⟩] (pass bootPass bootWorld) :=
    .cons (.pass _) (.cons (.pass _) (.nil _))
  have hfixed : bootWorld.cluster.spec.autoscaling = none := by rw [bootWorld_spec]; rfl
  have hended : (pass bootPass bootWorld).cluster.status.bootstrapped = true := by
    refine ended_of_voters (by decide) hfixed (by decide) ?_
    unfold specReplicas
    rw [bootWorld_spec]
    decide
  refine ⟨hrun, hended, ?_⟩
  exact (latch_sound newWorld_created.accepted hrun).1
    ⟨bootWorld, .pass bootPass, pass bootPass bootWorld⟩ (by simp) bootPass rfl
    bootPass_fewStrangers bootWorld_bootstrapping hended

def threeAnswers : Answers :=
  { membership := rosterOf (sizedCluster 5) 3 three_small, leave := { outcome := .committed } }

def threePass : PassInput := { agreedEnv (sizedCluster 5) 3 threeAnswers with }

/-- A cluster founded with five and edited to three ends its bootstrap on three
Voters: the fourth founder is in no roster. -/
theorem three_voters_end_bootstrap :
    Created newWorld ∧
    Run Step newWorld
      [⟨newWorld, .pass creatingPass, bootWorld⟩,
        ⟨bootWorld, .edit { replicas := some 3 }, editedWorld 3⟩,
        ⟨editedWorld 3, .pass threePass, pass threePass (editedWorld 3)⟩]
      (pass threePass (editedWorld 3)) ∧
    (editedWorld 3).cluster.status.bootstrapped = false ∧
    (pass threePass (editedWorld 3)).cluster.status.bootstrapped = true ∧
    (pass threePass (editedWorld 3)).cluster.status.bootstrapSize = 5 ∧
    ∃ m, threePass.roster (editedWorld 3) = some m ∧
      ¬ FoundersVote (editedWorld 3).cluster 5 m := by
  have hedit : bootWorld.cluster.spec.AcceptedUpdate { replicas := some 3 } := by
    rw [bootWorld_spec]
    decide
  have hsize : (editedWorld 3).cluster.status.bootstrapSize = 5 := bootWorld_bootstrapSize
  refine ⟨newWorld_created, .cons (.pass _) (.cons (.edit hedit) (.cons (.pass _) (.nil _))),
    bootWorld_bootstrapping, ended_of_voters (by decide) rfl (by decide) (by decide),
    bootstrapSize_step (by decide) hsize (.pass threePass), threeAnswers.membership, ?_, ?_⟩
  · exact congrArg Observed.membership
      (observe_agreedEnv (sizedCluster 5) _ 3 threeAnswers (by decide))
  · intro hvote
    obtain ⟨mem, hmem, _, hendpoint⟩ := hvote 3 (by decide)
    obtain ⟨i, hi, rfl⟩ := List.mem_map.mp hmem
    have hthree := raftEndpoint_inj (hendpoint.trans (editedWorld_endpoint 3 3))
    rw [hthree] at hi
    exact absurd hi (by decide)

end KahunaOperator
