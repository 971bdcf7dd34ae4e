/-
# `KahunaOperator.StatusAgain` — a status computed twice

`reconcileStatus` starts from the stored status and overwrites what it counts.  A
status it has already written is therefore not any status: the counts, the latch,
the phase and the four conditions say what the same reads would give
(`CountedStatus`, `Settles`), and computing it again gives it back.

    reconcileStatus (its own result) = its own result    (`reconcileStatus_again`)
-/
import KahunaOperator.Status

namespace KahunaOperator

/-! ## Conditions -/

/-- The condition is there, and it is the only one of its type. -/
def Settles (conditions : List Condition) (c : Condition) : Prop :=
  c ∈ conditions ∧ ∀ old ∈ conditions, old.type = c.type → old = c

theorem settles_set (conditions : List Condition) (c : Condition) :
    Settles (setStatusCondition conditions c) c := by
  unfold setStatusCondition
  split
  · next h =>
      obtain ⟨old, hmem, htype⟩ := List.any_eq_true.mp h
      refine ⟨List.mem_map.mpr ⟨old, hmem, if_pos (by simpa using htype)⟩, ?_⟩
      intro x hx hxtype
      obtain ⟨y, _, rfl⟩ := List.mem_map.mp hx
      split at hxtype
      · next hy => exact if_pos hy
      · next hy => exact absurd hxtype hy
  · next h =>
      refine ⟨List.mem_append_right _ (List.mem_singleton.mpr rfl), ?_⟩
      intro x hx hxtype
      rcases List.mem_append.mp hx with hx | hx
      · exact absurd (List.any_eq_true.mpr ⟨x, hx, by simpa using hxtype⟩) h
      · exact List.mem_singleton.mp hx

theorem Settles.set {conditions : List Condition} {c d : Condition} (h : Settles conditions c)
    (hne : d.type ≠ c.type) : Settles (setStatusCondition conditions d) c := by
  unfold setStatusCondition
  split
  · refine ⟨List.mem_map.mpr ⟨c, h.1, if_neg hne.symm⟩, ?_⟩
    intro x hx hxtype
    obtain ⟨y, hy, rfl⟩ := List.mem_map.mp hx
    split at hxtype
    · exact absurd hxtype hne
    · next hyne =>
        rw [if_neg hyne]
        exact h.2 y hy hxtype
  · refine ⟨List.mem_append_left _ h.1, ?_⟩
    intro x hx hxtype
    rcases List.mem_append.mp hx with hx | hx
    · exact h.2 x hx hxtype
    · rw [List.mem_singleton.mp hx] at hxtype
      exact absurd hxtype hne

/-- Setting a settled condition changes nothing. -/
theorem Settles.set_self {conditions : List Condition} {c : Condition} (h : Settles conditions c) :
    setStatusCondition conditions c = conditions := by
  unfold setStatusCondition
  rw [if_pos (List.any_eq_true.mpr ⟨c, h.1, by simp⟩)]
  conv_rhs => rw [← List.map_id conditions]
  refine List.map_congr_left ?_
  intro old hold
  split
  · next htype => exact (h.2 old hold htype).symm
  · rfl

/-- Conditions of different types, set one after the other, are all settled. -/
theorem settles_foldl {cs : List Condition} (hcs : (cs.map Condition.type).Nodup)
    (conditions : List Condition) :
    ∀ c ∈ cs, Settles (cs.foldl setStatusCondition conditions) c := by
  induction cs using List.reverseRecOn with
  | nil => exact fun c hc => absurd hc List.not_mem_nil
  | append_singleton cs d ih =>
      rw [List.map_append, List.nodup_append] at hcs
      obtain ⟨hcs, _, hnew⟩ := hcs
      intro c hc
      rw [List.foldl_append, List.foldl_cons, List.foldl_nil]
      rcases List.mem_append.mp hc with hc | hc
      · refine (ih hcs c hc).set ?_
        intro heq
        exact hnew _ (List.mem_map.mpr ⟨c, hc, rfl⟩) _ (List.mem_singleton.mpr rfl) heq.symm
      · rw [List.mem_singleton.mp hc]
        exact settles_set _ _

theorem foldl_settled {cs conditions : List Condition} (h : ∀ c ∈ cs, Settles conditions c) :
    cs.foldl setStatusCondition conditions = conditions := by
  induction cs with
  | nil => rfl
  | cons c cs ih =>
      rw [List.foldl_cons, (h c List.mem_cons_self).set_self]
      exact ih fun d hd => h d (List.mem_cons_of_mem _ hd)

theorem mem_setStatusCondition {conditions : List Condition} {c x : Condition}
    (h : x ∈ setStatusCondition conditions c) : x = c ∨ x ∈ conditions := by
  unfold setStatusCondition at h
  split at h
  · obtain ⟨y, hy, rfl⟩ := List.mem_map.mp h
    split
    · exact Or.inl rfl
    · exact Or.inr hy
  · exact (List.mem_append.mp h).symm.imp_left List.mem_singleton.mp

theorem mem_foldl_set {cs conditions : List Condition} {x : Condition}
    (h : x ∈ cs.foldl setStatusCondition conditions) : x ∈ cs ∨ x ∈ conditions := by
  induction cs generalizing conditions with
  | nil => exact Or.inr h
  | cons c cs ih =>
      rcases ih h with h | h
      · exact Or.inl (List.mem_cons_of_mem _ h)
      · rcases mem_setStatusCondition h with rfl | h
        · exact Or.inl List.mem_cons_self
        · exact Or.inr h

/-! ## The status -/

variable {cluster : KahunaCluster} {sts : StatefulSet} {pods : List Pod}
  {membership : Option Membership} {keystore : Bool × String}

/-- The counted status with its phase, before the conditions. -/
def phasedStatus (cluster : KahunaCluster) (sts : StatefulSet) (pods : List Pod)
    (membership : Option Membership) : KahunaClusterStatus :=
  let desired := desiredReplicas cluster
  let status := withBootstrapped membership desired
    (withRoster cluster pods membership (observedStatus cluster sts pods))
  { status with
    phase := phaseOf status desired membership.isSome
      (statusProgressing cluster status desired membership.isSome) }

theorem reconcileStatus_phased :
    reconcileStatus cluster sts pods membership keystore =
      withConditions cluster (desiredReplicas cluster) membership.isSome keystore
        (phasedStatus cluster sts pods membership) := rfl

def passConditions (cluster : KahunaCluster) (desired : Nat) (known : Bool)
    (keystore : Bool × String) (status : KahunaClusterStatus) : List Condition :=
  let condition (type : ConditionType) (active : Bool) (trueReason falseReason message : String) :
      Condition :=
    { type := type, status := active, reason := if active then trueReason else falseReason,
      message := message }
  [ condition .keystoreReady keystore.1 "KeystoreAvailable" "KeystorePending"
      (keystoreOrDefault keystore.2),
    condition .progressing (statusProgressing cluster status desired known)
      "Converging" "Converged" (progressMessage cluster status desired),
    condition .rosterConverged (statusConverged status desired known)
      "RosterMatchesSpec" "RosterDiffers"
      (rosterMessage known status.voters status.learners desired),
    condition .available (hasQuorum status.readyReplicas desired) "QuorumReady" "QuorumLost"
      (toString status.readyReplicas ++ " of " ++ toString desired ++ " nodes ready") ]

theorem withConditions_eq (cluster : KahunaCluster) (desired : Nat) (known : Bool)
    (keystore : Bool × String) (status : KahunaClusterStatus) :
    withConditions cluster desired known keystore status =
      { status with
        conditions := (passConditions cluster desired known keystore status).foldl
          setStatusCondition status.conditions } := rfl

theorem passConditions_types (cluster : KahunaCluster) (desired : Nat) (known : Bool)
    (keystore : Bool × String) (status : KahunaClusterStatus) :
    (passConditions cluster desired known keystore status).map Condition.type =
      [.keystoreReady, .progressing, .rosterConverged, .available] := rfl

theorem passConditions_congr (cluster : KahunaCluster) (desired : Nat) (known : Bool)
    (keystore : Bool × String) (status : KahunaClusterStatus) (conditions : List Condition) :
    passConditions cluster desired known keystore { status with conditions := conditions } =
      passConditions cluster desired known keystore status := rfl

/-- Setting the conditions again changes nothing. -/
theorem withConditions_again (cluster : KahunaCluster) (desired : Nat) (known : Bool)
    (keystore : Bool × String) (status : KahunaClusterStatus) :
    withConditions cluster desired known keystore
        (withConditions cluster desired known keystore status) =
      withConditions cluster desired known keystore status := by
  have hcs : ((passConditions cluster desired known keystore status).map Condition.type).Nodup := by
    rw [passConditions_types]
    decide
  have hsettled := foldl_settled (settles_foldl hcs status.conditions)
  simp only [withConditions_eq, passConditions_congr, hsettled]

theorem phasedStatus_conditions :
    (phasedStatus cluster sts pods membership).conditions = cluster.status.conditions := by
  have hlatched := withBootstrapped_eq membership (desiredReplicas cluster)
    (withRoster cluster pods membership (observedStatus cluster sts pods))
  refine (congrArg KahunaClusterStatus.conditions hlatched).trans ?_
  cases membership <;> rfl

/-- The status says what a pass with these reads would count. -/
structure CountedStatus (cluster : KahunaCluster) (sts : StatefulSet) (pods : List Pod)
    (membership : Option Membership) (s : KahunaClusterStatus) : Prop where
  generation : s.observedGeneration = cluster.generation
  replicas : s.replicas = sts.statusReplicas
  ready : s.readyReplicas = sts.readyReplicas
  image : imageRolledOut cluster sts pods = true → s.currentImage = cluster.spec.image
  partition : ∀ ru, sts.rollingUpdate = some ru → s.updatePartition = ru.partition
  roster : ∀ m, membership = some m → s.membershipVersion = m.membershipVersion ∧
    s.members = buildMemberStatus cluster m pods ∧ countRoles s.members = (s.voters, s.learners)
  latch : ∀ m, membership = some m →
    ¬(s.bootstrapped = false ∧ 0 < m.membershipVersion ∧ desiredReplicas cluster ≤ s.voters)
  phase : s.phase = phaseOf s (desiredReplicas cluster) membership.isSome
    (statusProgressing cluster s (desiredReplicas cluster) membership.isSome)

theorem countedStatus_phased :
    CountedStatus cluster sts pods membership (phasedStatus cluster sts pods membership) := by
  cases membership with
  | none =>
      refine ⟨rfl, rfl, rfl, ?_, ?_, nofun, nofun, rfl⟩
      · intro hrolled
        exact if_pos hrolled
      · intro ru hru
        simp only [phasedStatus, withRoster, withBootstrapped, observedStatus, hru]
  | some m =>
      have hlatched := withBootstrapped_eq (some m) (desiredReplicas cluster)
        (withRoster cluster pods (some m) (observedStatus cluster sts pods))
      refine ⟨?_, ?_, ?_, ?_, ?_, ?_, ?_, ?_⟩
      · exact congrArg KahunaClusterStatus.observedGeneration hlatched
      · exact congrArg KahunaClusterStatus.replicas hlatched
      · exact congrArg KahunaClusterStatus.readyReplicas hlatched
      · intro hrolled
        exact (congrArg KahunaClusterStatus.currentImage hlatched).trans (if_pos hrolled)
      · intro ru hru
        refine (congrArg KahunaClusterStatus.updatePartition hlatched).trans ?_
        simp only [withRoster, observedStatus, hru]
      · rintro _ ⟨⟩
        have hmembers := congrArg KahunaClusterStatus.members hlatched
        refine ⟨congrArg KahunaClusterStatus.membershipVersion hlatched, hmembers, ?_⟩
        exact (congrArg countRoles hmembers).trans (Prod.ext
          (congrArg KahunaClusterStatus.voters hlatched).symm
          (congrArg KahunaClusterStatus.learners hlatched).symm)
      · rintro _ ⟨⟩
        intro hdue
        simp only [phasedStatus, withBootstrapped] at hdue
        split at hdue
        · cases hdue.1
        · next hno => exact hno hdue
      · rfl

theorem CountedStatus.phased {s : KahunaClusterStatus}
    (h : CountedStatus cluster sts pods membership s)
    (hdesired : desiredReplicas { cluster with status := s } = desiredReplicas cluster) :
    phasedStatus { cluster with status := s } sts pods membership = s := by
  have hobserved : observedStatus { cluster with status := s } sts pods = s := by
    have himage : (if imageRolledOut { cluster with status := s } sts pods then cluster.spec.image
        else s.currentImage) = s.currentImage := by
      split
      · next hrolled => exact (h.image hrolled).symm
      · rfl
    simp only [observedStatus]
    rw [himage, ← h.generation, ← h.replicas, ← h.ready]
    cases hru : sts.rollingUpdate with
    | none => rfl
    | some ru =>
        exact congrArg (fun p => { s with updatePartition := p }) (h.partition ru hru).symm
  have hroster : withRoster { cluster with status := s } pods membership s = s := by
    cases hm : membership with
    | none => rfl
    | some m =>
        obtain ⟨hversion, hmembers, hroles⟩ := h.roster m hm
        have hsame : buildMemberStatus { cluster with status := s } m pods =
            buildMemberStatus cluster m pods := by
          have hjoin : joinMember { cluster with status := s } pods = joinMember cluster pods := rfl
          simp only [buildMemberStatus, hdesired, hjoin]
        simp only [withRoster, hsame, ← hversion, ← hmembers, hroles]
  have hlatch : withBootstrapped membership (desiredReplicas cluster) s = s := by
    cases hm : membership with
    | none => rfl
    | some m => exact if_neg (h.latch m hm)
  simp only [phasedStatus, hdesired, hobserved, hroster, hlatch]
  exact (congrArg (fun p => { s with phase := p }) h.phase).symm

/-- A status computed again from the same reads is the same. -/
theorem reconcileStatus_again :
    reconcileStatus
        { cluster with status := reconcileStatus cluster sts pods membership keystore }
        sts pods membership keystore =
      reconcileStatus cluster sts pods membership keystore := by
  generalize hs : reconcileStatus cluster sts pods membership keystore = s
  have hdesired : desiredReplicas { cluster with status := s } = desiredReplicas cluster := by
    subst hs
    exact desiredReplicas_congr rfl rfl
      (reconcileStatus_frame cluster sts pods membership keystore).2
  have hcounted : CountedStatus cluster sts pods membership s := by
    subst hs
    have h : CountedStatus cluster sts pods membership (phasedStatus cluster sts pods membership) :=
      countedStatus_phased
    exact ⟨h.generation, h.replicas, h.ready, h.image, h.partition, h.roster, h.latch, h.phase⟩
  rw [reconcileStatus_phased, hcounted.phased hdesired, hdesired]
  subst hs
  exact withConditions_again _ _ _ _ _

end KahunaOperator
