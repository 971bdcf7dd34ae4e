/-
# `KahunaOperator.BoundEdit` — an edited bound and the traffic of the old size

`decideAutoscale` first holds the stored size inside the bounds of the spec, and
then looks at the traffic.  What it looks at still belongs to the stored size:
the flag that says roster and ready pods have converged, the signals, and the
window that has been running since before the edit.

    stored size inside the bounds    it is kept, or moves by one
    stored size below minReplicas    minReplicas, and one more if growth is due there
    stored size above maxReplicas    maxReplicas, and one less if a shrink is due there

So the edit stands alone exactly when no step is due at the bound it names
(`bound_edit_alone_iff`).  Five converged and idle nodes whose `maxReplicas` is
lowered to four are sized to three by one pass (`lowered_max_steps_past`).
-/
import KahunaOperator.OneSize

namespace KahunaOperator

/-! ## A step due at a size -/

/-- At size `n`, traffic asks for more and has done so since `above`, for the whole
window; neither `maxReplicas` nor the replication cap is in the way. -/
def AutoscaleInput.GrowthDue (c : Float64) (i : AutoscaleInput) (above : Option Time)
    (n : Nat) : Prop :=
  ∃ ratio, i.Measured c.toRounding ratio ∧ i.tolerance c.toRounding < |c.sub ratio 1| ∧
    (n : Int) < c.conv ⌈c.mul n ratio⌉ ∧ n < i.spec.maxReplicas ∧
    ¬ (0 < i.growthCeiling ∧ i.growthCeiling ≤ n) ∧ i.upWindow ≤ i.now - above.getD i.now

/-- At size `n`, every configured signal is known and traffic has asked for less
since `below`, for the whole window; `minReplicas` is not in the way. -/
def AutoscaleInput.ShrinkDue (c : Float64) (i : AutoscaleInput) (below : Option Time)
    (n : Nat) : Prop :=
  ∃ ratio, i.Measured c.toRounding ratio ∧ i.tolerance c.toRounding < |c.sub ratio 1| ∧
    i.allKnown = true ∧ c.conv ⌈c.mul n ratio⌉ < (n : Int) ∧ i.spec.minReplicas < n ∧
    i.downWindow ≤ i.now - below.getD i.now

section Recommendation
variable {c : Float64} {i : AutoscaleInput} {n : Nat} {ratio : Rat}

theorem lt_recommended_iff (hlow : i.spec.minReplicas ≤ n) (hhigh : n ≤ i.spec.maxReplicas) :
    n < i.recommended c n ratio ↔
      i.tolerance c.toRounding < |c.sub ratio 1| ∧ (n : Int) < c.conv ⌈c.mul n ratio⌉ ∧
        n < i.spec.maxReplicas := by
  simp only [AutoscaleInput.recommended]
  by_cases hband : i.tolerance c.toRounding < |c.sub ratio 1|
  · simp only [hband, if_true, true_and]
    split <;> omega
  · simp only [hband, if_false, false_and, iff_false]
    split <;> omega

theorem recommended_lt_iff (hlow : i.spec.minReplicas ≤ n) (hhigh : n ≤ i.spec.maxReplicas) :
    i.recommended c n ratio < n ↔
      i.tolerance c.toRounding < |c.sub ratio 1| ∧ i.allKnown = true ∧
        c.conv ⌈c.mul n ratio⌉ < (n : Int) ∧ i.spec.minReplicas < n := by
  simp only [AutoscaleInput.recommended]
  by_cases hband : i.tolerance c.toRounding < |c.sub ratio 1|
  · simp only [hband, if_true, true_and]
    cases hknown : i.allKnown with
    | false =>
        simp only [and_true, Bool.false_eq_true, false_and, iff_false]
        split <;> omega
    | true =>
        simp only [Bool.true_eq_false, and_false, if_false, true_and]
        omega
  · simp only [hband, if_false, false_and, iff_false]
    split <;> omega

/-- A step is due exactly when a growth or a shrink is due at the size the decision
starts from, by the recorded windows. -/
theorem stepDue_iff (hbounds : i.spec.minReplicas ≤ i.spec.maxReplicas) :
    i.StepDue c ↔
      i.GrowthDue c (i.prev.getD {}).aboveTargetSince i.start.desiredReplicas ∨
        i.ShrinkDue c (i.prev.getD {}).belowTargetSince i.start.desiredReplicas := by
  obtain ⟨hlow, hhigh⟩ := start_bounds hbounds
  rw [← start_above, ← start_below]
  constructor
  · rintro ⟨ratio, hratio, ⟨hup, hcap, hwindow⟩ | ⟨hdown, hwindow⟩⟩
    · obtain ⟨hband, hscaled, hroom⟩ := (lt_recommended_iff hlow hhigh).mp hup
      exact Or.inl ⟨ratio, hratio, hband, hscaled, hroom, hcap, hwindow⟩
    · obtain ⟨hband, hknown, hscaled, hroom⟩ := (recommended_lt_iff hlow hhigh).mp hdown
      exact Or.inr ⟨ratio, hratio, hband, hknown, hscaled, hroom, hwindow⟩
  · rintro (⟨ratio, hratio, hband, hscaled, hroom, hcap, hwindow⟩ |
      ⟨ratio, hratio, hband, hknown, hscaled, hroom, hwindow⟩)
    · have hup := (lt_recommended_iff hlow hhigh).mpr ⟨hband, hscaled, hroom⟩
      exact ⟨ratio, hratio, Or.inl ⟨hup, hcap, hwindow⟩⟩
    · have hdown := (recommended_lt_iff hlow hhigh).mpr ⟨hband, hknown, hscaled, hroom⟩
      exact ⟨ratio, hratio, Or.inr ⟨hdown, hwindow⟩⟩

end Recommendation

/-! ## The edit alone -/

theorem not_growthDue_max {c : Float64} {i : AutoscaleInput} {above : Option Time} :
    ¬ i.GrowthDue c above i.spec.maxReplicas := by
  rintro ⟨_, _, _, _, hroom, _⟩
  exact Nat.lt_irrefl _ hroom

theorem not_shrinkDue_min {c : Float64} {i : AutoscaleInput} {below : Option Time} :
    ¬ i.ShrinkDue c below i.spec.minReplicas := by
  rintro ⟨_, _, _, _, _, hroom, _⟩
  exact Nat.lt_irrefl _ hroom

section Edit
variable {c : Float64} {i : AutoscaleInput} {st : AutoscalingStatus}

theorem start_desired_prev (hprev : i.prev = some st) (hpos : 0 < st.desiredReplicas) :
    i.start.desiredReplicas =
      min (max st.desiredReplicas i.spec.minReplicas) i.spec.maxReplicas := by
  rw [start_desired, hprev]
  simp only [Option.getD_some, Nat.ne_of_gt hpos, if_false]

theorem start_kept_iff (hprev : i.prev = some st)
    (hbounds : i.spec.minReplicas ≤ i.spec.maxReplicas) :
    (decideAutoscale c i).status.desiredReplicas = i.start.desiredReplicas ↔
      ¬ (i.GrowthDue c st.aboveTargetSince i.start.desiredReplicas ∨
        i.ShrinkDue c st.belowTargetSince i.start.desiredReplicas) := by
  have hmoves := (decideAutoscale_decided c i).moves_iff
  rw [stepDue_iff hbounds, hprev, Option.getD_some] at hmoves
  rw [← not_iff_not, not_not, ← ne_eq, hmoves]

theorem raised_alone_iff (hprev : i.prev = some st) (hpos : 0 < st.desiredReplicas)
    (hbounds : i.spec.minReplicas ≤ i.spec.maxReplicas)
    (hbelow : st.desiredReplicas < i.spec.minReplicas) :
    (decideAutoscale c i).status.desiredReplicas = i.spec.minReplicas ↔
      ¬ i.GrowthDue c st.aboveTargetSince i.spec.minReplicas := by
  have hstart : i.start.desiredReplicas = i.spec.minReplicas := by
    rw [start_desired_prev hprev hpos]
    omega
  rw [← hstart, start_kept_iff hprev hbounds, hstart, or_iff_left not_shrinkDue_min]

theorem lowered_alone_iff (hprev : i.prev = some st) (hpos : 0 < st.desiredReplicas)
    (hbounds : i.spec.minReplicas ≤ i.spec.maxReplicas)
    (habove : i.spec.maxReplicas < st.desiredReplicas) :
    (decideAutoscale c i).status.desiredReplicas = i.spec.maxReplicas ↔
      ¬ i.ShrinkDue c st.belowTargetSince i.spec.maxReplicas := by
  have hstart : i.start.desiredReplicas = i.spec.maxReplicas := by
    rw [start_desired_prev hprev hpos]
    omega
  rw [← hstart, start_kept_iff hprev hbounds, hstart, or_iff_right not_growthDue_max]

theorem inside_moves_by_one (hprev : i.prev = some st) (hpos : 0 < st.desiredReplicas)
    (hlow : i.spec.minReplicas ≤ st.desiredReplicas)
    (hhigh : st.desiredReplicas ≤ i.spec.maxReplicas) :
    (decideAutoscale c i).status.desiredReplicas = st.desiredReplicas ∨
      (decideAutoscale c i).status.desiredReplicas = st.desiredReplicas + 1 ∨
      (decideAutoscale c i).status.desiredReplicas + 1 = st.desiredReplicas := by
  have hstart : i.start.desiredReplicas = st.desiredReplicas := by
    rw [start_desired_prev hprev hpos]
    omega
  rcases (decideAutoscale_decided c i).desired with h | ⟨_, _, ⟨h, _⟩ | ⟨h, _⟩⟩ <;> omega

/-- An edited bound is applied alone, and a size inside the bounds moves by at most
one, exactly when no step is due at the bound the stored size is held to. -/
theorem bound_edit_alone_iff (hprev : i.prev = some st) (hpos : 0 < st.desiredReplicas)
    (hbounds : i.spec.minReplicas ≤ i.spec.maxReplicas) :
    ((st.desiredReplicas < i.spec.minReplicas →
          (decideAutoscale c i).status.desiredReplicas = i.spec.minReplicas) ∧
        (i.spec.maxReplicas < st.desiredReplicas →
          (decideAutoscale c i).status.desiredReplicas = i.spec.maxReplicas) ∧
        (i.spec.minReplicas ≤ st.desiredReplicas → st.desiredReplicas ≤ i.spec.maxReplicas →
          (decideAutoscale c i).status.desiredReplicas = st.desiredReplicas ∨
            (decideAutoscale c i).status.desiredReplicas = st.desiredReplicas + 1 ∨
            (decideAutoscale c i).status.desiredReplicas + 1 = st.desiredReplicas)) ↔
      ((st.desiredReplicas < i.spec.minReplicas →
          ¬ i.GrowthDue c st.aboveTargetSince i.spec.minReplicas) ∧
        (i.spec.maxReplicas < st.desiredReplicas →
          ¬ i.ShrinkDue c st.belowTargetSince i.spec.maxReplicas)) := by
  constructor
  · rintro ⟨hraised, hlowered, _⟩
    refine ⟨?_, ?_⟩
    · intro hbelow
      exact (raised_alone_iff hprev hpos hbounds hbelow).mp (hraised hbelow)
    · intro habove
      exact (lowered_alone_iff hprev hpos hbounds habove).mp (hlowered habove)
  · rintro ⟨hgrowth, hshrink⟩
    refine ⟨?_, ?_, ?_⟩
    · intro hbelow
      exact (raised_alone_iff hprev hpos hbounds hbelow).mpr (hgrowth hbelow)
    · intro habove
      exact (lowered_alone_iff hprev hpos hbounds habove).mpr (hshrink habove)
    · exact inside_moves_by_one hprev hpos

end Edit

/-- Three converged nodes at five times their target, whose `minReplicas` is raised
to four before any window has started. -/
def raisedInput : AutoscaleInput :=
  { spec := { minReplicas := 4, maxReplicas := 6, targetQueueDepth := some 10 }
    prev := some { desiredReplicas := 3 }
    initial := 3
    signal := { queuePerNode := some 50 }
    converged := true
    growthCeiling := 0
    ceilingReason := ""
    now := seconds 1000 }

/-- The window starts with the edit, so no step is added to it. -/
theorem raised_min_alone :
    (decideAutoscale wrappingDouble raisedInput).status.desiredReplicas = 4 := by
  have hquiet : (3 < 4 → ¬ raisedInput.GrowthDue wrappingDouble none 4) ∧
      (6 < 3 → ¬ raisedInput.ShrinkDue wrappingDouble none 6) := by
    refine ⟨?_, ?_⟩
    · rintro _ ⟨_, _, _, _, _, _, hwindow⟩
      exact absurd hwindow (by decide)
    · intro habove
      exact absurd habove (by decide)
  have halone := (bound_edit_alone_iff (c := wrappingDouble) (i := raisedInput) rfl (by decide)
    (by decide)).mpr hquiet
  exact halone.1 (by decide)

/-- The same edit one tenth above the target, with the window over. -/
def raisedLater : AutoscaleInput :=
  { raisedInput with
    prev := some { desiredReplicas := 3, aboveTargetSince := some 0 }
    signal := { queuePerNode := some 11 } }

-- As doubles 1.1 - 1 is outside the tolerance of 0.1, and growth is due; as rationals it is not.
example : (decideAutoscale wrappingDouble raisedLater).status.desiredReplicas = 5 := by
  decide +kernel

example : (decideAutoscale wrappingConv.exact raisedLater).status.desiredReplicas = 4 := by
  decide +kernel

/-! ## An edit and a step in one pass -/

/-- Five nodes without traffic since time zero, whose `maxReplicas` has just been
lowered to four. -/
def editedCluster : KahunaCluster :=
  { name := "kahuna"
    ns := "kv"
    spec :=
      { replicas := some 5
        replication := some { factor := 3 }
        autoscaling := some { minReplicas := 3, maxReplicas := 4, targetQueueDepth := some 10 } }
    status :=
      { bootstrapped := true
        bootstrapSize := 5
        autoscaling := some { desiredReplicas := 5, belowTargetSince := some 0 } } }

def editedEnv : PassEnv :=
  { agreedEnv editedCluster 5
      { membership := rosterOf editedCluster 5 five_small
        leave := { outcome := .committed }
        placement := some { partitions := [] } }
    with now := seconds 1000 }

theorem edited_observed :
    observe editedEnv editedCluster =
      { membership := some (rosterOf editedCluster 5 five_small)
        placement := some { partitions := [] }, placementErr := none } := by
  have hkahuna : editedEnv.kahuna = agreedClient
      { membership := rosterOf editedCluster 5 five_small
        leave := { outcome := .committed }
        placement := some { partitions := [] } } := rfl
  exact observe_agreed hkahuna (someReadyPod_readyPods editedCluster (by decide))

/-- The pass finds the five nodes converged, holds the size to four, and steps on to
three: the window of the old size counts for the new one. -/
theorem lowered_max_steps_past :
    ∃ as i, editedCluster.spec.autoscaling = some as ∧ as.Accepted ∧
      decisionInput editedEnv editedCluster as = .ok i ∧
      i.prev.map (·.desiredReplicas) = some 5 ∧ i.spec.maxReplicas = 4 ∧ i.converged = true ∧
      (decideAutoscale editedEnv.float i).status.desiredReplicas = 3 := by
  have hinput : ∃ i, decisionInput editedEnv editedCluster
        { minReplicas := 3, maxReplicas := 4, targetQueueDepth := some 10 } = .ok i ∧
      (i.prev.map (·.desiredReplicas), i.spec.maxReplicas, i.converged,
        (decideAutoscale editedEnv.float i).status.desiredReplicas) = (some 5, 4, true, 3) := by
    refine exists_of_toOption_map ?_
    simp only [decisionInput, edited_observed]
    decide +kernel
  obtain ⟨i, hi, hvalues⟩ := hinput
  simp only [Prod.mk.injEq] at hvalues
  refine ⟨_, i, rfl, ?_, hi, hvalues⟩
  refine ⟨by decide, by decide, by decide, by decide, ?_, ?_, ?_⟩
  · rintro t ⟨⟩
  · rintro t ⟨⟩
    decide
  · rintro t ⟨⟩

end KahunaOperator
