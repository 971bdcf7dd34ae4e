/-
# `KahunaOperator.Traffic` — traffic steps and the membership change in flight

Two controllers share one size.  The autoscaler moves the target when roster and
ready pods are at the target; the planner moves the StatefulSet when roster and
placement are at the StatefulSet's size, and asks the departing node to leave
first.  A `Fleet` is the operator's world together with the roster the servers
have committed, which changes by joins, by removals, and by the leave requests
of a pass, whether or not their answers arrive.

    target        what a pass makes of the stored target      (`autoscaled_target`)
    size          what it makes of a size next to the target  (`pass_size_towards`)
    whole runs    the two never part by more than one         (`traffic_waits_for_the_size`)

`Offset` is the invariant: a size one above the target still has its last node
in the roster, and one below it does not have the next node there yet.  Either
way the roster is not the one of the target, so no traffic step starts.
-/
import KahunaOperator.Decision
import KahunaOperator.Removal

namespace KahunaOperator

open Lib (Run Transition)

/-! ## The committed roster -/

/-- The roster has an entry for the endpoint, in whatever role. -/
def Membership.Lists (m : Membership) (endpoint : String) : Prop :=
  ∃ mem ∈ m.members, mem.endpoint = endpoint

theorem ExactVoters.lists_iff {cluster : KahunaCluster} {m : Membership} {n : Nat}
    (h : ExactVoters cluster m n) (i : Nat) : m.Lists (raftEndpoint cluster i) ↔ i < n := by
  constructor
  · rintro ⟨mem, hmem, hendpoint⟩
    have hkey := h.mem_iff.mp (List.mem_map_of_mem hmem)
    obtain ⟨j, hj, heq⟩ := List.mem_map.mp hkey
    have hsame : raftEndpoint cluster j = raftEndpoint cluster i :=
      (congrArg Prod.fst heq).trans hendpoint
    rw [← raftEndpoint_inj hsame]
    exact List.mem_range.mp hj
  · intro hi
    have hkey := h.mem_iff.mpr (List.mem_map_of_mem (List.mem_range.mpr hi))
    obtain ⟨mem, hmem, heq⟩ := List.mem_map.mp hkey
    exact ⟨mem, hmem, congrArg Prod.fst heq⟩

/-- The removal of one endpoint, committed. -/
def Removed (m : Membership) (endpoint : String) (m' : Membership) : Prop :=
  m'.members = m.members.filter (·.endpoint != endpoint)

theorem Removed.lists_iff {m m' : Membership} {endpoint : String} (h : Removed m endpoint m')
    (e : String) : m'.Lists e ↔ m.Lists e ∧ e ≠ endpoint := by
  unfold Membership.Lists
  rw [h]
  constructor
  · rintro ⟨mem, hmem, rfl⟩
    obtain ⟨hold, hne⟩ := List.mem_filter.mp hmem
    exact ⟨⟨mem, hold, rfl⟩, by simpa using hne⟩
  · rintro ⟨⟨mem, hmem, rfl⟩, hne⟩
    exact ⟨mem, List.mem_filter.mpr ⟨hmem, by simpa using hne⟩, rfl⟩

/-! ## Fleets -/

/-- The operator's world and the roster the servers have committed. -/
structure Fleet where
  world : World
  roster : Membership

def Fleet.target (f : Fleet) : Nat := desiredReplicas f.world.cluster

def Fleet.Lists (f : Fleet) (ordinal : Nat) : Prop :=
  f.roster.Lists (raftEndpoint f.world.cluster ordinal)

inductive FleetEvent where
  /-- A pass, and the ordinal whose removal the servers committed during it. -/
  | pass (inp : PassInput) (removal : Option Nat)
  /-- Pods join, or are promoted. -/
  | join
  /-- A member is removed by somebody else. -/
  | remove (endpoint : String)

/-- What the servers may have committed, given the leave requests of a pass and
their answers.  A request without an answer may have been carried out. -/
def Serves (calls : List (Nat × Except KahunaError LeaveResult)) : Option Nat → Prop
  | none => ∀ i r, (i, .ok r) ∈ calls → r.outcome ≠ .committed
  | some i => ∃ x, (i, x) ∈ calls ∧ ∀ r, x = .ok r → r.outcome = .committed

/-- The roster after the removal, if there was one. -/
def Withdrawn (f : Fleet) : Option Nat → Membership → Prop
  | none, m => m = f.roster
  | some i, m => Removed f.roster (raftEndpoint f.world.cluster i) m

inductive FleetStep : Fleet → FleetEvent → Fleet → Prop
  /-- A pass reads whatever roster the first node to answer has. -/
  | pass {f : Fleet} {inp : PassInput} {removal : Option Nat} {m : Membership} :
      Serves (passLeaveCalls inp f.world) removal → Withdrawn f removal m →
      FleetStep f (.pass inp removal) ⟨KahunaOperator.pass inp f.world, m⟩
  /-- Members stay, and what is new is a pod of the StatefulSet. -/
  | join {f : Fleet} {m : Membership} :
      (∀ e, f.roster.Lists e → m.Lists e) →
      (∀ i, m.Lists (raftEndpoint f.world.cluster i) → f.Lists i ∨ i < f.world.size) →
      FleetStep f .join ⟨f.world, m⟩
  | remove {f : Fleet} {endpoint : String} {m : Membership} : Removed f.roster endpoint m →
      FleetStep f (.remove endpoint) ⟨f.world, m⟩

/-! ## What a pass makes of the target -/

/-- The decision changes the target, beyond holding it inside the bounds. -/
def TrafficStep (inp : PassInput) (w : World) (old new : Nat) : Prop :=
  ∃ as cl, w.cluster.spec.autoscaling = some as ∧
    autoscaled inp.toPassEnv (pinBootstrapSize w.cluster) = .ok cl ∧
    old = min (max (desiredReplicas w.cluster) as.minReplicas) as.maxReplicas ∧
    new = desiredReplicas cl ∧ old ≠ new

theorem raftEndpoint_pin (cluster : KahunaCluster) (i : Nat) :
    raftEndpoint (pinBootstrapSize cluster) i = raftEndpoint cluster i :=
  raftEndpoint_congr (pinBootstrapSize_name cluster).1 (pinBootstrapSize_name cluster).2
    (congrArg KahunaClusterSpec.ports (pinBootstrapSize_spec cluster)) i

theorem exact_of_converged {env : PassEnv} {cluster : KahunaCluster} {b : Bool} {o : Observed}
    (h : (autoscaleConverged env cluster b o.membership o.placement o.placementErr).1 = true) :
    b = true ∧ RosterExact cluster o (desiredReplicas cluster) := by
  cases hroster : rosterConverged env cluster b o.membership with
  | false => simp [autoscaleConverged, hroster] at h
  | true =>
      simp only [rosterConverged, Bool.and_eq_true] at hroster
      exact ⟨hroster.1.1, rosterMatches_iff_exact.mp hroster.1.2⟩

/-- The target after the autoscaler ran: the stored one, or, when the roster read
is the one of the stored target, one more or one less. -/
theorem autoscaled_target {inp : PassInput} {w : World} {cl : KahunaCluster}
    {as : AutoscalingSpec} (has : w.cluster.spec.autoscaling = some as) (haccepted : as.Accepted)
    (hcl : autoscaled inp.toPassEnv (pinBootstrapSize w.cluster) = .ok cl) :
    let old := min (max (desiredReplicas w.cluster) as.minReplicas) as.maxReplicas
    desiredReplicas cl = old ∨
      (w.cluster.status.bootstrapped = true ∧
        (∃ m, inp.roster w = some m ∧ ExactVoters w.cluster m (desiredReplicas w.cluster)) ∧
        (desiredReplicas cl = old + 1 ∨ desiredReplicas cl + 1 = old)) := by
  intro old
  obtain ⟨i, hi, hstart, hdecided⟩ := autoscaled_decision has haccepted hcl
  have hmin : 1 ≤ old := by
    have := haccepted.1
    have := haccepted.2.1
    omega
  rcases (decideAutoscale_decided inp.float i).desired with hkeep | ⟨ratio, hratio, hmoved⟩
  · exact Or.inl (hdecided.trans (hkeep.trans hstart))
  · right
    have hconv := hratio.1
    rw [hi.converged] at hconv
    obtain ⟨hboot, m, hm, hexact⟩ := exact_of_converged hconv
    rw [desiredReplicas_pin] at hexact
    refine ⟨hboot, ⟨m, hm, (exactVoters_congr (raftEndpoint_pin _)).mp hexact⟩, ?_⟩
    rcases hmoved with ⟨hup, _⟩ | ⟨hdown, _⟩
    · left
      rw [hdecided, hup, hstart]
    · right
      rw [hdecided, hdown, hstart]
      omega

theorem autoscaled_bounds {env : PassEnv} {cluster cl : KahunaCluster} {as : AutoscalingSpec}
    (has : cluster.spec.autoscaling = some as) (haccepted : as.Accepted)
    (hcl : autoscaled env (pinBootstrapSize cluster) = .ok cl) :
    as.minReplicas ≤ desiredReplicas cl ∧ desiredReplicas cl ≤ as.maxReplicas := by
  obtain ⟨i, hi, _, hdecided⟩ := autoscaled_decision has haccepted hcl
  have hbounds := decideAutoscale_bounds (c := env.float) (i := i)
  rw [hi.spec] at hbounds
  rw [hdecided]
  exact hbounds haccepted.2.2.1

/-! ## What a pass makes of the size -/

theorem leaveCalls_lower {env : PassEnv} {cluster : KahunaCluster} {b : Bool} {o : Observed}
    {c i : Nat} {r : LeaveResult} (h : (i, .ok r) ∈ leaveCalls env cluster b o c)
    (hcommitted : r.outcome = .committed) : (planStatefulSet env cluster b o c).replicas < c := by
  simp only [leaveCalls] at h
  split at h
  · next hlower =>
      split at h
      · cases h
      · next pod htarget =>
          have hanswer : env.kahuna.leave (podBaseURL cluster pod) = .ok r :=
            (congrArg Prod.snd (List.mem_singleton.mp h)).symm
          have hremoved : r.removed = true := LeaveResult.removed_iff.mpr (Or.inl hcommitted)
          have hleft : (decommission cluster env.kahuna env.pods (c - 1)).1 = true := by
            simp only [decommission, htarget, hanswer, hremoved, if_true]
          simp only [planStatefulSet, if_pos hlower, hleft, Bool.not_true, Bool.false_eq_true,
            if_false]
          exact hlower
  · cases h

/-- A size at most one away from the target is left alone or moved to it. -/
theorem planStatefulSet_towards (env : PassEnv) (cluster : KahunaCluster) (b : Bool)
    (o : Observed) {c : Nat} (hlow : desiredReplicas cluster ≤ c + 1)
    (hhigh : c ≤ desiredReplicas cluster + 1) :
    (planStatefulSet env cluster b o c).replicas = c ∨
      (planStatefulSet env cluster b o c).replicas = desiredReplicas cluster := by
  cases b with
  | true =>
      have hsize := (planned_gatedStep env cluster o c).size
      omega
  | false =>
      by_cases hlower : desiredReplicas cluster < c
      · cases hleft : (decommission cluster env.kahuna env.pods (c - 1)).1 with
        | false => exact Or.inl (by simp [planStatefulSet, buildPlan_greenfield, hlower, hleft])
        | true => exact Or.inr (by simp [planStatefulSet, buildPlan_greenfield, hlower, hleft])
      · exact Or.inr (by simp only [planStatefulSet, buildPlan_greenfield, hlower, if_false])

section Written
variable {inp : PassInput} {w : World} {cl : KahunaCluster}

theorem answered_pass_lower {i : Nat} {r : LeaveResult}
    (hreached : inp.reached .writeStatefulSet = true)
    (hcall : (i, .ok r) ∈ passLeaveCalls inp w) (hcommitted : r.outcome = .committed) :
    (pass inp w).size < w.size := by
  obtain ⟨cl, sts, hcl, hsts, hcall⟩ := passLeaveCalls_inv hcall
  rw [(pinBootstrapSize_status w.cluster).1] at hcall
  rw [written_size hsts hcl hreached, World.size_of_sts hsts]
  exact leaveCalls_lower hcall hcommitted

/-- A pass that writes the StatefulSet leaves a size next to the target where it
is, or moves it to the target. -/
theorem pass_size_towards (hcl : autoscaled inp.toPassEnv (pinBootstrapSize w.cluster) = .ok cl)
    (hreached : inp.reached .writeStatefulSet = true)
    (hnear : w.sts.isSome = true →
      desiredReplicas cl ≤ w.size + 1 ∧ w.size ≤ desiredReplicas cl + 1) :
    (pass inp w).size = desiredReplicas cl ∨
      (w.sts.isSome = true ∧ (pass inp w).size = w.size) := by
  cases hsts : w.sts with
  | none =>
      left
      rw [World.size_of_sts ((pass_passed inp w).sts_written hcl hreached)]
      simp only [sized, reconcileStatefulSet, hsts]
      rfl
  | some sts =>
      obtain ⟨hlow, hhigh⟩ := hnear (by rw [hsts]; rfl)
      rw [written_size hsts hcl hreached]
      rw [World.size_of_sts hsts] at hlow hhigh ⊢
      rcases planStatefulSet_towards inp.toPassEnv cl w.cluster.status.bootstrapped
          (observe inp.toPassEnv (pinBootstrapSize w.cluster)) hlow hhigh with hkeep | hmove
      · exact Or.inr ⟨rfl, hkeep⟩
      · exact Or.inl hmove

end Written

/-! ## Size and target together -/

/-- Where a StatefulSet of size `n` may stand with a target `d`. -/
inductive Offset (listed : Nat → Prop) (n d : Nat) : Prop
  | level : n = d → Offset listed n d
  /-- The last node has been given up and is still a member. -/
  | leaving : n = d + 1 → listed d → Offset listed n d
  /-- The next node has been asked for and is not a member yet. -/
  | joining : n + 1 = d → ¬ listed n → Offset listed n d

theorem Offset.near {listed : Nat → Prop} {n d : Nat} (h : Offset listed n d) :
    d ≤ n + 1 ∧ n ≤ d + 1 := by
  cases h <;> omega

theorem Offset.eq_of_exact {listed : Nat → Prop} {n d : Nat} (h : Offset listed n d)
    (hexact : ∀ i, listed i ↔ i < d) : n = d := by
  cases h with
  | level h => exact h
  | leaving _ hlisted => exact absurd ((hexact d).mp hlisted) (Nat.lt_irrefl d)
  | joining h hlisted => exact absurd ((hexact n).mpr (by omega)) hlisted

/-- The roster may change as long as it keeps what is on its way out and does
not get what is on its way in. -/
theorem Offset.mono {listed listed' : Nat → Prop} {n d : Nat} (h : Offset listed n d)
    (hkept : ∀ i, d ≤ i → i < n → listed i → listed' i) (hnew : listed' n → listed n) :
    Offset listed' n d := by
  cases h with
  | level h => exact .level h
  | leaving h hlisted => exact .leaving h (hkept d (Nat.le_refl d) (by omega) hlisted)
  | joining h hlisted => exact .joining h (fun hl => hlisted (hnew hl))

/-- A traffic step moves the target away from a level size. -/
theorem Offset.of_traffic {listed : Nat → Prop} {n d : Nat} (hexact : ∀ i, listed i ↔ i < n)
    (h : d = n + 1 ∨ d + 1 = n) : Offset listed n d := by
  rcases h with h | h
  · exact .joining h.symm (fun hl => absurd ((hexact n).mp hl) (Nat.lt_irrefl n))
  · exact .leaving h.symm ((hexact d).mpr (by omega))

/-- A fleet of an autoscaled cluster, its target inside the bounds and its size
next to the target. -/
structure Aligned (as : AutoscalingSpec) (f : Fleet) : Prop where
  autoscaling : f.world.cluster.spec.autoscaling = some as
  accepted : as.Accepted
  bounded : as.minReplicas ≤ f.target ∧ f.target ≤ as.maxReplicas
  fresh : f.world.sts = none → f.world.cluster.status.bootstrapped = false
  offset : ∀ sts, f.world.sts = some sts → Offset f.Lists sts.size f.target

theorem Aligned.frame {as : AutoscalingSpec} {f g : Fleet} (h : Aligned as f)
    (hspec : g.world.cluster.spec = f.world.cluster.spec) (htarget : g.target = f.target)
    (hsts : g.world.sts = f.world.sts)
    (hboot : g.world.cluster.status.bootstrapped = f.world.cluster.status.bootstrapped)
    (hkept : ∀ i, f.target ≤ i → i < f.world.size → f.Lists i → g.Lists i)
    (hnew : g.Lists f.world.size → f.Lists f.world.size) : Aligned as g where
  autoscaling := by rw [hspec]; exact h.autoscaling
  accepted := h.accepted
  bounded := by rw [htarget]; exact h.bounded
  fresh := by rw [hsts, hboot]; exact h.fresh
  offset := by
    intro sts heq
    rw [hsts] at heq
    rw [World.size_of_sts heq] at hkept hnew
    rw [htarget]
    exact (h.offset sts heq).mono hkept hnew

theorem Aligned.clamped {as : AutoscalingSpec} {f : Fleet} (h : Aligned as f) :
    min (max (desiredReplicas f.world.cluster) as.minReplicas) as.maxReplicas = f.target := by
  have hbounds := h.bounded
  unfold Fleet.target at hbounds ⊢
  omega

/-- A pass that reads the roster of the stored target reads the committed one. -/
def ReadsTarget (inp : PassInput) (f : Fleet) : Prop :=
  ∀ r, inp.roster f.world = some r → ExactVoters f.world.cluster r f.target → r = f.roster

/-- The target of a pass over an aligned fleet, and what lets it change. -/
theorem Aligned.decided {as : AutoscalingSpec} {f : Fleet} (h : Aligned as f) {inp : PassInput}
    {cl : KahunaCluster}
    (hcl : autoscaled inp.toPassEnv (pinBootstrapSize f.world.cluster) = .ok cl)
    (hread : ReadsTarget inp f) :
    desiredReplicas cl = f.target ∨
      ((∃ sts, f.world.sts = some sts ∧ sts.size = f.target) ∧ (∀ i, f.Lists i ↔ i < f.target) ∧
        (desiredReplicas cl = f.target + 1 ∨ desiredReplicas cl + 1 = f.target)) := by
  rcases autoscaled_target h.autoscaling h.accepted hcl with
    hkeep | ⟨hboot, ⟨m, hm, hexact⟩, hmoved⟩
  · exact Or.inl (hkeep.trans h.clamped)
  · right
    rw [h.clamped] at hmoved
    have hlists : ∀ i, f.Lists i ↔ i < f.target := by
      intro i
      have hroster := hread m hm hexact
      subst hroster
      exact hexact.lists_iff i
    refine ⟨?_, hlists, hmoved⟩
    cases hsts : f.world.sts with
    | none =>
        rw [h.fresh hsts] at hboot
        cases hboot
    | some sts => exact ⟨sts, rfl, (h.offset sts hsts).eq_of_exact hlists⟩

/-! ## One pass -/

/-- What the result asks of a transition.  A roster of the stored target that a pass
reads is the committed one, not an older one of a node that lags; nobody else removes
a node that the target has given up and the StatefulSet still has; a removal
committed during a pass is answered, and the pass goes on to write the StatefulSet;
and a pass that writes the StatefulSet writes its status too. -/
structure Orderly (t : Transition Fleet FleetEvent) : Prop where
  current : ∀ inp removal, t.event = .pass inp removal → ReadsTarget inp t.before
  spared : ∀ endpoint i, t.event = .remove endpoint → t.before.target ≤ i →
    i < t.before.world.size → raftEndpoint t.before.world.cluster i ≠ endpoint
  answered : ∀ inp i, t.event = .pass inp (some i) → inp.reached .writeStatefulSet = true ∧
    ∃ r, (i, .ok r) ∈ passLeaveCalls inp t.before.world ∧ r.outcome = .committed
  stored : ∀ inp removal, t.event = .pass inp removal →
    inp.reached .writeStatefulSet = true → inp.reached .writeStatus = true

section Pass
variable {as : AutoscalingSpec} {f : Fleet} {inp : PassInput} {removal : Option Nat}
  {m : Membership}

theorem roster_of_held (hroster : Withdrawn f removal m)
    (hanswered : ∀ i, removal = some i → inp.reached .writeStatefulSet = true ∧
      ∃ r, (i, .ok r) ∈ passLeaveCalls inp f.world ∧ r.outcome = .committed)
    (hheld : f.world.size ≤ (pass inp f.world).size) : m = f.roster := by
  cases removal with
  | none => exact hroster
  | some i =>
      obtain ⟨hreached, r, hcall, hcommitted⟩ := hanswered i rfl
      exact absurd hheld (Nat.not_le.mpr (answered_pass_lower hreached hcall hcommitted))

theorem pass_unwritten {w : World}
    (h : inp.reached .writeStatefulSet = false ∨
      ∃ e, autoscaled inp.toPassEnv (pinBootstrapSize w.cluster) = .error e) :
    (pass inp w).sts = w.sts ∧
      desiredReplicas (pass inp w).cluster = desiredReplicas w.cluster ∧
      (pass inp w).cluster.status.bootstrapped = w.cluster.status.bootstrapped := by
  have hno : ∀ cl, autoscaled inp.toPassEnv (pinBootstrapSize w.cluster) = .ok cl →
      inp.reached .writeStatefulSet ≠ true := by
    rintro cl hcl hreached
    rcases h with h | ⟨e, he⟩
    · rw [h] at hreached
      cases hreached
    · rw [hcl] at he
      cases he
  have hmono : inp.reached .writeStatus = true → inp.reached .writeStatefulSet = true :=
    PassInput.reached_mono (by decide)
  have hpassed := pass_passed inp w
  refine ⟨?_, ?_, ?_⟩
  · rcases hpassed.sts with hkeep | ⟨cl, hcl, hreached, _⟩
    · exact hkeep
    · exact absurd hreached (hno cl hcl)
  · rcases hpassed.desired with ⟨cl, hcl, hreached, _⟩ | ⟨hkeep, _⟩
    · exact absurd (hmono hreached) (hno cl hcl)
    · exact hkeep
  · rw [Bool.eq_iff_iff, hpassed.bootstrapped]
    refine ⟨?_, Or.inl⟩
    rintro (hboot | ⟨cl, _, hcl, hreached, _⟩)
    · exact hboot
    · exact absurd (hmono hreached) (hno cl hcl)

theorem lists_pass (i : Nat) :
    Fleet.Lists ⟨pass inp f.world, m⟩ i ↔ m.Lists (raftEndpoint f.world.cluster i) := by
  obtain ⟨hspec, hname, hns, _⟩ := (pass_passed inp f.world).frame
  unfold Fleet.Lists
  rw [raftEndpoint_congr hname hns (congrArg KahunaClusterSpec.ports hspec)]

theorem Aligned.pass_written (h : Aligned as f) {cl : KahunaCluster}
    (hcl : autoscaled inp.toPassEnv (pinBootstrapSize f.world.cluster) = .ok cl)
    (hread : ReadsTarget inp f)
    (hroster : f.world.size ≤ (pass inp f.world).size → m = f.roster)
    (hreached : inp.reached .writeStatefulSet = true) :
    ∀ sts, (pass inp f.world).sts = some sts →
      Offset (Fleet.Lists ⟨pass inp f.world, m⟩) sts.size (desiredReplicas cl) := by
  intro sts' hsts'
  have hdecided := h.decided hcl hread
  have hnear : f.world.sts.isSome = true →
      desiredReplicas cl ≤ f.world.size + 1 ∧ f.world.size ≤ desiredReplicas cl + 1 := by
    intro hsome
    obtain ⟨sts, hsts⟩ := Option.isSome_iff_exists.mp hsome
    have hoffset := (h.offset sts hsts).near
    rw [World.size_of_sts hsts]
    rcases hdecided with hkeep | ⟨⟨sts₀, hsts₀, hlevel⟩, _, hmoved⟩
    · rw [hkeep]
      exact hoffset
    · cases hsts.symm.trans hsts₀
      omega
  rw [← World.size_of_sts hsts']
  rcases pass_size_towards hcl hreached hnear with hmove | ⟨hsome, hheld⟩
  · exact .level hmove
  · -- The size was held, so nobody left, and the roster read is still the roster.
    have hm := hroster hheld.ge
    subst hm
    have hsame : Fleet.Lists ⟨pass inp f.world, f.roster⟩ = f.Lists :=
      funext fun i => propext (lists_pass i)
    obtain ⟨sts, hsts⟩ := Option.isSome_iff_exists.mp hsome
    rw [hsame, hheld, World.size_of_sts hsts]
    rcases hdecided with hkeep | ⟨⟨sts₀, hsts₀, hlevel⟩, hexact, hmoved⟩
    · rw [hkeep]
      exact h.offset sts hsts
    · cases hsts.symm.trans hsts₀
      rw [← hlevel] at hexact hmoved
      exact Offset.of_traffic hexact hmoved

theorem Aligned.pass (h : Aligned as f)
    (hread : ReadsTarget inp f) (hroster : Withdrawn f removal m)
    (hanswered : ∀ i, removal = some i → inp.reached .writeStatefulSet = true ∧
      ∃ r, (i, .ok r) ∈ passLeaveCalls inp f.world ∧ r.outcome = .committed)
    (hstored : inp.reached .writeStatefulSet = true → inp.reached .writeStatus = true) :
    Aligned as ⟨KahunaOperator.pass inp f.world, m⟩ := by
  have hheld := roster_of_held hroster hanswered
  have hspec := (pass_passed inp f.world).frame.1
  by_cases hstop : inp.reached .writeStatefulSet = false ∨
      ∃ e, autoscaled inp.toPassEnv (pinBootstrapSize f.world.cluster) = .error e
  · obtain ⟨hsts, htarget, hboot⟩ := pass_unwritten hstop
    have hm : m = f.roster := hheld (by unfold World.size; rw [hsts])
    subst hm
    exact h.frame hspec htarget hsts hboot (fun i _ _ => (lists_pass i).mpr) (lists_pass _).mp
  · obtain ⟨hreached, hno⟩ := not_or.mp hstop
    have hreached : inp.reached .writeStatefulSet = true := by simpa using hreached
    cases hcl : autoscaled inp.toPassEnv (pinBootstrapSize f.world.cluster) with
    | error e => exact absurd ⟨e, hcl⟩ hno
    | ok cl =>
        have htarget : Fleet.target ⟨KahunaOperator.pass inp f.world, m⟩ = desiredReplicas cl :=
          (pass_passed inp f.world).desired_written hcl (hstored hreached)
        refine ⟨?_, h.accepted, ?_, ?_, ?_⟩
        · exact (congrArg KahunaClusterSpec.autoscaling hspec).trans h.autoscaling
        · rw [htarget]
          exact autoscaled_bounds h.autoscaling h.accepted hcl
        · intro hnone
          rw [(pass_passed inp f.world).sts_written hcl hreached] at hnone
          cases hnone
        · rw [htarget]
          exact h.pass_written hcl hread hheld hreached

end Pass

/-! ## Whole runs -/

section Runs
variable {as : AutoscalingSpec} {f g : Fleet}

/-- A fleet at rest: no StatefulSet yet, or one of the size of the target. -/
structure Level (as : AutoscalingSpec) (f : Fleet) : Prop where
  autoscaling : f.world.cluster.spec.autoscaling = some as
  accepted : as.Accepted
  bounded : as.minReplicas ≤ f.target ∧ f.target ≤ as.maxReplicas
  fresh : f.world.sts = none → f.world.cluster.status.bootstrapped = false
  level : ∀ sts, f.world.sts = some sts → sts.size = f.target

theorem Level.aligned (h : Level as f) : Aligned as f :=
  ⟨h.autoscaling, h.accepted, h.bounded, h.fresh, fun sts hsts => .level (h.level sts hsts)⟩

theorem Aligned.step {e : FleetEvent} (h : Aligned as f) (horderly : Orderly ⟨f, e, g⟩)
    (hstep : FleetStep f e g) : Aligned as g := by
  cases hstep with
  | pass _ hroster =>
      refine h.pass (horderly.current _ _ rfl) hroster ?_ (horderly.stored _ _ rfl)
      rintro i rfl
      exact horderly.answered _ i rfl
  | join hkept hnew =>
      refine h.frame rfl rfl rfl rfl (fun i _ _ => hkept _) ?_
      intro hlisted
      exact (hnew _ hlisted).resolve_right (Nat.lt_irrefl _)
  | remove hremoved =>
      refine h.frame rfl rfl rfl rfl ?_ (fun hlisted => ((hremoved.lists_iff _).mp hlisted).1)
      intro i hlow hhigh hlisted
      exact (hremoved.lists_iff _).mpr ⟨hlisted, horderly.spared _ i rfl hlow hhigh⟩

theorem Aligned.traffic {inp : PassInput} {old new : Nat} (h : Aligned as f)
    (hread : ReadsTarget inp f)
    (ht : TrafficStep inp f.world old new) : ∃ sts, f.world.sts = some sts ∧ sts.size = old := by
  obtain ⟨as', cl, has, hcl, rfl, rfl, hne⟩ := ht
  cases h.autoscaling.symm.trans has
  rw [h.clamped] at hne ⊢
  rcases h.decided hcl hread with hkeep | ⟨hlevel, _⟩
  · exact absurd hkeep.symm hne
  · exact hlevel

/-- Over every run of an autoscaled cluster that starts at rest and whose
transitions are orderly: a traffic step starts at a StatefulSet of the size it
changes, and size and target are never more than one apart. -/
theorem traffic_waits_for_the_size {ts : List (Transition Fleet FleetEvent)}
    (hrun : Run FleetStep f ts g) (hstart : Level as f) (horderly : ∀ t ∈ ts, Orderly t) :
    ∀ t ∈ ts,
      (∀ inp removal old new, t.event = .pass inp removal →
        TrafficStep inp t.before.world old new →
        ∃ sts, t.before.world.sts = some sts ∧ sts.size = old) ∧
      ∀ sts, t.after.world.sts = some sts →
        t.after.target ≤ sts.size + 1 ∧ sts.size ≤ t.after.target + 1 := by
  refine Run.forall_mem_of (I := Aligned as) (C := Orderly) Aligned.step ?_ hrun hstart.aligned
    horderly
  intro a e b ha ho hstep
  refine ⟨?_, fun sts hsts => ((ha.step ho hstep).offset sts hsts).near⟩
  rintro inp removal old new rfl htraffic
  cases hstep with
  | pass _ _ => exact ha.traffic (ho.current _ _ rfl) htraffic

end Runs

/-! ## An answered step -/

theorem removed_last (cluster : KahunaCluster) (n : Nat) (h : n + 1 < 2 ^ 31) (h' : n < 2 ^ 31) :
    Removed (rosterOf cluster (n + 1) h) (raftEndpoint cluster n) (rosterOf cluster n h') := by
  simp only [Removed, rosterOf]
  rw [List.range_succ, List.map_append, List.filter_append, List.filter_eq_self.mpr]
  · simp
  · intro mem hmem
    obtain ⟨i, hi, rfl⟩ := List.mem_map.mp hmem
    have hne : i ≠ n := (List.mem_range.mp hi).ne
    simpa using fun heq => hne (raftEndpoint_inj heq)

def idleFleet : Fleet := ⟨idleWorld, rosterOf idleCluster 4 four_small⟩

/-- The idle cluster after its last node has left and been taken away. -/
def idleFleetNext : Fleet := ⟨idleLowered none, rosterOf idleCluster 3 three_small⟩

theorem idle_asked :
    (3, .ok { outcome := .committed }) ∈ passLeaveCalls (idlePass 4 four_small none) idleWorld := by
  obtain ⟨cl, hcl, hdesired⟩ := idle_decides_three none
  have hsts : idleWorld.sts = some { replicas := some 4 } := rfl
  obtain ⟨url, hasked⟩ := settled_pass_asks hsts rfl hcl rfl (idle_observed _ 4 four_small)
    (exactVoters_rosterOf idleCluster 4 four_small) (idleSettled cl 4 4 four_small)
    (by rw [hdesired]; decide) (readyPods_reachable (by decide) (podName_autoscaled hcl 3))
  exact hasked

theorem idle_level : Level
    { minReplicas := 3, maxReplicas := 6, targetQueueDepth := some 10 } idleFleet where
  autoscaling := rfl
  accepted := by decide
  bounded := by decide
  fresh := nofun
  level := by
    rintro _ ⟨⟩
    rfl

theorem idle_fleet_step :
    FleetStep idleFleet (.pass (idlePass 4 four_small none) (some 3)) idleFleetNext := by
  refine .pass ⟨_, idle_asked, ?_⟩ (removed_last idleCluster 3 four_small three_small)
  rintro r ⟨⟩
  rfl

/-- An idle cluster gives up its fourth node: the step starts at four, and the
size follows it. -/
theorem idle_step_waits :
    TrafficStep (idlePass 4 four_small none) idleWorld 4 3 ∧
    (∃ sts, idleWorld.sts = some sts ∧ sts.size = 4) ∧
    ∀ sts, (idleLowered none).sts = some sts →
      idleFleetNext.target ≤ sts.size + 1 ∧ sts.size ≤ idleFleetNext.target + 1 := by
  have htraffic : TrafficStep (idlePass 4 four_small none) idleWorld 4 3 := by
    obtain ⟨cl, hcl, hdesired⟩ := idle_decides_three none
    exact ⟨_, cl, rfl, hcl, rfl, hdesired.symm, by decide⟩
  have horderly : Orderly ⟨idleFleet, .pass (idlePass 4 four_small none) (some 3),
      idleFleetNext⟩ := by
    constructor
    · rintro inp removal ⟨⟩ r hr _
      have hobserved := idle_observed (pinBootstrapSize idleCluster) 4 four_small
      exact Option.some.inj (hr.symm.trans (congrArg Observed.membership hobserved))
    · rintro endpoint i ⟨⟩
    · rintro inp i ⟨⟩
      exact ⟨rfl, _, idle_asked, rfl⟩
    · rintro inp removal ⟨⟩ _
      rfl
  obtain ⟨hstart, hnear⟩ := traffic_waits_for_the_size (Run.single idle_fleet_step) idle_level
    (fun t ht => by rw [List.mem_singleton.mp ht]; exact horderly) _ (List.mem_singleton.mpr rfl)
  exact ⟨htraffic, hstart _ _ 4 3 rfl htraffic, hnear⟩

/-! ## A lost answer -/

def restingBounds : AutoscalingSpec :=
  { minReplicas := 3, maxReplicas := 6, targetQueueDepth := some 10
    scaleDownStabilizationSeconds := some 0 }

def restingCluster : KahunaCluster :=
  { name := "kahuna"
    ns := "kv"
    spec :=
      { replicas := some 5
        replication := some { factor := 3 }
        autoscaling := some restingBounds }
    status :=
      { bootstrapped := true
        bootstrapSize := 5
        autoscaling := some { desiredReplicas := 5 } } }

def restingAnswers (n : Nat) (h : n < 2 ^ 31) : Answers :=
  { membership := rosterOf restingCluster n h
    leave := { outcome := .committed }
    placement := some { partitions := [] } }

/-- The nodes agree on a roster of `n`; the answer to a leave request is lost. -/
def lossyPass (n : Nat) (h : n < 2 ^ 31) : PassInput :=
  { (agreedEnv restingCluster 5 (restingAnswers n h)).withLeave (.error (.other "connection reset"))
    with }

def restingWorld : World := { cluster := restingCluster, sts := some { replicas := some 5 } }

theorem lossy_observed (cluster : KahunaCluster) (n : Nat) (h : n < 2 ^ 31) :
    observe (lossyPass n h).toPassEnv cluster =
      { membership := some (rosterOf restingCluster n h)
        placement := some { partitions := [] }, placementErr := none } :=
  (observe_withLeave _ _ cluster).trans (observe_agreedEnv restingCluster cluster 5 _ (by decide))

def restingDecision : Except Panic (KahunaCluster × Samples) :=
  reconcileAutoscaling (lossyPass 5 five_small).toPassEnv restingCluster true
    (some (rosterOf restingCluster 5 five_small)) (some { partitions := [] }) none

theorem restingDecision_four :
    restingDecision.toOption.map (fun p => desiredReplicas p.1) = some 4 := by
  decide +kernel

def restingLowered : KahunaCluster := (restingDecision.toOption.map Prod.fst).getD restingCluster

theorem restingLowered_autoscaled :
    autoscaled (lossyPass 5 five_small).toPassEnv (pinBootstrapSize restingCluster) =
      .ok restingLowered ∧ desiredReplicas restingLowered = 4 := by
  obtain ⟨⟨cl, samples⟩, hdecision, hfour⟩ := exists_of_toOption_map restingDecision_four
  have hcl : restingLowered = cl := by
    unfold restingLowered
    rw [hdecision]
    rfl
  have hboot : restingCluster.status.bootstrapped = true := rfl
  unfold restingDecision at hdecision
  rw [hcl, pinBootstrapSize_of_ne (by decide)]
  refine ⟨?_, hfour⟩
  simp only [autoscaled, lossy_observed, hboot, hdecision]

/-- The first pass, in which the fifth node leaves and its answer is lost. -/
def lossyOnce : World := pass (lossyPass 5 five_small) restingWorld

/-- And the second, over the roster of four. -/
def lossyTwice : World := pass (lossyPass 4 four_small) lossyOnce

theorem lossyOnce_cluster :
    lossyOnce.cluster = { restingCluster with
      status := reported (lossyPass 5 five_small) restingCluster restingLowered
        (sized (lossyPass 5 five_small).toPassEnv restingCluster restingLowered
          (some { replicas := some 5 })) } := by
  have hpin : pinBootstrapSize restingWorld.cluster = restingCluster :=
    pinBootstrapSize_of_ne (by decide)
  have hcl := restingLowered_autoscaled.1
  have hpassed := pass_passed (lossyPass 5 five_small) restingWorld
  unfold lossyOnce
  generalize pass (lossyPass 5 five_small) restingWorld = w at hpassed ⊢
  cases hpassed with
  | idle h => cases h
  | pinned _ h => cases h
  | configured _ h =>
      rcases h with h | ⟨e, he⟩
      · cases h
      · cases hcl.symm.trans he
  | sized _ _ h => cases h
  | reported hcl' _ =>
      cases hcl.symm.trans hcl'
      simp only [hpin]
      rfl

theorem lossy_decides_three :
    ∃ cl, autoscaled (lossyPass 4 four_small).toPassEnv (pinBootstrapSize lossyOnce.cluster) =
      .ok cl ∧ desiredReplicas cl = 3 := by
  refine exists_of_toOption_map ?_
  rw [lossyOnce_cluster]
  simp only [autoscaled, reported, lossy_observed]
  decide +kernel

/-- Without an answer from a node that can be reached, the size is not lowered. -/
theorem lossy_held {n : Nat} {h : n < 2 ^ 31} {w : World} {cl : KahunaCluster} {sts : StatefulSet}
    (hsts : w.sts = some sts) (hsize : sts.size = 5)
    (hboot : w.cluster.status.bootstrapped = true)
    (hname : podName w.cluster 4 = podName restingCluster 4)
    (hcl : autoscaled (lossyPass n h).toPassEnv (pinBootstrapSize w.cluster) = .ok cl)
    (hdesired : desiredReplicas cl ≤ 5) : (pass (lossyPass n h) w).size = 5 := by
  have hgated := pass_gated hsts hboot hcl
  rw [hsize] at hgated
  have hkept : ¬ (pass (lossyPass n h) w).size < 5 := by
    intro hlower
    rcases hgated.left hlower with hnone | ⟨_, _, _, _, r, hanswer, _⟩
    · have hpod : podName cl 4 = podName restingCluster 4 := (podName_autoscaled hcl 4).trans hname
      exact readyPods_reachable (n := 5) (by decide) hpod hnone
    · cases hanswer
  have hmoved := hgated.size
  omega

theorem lossyOnce_size : lossyOnce.size = 5 := by
  obtain ⟨hcl, hfour⟩ := restingLowered_autoscaled
  have hsts : restingWorld.sts = some { replicas := some 5 } := rfl
  exact lossy_held hsts rfl rfl rfl hcl (by rw [hfour]; decide)

theorem lossyOnce_bootstrapped : lossyOnce.cluster.status.bootstrapped = true :=
  (pass_passed (lossyPass 5 five_small) restingWorld).bootstrapped.mpr (Or.inl rfl)

theorem lossyOnce_desired : desiredReplicas lossyOnce.cluster = 4 := by
  obtain ⟨hcl, hfour⟩ := restingLowered_autoscaled
  exact ((pass_passed _ restingWorld).desired_written hcl rfl).trans hfour

theorem lossyTwice_size : lossyTwice.size = 5 := by
  obtain ⟨cl, hcl, hthree⟩ := lossy_decides_three
  have hsome : lossyOnce.sts.isSome = true := pass_sts_isSome rfl
  obtain ⟨sts, hsts⟩ := Option.isSome_iff_exists.mp hsome
  have hsize : sts.size = 5 := (World.size_of_sts hsts).symm.trans lossyOnce_size
  have hname : podName lossyOnce.cluster 4 = podName restingCluster 4 := by
    rw [lossyOnce_cluster]
    rfl
  exact lossy_held hsts hsize lossyOnce_bootstrapped hname hcl (by rw [hthree]; decide)

theorem lossyTwice_desired : desiredReplicas lossyTwice.cluster = 3 := by
  obtain ⟨cl, hcl, hthree⟩ := lossy_decides_three
  exact ((pass_passed _ lossyOnce).desired_written hcl rfl).trans hthree

theorem lossy_roster {n : Nat} {h : n < 2 ^ 31} {w : World} :
    (lossyPass n h).roster w = some (rosterOf restingCluster n h) :=
  congrArg Observed.membership (lossy_observed _ n h)

theorem lossy_asked :
    (4, .error (.other "connection reset")) ∈
      passLeaveCalls (lossyPass 5 five_small) restingWorld := by
  obtain ⟨hcl, hfour⟩ := restingLowered_autoscaled
  have hsts : restingWorld.sts = some { replicas := some 5 } := rfl
  have hsettled : Settled restingLowered (some { partitions := [] }) 5 := by
    rintro _ ⟨⟩ part hpart
    cases hpart
  obtain ⟨url, hasked⟩ := settled_pass_asks hsts rfl hcl rfl (lossy_observed _ 5 five_small)
    (exactVoters_rosterOf restingCluster 5 five_small) hsettled (by rw [hfour]; decide)
    (readyPods_reachable (by decide) (podName_autoscaled hcl 4))
  exact hasked

theorem lossy_no_answer {n : Nat} {h : n < 2 ^ 31} {w : World} {i : Nat} {r : LeaveResult} :
    (i, .ok r) ∉ passLeaveCalls (lossyPass n h) w := by
  intro hcall
  obtain ⟨cl, sts, _, _, hcall⟩ := passLeaveCalls_inv hcall
  simp only [leaveCalls] at hcall
  split at hcall
  · split at hcall
    · cases hcall
    · cases List.mem_singleton.mp hcall
  · cases hcall

/-- The fifth node leaves and its answer is lost.  The size is held at five, the
target is stored as four, and the roster is the one of four; the next pass finds
the autoscaler converged and lowers the target again, two below the size. -/
theorem lost_answer_stacks_a_step :
    let roster := rosterOf restingCluster 4 four_small
    let start : Fleet := ⟨restingWorld, rosterOf restingCluster 5 five_small⟩
    Run FleetStep start
      [⟨start, .pass (lossyPass 5 five_small) (some 4), ⟨lossyOnce, roster⟩⟩,
        ⟨⟨lossyOnce, roster⟩, .pass (lossyPass 4 four_small) none, ⟨lossyTwice, roster⟩⟩]
      ⟨lossyTwice, roster⟩ ∧
    restingCluster.spec.Accepted ∧ Level restingBounds start ∧
    (lossyPass 5 five_small).roster restingWorld = some start.roster ∧
    (lossyPass 4 four_small).roster lossyOnce = some roster ∧
    TrafficStep (lossyPass 4 four_small) lossyOnce 4 3 ∧ lossyOnce.size = 5 ∧
    lossyTwice.size = 5 ∧ desiredReplicas lossyTwice.cluster = 3 := by
  intro roster start
  have hfirst : FleetStep start (.pass (lossyPass 5 five_small) (some 4)) ⟨lossyOnce, roster⟩ := by
    refine .pass ⟨_, lossy_asked, ?_⟩
      (removed_last restingCluster 4 five_small four_small)
    rintro r ⟨⟩
  have hsecond : FleetStep ⟨lossyOnce, roster⟩ (.pass (lossyPass 4 four_small) none)
      ⟨lossyTwice, roster⟩ :=
    .pass (fun i r hcall => absurd hcall lossy_no_answer) rfl
  have htraffic : TrafficStep (lossyPass 4 four_small) lossyOnce 4 3 := by
    obtain ⟨cl, hcl, hthree⟩ := lossy_decides_three
    refine ⟨restingBounds, cl, ?_, hcl, ?_, hthree.symm, by decide⟩
    · rw [lossyOnce_cluster]
      rfl
    · rw [lossyOnce_desired]
      rfl
  have hlevel : Level restingBounds start := by
    refine ⟨rfl, by decide, by decide, nofun, ?_⟩
    rintro _ ⟨⟩
    rfl
  exact ⟨.cons hfirst (.cons hsecond (.nil _)), by decide, hlevel, lossy_roster, lossy_roster,
    htraffic, lossyOnce_size, lossyTwice_size, lossyTwice_desired⟩

end KahunaOperator
