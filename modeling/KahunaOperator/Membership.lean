/-
# `KahunaOperator.Membership` — pods, the roster read, and the leave call

`internal/controller/membership.go`.  The roster is asked of one pod after
another, ready ones first and by ordinal, until one answers.  A node is taken
out of the roster by asking it to leave; `decommission` says whether its pod
may go, and `decommission_left` is everything its callers need: either no
listed pod of that name has an address, or the pod found was asked and the
answer was that it is out.
-/
import KahunaOperator.Client
import KahunaOperator.Lib.Cut

namespace KahunaOperator

/-! ## Pods -/

inductive ConditionStatus where
  | true
  | false
  | unknown
deriving DecidableEq, Repr

structure PodCondition where
  type : String
  status : ConditionStatus
deriving DecidableEq, Repr

structure Container where
  name : String
  image : String
deriving DecidableEq, Repr

/-- The fields of a pod the operator looks at; `deleting` says that the deletion
timestamp is set, `configHash` is the annotation of that name, empty when absent. -/
structure Pod where
  name : String
  uid : String := ""
  podIP : String := ""
  deleting : Bool := false
  conditions : List PodCondition := []
  containers : List Container := []
  configHash : String := ""
deriving DecidableEq, Repr

def podBaseURL (cluster : KahunaCluster) (pod : Pod) : String :=
  "http://" ++ pod.podIP ++ ":" ++ toString (ports cluster).http

def int32 (n : Int) : Int := n.bmod (2 ^ 32)

theorem int32_of_lt {n : Nat} (h : n < 2 ^ 31) : int32 n = n := by
  unfold int32
  exact Int.bmod_eq_of_le (by omega) (by omega)

def parseDigits (cs : List Char) : Option Nat :=
  if cs.isEmpty || cs.any (fun c => !c.isDigit) then none
  else some (cs.foldl (fun n c => 10 * n + (c.toNat - '0'.toNat)) 0)

/-- `strconv.Atoi`: an optional sign, digits, and a value that fits 64 bits. -/
def atoi (cs : List Char) : Option Int :=
  let signed : Option Int :=
    match cs with
    | '-' :: ds => (parseDigits ds).map fun n => -(n : Int)
    | '+' :: ds => (parseDigits ds).map fun n => (n : Int)
    | ds => (parseDigits ds).map fun n => (n : Int)
  signed.filter fun n => decide (-(2 ^ 63) ≤ n ∧ n < 2 ^ 63)

/-- The ordinal after the last dash of a pod name, or `-1`. -/
def ordinalOf (pod : String) : Int :=
  let cs := pod.toList
  if '-' ∈ cs then
    match atoi (cs.reverse.takeWhile (· ≠ '-')).reverse with
    | none => -1
    | some n => if n < 0 then -1 else int32 n
  else -1

theorem parseDigits_toDigits (n : Nat) : parseDigits (Nat.toDigits 10 n) = some n := by
  have hne : Nat.toDigits 10 n ≠ [] := Nat.toDigits_ne_nil
  have hdigits : ∀ c ∈ Nat.toDigits 10 n, c.isDigit = true := fun c hc =>
    Nat.isDigit_of_mem_toDigits (by decide) (by decide) hc
  have hany : (Nat.toDigits 10 n).any (fun c => !c.isDigit) = false := by
    rw [List.any_eq_false]
    intro c hc
    rw [hdigits c hc]
    simp
  have hvalue := Nat.ofDigitChars_toDigits (b := 10) (n := n) (by decide) (by decide)
  simp only [parseDigits, hany, List.isEmpty_iff, hne, Bool.or_false]
  exact congrArg some hvalue

theorem afterLastDash_podName (cluster : KahunaCluster) (i : Nat) :
    ((podName cluster i).toList.reverse.takeWhile (· ≠ '-')).reverse = Nat.toDigits 10 i := by
  have hdash : '-' ∉ Nat.toDigits 10 i := by
    intro hmem
    have hd := Nat.isDigit_of_mem_toDigits (by decide) (by decide) hmem
    exact absurd hd (by decide)
  have hlist : (podName cluster i).toList =
      cluster.name.toList ++ '-' :: Nat.toDigits 10 i := by
    show (cluster.name ++ "-" ++ Nat.repr i).toList = _
    rw [String.toList_append, String.toList_append, Nat.toList_repr, List.append_assoc]
    rfl
  rw [hlist, Lib.afterLast_cut _ hdash]

theorem dash_mem_podName (cluster : KahunaCluster) (i : Nat) :
    '-' ∈ (podName cluster i).toList := by
  simp [podName, String.toList_append]

theorem atoi_toDigits {n : Nat} (h : n < 2 ^ 63) : atoi (Nat.toDigits 10 n) = some (n : Int) := by
  have hparse := parseDigits_toDigits n
  have hdigits : ∀ c ∈ Nat.toDigits 10 n, c.isDigit = true := fun c hc =>
    Nat.isDigit_of_mem_toDigits (by decide) (by decide) hc
  have hsigned : atoi (Nat.toDigits 10 n) =
      (some (n : Int)).filter fun m => decide (-(2 ^ 63) ≤ m ∧ m < 2 ^ 63) := by
    unfold atoi
    split
    · next ds hds => exact absurd (hdigits '-' (hds ▸ List.mem_cons_self)) (by decide)
    · next ds hds => exact absurd (hdigits '+' (hds ▸ List.mem_cons_self)) (by decide)
    · rw [hparse]
      rfl
  rw [hsigned, Option.filter_some, if_pos]
  rw [decide_eq_true_iff]
  omega

theorem ordinalOf_podName (cluster : KahunaCluster) {i : Nat} (h : i < 2 ^ 31) :
    ordinalOf (podName cluster i) = i := by
  simp only [ordinalOf, dash_mem_podName, if_true, afterLastDash_podName]
  rw [atoi_toDigits (by omega)]
  simp only
  rw [if_neg (by omega), int32_of_lt h]

/-- The first `Ready` condition decides. -/
def podIsReady (pod : Pod) : Bool :=
  match pod.conditions.find? (·.type == "Ready") with
  | some c => c.status == .true
  | none => false

/-! ## Reading the roster -/

/-- Ask one pod after another; the first answer counts, the last error is
reported. -/
def firstAnswer {α : Type} (ask : Pod → Except KahunaError α) (lastErr : KahunaError) :
    List Pod → Except KahunaError α
  | [] => .error lastErr
  | pod :: pods =>
      match ask pod with
      | .ok a => .ok a
      | .error e => firstAnswer ask e pods

/-- The order candidates are asked in: ready pods first, then by ordinal. -/
def membershipOrder (a b : Pod) : Bool :=
  if podIsReady a != podIsReady b then podIsReady a
  else decide (int32 (ordinalOf a.name - ordinalOf b.name) ≤ 0)

def readMembership (cluster : KahunaCluster) (kahuna : Client) (pods : List Pod) :
    Except KahunaError Membership :=
  let candidates := pods.filter fun p => p.podIP != "" && !p.deleting
  firstAnswer (fun pod => kahuna.membership (podBaseURL cluster pod))
    (.other "no pod was reachable") (candidates.mergeSort membershipOrder)

theorem firstAnswer_ok {α : Type} {ask : Pod → Except KahunaError α} {e : KahunaError} {a : α} :
    ∀ {pods : List Pod}, firstAnswer ask e pods = .ok a → ∃ p ∈ pods, ask p = .ok a := by
  intro pods
  induction pods generalizing e with
  | nil =>
      intro h
      cases h
  | cons p pods ih =>
      intro h
      simp only [firstAnswer] at h
      cases hp : ask p with
      | ok b =>
          rw [hp] at h
          exact ⟨p, List.mem_cons_self, hp.trans h⟩
      | error e' =>
          rw [hp] at h
          obtain ⟨q, hq, hask⟩ := ih h
          exact ⟨q, List.mem_cons_of_mem _ hq, hask⟩

theorem readMembership_ok {cluster : KahunaCluster} {kahuna : Client} {pods : List Pod}
    {m : Membership} (h : readMembership cluster kahuna pods = .ok m) :
    ∃ p ∈ pods, kahuna.membership (podBaseURL cluster p) = .ok m := by
  obtain ⟨p, hp, hask⟩ := firstAnswer_ok h
  exact ⟨p, (List.mem_filter.mp ((List.mergeSort_perm _ _).mem_iff.mp hp)).1, hask⟩

/-! ## Status of the members -/

/-- One roster entry joined to the pod behind it, looked for among the first
`ordinals` endpoints.  The map from names to pods keeps the last pod of a name,
as assignments in a loop do. -/
def joinMember (cluster : KahunaCluster) (pods : List Pod) (ordinals : Nat)
    (mem : Member) : MemberStatus :=
  match (List.range ordinals).find? fun o => raftEndpoint cluster o == mem.endpoint with
  | none =>
      { podName := "", endpoint := mem.endpoint, nodeID := mem.nodeID, role := mem.role,
        joinedVersion := mem.joinedVersion, ready := false }
  | some o =>
      { podName := podName cluster o, endpoint := mem.endpoint, nodeID := mem.nodeID,
        role := mem.role, joinedVersion := mem.joinedVersion,
        ready := ((pods.reverse.find? (·.name == podName cluster o)).map podIsReady).getD false }

/-- The roster as a member table, sorted by endpoint. -/
def buildMemberStatus (cluster : KahunaCluster) (m : Membership) (pods : List Pod) :
    List MemberStatus :=
  let ordinals := (int32 (int32 pods.length + desiredReplicas cluster)).toNat
  (m.members.map (joinMember cluster pods ordinals)).mergeSort
    fun a b => decide (a.endpoint ≤ b.endpoint)

@[simp] theorem joinMember_role (cluster : KahunaCluster) (pods : List Pod) (n : Nat)
    (mem : Member) : (joinMember cluster pods n mem).role = mem.role := by
  unfold joinMember
  split <;> rfl

/-- Voters and learners of a member table. -/
def countRoles (members : List MemberStatus) : Nat × Nat :=
  (members.countP (·.role == .voter), members.countP (·.role == .learner))

theorem countP_memberTable (cluster : KahunaCluster) (pods : List Pod) (n : Nat)
    (le : MemberStatus → MemberStatus → Bool) (members : List Member) (r : Role) :
    ((members.map (joinMember cluster pods n)).mergeSort le).countP (·.role == r) =
      members.countP (·.role == r) := by
  rw [(List.mergeSort_perm _ _).countP_eq, List.countP_map]
  refine List.countP_congr fun mem _ => ?_
  simp only [Function.comp_apply, joinMember_role]

/-- The table counts the roster's own Voters and learners. -/
theorem countRoles_buildMemberStatus (cluster : KahunaCluster) (m : Membership)
    (pods : List Pod) :
    countRoles (buildMemberStatus cluster m pods) =
      (m.members.countP (·.role == .voter), m.members.countP (·.role == .learner)) :=
  Prod.ext (countP_memberTable cluster pods _ _ m.members .voter)
    (countP_memberTable cluster pods _ _ m.members .learner)

/-! ## Leaving -/

/-- The pod a leave request for an ordinal goes to: the first listed pod of that
name with an address. -/
def leaveTarget (cluster : KahunaCluster) (pods : List Pod) (ordinal : Nat) : Option Pod :=
  pods.find? fun p => p.name == podName cluster ordinal && p.podIP != ""

/-- Ask the node at an ordinal to leave, and say whether its pod may be taken
away; the text explains a refusal. -/
def decommission (cluster : KahunaCluster) (kahuna : Client) (pods : List Pod)
    (ordinal : Nat) : Bool × String :=
  let name := podName cluster ordinal
  match leaveTarget cluster pods ordinal with
  | none => (true, "")
  | some pod =>
      match kahuna.leave (podBaseURL cluster pod) with
      | .error e => (false, "could not ask " ++ name ++ " to leave the cluster: " ++ e.message)
      | .ok result =>
          if result.removed then (true, "")
          else if !result.retryable then (false, name ++ " refused to leave: " ++ result.reason)
          else (false, "waiting for " ++ name ++ " to leave the cluster: " ++ result.reason)

def NoReachablePod (cluster : KahunaCluster) (pods : List Pod) (ordinal : Nat) : Prop :=
  ∀ p ∈ pods, p.name = podName cluster ordinal → p.podIP = ""

/-- A listed pod of the ordinal's name was asked to leave and answered that it
is out of the roster. -/
def LeaveAnswered (cluster : KahunaCluster) (kahuna : Client) (pods : List Pod)
    (ordinal : Nat) : Prop :=
  ∃ p ∈ pods, p.name = podName cluster ordinal ∧ p.podIP ≠ "" ∧
    ∃ r, kahuna.leave (podBaseURL cluster p) = .ok r ∧
      (r.outcome = .committed ∨ r.outcome = .notAMember)

instance (cluster : KahunaCluster) (pods : List Pod) (ordinal : Nat) :
    Decidable (NoReachablePod cluster pods ordinal) :=
  inferInstanceAs (Decidable (∀ p ∈ pods, _))

theorem leaveTarget_eq_none_iff {cluster : KahunaCluster} {pods : List Pod} {ordinal : Nat} :
    leaveTarget cluster pods ordinal = none ↔ NoReachablePod cluster pods ordinal := by
  unfold leaveTarget NoReachablePod
  rw [List.find?_eq_none]
  refine forall₂_congr fun p _ => ?_
  simp only [Bool.and_eq_true, beq_iff_eq, bne_iff_ne, not_and, not_not]

theorem leaveTarget_mem {cluster : KahunaCluster} {pods : List Pod} {ordinal : Nat} {p : Pod}
    (h : leaveTarget cluster pods ordinal = some p) :
    p ∈ pods ∧ p.name = podName cluster ordinal ∧ p.podIP ≠ "" := by
  have hp := List.find?_some h
  simp only [Bool.and_eq_true, beq_iff_eq, bne_iff_ne] at hp
  exact ⟨List.mem_of_find?_eq_some h, hp⟩

/-- Leave to take a pod away: nobody to ask, or the pod asked is out. -/
theorem decommission_left {cluster : KahunaCluster} {kahuna : Client} {pods : List Pod}
    {ordinal : Nat} (h : (decommission cluster kahuna pods ordinal).1 = true) :
    NoReachablePod cluster pods ordinal ∨ LeaveAnswered cluster kahuna pods ordinal := by
  unfold decommission at h
  cases ht : leaveTarget cluster pods ordinal with
  | none => exact Or.inl (leaveTarget_eq_none_iff.mp ht)
  | some p =>
      obtain ⟨hmem, hname, hip⟩ := leaveTarget_mem ht
      simp only [ht] at h
      cases hl : kahuna.leave (podBaseURL cluster p) with
      | error e => simp [hl] at h
      | ok r =>
          simp only [hl] at h
          by_cases hr : r.removed = true
          · exact Or.inr ⟨p, hmem, hname, hip, r, hl, LeaveResult.removed_iff.mp hr⟩
          · rw [if_neg hr] at h
            split at h <;> simp at h

end KahunaOperator
