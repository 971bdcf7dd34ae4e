/-
# `KahunaOperator.BackupGate` — what has to hold before a backup starts

The three checks of `internal/controller/backup.go` between a backup that is due
and its start: the claim that holds the backups (`readBackupVolume`), the state
of the cluster (`backupBlocked`), and what its image can do (`backupUnsupported`).
Each returns a text, and the empty text lets the backup through, so each spec
below says what the empty text means:

    backupBlocked = ""       bootstrapped, the roster exact, every node's pod
                             ready on the current script and image (`backupBlocked_free`)
    backupUnsupported = ""   every node holds every partition, or the image may
                             compose a backup                      (`backupUnsupported_free`)
    message of an unbound volume ≠ ""                          (`readBackupVolume_bound`)

`backupBlocked` finds a missing pod by counting.  `NamedPods.count` is why that is
enough: pods with different names that have an ordinal below `n` are `n` only if
every ordinal below `n` has one.
-/
import KahunaOperator.Entrypoint
import KahunaOperator.Status

namespace KahunaOperator

/-! ## Texts -/

/-- `%q`, of text whose characters beyond ASCII are printable. -/
def quote (s : String) : String :=
  let escaped (c : Char) : String :=
    if c = '"' then "\\\""
    else if c = '\\' then "\\\\"
    else if c = '\x07' then "\\a"
    else if c = '\x08' then "\\b"
    else if c = '\x0c' then "\\f"
    else if c = '\n' then "\\n"
    else if c = '\r' then "\\r"
    else if c = '\t' then "\\t"
    else if c = '\x0b' then "\\v"
    else if c.toNat < 32 ∨ c.toNat = 127 then
      "\\x" ++ String.ofList [Nat.digitChar (c.toNat / 16), Nat.digitChar (c.toNat % 16)]
    else c.toString
  "\"" ++ String.join (s.toList.map escaped) ++ "\""

/-- `unicode.IsSpace`. -/
def isSpace (c : Char) : Bool :=
  let n := c.toNat
  decide ((9 ≤ n ∧ n ≤ 13) ∨ n = 32 ∨ n = 0x85 ∨ n = 0xA0 ∨ n = 0x1680 ∨
    (0x2000 ≤ n ∧ n ≤ 0x200A) ∨ n = 0x2028 ∨ n = 0x2029 ∨ n = 0x202F ∨ n = 0x205F ∨ n = 0x3000)

def trimRight (p : Char → Bool) (cs : List Char) : List Char :=
  (cs.reverse.dropWhile p).reverse

theorem append_ne_empty {a : String} (b : String) (h : a ≠ "") : a ++ b ≠ "" :=
  fun hab => h (String.append_eq_empty_iff.mp hab).1

/-! ## The volume -/

instance : ToString AccessMode where
  toString
    | .readWriteOnce => "ReadWriteOnce"
    | .readOnlyMany => "ReadOnlyMany"
    | .readWriteMany => "ReadWriteMany"
    | .readWriteOncePod => "ReadWriteOncePod"

inductive ClaimPhase where
  | unset
  | pending
  | bound
  | lost
deriving DecidableEq, Repr

/-- What the operator reads of a PersistentVolumeClaim.  `size` is the storage it
requests; `deleting` says that the deletion timestamp is set. -/
structure Claim where
  phase : ClaimPhase
  accessModes : List AccessMode := []
  statusAccessModes : List AccessMode := []
  volumeName : String := ""
  storageClassName : Option String := none
  size : Rat := 0
  deleting : Bool := false
deriving DecidableEq, Repr

inductive GetError where
  | notFound
  | other (text : String)
deriving DecidableEq, Repr

/-- A Warning event on the claim, with the four times it can carry. -/
structure ClaimEvent where
  reason : String
  message : String
  creationTimestamp : Option Time := none
  lastTimestamp : Option Time := none
  eventTime : Option Time := none
  lastObservedTime : Option Time := none
deriving DecidableEq, Repr

/-- The later of two times, where an unset one is before all others. -/
def laterTime (a b : Option Time) : Option Time :=
  match a, b with
  | none, b => b
  | a, none => a
  | some x, some y => some (if x < y then y else x)

def ClaimEvent.time (e : ClaimEvent) : Option Time :=
  laterTime (laterTime (laterTime e.creationTimestamp e.lastTimestamp) e.eventTime)
    e.lastObservedTime

def afterTime (a b : Option Time) : Bool :=
  match a, b with
  | some x, some y => decide (y < x)
  | some _, none => true
  | none, _ => false

/-- The newest event, the first of those that share its time. -/
def latestClaimWarning (events : List ClaimEvent) : Option ClaimEvent :=
  events.foldl (fun latest e =>
    match latest with
    | none => some e
    | some l => if afterTime e.time l.time then some e else some l) none

/-- What `metav1.Condition` accepts as a reason. -/
def isConditionReason (reason : String) : Bool :=
  match reason.toList with
  | [] => false
  | c :: cs =>
      let word (c : Char) : Bool := c.isAlphanum || c == '_'
      c.isAlpha && cs.all (fun c => word c || c == ',' || c == ':') &&
        (cs.getLast?.map word).getD true

structure BackupVolume where
  bound : Bool := false
  ready : Bool := false
  reason : String
  message : String
deriving DecidableEq, Repr

def claimStuck : String := ". Every node mounts it, so no pod can start until it is bound"

def pendingVolume (name : String) (claim : Claim) (warnings : List ClaimEvent) : BackupVolume :=
  let quoted := "PersistentVolumeClaim " ++ quote name
  match latestClaimWarning warnings with
  | none => { reason := "ClaimPending", message := quoted ++ " is not bound yet" ++ claimStuck }
  | some warning =>
      let trimmed :=
        trimRight (· == '.') (trimRight isSpace (warning.message.toList.dropWhile isSpace))
      { reason := if isConditionReason warning.reason then warning.reason else "ClaimPending"
        message := quoted ++ " is not bound: " ++ warning.reason ++ ": " ++
          String.ofList trimmed ++ claimStuck ++
          if claim.accessModes.contains .readWriteMany then
            ". The claim asks for ReadWriteMany, so its StorageClass must support that access " ++
            "mode. Set spec.backup.volume.claim.storageClassName to a class that does, or name " ++
            "a ReadWriteMany claim in spec.backup.volume.claimName"
          else "" }

/-- The claim as the volume of every node.  `warnings` are the Warning events on
it; when they cannot be read there are none. -/
def readBackupVolume (cluster : KahunaCluster) (spec : BackupSpec) (claim : Except GetError Claim)
    (warnings : List ClaimEvent) : BackupVolume :=
  let name := backupClaimName cluster spec
  let quoted := "PersistentVolumeClaim " ++ quote name
  match claim with
  | .error .notFound =>
      { reason := "ClaimNotFound"
        message := quoted ++
          " does not exist. Every node mounts it, so no pod can start until it exists" }
  | .error (.other text) =>
      { reason := "ClaimUnreadable", message := "reading " ++ quoted ++ ": " ++ text }
  | .ok c =>
      match c.phase with
      | .bound =>
          if !singleNode cluster && !c.statusAccessModes.contains .readWriteMany then
            { bound := true
              reason := "NotReadWriteMany"
              message := quoted ++ " is bound with access modes " ++
                fmtSlice c.statusAccessModes ++ ", not ReadWriteMany. Every node mounts it, so " ++
                "a pod that runs on a different Kubernetes node than the volume cannot start" }
          else
            { bound := true, ready := true, reason := "ClaimBound",
              message := quoted ++ " is bound" }
      | .lost =>
          { reason := "ClaimLost"
            message := quoted ++ " lost its PersistentVolume " ++ quote c.volumeName }
      | .unset | .pending => pendingVolume name c warnings

theorem pendingVolume_unbound (name : String) (claim : Claim) (warnings : List ClaimEvent) :
    (pendingVolume name claim warnings).bound = false ∧
      (pendingVolume name claim warnings).message ≠ "" := by
  have hquoted : "PersistentVolumeClaim " ++ quote name ≠ "" := append_ne_empty _ (by decide)
  unfold pendingVolume
  cases latestClaimWarning warnings with
  | none => exact ⟨rfl, append_ne_empty _ (append_ne_empty _ hquoted)⟩
  | some warning =>
      refine ⟨rfl, ?_⟩
      repeat refine append_ne_empty _ ?_
      decide

theorem readBackupVolume_bound (cluster : KahunaCluster) (spec : BackupSpec)
    (claim : Except GetError Claim) (warnings : List ClaimEvent) :
    ((readBackupVolume cluster spec claim warnings).bound = true ∧
        ∃ c, claim = .ok c ∧ c.phase = .bound) ∨
      ((readBackupVolume cluster spec claim warnings).bound = false ∧
        (readBackupVolume cluster spec claim warnings).message ≠ "") := by
  have hquoted : ∀ text,
      "PersistentVolumeClaim " ++ quote (backupClaimName cluster spec) ++ text ≠ "" :=
    fun _ => append_ne_empty _ (append_ne_empty _ (by decide))
  cases claim with
  | error e =>
      cases e with
      | notFound => exact Or.inr ⟨rfl, hquoted _⟩
      | other text =>
          have hreading : "reading " ++ ("PersistentVolumeClaim " ++
              quote (backupClaimName cluster spec)) ≠ "" := append_ne_empty _ (by decide)
          exact Or.inr ⟨rfl, append_ne_empty _ (append_ne_empty _ hreading)⟩
  | ok c =>
      obtain ⟨phase, modes, statusModes, volume⟩ := c
      cases phase with
      | bound =>
          refine Or.inl ⟨?_, _, rfl, rfl⟩
          simp only [readBackupVolume]
          split <;> rfl
      | lost => exact Or.inr ⟨rfl, append_ne_empty _ (hquoted _)⟩
      | unset => exact Or.inr (pendingVolume_unbound _ _ warnings)
      | pending => exact Or.inr (pendingVolume_unbound _ _ warnings)

/-! ## The state of the cluster -/

def podBlocked (cluster : KahunaCluster) (hash : String) (pod : Pod) : Option String :=
  if pod.deleting || !podIsReady pod then some (pod.name ++ " is not ready")
  else if pod.configHash ≠ hash then
    some (pod.name ++ " does not run the current configuration yet")
  else if podImage pod ≠ cluster.spec.image then
    some (pod.name ++ " does not run image " ++ cluster.spec.image ++ " yet")
  else none

def seenPods (cluster : KahunaCluster) (hash : String) (desired : Nat) :
    Int → List Pod → Except String Int
  | seen, [] => .ok seen
  | seen, pod :: pods =>
      if ordinalOf pod.name < 0 ∨ desired ≤ ordinalOf pod.name then
        seenPods cluster hash desired seen pods
      else
        match podBlocked cluster hash pod with
        | some reason => .error reason
        | none => seenPods cluster hash desired (int32 (seen + 1)) pods

/-- Why a backup must not start now, or nothing.  `configHash` is the digest of a
rendered script. -/
def backupBlocked (configHash : Script → String) (cluster : KahunaCluster)
    (membership : Option Membership) (pods : List Pod) : String :=
  let desired := desiredReplicas cluster
  if !cluster.status.bootstrapped then "the cluster has not finished bootstrap"
  else if !rosterMatches cluster membership desired then
    "the roster has not converged on the desired nodes"
  else
    match seenPods cluster (configHash (entrypointScript cluster)) desired 0 pods with
    | .error reason => reason
    | .ok seen =>
        if seen < desired then toString seen ++ " of " ++ toString desired ++ " pods exist" else ""

structure Fit (cluster : KahunaCluster) (hash : String) (pod : Pod) : Prop where
  ready : podIsReady pod = true
  staying : pod.deleting = false
  configured : pod.configHash = hash
  image : podImage pod = cluster.spec.image

theorem podBlocked_none {cluster : KahunaCluster} {hash : String} {pod : Pod}
    (h : podBlocked cluster hash pod = none) : Fit cluster hash pod := by
  unfold podBlocked at h
  split at h
  · cases h
  · next hready =>
      split at h
      · cases h
      · next hhash =>
          split at h
          · cases h
          · next himage =>
              simp only [Bool.or_eq_true, Bool.not_eq_true', not_or, Bool.not_eq_false,
                Bool.not_eq_true] at hready
              exact ⟨hready.2, hready.1, not_not.mp hhash, not_not.mp himage⟩

theorem podBlocked_ne_empty {cluster : KahunaCluster} {hash reason : String} {pod : Pod}
    (h : podBlocked cluster hash pod = some reason) : reason ≠ "" := by
  unfold podBlocked at h
  split at h
  · cases h
    simp [String.append_eq_empty_iff]
  · split at h
    · cases h
      simp [String.append_eq_empty_iff]
    · split at h
      · cases h
        simp [String.append_eq_empty_iff]
      · cases h

/-- The loop ends well when every pod it counts is fit, and then it has counted
them, as long as they fit its counter. -/
theorem seenPods_ok {cluster : KahunaCluster} {hash : String} {desired : Nat} {n : Int}
    {pods : List Pod} {seen : Int} (h : seenPods cluster hash desired seen pods = .ok n) :
    (∀ p ∈ podsBelow pods desired, Fit cluster hash p) ∧
      ∀ k : Nat, seen = k → k + (podsBelow pods desired).length < 2 ^ 31 →
        n = (k + (podsBelow pods desired).length : Nat) := by
  induction pods generalizing seen with
  | nil =>
      cases h
      exact ⟨fun p hp => absurd hp List.not_mem_nil, fun k hk _ => hk⟩
  | cons pod pods ih =>
      simp only [seenPods] at h
      split at h
      · next hout =>
          have hskip : podsBelow (pod :: pods) desired = podsBelow pods desired := by
            refine List.filter_cons_of_neg ?_
            rw [decide_eq_true_iff]
            omega
          rw [hskip]
          exact ih h
      · next hin =>
          have hkeep : podsBelow (pod :: pods) desired = pod :: podsBelow pods desired := by
            refine List.filter_cons_of_pos ?_
            rw [decide_eq_true_iff]
            omega
          rw [hkeep]
          cases hblocked : podBlocked cluster hash pod with
          | some reason =>
              rw [hblocked] at h
              cases h
          | none =>
              rw [hblocked] at h
              obtain ⟨hfit, hcount⟩ := ih h
              refine ⟨?_, ?_⟩
              · intro p hp
                rcases List.mem_cons.mp hp with rfl | hp
                · exact podBlocked_none hblocked
                · exact hfit p hp
              · rintro k rfl hsmall
                rw [List.length_cons] at hsmall ⊢
                have hk : k + 1 < 2 ^ 31 := by omega
                have hnext : int32 ((k : Int) + 1) = ((k + 1 : Nat) : Int) := int32_of_lt hk
                rw [hcount (k + 1) hnext (by omega)]
                omega

theorem seenPods_error {cluster : KahunaCluster} {hash reason : String} {desired : Nat}
    {pods : List Pod} {seen : Int}
    (h : seenPods cluster hash desired seen pods = .error reason) : reason ≠ "" := by
  induction pods generalizing seen with
  | nil => cases h
  | cons pod pods ih =>
      simp only [seenPods] at h
      split at h
      · exact ih h
      · cases hblocked : podBlocked cluster hash pod with
        | some found =>
            rw [hblocked] at h
            cases h
            exact podBlocked_ne_empty hblocked
        | none =>
            rw [hblocked] at h
            exact ih h

/-- The pods of a StatefulSet: one of each name, each name an ordinal's. -/
structure NamedPods (cluster : KahunaCluster) (pods : List Pod) : Prop where
  distinct : (pods.map Pod.name).Nodup
  named : ∀ p ∈ pods, ∃ i < 2 ^ 31, p.name = podName cluster i

theorem namedPods_range {cluster : KahunaCluster} {pod : Nat → Pod} {n : Nat}
    (hname : ∀ i, (pod i).name = podName cluster i) (hn : n ≤ 2 ^ 31) :
    NamedPods cluster ((List.range n).map pod) := by
  refine ⟨?_, ?_⟩
  · rw [List.map_map]
    refine Lib.nodup_map_range ?_ n
    intro i j hij
    exact podName_inj ((hname i).symm.trans (hij.trans (hname j)))
  · intro p hp
    obtain ⟨i, hi, rfl⟩ := List.mem_map.mp hp
    exact ⟨i, lt_of_lt_of_le (List.mem_range.mp hi) hn, hname i⟩

theorem NamedPods.mem_podsBelow {cluster : KahunaCluster} {pods : List Pod} {n : Nat} {p : Pod}
    (h : NamedPods cluster pods) (hn : n < 2 ^ 31) :
    p ∈ podsBelow pods n ↔ p ∈ pods ∧ ∃ i < n, p.name = podName cluster i := by
  unfold podsBelow
  rw [List.mem_filter, decide_eq_true_iff]
  refine and_congr_right fun hp => ?_
  constructor
  · rintro ⟨_, hlt⟩
    obtain ⟨i, hi, hname⟩ := h.named p hp
    rw [hname, ordinalOf_podName cluster hi] at hlt
    exact ⟨i, by omega, hname⟩
  · rintro ⟨i, hi, hname⟩
    rw [hname, ordinalOf_podName cluster (hi.trans hn)]
    omega

theorem NamedPods.count {cluster : KahunaCluster} {pods : List Pod} {n : Nat}
    (h : NamedPods cluster pods) (hn : n < 2 ^ 31) :
    (podsBelow pods n).length ≤ n ∧
      (n ≤ (podsBelow pods n).length → ∀ i < n, ∃ p ∈ podsBelow pods n,
        p.name = podName cluster i) := by
  have hdistinct : ((podsBelow pods n).map Pod.name).Nodup :=
    h.distinct.sublist (List.filter_sublist.map _)
  have hcover := Lib.cover_of_nodup (f := podName cluster) (n := n) hdistinct ?_
  · rw [List.length_map] at hcover
    refine ⟨hcover.1, ?_⟩
    intro hle i hi
    obtain ⟨p, hp, hname⟩ := List.mem_map.mp (hcover.2 hle i hi)
    exact ⟨p, hp, hname⟩
  · intro x hx
    obtain ⟨p, hp, rfl⟩ := List.mem_map.mp hx
    obtain ⟨_, i, hi, hname⟩ := (h.mem_podsBelow hn).mp hp
    exact ⟨i, hi, hname.symm⟩

theorem NamedPods.length_podsBelow {cluster : KahunaCluster} {pods : List Pod} {n : Nat}
    (h : NamedPods cluster pods) (hn : n < 2 ^ 31)
    (hall : ∀ i < n, ∃ p ∈ pods, p.name = podName cluster i) :
    (podsBelow pods n).length = n := by
  refine le_antisymm (h.count hn).1 ?_
  have hcover : ∀ i < n, podName cluster i ∈ (podsBelow pods n).map Pod.name := by
    intro i hi
    obtain ⟨p, hp, hname⟩ := hall i hi
    exact List.mem_map.mpr ⟨p, (h.mem_podsBelow hn).mpr ⟨hp, i, hi, hname⟩, hname⟩
  have hlength := (Lib.subperm_of_cover (fun _ _ hij => podName_inj hij) hcover).length_le
  rwa [List.length_map, List.length_map, List.length_range] at hlength

/-- Nothing blocks a backup: the cluster is bootstrapped, the roster is exact, and
every node's pod is there and fit. -/
theorem backupBlocked_free {configHash : Script → String} {cluster : KahunaCluster}
    {membership : Option Membership} {pods : List Pod} (hpods : NamedPods cluster pods)
    (h : backupBlocked configHash cluster membership pods = "") :
    cluster.status.bootstrapped = true ∧
      (∃ m, membership = some m ∧ ExactVoters cluster m (desiredReplicas cluster)) ∧
      desiredReplicas cluster < 2 ^ 31 ∧
      ∀ i < desiredReplicas cluster, ∃ p ∈ pods, p.name = podName cluster i ∧
        Fit cluster (configHash (entrypointScript cluster)) p := by
  simp only [backupBlocked] at h
  split at h
  · exact absurd h (by decide)
  · next hboot =>
      split at h
      · exact absurd h (by decide)
      · next hroster =>
          obtain ⟨m, rfl, hexact⟩ := rosterMatches_some (by simpa using hroster)
          have hsmall := hexact.small
          refine ⟨by simpa using hboot, ⟨m, rfl, hexact⟩, hsmall, ?_⟩
          obtain ⟨hle, hcomplete⟩ := hpods.count hsmall
          split at h
          · next hloop => exact absurd h (seenPods_error hloop)
          · next seen hloop =>
              obtain ⟨hfit, hcount⟩ := seenPods_ok hloop
              have hseen := hcount 0 rfl (by omega)
              have henough : ¬ seen < desiredReplicas cluster := by
                intro hfew
                rw [if_pos hfew] at h
                simp [String.append_eq_empty_iff] at h
              intro i hi
              obtain ⟨p, hp, hname⟩ := hcomplete (by omega) i hi
              exact ⟨p, ((hpods.mem_podsBelow hsmall).mp hp).1, hname, hfit p hp⟩

theorem podBlocked_fit {cluster : KahunaCluster} {hash : String} {pod : Pod}
    (h : Fit cluster hash pod) : podBlocked cluster hash pod = none := by
  simp [podBlocked, h.ready, h.staying, h.configured, h.image]

theorem seenPods_fit {cluster : KahunaCluster} {hash : String} {pods : List Pod}
    (h : ∀ p ∈ pods, Fit cluster hash p) (desired : Nat) (seen : Int) :
    ∃ n, seenPods cluster hash desired seen pods = .ok n := by
  induction pods generalizing seen with
  | nil => exact ⟨seen, rfl⟩
  | cons pod pods ih =>
      have hrest : ∀ p ∈ pods, Fit cluster hash p := fun p hp => h p (List.mem_cons_of_mem _ hp)
      simp only [seenPods, podBlocked_fit (h pod List.mem_cons_self)]
      split
      · exact ih hrest seen
      · exact ih hrest (int32 (seen + 1))

theorem backupBlocked_steady {configHash : Script → String} {cluster : KahunaCluster}
    {m : Membership} {pods : List Pod} (hboot : cluster.status.bootstrapped = true)
    (hroster : ExactVoters cluster m (desiredReplicas cluster))
    (hfit : ∀ p ∈ pods, Fit cluster (configHash (entrypointScript cluster)) p)
    (hall : (podsBelow pods (desiredReplicas cluster)).length = desiredReplicas cluster) :
    backupBlocked configHash cluster (some m) pods = "" := by
  have hsmall := hroster.small
  obtain ⟨n, hloop⟩ := seenPods_fit hfit (desiredReplicas cluster) 0
  have hseen := (seenPods_ok hloop).2 0 rfl (by omega)
  simp only [backupBlocked, hboot, rosterMatches_iff.mpr hroster, hloop]
  rw [hseen, hall]
  simp

/-! ## What the image can do -/

def composedBackupVersion : List Nat := [1, 12, 5]

/-- A number of the tag, which has to fit Go's `int`, and what follows it. -/
def versionNumber (cs : List Char) : Option (Nat × List Char) :=
  match parseDigits (cs.takeWhile Char.isDigit) with
  | none => none
  | some n => if n < 2 ^ 63 then some (n, cs.dropWhile Char.isDigit) else none

/-- What may follow the third number: nothing, or a dash or plus and more of the
line. -/
def versionSuffix (cs : List Char) : Bool :=
  match cs with
  | [] => true
  | c :: rest => (c == '-' || c == '+') && !rest.contains '\n'

/-- The release a tag such as `1.12.6` or `v1.12.6-rc.1` names. -/
def tagVersion (tag : List Char) : Option (List Nat) :=
  match versionNumber (if tag.head? = some 'v' then tag.tail else tag) with
  | some (major, '.' :: rest) =>
      match versionNumber rest with
      | some (minor, '.' :: rest) =>
          match versionNumber rest with
          | some (patch, rest) => if versionSuffix rest then some [major, minor, patch] else none
          | none => none
      | _ => none
  | _ => none

/-- The release of an image, when its tag names one: the text after the last
colon, before any digest, with no slash in it. -/
def imageVersion (image : String) : Option (List Nat) :=
  let cs := image.toList.takeWhile (· ≠ '@')
  if ':' ∈ cs then
    let tag := (cs.reverse.takeWhile (· ≠ ':')).reverse
    if '/' ∈ tag then none else tagVersion tag
  else none

def mostReplicas (cluster : KahunaCluster) : Nat :=
  match cluster.spec.autoscaling with
  | some as => as.maxReplicas
  | none => specReplicas cluster

/-- Why the cluster's image cannot take a backup that covers every partition, or
nothing when it can or its version is unknown. -/
def backupUnsupported (cluster : KahunaCluster) : String :=
  match cluster.spec.replication with
  | none => ""
  | some r =>
      if mostReplicas cluster ≤ r.factor then ""
      else
        match imageVersion cluster.spec.image with
        | none => ""
        | some v =>
            if composedBackupVersion ≤ v then ""
            else
              let minimum := ".".intercalate (composedBackupVersion.map toString)
              "image " ++ cluster.spec.image ++ " is older than Kahuna " ++ minimum ++
                ", and the cluster can have " ++ toString (mostReplicas cluster) ++
                " nodes with replication.factor " ++ toString r.factor ++
                ": a backup from that server holds only the partitions that the node taking it " ++
                "hosts, and restore and seeding refuse such a backup. Use Kahuna " ++ minimum ++
                " or later"

/-- The image may take a backup when no replication factor is set, when every node
holds every partition at any size, or when its version is unknown or new enough. -/
theorem backupUnsupported_free {cluster : KahunaCluster} (h : backupUnsupported cluster = "") :
    cluster.spec.replication = none ∨
      (∃ r, cluster.spec.replication = some r ∧ mostReplicas cluster ≤ r.factor) ∨
      imageVersion cluster.spec.image = none ∨
      ∃ v, imageVersion cluster.spec.image = some v ∧ composedBackupVersion ≤ v := by
  unfold backupUnsupported at h
  split at h
  · next hnone => exact Or.inl hnone
  · next r hr =>
      split at h
      · next hfactor => exact Or.inr (Or.inl ⟨r, hr, hfactor⟩)
      · split at h
        · next hunknown => exact Or.inr (Or.inr (Or.inl hunknown))
        · next v hv =>
            split at h
            · next hnew => exact Or.inr (Or.inr (Or.inr ⟨v, hv, hnew⟩))
            · refine absurd h ?_
              repeat refine append_ne_empty _ ?_
              decide

example : imageVersion "registry:5000/kahuna:v1.12.6-rc.1@sha256:0" = some [1, 12, 6] := by decide

example : imageVersion "registry:5000/kahuna" = none := by decide

end KahunaOperator
