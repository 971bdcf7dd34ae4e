/-
# `KahunaOperator.BackupClaim` — the claim that holds the backups, and who may lose it

The claim part of `reconcileBackupResources` in `internal/controller/backup.go`.
A pass reads the claim through a cache.  It creates one that is missing, and
deletes one that has no volume and no longer asks for what the spec asks for,
pinned to the uid and the version it read.

Between the read and the delete anything may happen: the claim is bound, its
status changes, the API server fills in a storage class, the spec is edited,
others delete the claim or create one of their own.

    a claim deleted by the operator never had a volume before
    a pass never deletes a claim the operator made from the spec the pass works for
                                                                (`deleted_claim_unbound`)

`Lib.Guarded` supplies what the preconditions are worth; what is proved here is
that `claimNeedsReplacing` refuses a volume and accepts its own claim back.
-/
import KahunaOperator.BackupGate
import KahunaOperator.Lib.Guarded
import KahunaOperator.Lib.Run
import KahunaOperator.Sizing

namespace KahunaOperator

open Lib (Run Transition)
open Lib.Guarded (Obj History Write Sound)

/-! ## The claim -/

def volumeClaim (v : VolumeSpec) : Claim :=
  { phase := .unset
    accessModes := if v.accessModes = [] then [.readWriteOnce] else v.accessModes
    storageClassName := v.storageClassName
    size := v.size }

/-- The claim made from `spec.backup.volume.claim`.  Every node mounts it, so it
is shared unless there is only one. -/
def desiredBackupClaim (cluster : KahunaCluster) (claim : VolumeSpec) : Claim :=
  volumeClaim
    (if claim.accessModes = [] then
      { claim with
        accessModes := [if singleNode cluster then .readWriteOnce else .readWriteMany] }
    else claim)

def sameAccessModes (a b : List AccessMode) : Bool :=
  a.all (b.contains ·) && b.all (a.contains ·)

/-- The claim has no volume, never had one, and no longer asks for what is desired.
A class left unset is not compared. -/
def claimNeedsReplacing (existing desired : Claim) : Bool :=
  if existing.deleting = true ∨ existing.volumeName ≠ "" ∨
      (existing.phase ≠ .unset ∧ existing.phase ≠ .pending) then false
  else if !sameAccessModes existing.accessModes desired.accessModes then true
  else if desired.storageClassName.isSome ∧
      existing.storageClassName ≠ desired.storageClassName then true
  else decide (existing.size ≠ desired.size)

/-- What a pass asks the API server for. -/
inductive ClaimRequest where
  | nothing
  | create (claim : Claim)
  | delete (uid version : Nat)
deriving DecidableEq, Repr

/-- The claim part of `reconcileBackupResources`, on a claim read or not found. -/
def reconcileBackupClaim (cluster : KahunaCluster) (existing : Option (Obj Claim)) :
    ClaimRequest :=
  match cluster.spec.backup.bind BackupSpec.claim with
  | none => .nothing
  | some volume =>
      let desired := desiredBackupClaim cluster volume
      match existing with
      | none => .create desired
      | some o =>
          if claimNeedsReplacing o.value desired then .delete o.uid o.version else .nothing

/-! ## What is compared -/

theorem sameAccessModes_self (a : List AccessMode) : sameAccessModes a a = true := by
  simp [sameAccessModes]

theorem unbound_of_needsReplacing {existing desired : Claim}
    (h : claimNeedsReplacing existing desired = true) : existing.volumeName = "" := by
  by_contra hbound
  simp [claimNeedsReplacing, hbound] at h

/-- The claim asks for what `desired` does, where an unset class may have been
filled in. -/
structure AsksFor (desired claim : Claim) : Prop where
  modes : claim.accessModes = desired.accessModes
  size : claim.size = desired.size
  storageClass : desired.storageClassName.isSome →
    claim.storageClassName = desired.storageClassName

theorem kept_of_asksFor {desired claim : Claim} (h : AsksFor desired claim) :
    claimNeedsReplacing claim desired = false := by
  have hclass : ¬ (desired.storageClassName.isSome = true ∧
      claim.storageClassName ≠ desired.storageClassName) := by
    rintro ⟨hset, hne⟩
    exact hne (h.storageClass hset)
  simp only [claimNeedsReplacing, h.modes, sameAccessModes_self, h.size, Bool.not_true,
    Bool.false_eq_true, if_false, hclass, ne_eq, not_true_eq_false, decide_false, ite_self]

/-! ## The claim among its writers -/

/-- A claim as stored.  `origin` is bookkeeping that nobody reads: the spec the
operator made it from, nothing for a claim of somebody else's. -/
structure StoredClaim where
  claim : Claim
  origin : Option KahunaClusterSpec := none

/-- The pass at its work on the claim: it has the cluster, then also a revision of
the claim. -/
inductive ClaimPass where
  | idle
  | begun (cluster : KahunaCluster)
  | found (cluster : KahunaCluster) (revision : Nat)

structure ClaimWorld where
  cluster : KahunaCluster
  claims : History (Option (Obj StoredClaim))
  pass : ClaimPass := .idle

def ClaimWorld.seen (w : ClaimWorld) (revision : Nat) : Option (Obj Claim) :=
  (w.claims.rev revision).map fun o =>
    { uid := o.uid, version := o.version, value := o.value.claim }

/-- What the API server and the volume controller write to a claim. -/
inductive ClaimWrite : Claim → Claim → Prop
  | bind {c : Claim} (volume : String) : volume ≠ "" → c.volumeName = "" →
      ClaimWrite c { c with volumeName := volume }
  | status {c : Claim} (phase : ClaimPhase) (modes : List AccessMode) :
      ClaimWrite c { c with phase := phase, statusAccessModes := modes }
  | defaultClass {c : Claim} (name : String) : c.storageClassName = none →
      ClaimWrite c { c with storageClassName := some name }
  | terminate {c : Claim} : ClaimWrite c { c with deleting := true }

/-- A claim as created: as asked for, or with an unset class filled in. -/
inductive Defaulted (asked : Claim) : Claim → Prop
  | plain : Defaulted asked asked
  | filled (name : String) : asked.storageClassName = none →
      Defaulted asked { asked with storageClassName := some name }

inductive ClaimStepEvent where
  | edit (spec : KahunaClusterSpec)
  | begin
  | get (revision : Nat)
  | create (claim : Claim)
  /-- An accepted delete; a finalizer may keep the claim for a while. -/
  | delete (gone : Bool)
  | abandon
  | write (claim : Claim)
  | foreignCreate (claim : Claim)
  | foreignRemove

inductive ClaimStep : ClaimWorld → ClaimStepEvent → ClaimWorld → Prop
  | edit {w : ClaimWorld} (spec : KahunaClusterSpec) :
      ClaimStep w (.edit spec) { w with cluster := { w.cluster with spec := spec } }
  | begin {w : ClaimWorld} : w.pass = .idle →
      ClaimStep w .begin { w with pass := .begun w.cluster }
  /-- The cache may lag by any number of revisions. -/
  | get {w : ClaimWorld} {cluster : KahunaCluster} {revision : Nat} :
      w.pass = .begun cluster → revision ≤ w.claims.top →
      ClaimStep w (.get revision) { w with pass := .found cluster revision }
  /-- The API server refuses to create what exists. -/
  | create {w : ClaimWorld} {cluster : KahunaCluster} {revision : Nat} {asked made : Claim} :
      w.pass = .found cluster revision →
      reconcileBackupClaim cluster (w.seen revision) = .create asked →
      w.claims.current = none → Defaulted asked made →
      ClaimStep w (.create made)
        { w with
          claims := w.claims.push (some ⟨w.claims.top + 1, w.claims.top + 1,
            { claim := made, origin := some cluster.spec }⟩)
          pass := .idle }
  /-- It deletes only the object the preconditions name. -/
  | delete {w : ClaimWorld} {cluster : KahunaCluster} {revision : Nat} {o : Obj StoredClaim}
      (gone : Bool) :
      w.pass = .found cluster revision →
      reconcileBackupClaim cluster (w.seen revision) = .delete o.uid o.version →
      w.claims.current = some o →
      ClaimStep w (.delete gone)
        { w with
          claims := w.claims.push (if gone then none else
            some { o with
              version := w.claims.top + 1
              value := { o.value with claim := { o.value.claim with deleting := true } } })
          pass := .idle }
  /-- Nothing to ask for, a request refused, or a crash. -/
  | abandon {w : ClaimWorld} : ClaimStep w .abandon { w with pass := .idle }
  | write {w : ClaimWorld} {o : Obj StoredClaim} {claim : Claim} :
      w.claims.current = some o → ClaimWrite o.value.claim claim →
      ClaimStep w (.write claim)
        { w with
          claims := w.claims.push (some { o with
            version := w.claims.top + 1
            value := { o.value with claim := claim } }) }
  | foreignCreate {w : ClaimWorld} (claim : Claim) : w.claims.current = none →
      ClaimStep w (.foreignCreate claim)
        { w with
          claims := w.claims.push (some ⟨w.claims.top + 1, w.claims.top + 1,
            { claim := claim }⟩) }
  | foreignRemove {w : ClaimWorld} :
      ClaimStep w .foreignRemove { w with claims := w.claims.push none }

/-! ## What every step keeps -/

def VolumeKept (a b : StoredClaim) : Prop :=
  a.claim.volumeName ≠ "" → b.claim.volumeName = a.claim.volumeName

/-- A claim of the operator's asks for what the spec it was made from does. -/
def MadeToSpec (s : StoredClaim) : Prop :=
  ∀ cluster : KahunaCluster, s.origin = some cluster.spec →
    ∀ volume, cluster.spec.backup.bind BackupSpec.claim = some volume →
      AsksFor (desiredBackupClaim cluster volume) s.claim

structure ClaimsSound (w : ClaimWorld) : Prop where
  sound : Sound id VolumeKept w.claims
  made : ∀ i ≤ w.claims.top, ∀ o, w.claims.rev i = some o → MadeToSpec o.value
  read : ∀ cluster revision, w.pass = .found cluster revision → revision ≤ w.claims.top

theorem volumeKept_refl (a : StoredClaim) : VolumeKept a a := fun _ => rfl

theorem volumeKept_trans {a b c : StoredClaim} (hab : VolumeKept a b) (hbc : VolumeKept b c) :
    VolumeKept a c := by
  intro ha
  have hb := hab ha
  have hc := hbc (by rw [hb]; exact ha)
  exact hc.trans hb

theorem ClaimWrite.volumeKept {a b : Claim} (h : ClaimWrite a b) :
    a.volumeName ≠ "" → b.volumeName = a.volumeName := by
  intro hbound
  cases h with
  | bind _ _ hfree => exact absurd hfree hbound
  | status _ _ => rfl
  | defaultClass _ _ => rfl
  | terminate => rfl

theorem ClaimWrite.asksFor {desired a b : Claim} (h : ClaimWrite a b) (ha : AsksFor desired a) :
    AsksFor desired b := by
  cases h with
  | bind _ _ _ => exact ⟨ha.modes, ha.size, ha.storageClass⟩
  | status _ _ => exact ⟨ha.modes, ha.size, ha.storageClass⟩
  | defaultClass _ hunset =>
      refine ⟨ha.modes, ha.size, ?_⟩
      intro hset
      rw [← ha.storageClass hset, hunset] at hset
      cases hset
  | terminate => exact ⟨ha.modes, ha.size, ha.storageClass⟩

theorem Defaulted.asksFor {asked made : Claim} (h : Defaulted asked made) :
    AsksFor asked made := by
  cases h with
  | plain => exact ⟨rfl, rfl, fun _ => rfl⟩
  | filled _ hunset =>
      refine ⟨rfl, rfl, ?_⟩
      intro hset
      rw [hunset] at hset
      cases hset

theorem desiredBackupClaim_congr {c₁ c₂ : KahunaCluster} (h : c₁.spec = c₂.spec)
    (volume : VolumeSpec) : desiredBackupClaim c₁ volume = desiredBackupClaim c₂ volume := by
  unfold desiredBackupClaim
  rw [singleNode_congr h]

/-- What a request says of the pass that makes it. -/
theorem reconcileBackupClaim_create {cluster : KahunaCluster} {existing : Option (Obj Claim)}
    {asked : Claim} (h : reconcileBackupClaim cluster existing = .create asked) :
    existing = none ∧ ∃ volume, cluster.spec.backup.bind BackupSpec.claim = some volume ∧
      asked = desiredBackupClaim cluster volume := by
  unfold reconcileBackupClaim at h
  cases hvolume : cluster.spec.backup.bind BackupSpec.claim with
  | none =>
      rw [hvolume] at h
      cases h
  | some volume =>
      rw [hvolume] at h
      cases existing with
      | none =>
          cases h
          exact ⟨rfl, volume, rfl, rfl⟩
      | some o =>
          simp only at h
          split at h <;> cases h

theorem reconcileBackupClaim_delete {cluster : KahunaCluster} {existing : Option (Obj Claim)}
    {uid version : Nat} (h : reconcileBackupClaim cluster existing = .delete uid version) :
    ∃ o volume, existing = some o ∧ o.uid = uid ∧ o.version = version ∧
      cluster.spec.backup.bind BackupSpec.claim = some volume ∧
      claimNeedsReplacing o.value (desiredBackupClaim cluster volume) = true := by
  unfold reconcileBackupClaim at h
  cases hvolume : cluster.spec.backup.bind BackupSpec.claim with
  | none =>
      rw [hvolume] at h
      cases h
  | some volume =>
      rw [hvolume] at h
      cases existing with
      | none => cases h
      | some o =>
          simp only at h
          split at h
          · next hneeds =>
              cases h
              exact ⟨o, volume, rfl, rfl, rfl, rfl, hneeds⟩
          · cases h

theorem madeToSpec_created {cluster : KahunaCluster} {volume : VolumeSpec} {made : Claim}
    (hvolume : cluster.spec.backup.bind BackupSpec.claim = some volume)
    (h : Defaulted (desiredBackupClaim cluster volume) made) :
    MadeToSpec { claim := made, origin := some cluster.spec } := by
  intro c horigin volume' hvolume'
  have hspec : cluster.spec = c.spec := Option.some.inj horigin
  rw [← hspec, hvolume] at hvolume'
  cases hvolume'
  rw [desiredBackupClaim_congr hspec.symm]
  exact h.asksFor

theorem madeToSpec_foreign (claim : Claim) : MadeToSpec { claim := claim } := by
  intro c horigin
  cases horigin

theorem MadeToSpec.write {s : StoredClaim} {claim : Claim} (h : MadeToSpec s)
    (hwrite : ClaimWrite s.claim claim) : MadeToSpec { s with claim := claim } := by
  intro c horigin volume hvolume
  exact hwrite.asksFor (h c horigin volume hvolume)

theorem ClaimsSound.push {w : ClaimWorld} (h : ClaimsSound w) {b : Option (Obj StoredClaim)}
    (hwrite : Write id VolumeKept w.claims b) (hmade : ∀ o, b = some o → MadeToSpec o.value)
    {pass : ClaimPass} (hpass : pass = w.pass ∨ pass = .idle) (cluster : KahunaCluster) :
    ClaimsSound { cluster := cluster, claims := w.claims.push b, pass := pass } where
  sound := h.sound.push volumeKept_refl volumeKept_trans hwrite
  made := History.forall_push
    (P := fun _ (x : Option (Obj StoredClaim)) => ∀ o, x = some o → MadeToSpec o.value)
    h.made hmade
  read := by
    rcases hpass with rfl | rfl
    · intro c revision hfound
      exact Nat.le_succ_of_le (h.read c revision hfound)
    · intro c revision hfound
      cases hfound

theorem ClaimsSound.unwritten {w : ClaimWorld} (h : ClaimsSound w) (cluster : KahunaCluster)
    {pass : ClaimPass} (hpass : ∀ c revision, pass = .found c revision →
      revision ≤ w.claims.top) :
    ClaimsSound { cluster := cluster, claims := w.claims, pass := pass } :=
  ⟨h.sound, h.made, hpass⟩

theorem ClaimsSound.step {a b : ClaimWorld} {e : ClaimStepEvent} (h : ClaimsSound a)
    (hstep : ClaimStep a e b) : ClaimsSound b := by
  have hcurrent : ∀ o, a.claims.current = some o → MadeToSpec o.value :=
    h.made a.claims.top (Nat.le_refl _)
  cases hstep with
  | edit spec => exact h.unwritten _ h.read
  | begin _ =>
      refine h.unwritten _ ?_
      intro c revision hfound
      cases hfound
  | get _ hrevision =>
      refine h.unwritten _ ?_
      intro c revision hfound
      cases hfound
      exact hrevision
  | @create cluster revision asked made _ hasked _ hdefaulted =>
      obtain ⟨_, volume, hvolume, rfl⟩ := reconcileBackupClaim_create hasked
      refine h.push (.create _ rfl) ?_ (Or.inr rfl) _
      rintro o ⟨⟩
      exact madeToSpec_created hvolume hdefaulted
  | @delete cluster revision o gone _ _ hstored =>
      cases gone with
      | true =>
          refine h.push (.remove rfl) ?_ (Or.inr rfl) _
          rintro o ⟨⟩
      | false =>
          refine h.push (.update { o.value with claim := { o.value.claim with deleting := true } }
            hstored (fun _ => rfl) rfl) ?_ (Or.inr rfl) _
          rintro o' ⟨⟩
          exact (hcurrent o hstored).write .terminate
  | abandon =>
      refine h.unwritten _ ?_
      intro c revision hfound
      cases hfound
  | @write o claim hstored hwrite =>
      refine h.push (.update { o.value with claim := claim } hstored hwrite.volumeKept rfl) ?_
        (Or.inl rfl) _
      rintro o' ⟨⟩
      exact (hcurrent o hstored).write hwrite
  | foreignCreate claim _ =>
      refine h.push (.create _ rfl) ?_ (Or.inl rfl) _
      rintro o ⟨⟩
      exact madeToSpec_foreign claim
  | foreignRemove =>
      refine h.push (.remove rfl) ?_ (Or.inl rfl) _
      rintro o ⟨⟩

/-! ## What the operator deletes -/

/-- The claim an accepted delete takes is the one the pass compared. -/
theorem ClaimsSound.compared {w : ClaimWorld} (h : ClaimsSound w) {cluster : KahunaCluster}
    {revision : Nat} {o : Obj StoredClaim} (hpass : w.pass = .found cluster revision)
    (hrequest : reconcileBackupClaim cluster (w.seen revision) = .delete o.uid o.version)
    (hstored : w.claims.current = some o) :
    ∃ volume, cluster.spec.backup.bind BackupSpec.claim = some volume ∧
      claimNeedsReplacing o.value.claim (desiredBackupClaim cluster volume) = true := by
  obtain ⟨seen, volume, hseen, _, hversion, hvolume, hneeds⟩ :=
    reconcileBackupClaim_delete hrequest
  obtain ⟨read, hread, rfl⟩ := Option.map_eq_some_iff.mp hseen
  obtain ⟨rfl, _⟩ := h.sound.pinned (h.read cluster revision hpass) hread hstored hversion.symm
  exact ⟨volume, hvolume, hneeds⟩

structure NoClaim (w : ClaimWorld) : Prop where
  empty : w.claims.rev 0 = none
  start : w.claims.top = 0
  idle : w.pass = .idle

theorem NoClaim.claimsSound {w : ClaimWorld} (h : NoClaim w) : ClaimsSound w where
  sound := .empty h.empty h.start
  made := by
    intro i hi o ho
    obtain rfl : i = 0 := by
      have := h.start
      omega
    rw [h.empty] at ho
    cases ho
  read := by
    intro cluster revision hfound
    rw [h.idle] at hfound
    cases hfound

/-- The step lemma: what a delete takes. -/
theorem ClaimsSound.deletes {a b : ClaimWorld} {gone : Bool} (h : ClaimsSound a)
    (hstep : ClaimStep a (.delete gone) b) :
    ∃ o cluster revision, a.claims.current = some o ∧ a.pass = .found cluster revision ∧
      (∀ i ≤ a.claims.top, ∀ o', a.claims.rev i = some o' → o'.uid = o.uid →
        o'.value.claim.volumeName = "") ∧
      o.value.origin ≠ some cluster.spec := by
  cases hstep with
  | @delete cluster revision o _ hpass hrequest hstored =>
      obtain ⟨volume, hvolume, hneeds⟩ := h.compared hpass hrequest hstored
      refine ⟨o, cluster, revision, hstored, hpass, ?_, ?_⟩
      · intro i hi o' ho' huid
        by_contra hbound
        have hkept := h.sound.evolves i a.claims.top o' o hi (Nat.le_refl _) ho' hstored huid hbound
        rw [unbound_of_needsReplacing hneeds] at hkept
        exact hbound hkept.symm
      · intro horigin
        have hasks := h.made a.claims.top (Nat.le_refl _) o hstored cluster horigin volume hvolume
        rw [kept_of_asksFor hasks] at hneeds
        cases hneeds

/-- Over every interleaving: a claim that an accepted delete of the operator takes
never had a volume, in any revision before, and was not made by the operator from
the spec the deleting pass works for. -/
theorem deleted_claim_unbound {w w' : ClaimWorld}
    {ts : List (Transition ClaimWorld ClaimStepEvent)} (hstart : NoClaim w)
    (hrun : Run ClaimStep w ts w') :
    ∀ t ∈ ts, ∀ gone, t.event = .delete gone →
      ∃ o cluster revision, t.before.claims.current = some o ∧
        t.before.pass = .found cluster revision ∧
        (∀ i ≤ t.before.claims.top, ∀ o', t.before.claims.rev i = some o' → o'.uid = o.uid →
          o'.value.claim.volumeName = "") ∧
        o.value.origin ≠ some cluster.spec := by
  refine Run.forall_mem (I := ClaimsSound) ClaimsSound.step ?_ hrun hstart.claimsSound
  intro a e b h hstep gone hevent
  cases hevent
  exact h.deletes hstep

/-! ## A claim resized before it is bound -/

def vaultCluster (size : Rat) : KahunaCluster :=
  { name := "kahuna"
    ns := "kv"
    spec := { replicas := some 3, backup := some { claim := some { size := size } } } }

def vaultClaim (size : Rat) : StoredClaim :=
  { claim := desiredBackupClaim (vaultCluster size) { size := size }
    origin := some (vaultCluster size).spec }

def unclaimed : ClaimWorld :=
  { cluster := vaultCluster 10, claims := { rev := fun _ => none, top := 0 } }

/-- The claim was created for ten, the spec now asks for twenty, and a pass has
read both. -/
def resizedWorld : ClaimWorld :=
  { cluster := vaultCluster 20
    claims := unclaimed.claims.push (some ⟨1, 1, vaultClaim 10⟩)
    pass := .found (vaultCluster 20) 1 }

theorem resizedWorld_run : ∃ ts, Run ClaimStep unclaimed ts resizedWorld :=
  ⟨_, .cons (.begin rfl) (.cons (.get rfl (Nat.le_refl 0)) (.cons (.create rfl rfl rfl .plain)
    (.cons (.edit (vaultCluster 20).spec) (.cons (.begin rfl)
      (.cons (.get rfl (Nat.le_refl 1)) (.nil _))))))⟩

def vacatedWorld : ClaimWorld :=
  { resizedWorld with claims := resizedWorld.claims.push none, pass := .idle }

/-- The operator deletes the claim it made for the old spec. -/
theorem resized_claim_deleted :
    ∃ ts, Run ClaimStep unclaimed (ts ++ [⟨resizedWorld, .delete true, vacatedWorld⟩])
        vacatedWorld ∧
      ∃ o cluster revision, resizedWorld.claims.current = some o ∧
        resizedWorld.pass = .found cluster revision ∧
        (∀ i ≤ resizedWorld.claims.top, ∀ o', resizedWorld.claims.rev i = some o' →
          o'.uid = o.uid → o'.value.claim.volumeName = "") ∧
        o.value.origin ≠ some cluster.spec := by
  obtain ⟨ts, hrun⟩ := resizedWorld_run
  have hdelete : ClaimStep resizedWorld (.delete true) vacatedWorld :=
    .delete true rfl (by decide +kernel) rfl
  have hfull := hrun.append (.single hdelete)
  exact ⟨ts, hfull, deleted_claim_unbound ⟨rfl, rfl, rfl⟩ hfull _
    (List.mem_append_right _ List.mem_cons_self) true rfl⟩

end KahunaOperator
