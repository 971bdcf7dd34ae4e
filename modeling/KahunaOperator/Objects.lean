/-
# `KahunaOperator.Objects` — the objects the operator writes for a cluster

Every object the operator creates, updates or deletes is named after its
cluster, by `internal/controller/naming.go` and its neighbours.  Up to four
clusters are reconciled at once, and the comment on `maxConcurrentReconciles`
says that this is safe because the names of two clusters are disjoint.

The objects of one kind, by the suffix of the cluster's name:

    StatefulSet, PodDisruptionBudget   none
    Service                            none, "-peer"
    ConfigMap                          "-config"
    Certificate                        "-tls"
    Secret                             "-tls", "-tls-password", "-backup-mac"
    PersistentVolumeClaim              "-backup"

Two suffixes of a kind can only meet when one of them is empty or they end in the
same character, so the Services are the one case:

    two clusters touch no common object  ⟺  neither is named like the other's
                                            peer Service            (`touched_disjoint_iff`)
-/
import KahunaOperator.Naming

namespace KahunaOperator

/-! ## Secrets -/

def keystorePasswordKey : String := "password"

def certPasswordSecretName (cluster : KahunaCluster) : String := cluster.name ++ "-tls-password"

/-- The Secret with the keystore: the user's own, or cert-manager's. -/
def tlsSecretName (cluster : KahunaCluster) : String :=
  match cluster.spec.tls.secretRef with
  | some name => name
  | none => certificateName cluster

/-- Where the keystore's password is, if it has one. -/
def tlsPasswordRef (cluster : KahunaCluster) : Option SecretKeySelector :=
  match cluster.spec.tls.passwordSecretRef with
  | some ref => some ref
  | none =>
      if cluster.spec.tls.certManager then
        some { name := certPasswordSecretName cluster, key := keystorePasswordKey }
      else none

/-! ## What a pass touches -/

inductive Kind where
  | statefulSet
  | service
  | configMap
  | podDisruptionBudget
  | certificate
  | secret
  | persistentVolumeClaim
deriving DecidableEq, Repr

structure ObjectRef where
  kind : Kind
  name : String
deriving DecidableEq, Repr

/-- `reconcileKeystorePassword`: only the generated password is the operator's. -/
def keystorePasswordObjects (cluster : KahunaCluster) : List ObjectRef :=
  if cluster.spec.tls.certManager && cluster.spec.tls.passwordSecretRef.isNone then
    [{ kind := .secret, name := certPasswordSecretName cluster }]
  else []

/-- `reconcileCertificate`: the Certificate, and the keystore that
`replaceStaleKeystore` may delete. -/
def certificateObjects (cluster : KahunaCluster) : List ObjectRef :=
  if cluster.spec.tls.certManager then
    [{ kind := .certificate, name := certificateName cluster },
      { kind := .secret, name := tlsSecretName cluster }]
  else []

def serviceObjects (cluster : KahunaCluster) : List ObjectRef :=
  [{ kind := .service, name := peerServiceName cluster },
    { kind := .service, name := clientServiceName cluster }]

/-- `reconcileBackupResources`: the claim asked for by `volume.claim`, and the
generated key. -/
def backupObjects (cluster : KahunaCluster) (b : BackupSpec) : List ObjectRef :=
  (if b.claim.isSome then
    [{ kind := .persistentVolumeClaim, name := backupClaimName cluster b }]
  else []) ++
  (if b.macKeySecretRef.isNone then
    [{ kind := .secret, name := backupMACSecretName cluster }]
  else [])

/-- Everything a pass may create, update or delete, in the order it gets there. -/
def touched (cluster : KahunaCluster) : List ObjectRef :=
  keystorePasswordObjects cluster ++ certificateObjects cluster ++ serviceObjects cluster ++
  [{ kind := .configMap, name := configMapName cluster },
    { kind := .podDisruptionBudget, name := pdbName cluster }] ++
  (cluster.spec.backup.map (backupObjects cluster)).getD [] ++
  [{ kind := .statefulSet, name := stsName cluster }]

/-- The schema's rules on references: exactly one of `tls.secretRef` and
`tls.certManager`, and of `backup.volume.claimName` and `backup.volume.claim`. -/
def KahunaClusterSpec.ReferencesAccepted (spec : KahunaClusterSpec) : Prop :=
  (spec.tls.secretRef.isSome ≠ spec.tls.certManager) ∧
    ∀ b ∈ spec.backup, b.claimName.isSome ≠ b.claim.isSome

instance (spec : KahunaClusterSpec) : Decidable spec.ReferencesAccepted :=
  inferInstanceAs (Decidable (_ ∧ _))

/-! ## Names by kind -/

def suffixes : Kind → List String
  | .statefulSet => [""]
  | .service => ["", "-peer"]
  | .configMap => ["-config"]
  | .podDisruptionBudget => [""]
  | .certificate => ["-tls"]
  | .secret => ["-tls", "-tls-password", "-backup-mac"]
  | .persistentVolumeClaim => ["-backup"]

def NamedAfter (cluster : KahunaCluster) (o : ObjectRef) : Prop :=
  ∃ s ∈ suffixes o.kind, o.name = cluster.name ++ s

theorem namedAfter_bare {cluster : KahunaCluster} {kind : Kind} (h : "" ∈ suffixes kind) :
    NamedAfter cluster { kind := kind, name := cluster.name } :=
  ⟨"", h, String.append_empty.symm⟩

section named

variable {cluster : KahunaCluster} {o : ObjectRef}

theorem keystorePasswordObjects_named (ho : o ∈ keystorePasswordObjects cluster) :
    NamedAfter cluster o := by
  unfold keystorePasswordObjects at ho
  split at ho
  · cases List.mem_singleton.mp ho
    exact ⟨"-tls-password", by simp [suffixes], rfl⟩
  · cases ho

theorem certificateObjects_named (haccepted : cluster.spec.ReferencesAccepted)
    (ho : o ∈ certificateObjects cluster) : NamedAfter cluster o := by
  unfold certificateObjects at ho
  split at ho
  · next hcm =>
      have hown : tlsSecretName cluster = certificateName cluster := by
        unfold tlsSecretName
        cases href : cluster.spec.tls.secretRef with
        | none => rfl
        | some name =>
            have hone := haccepted.1
            rw [href, hcm] at hone
            exact absurd rfl hone
      rw [hown] at ho
      simp only [List.mem_cons, List.not_mem_nil, or_false] at ho
      rcases ho with rfl | rfl <;> exact ⟨"-tls", by simp [suffixes], rfl⟩
  · cases ho

theorem serviceObjects_named (ho : o ∈ serviceObjects cluster) : NamedAfter cluster o := by
  simp only [serviceObjects, List.mem_cons, List.not_mem_nil, or_false] at ho
  rcases ho with rfl | rfl
  · exact ⟨"-peer", by simp [suffixes], rfl⟩
  · exact namedAfter_bare (by simp [suffixes])

theorem backupObjects_named {b : BackupSpec} (hone : b.claimName.isSome ≠ b.claim.isSome)
    (ho : o ∈ backupObjects cluster b) : NamedAfter cluster o := by
  rcases List.mem_append.mp ho with ho | ho
  · split at ho
    · next hclaim =>
        have hname : b.claimName = none := by
          rw [hclaim] at hone
          simpa using hone
        cases List.mem_singleton.mp ho
        refine ⟨"-backup", by simp [suffixes], ?_⟩
        simp only [backupClaimName, hname, Option.getD_none]
    · cases ho
  · split at ho
    · cases List.mem_singleton.mp ho
      exact ⟨"-backup-mac", by simp [suffixes], rfl⟩
    · cases ho

theorem touched_named (haccepted : cluster.spec.ReferencesAccepted) (ho : o ∈ touched cluster) :
    NamedAfter cluster o := by
  simp only [touched, List.mem_append] at ho
  rcases ho with (((((ho | ho) | ho) | ho) | ho) | ho)
  · exact keystorePasswordObjects_named ho
  · exact certificateObjects_named haccepted ho
  · exact serviceObjects_named ho
  · simp only [List.mem_cons, List.not_mem_nil, or_false] at ho
    rcases ho with rfl | rfl
    · exact ⟨"-config", by simp [suffixes], rfl⟩
    · exact namedAfter_bare (by simp [suffixes])
  · cases hb : cluster.spec.backup with
    | none =>
        rw [hb] at ho
        cases ho
    | some b =>
        rw [hb] at ho
        exact backupObjects_named (haccepted.2 b hb) ho
  · cases List.mem_singleton.mp ho
    exact namedAfter_bare (by simp [suffixes])

end named

theorem getLast_of_append_eq {a b s t : String} (h : a ++ s = b ++ t) (hs : s ≠ "")
    (ht : t ≠ "") : s.toList.getLast? = t.toList.getLast? := by
  have hlist := congrArg (fun x : String => x.toList.getLast?) h
  simp only [String.toList_append, List.getLast?_append] at hlist
  have hsome : ∀ {x : String}, x ≠ "" → ∀ o : Option Char,
      (x.toList.getLast?).or o = x.toList.getLast? := by
    intro x hx o
    cases hl : x.toList.getLast? with
    | none => exact absurd (String.toList_eq_nil_iff.mp (List.getLast?_eq_none_iff.mp hl)) hx
    | some c => rfl
  rwa [hsome hs, hsome ht] at hlist

/-- Different suffixes of a kind end in different characters, the Services'
apart. -/
theorem suffixes_apart (k : Kind) :
    ∀ s ∈ suffixes k, ∀ t ∈ suffixes k, s = t ∨
      (s ≠ "" ∧ t ≠ "" ∧ s.toList.getLast? ≠ t.toList.getLast?) ∨
      (s = "" ∧ t = "-peer") ∨ (s = "-peer" ∧ t = "") := by
  cases k <;> decide

/-! ## Two clusters -/

theorem clientService_touched (cluster : KahunaCluster) :
    { kind := .service, name := cluster.name } ∈ touched cluster := by
  simp [touched, serviceObjects, clientServiceName]

theorem peerService_touched (cluster : KahunaCluster) :
    { kind := .service, name := peerServiceName cluster } ∈ touched cluster := by
  simp [touched, serviceObjects]

/-- Two clusters of different names touch no common object exactly when neither
is named like the other's peer Service. -/
theorem touched_disjoint_iff {a b : KahunaCluster} (ha : a.spec.ReferencesAccepted)
    (hb : b.spec.ReferencesAccepted) (hne : a.name ≠ b.name) :
    (∀ o ∈ touched a, o ∉ touched b) ↔
      a.name ≠ peerServiceName b ∧ b.name ≠ peerServiceName a := by
  constructor
  · intro hdisjoint
    constructor
    · intro hpeer
      refine hdisjoint _ (clientService_touched a) ?_
      rw [hpeer]
      exact peerService_touched b
    · intro hpeer
      refine hdisjoint _ (peerService_touched a) ?_
      rw [← hpeer]
      exact clientService_touched b
  · rintro ⟨hab, hba⟩ o hoa hob
    obtain ⟨s, hs, hname⟩ := touched_named ha hoa
    obtain ⟨t, ht, hname'⟩ := touched_named hb hob
    have hsame : a.name ++ s = b.name ++ t := hname.symm.trans hname'
    rcases suffixes_apart o.kind s hs t ht with rfl | ⟨hs, ht, hlast⟩ | ⟨rfl, rfl⟩ | ⟨rfl, rfl⟩
    · exact hne ((String.append_left_inj s).mp hsame)
    · exact hlast (getLast_of_append_eq hsame hs ht)
    · rw [String.append_empty] at hsame
      exact hab hsame
    · rw [String.append_empty] at hsame
      exact hba hsame.symm

def provisioned (name : String) : KahunaCluster :=
  { name := name
    ns := "kv"
    spec := {
      tls := { certManager := true }
      backup := some { claim := some { size := 1 } } } }

theorem orders_and_carts_disjoint :
    (provisioned "orders").name ≠ (provisioned "carts").name ∧
    ∀ o ∈ touched (provisioned "orders"), o ∉ touched (provisioned "carts") := by
  have hne : (provisioned "orders").name ≠ (provisioned "carts").name := by decide
  exact ⟨hne, (touched_disjoint_iff (by decide) (by decide) hne).mpr ⟨by decide, by decide⟩⟩

/-- The peer Service of `orders` is the client Service of `orders-peer`. -/
theorem orders_peer_shared :
    (provisioned "orders").name ≠ (provisioned "orders-peer").name ∧
    (provisioned "orders").spec.ReferencesAccepted ∧
    (provisioned "orders-peer").spec.ReferencesAccepted ∧
    { kind := .service, name := "orders-peer" } ∈ touched (provisioned "orders") ∧
    { kind := .service, name := "orders-peer" } ∈ touched (provisioned "orders-peer") :=
  ⟨by decide, by decide, by decide, peerService_touched (provisioned "orders"),
    clientService_touched (provisioned "orders-peer")⟩

end KahunaOperator
