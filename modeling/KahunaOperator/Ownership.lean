/-
# `KahunaOperator.Ownership` — who writes what, over every interleaving

Up to four clusters are reconciled at once, the objects of a pass are read through a
cache, and other clients write to the same namespace.  The comment on
`maxConcurrentReconciles` calls this safe because clusters have no objects in common.
They can have one: the peer Service of `a` is the client Service of `a-peer`.  What keeps
them apart there is the controller reference:

    a pass updates only what nobody controls or its own cluster does; it deletes only its
    budget, a claim that has no volume and a keystore issued for it
                                                               (`passes_write_their_own`)
    a generated password or key is never written again         (`generated_secret_kept`)
    of `a` and `a-peer`, at most one ever gets past its Services
                                                            (`clashing_clusters_exclude`)

All three hold with stale reads, failed calls, lost replies, dropped passes, and any
number of passes of one cluster at once.  `Permitted` says once what the program of a
pass can ask for; the rest is what the API server makes of it.
-/
import KahunaOperator.Provision

namespace KahunaOperator

open KahunaClusterReconciler
open Lib (Run Transition)
open Lib.Api (Call Calls Server System Change)
open Lib.Api.Calls (Within)
open Lib.Guarded (Obj History)

/-! ## What a pass may ask for -/

def Named (name : String) (ref : ObjectRef) : Prop :=
  ∃ s ∈ suffixes ref.kind, ref.name = name ++ s

abbrev Seen := Set (Σ key, Obj (Content key))

/-- The cluster was seen in control of the object. -/
def OwnObject (name : String) (seen : Seen) (ref : ObjectRef) : Prop :=
  ∃ o : Obj (Owned (Resource ref.kind)), ⟨Key.object ref, o⟩ ∈ seen ∧
    o.value.controller = some (.cluster name)

def OwnServices (name : String) (seen : Seen) : Prop :=
  OwnObject name seen { kind := .service, name := name ++ "-peer" } ∧
    OwnObject name seen { kind := .service, name := name }

/-- What a pass writes only once it has both of its Services. -/
def AfterServices : Kind → Prop
  | .statefulSet | .configMap | .podDisruptionBudget => True
  | _ => False

def Rewritten : Kind → Prop
  | .secret | .persistentVolumeClaim => False
  | _ => True

/-- The objects that are left behind when the cluster is deleted: the claim with the
backups and the key that signs them. -/
def Outlives (name : String) (ref : ObjectRef) : Prop :=
  ref = { kind := .persistentVolumeClaim, name := name ++ "-backup" } ∨
    ref = { kind := .secret, name := name ++ "-backup-mac" }

/-- A new object is the cluster's own, but for those. -/
def CreatedAs (name : String) (ref : ObjectRef) (controller : Option Controller) : Prop :=
  controller = some (.cluster name) ∨ (controller = none ∧ Outlives name ref)

/-- What a pass may delete after it has read it: a claim without a volume, and a keystore
that cert-manager issued for this cluster. -/
def Disposable (name : String) : (ref : ObjectRef) → Owned (Resource ref.kind) → Prop
  | ⟨.persistentVolumeClaim, _⟩, o => Claim.volumeName o.value = ""
  | ⟨.secret, secret⟩, o =>
      secret = name ++ "-tls" ∧
        (Secret.annotations o.value).lookup certManagerCertificateAnnotation =
          some (name ++ "-tls")
  | _, _ => False

inductive Permitted (name : String) (seen : Seen) : Call Content → Prop
  | get (key : Key) (live : Bool) : Permitted name seen (.get key live)
  | status {o : Obj (ClusterNamed name)} (status : KahunaClusterStatus) :
      ⟨Key.cluster name, o⟩ ∈ seen →
      Permitted name seen
        (.update (V := Content) (Key.cluster name) o.version (withStatus o.value status))
  | create {ref : ObjectRef} {v : Owned (Resource ref.kind)} : Named name ref →
      CreatedAs name ref v.controller → (AfterServices ref.kind → OwnServices name seen) →
      Permitted name seen (.create (V := Content) (Key.object ref) v)
  | update {ref : ObjectRef} {v : Owned (Resource ref.kind)}
      {o : Obj (Owned (Resource ref.kind))} : Named name ref → Rewritten ref.kind →
      ⟨Key.object ref, o⟩ ∈ seen → mayControl name o.value.controller = true →
      v.controller = some (.cluster name) → (AfterServices ref.kind → OwnServices name seen) →
      Permitted name seen (.update (V := Content) (Key.object ref) o.version v)
  | budget : OwnServices name seen → Permitted name seen
      (.delete (V := Content) (Key.object { kind := .podDisruptionBudget, name := name }) none)
  | discard {ref : ObjectRef} {o : Obj (Owned (Resource ref.kind))} : Named name ref →
      ⟨Key.object ref, o⟩ ∈ seen → Disposable name ref o.value →
      Permitted name seen
        (.delete (V := Content) (Key.object ref) (some (o.uid, o.version)))

section Permitted
variable {name : String} {seen seen' : Seen} {ref : ObjectRef}

theorem OwnObject.mono (h : OwnObject name seen ref) (hsub : seen ⊆ seen') :
    OwnObject name seen' ref := by
  obtain ⟨o, ho, hcontroller⟩ := h
  exact ⟨o, hsub ho, hcontroller⟩

theorem OwnServices.mono (h : OwnServices name seen) (hsub : seen ⊆ seen') :
    OwnServices name seen' :=
  ⟨h.1.mono hsub, h.2.mono hsub⟩

theorem permitted_mono (name : String) : Calls.Monotone (Permitted name) := by
  intro seen seen' c hsub h
  cases h with
  | get key live => exact .get key live
  | status status ho => exact .status status (hsub ho)
  | create hnamed hcreated hafter =>
      exact .create hnamed hcreated fun hkind => (hafter hkind).mono hsub
  | update hnamed hkind ho hmay hcontroller hafter =>
      exact .update hnamed hkind (hsub ho) hmay hcontroller fun h => (hafter h).mono hsub
  | budget hservices => exact .budget (hservices.mono hsub)
  | discard hnamed ho hdisposable => exact .discard hnamed (hsub ho) hdisposable

end Permitted

/-! ## The program of a pass -/

def OfKinds (kinds : List Kind) : Key → Prop
  | .cluster _ => False
  | .object ref => ref.kind ∈ kinds

section Programs
variable {name : String} {seen : Seen} {point : Point} {ref : ObjectRef} {kinds : List Kind}

theorem createOrUpdate_legal (ref : ObjectRef) (hkeys : ref.kind ∈ kinds)
    {mutate : Option (Resource ref.kind) → Resource ref.kind} (hnamed : Named name ref)
    (hkind : Rewritten ref.kind) (hafter : AfterServices ref.kind → OwnServices name seen) :
    (createOrUpdate point ref name mutate).Legal (Within (OfKinds kinds) (Permitted name))
      (fun _ seen' => OwnObject name seen' ref) seen := by
  refine ⟨⟨hkeys, .get _ _⟩, ?_⟩
  rintro (e | o) -
  · cases e with
    | notFound =>
        refine ⟨⟨hkeys, .create hnamed (Or.inl rfl) hafter⟩, ?_⟩
        rintro (e | o) hvalue
        · trivial
        · exact ⟨o, Set.mem_insert _ _, by rw [show o.value = _ from hvalue]⟩
    | alreadyExists => trivial
    | conflict => trivial
    | unavailable => trivial
  · refine Calls.Legal.ite ?_ (fun _ => trivial)
    intro hmay
    refine ⟨⟨hkeys, .update hnamed hkind (Set.mem_insert _ _) hmay rfl
      fun h => (hafter h).mono (Set.subset_insert _ _)⟩, ?_⟩
    rintro (e | o') hvalue
    · trivial
    · exact ⟨o', Set.mem_insert _ _, by rw [show o'.value = _ from hvalue]⟩

theorem createTolerant_legal {v : Owned (Resource ref.kind)} (hkeys : ref.kind ∈ kinds)
    (hnamed : Named name ref) (hcreated : CreatedAs name ref v.controller)
    (hkind : ¬AfterServices ref.kind) :
    (createTolerant point ref v).Legal (Within (OfKinds kinds) (Permitted name))
      (fun _ _ => True) seen := by
  refine ⟨⟨hkeys, .create hnamed hcreated fun h => absurd h hkind⟩, ?_⟩
  rintro (e | o) -
  · cases e <;> trivial
  · trivial

theorem createOnce_legal {v : Option (Owned (Resource ref.kind))}
    (hkeys : ref.kind ∈ kinds) (hnamed : Named name ref)
    (hcreated : ∀ x ∈ v, CreatedAs name ref x.controller) (hkind : ¬AfterServices ref.kind) :
    (createOnce point ref v).Legal (Within (OfKinds kinds) (Permitted name))
      (fun _ _ => True) seen := by
  refine ⟨⟨hkeys, .get _ _⟩, ?_⟩
  rintro (e | o) -
  · cases e with
    | notFound =>
        cases v with
        | none => trivial
        | some x => exact createTolerant_legal hkeys hnamed (hcreated x rfl) hkind
    | alreadyExists => trivial
    | conflict => trivial
    | unavailable => trivial
  · trivial

theorem deletePinned_legal {o : Obj (Owned (Resource ref.kind))} (hkeys : ref.kind ∈ kinds)
    (hnamed : Named name ref) (ho : ⟨Key.object ref, o⟩ ∈ seen)
    (hdisposable : Disposable name ref o.value) :
    (deletePinned point ref (o.uid, o.version)).Legal (Within (OfKinds kinds) (Permitted name))
      (fun _ _ => True) seen := by
  refine ⟨⟨hkeys, .discard hnamed ho hdisposable⟩, ?_⟩
  rintro (e | o') -
  · cases e <;> trivial
  · trivial

end Programs

section Passes
variable {cluster : KahunaCluster} {seen : Seen} {env : CallEnv}

theorem reconcileKeystorePassword_legal :
    (reconcileKeystorePassword env cluster).Legal
      (Within (OfKinds [.secret]) (Permitted cluster.name)) (fun _ _ => True) seen := by
  unfold reconcileKeystorePassword
  split
  · refine createOnce_legal (List.mem_singleton.mpr rfl)
      ⟨"-tls-password", by simp [passwordRef, suffixes], rfl⟩ ?_ id
    intro x hx
    obtain ⟨password, _, rfl⟩ := Option.map_eq_some_iff.mp hx
    exact Or.inl rfl
  · trivial

/-- With `tls.certManager` set the keystore is cert-manager's. -/
theorem tlsSecretName_certManager (h : cluster.spec.ReferencesAccepted)
    (hcm : cluster.spec.tls.certManager = true) :
    tlsSecretName cluster = certificateName cluster := by
  have hone := h.1
  unfold tlsSecretName
  cases href : cluster.spec.tls.secretRef with
  | none => rfl
  | some secret =>
      rw [href, hcm] at hone
      exact absurd rfl hone

theorem replaceStaleKeystore_legal (h : cluster.spec.ReferencesAccepted)
    (hcm : cluster.spec.tls.certManager = true) :
    (KahunaClusterReconciler.replaceStaleKeystore env cluster).Legal
      (Within (OfKinds [.certificate, .secret]) (Permitted cluster.name))
      (fun _ _ => True) seen := by
  have hkeys : ∀ name, OfKinds [.certificate, .secret] (Key.object ⟨.secret, name⟩) :=
    fun _ => List.mem_cons_of_mem _ (List.mem_singleton.mpr rfl)
  have hname : (keystoreRef cluster).name = cluster.name ++ "-tls" :=
    tlsSecretName_certManager h hcm
  unfold KahunaClusterReconciler.replaceStaleKeystore
  split
  · trivial
  · next ref href =>
      refine ⟨⟨hkeys _, .get _ _⟩, ?_⟩
      rintro (e | o) -
      · cases e <;> trivial
      · refine Calls.Legal.ite (fun _ => trivial) ?_
        intro _
        refine ⟨⟨hkeys _, .get _ _⟩, ?_⟩
        rintro (e | pw) -
        · cases e <;> trivial
        · dsimp only
          generalize hpin : KahunaOperator.replaceStaleKeystore cluster _ _ = chosen
          cases chosen with
          | none => trivial
          | some pin =>
              obtain ⟨uid, version⟩ := pin
              obtain ⟨rfl, rfl, hannotated⟩ := replaceStaleKeystore_pinned hpin
              exact @deletePinned_legal _ _ _ _ _ o (hkeys _)
                ⟨"-tls", by simp [keystoreRef, suffixes], hname⟩
                (Set.mem_insert_of_mem _ (Set.mem_insert _ _)) ⟨hname, hannotated⟩

theorem reconcileCertificate_legal (h : cluster.spec.ReferencesAccepted) :
    (reconcileCertificate env cluster).Legal
      (Within (OfKinds [.certificate, .secret]) (Permitted cluster.name)) (fun _ _ => True)
      seen := by
  unfold reconcileCertificate
  split
  · next hcm =>
      refine Calls.Legal.bind ?_
      refine (createOrUpdate_legal (certificateRef cluster) List.mem_cons_self
        ⟨"-tls", by simp [certificateRef, suffixes], rfl⟩ trivial (False.elim ·)).conseq ?_
      intro _ seen' _ _
      exact replaceStaleKeystore_legal h hcm
  · trivial

theorem reconcileServices_legal :
    (reconcileServices cluster).Legal (Within (OfKinds [.service]) (Permitted cluster.name))
      (fun _ seen' => OwnServices cluster.name seen') seen := by
  refine Calls.Legal.bind ?_
  refine (createOrUpdate_legal (peerServiceRef cluster) List.mem_cons_self
    ⟨"-peer", by simp [peerServiceRef, suffixes], rfl⟩ trivial (False.elim ·)).conseq ?_
  intro _ seen₁ _ hpeer
  refine Calls.Legal.bind ?_
  refine (createOrUpdate_legal (clientServiceRef cluster) List.mem_cons_self
    ⟨"", by simp [clientServiceRef, suffixes], (String.append_empty).symm⟩ trivial
    (False.elim ·)).conseq ?_
  intro _ seen₂ hsub hclient
  exact ⟨hpeer.mono hsub, hclient⟩

theorem keeps_services {p : Program Unit} (hservices : OwnServices cluster.name seen)
    (h : p.Legal (Permitted cluster.name) (fun _ _ => True) seen) :
    p.Legal (Permitted cluster.name) (fun _ seen' => OwnServices cluster.name seen') seen :=
  h.conseq fun _ _ hsub _ => hservices.mono hsub

theorem reconcileConfigMap_legal (hservices : OwnServices cluster.name seen) :
    (reconcileConfigMap cluster).Legal (Within (OfKinds [.configMap]) (Permitted cluster.name))
      (fun _ _ => True) seen := by
  refine Calls.Legal.bind ?_
  refine (createOrUpdate_legal (configMapRef cluster) List.mem_cons_self
    ⟨"-config", by simp [configMapRef, suffixes], rfl⟩ trivial fun _ => hservices).conseq ?_
  intro _ _ _ _
  trivial

theorem reconcilePDB_legal (hservices : OwnServices cluster.name seen) :
    (KahunaClusterReconciler.reconcilePDB cluster).Legal
      (Within (OfKinds [.podDisruptionBudget]) (Permitted cluster.name))
      (fun _ _ => True) seen := by
  unfold KahunaClusterReconciler.reconcilePDB
  split
  · refine Calls.Legal.bind ?_
    refine (createOrUpdate_legal (pdbRef cluster) List.mem_cons_self
      ⟨"", by simp [pdbRef, suffixes], (String.append_empty).symm⟩ trivial
      fun _ => hservices).conseq ?_
    intro _ _ _ _
    trivial
  · refine ⟨⟨List.mem_cons_self, .budget hservices⟩, ?_⟩
    rintro (e | o) -
    · cases e <;> trivial
    · trivial

/-- With `volume.claim` set the claim is the operator's. -/
theorem backupClaimName_claim {b : BackupSpec} (hone : b.claimName.isSome ≠ b.claim.isSome)
    (hclaim : b.claim.isSome = true) : backupClaimName cluster b = cluster.name ++ "-backup" := by
  have hname : b.claimName = none := by
    rw [hclaim] at hone
    simpa using hone
  rw [backupClaimName, hname]
  rfl

theorem reconcileClaim_legal {b : BackupSpec} (hone : b.claimName.isSome ≠ b.claim.isSome) :
    (reconcileClaim cluster b).Legal
      (Within (OfKinds [.persistentVolumeClaim, .secret]) (Permitted cluster.name))
      (fun _ _ => True) seen := by
  unfold reconcileClaim
  split
  · next hclaim =>
      have hname := @backupClaimName_claim cluster b hone hclaim
      have hnamed : Named cluster.name (backupClaimRef cluster b) :=
        ⟨"-backup", by simp [backupClaimRef, suffixes], hname⟩
      refine ⟨⟨List.mem_cons_self, .get _ _⟩, ?_⟩
      rintro (e | o) -
      · cases e with
        | notFound =>
            dsimp only
            generalize reconcileBackupClaim cluster none = action
            cases action with
            | create claim =>
                refine createTolerant_legal List.mem_cons_self hnamed (Or.inr ⟨rfl, Or.inl ?_⟩) id
                rw [backupClaimRef, hname]
            | delete _ _ => trivial
            | nothing => trivial
        | alreadyExists => trivial
        | conflict => trivial
        | unavailable => trivial
      · dsimp only
        generalize hdelete : reconcileBackupClaim cluster (some _) = action
        cases action with
        | create _ => trivial
        | nothing => trivial
        | delete uid version =>
            obtain ⟨o', volume, hsome, rfl, rfl, _, hreplace⟩ := reconcileBackupClaim_delete hdelete
            cases hsome
            exact @deletePinned_legal _ _ _ _ _ o List.mem_cons_self hnamed (Set.mem_insert _ _)
              (unbound_of_needsReplacing hreplace)
  · trivial

theorem reconcileBackupResources_legal (h : cluster.spec.ReferencesAccepted) :
    (reconcileBackupResources env cluster).Legal
      (Within (OfKinds [.persistentVolumeClaim, .secret]) (Permitted cluster.name))
      (fun _ _ => True) seen := by
  unfold reconcileBackupResources
  split
  · trivial
  · next b hb =>
      refine Calls.Legal.bind ?_
      refine (reconcileClaim_legal (h.2 b hb)).conseq ?_
      intro _ seen' _ _
      split
      · refine createOnce_legal (List.mem_cons_of_mem _ List.mem_cons_self)
          ⟨"-backup-mac", by simp [macRef, suffixes], rfl⟩ ?_ id
        intro x hx
        obtain ⟨key, _, rfl⟩ := Option.map_eq_some_iff.mp hx
        exact Or.inr ⟨rfl, Or.inr rfl⟩
      · trivial

theorem provision_legal (h : cluster.spec.ReferencesAccepted) :
    (provision env cluster).Legal (Permitted cluster.name)
      (fun _ seen' => OwnServices cluster.name seen') seen := by
  have hany : ∀ (keys : Key → Prop) (seen : Seen) (c : Call Content),
      Within keys (Permitted cluster.name) seen c → Permitted cluster.name seen c :=
    fun _ _ _ hc => hc.2
  refine Calls.Legal.bind ((reconcileKeystorePassword_legal.weaken (hany _)).conseq ?_)
  intro _ seen₁ _ _
  refine Calls.Legal.bind (((reconcileCertificate_legal h).weaken (hany _)).conseq ?_)
  intro _ seen₂ _ _
  refine Calls.Legal.bind ((reconcileServices_legal.weaken (hany _)).conseq ?_)
  intro _ seen₃ _ hservices
  refine Calls.Legal.bind ((keeps_services hservices
    ((reconcileConfigMap_legal hservices).weaken (hany _))).conseq ?_)
  intro _ seen₄ _ hservices
  refine Calls.Legal.bind ((keeps_services hservices
    ((reconcilePDB_legal hservices).weaken (hany _))).conseq ?_)
  intro _ seen₅ _ hservices
  exact keeps_services hservices ((reconcileBackupResources_legal h).weaken (hany _))

theorem stsRef_named : Named cluster.name (stsRef cluster) :=
  ⟨"", by simp [stsRef, suffixes], (String.append_empty).symm⟩

theorem updateStatefulSet_legal {p : Plan} {again : Obj (Owned StatefulSetObject)}
    (hservices : OwnServices cluster.name seen)
    (hseen : ⟨Key.object (stsRef cluster), again⟩ ∈ seen) :
    (updateStatefulSet env cluster p again).Legal (Permitted cluster.name) (fun _ _ => True)
      seen := by
  refine Calls.Legal.ite ?_ (fun _ => trivial)
  intro hmay
  refine ⟨.update stsRef_named trivial hseen hmay rfl fun _ => hservices, ?_⟩
  rintro (e | o) - <;> trivial

theorem reconcileStatefulSet_legal {passEnv : PassEnv} {bootstrapped : Bool} {o : Observed}
    (hservices : OwnServices cluster.name seen) :
    (KahunaClusterReconciler.reconcileStatefulSet env cluster passEnv bootstrapped o).Legal
      (Permitted cluster.name) (fun _ _ => True) seen := by
  refine ⟨.get _ _, ?_⟩
  rintro (e | existing) -
  · cases e with
    | notFound =>
        refine ⟨.create stsRef_named (Or.inl rfl) fun _ => hservices, ?_⟩
        rintro (e | o) - <;> trivial
    | alreadyExists => trivial
    | conflict => trivial
    | unavailable => trivial
  · refine ⟨.get _ _, ?_⟩
    rintro (e | again) -
    · trivial
    · refine updateStatefulSet_legal (hservices.mono ?_) (Set.mem_insert _ _)
      exact (Set.subset_insert _ _).trans (Set.subset_insert _ _)

end Passes

section Reconcile
variable {name : String} {seen : Seen} {env : CallEnv} {inp : PassInput}

theorem updateStatus_legal {point : Point} {o : Obj (ClusterNamed name)}
    (hseen : ⟨Key.cluster name, o⟩ ∈ seen) (status : KahunaClusterStatus) :
    (updateStatus point o status).Legal (Permitted name)
      (fun o' seen' => ⟨Key.cluster name, o'⟩ ∈ seen') seen := by
  refine ⟨.status status hseen, ?_⟩
  rintro (e | o') -
  · trivial
  · exact Set.mem_insert _ _

theorem deployAndReport_legal {o : Obj (ClusterNamed name)} (hservices : OwnServices name seen)
    (hseen : ⟨Key.cluster name, o⟩ ∈ seen) :
    (deployAndReport env inp o).Legal (Permitted name) (fun _ _ => True) seen := by
  simp only [deployAndReport]
  cases hcl : autoscaled inp.toPassEnv o.value.cluster with
  | error _ => trivial
  | ok cl =>
      have hname : cl.name = name := by
        obtain ⟨_, _, rfl, _⟩ := autoscaled_ok hcl
        exact o.value.named
      subst hname
      refine Calls.Legal.bind ((reconcileStatefulSet_legal hservices).conseq ?_)
      intro sts seen' hsub _
      exact Calls.Legal.bind ((updateStatus_legal (hsub hseen) _).conseq fun _ _ _ _ => trivial)

/-- Every pass asks for nothing else, whatever the replies. -/
theorem reconcile_legal :
    (reconcile env inp name).Legal (Permitted name) (fun _ _ => True) seen := by
  refine ⟨.get _ _, ?_⟩
  rintro (e | found) -
  · cases e <;> trivial
  · refine Calls.Legal.bind ?_
    have hrest : ∀ (o : Obj (ClusterNamed name)) (seen' : Seen), ⟨Key.cluster name, o⟩ ∈ seen' →
        ((provision env o.value.cluster) >>= fun _ => deployAndReport env inp o).Legal
          (Permitted name) (fun _ _ => True) seen' := by
      intro o seen' ho
      have hprovision := @provision_legal o.value.cluster seen' env o.value.references
      rw [o.value.named] at hprovision
      exact Calls.Legal.bind (hprovision.conseq fun _ _ hsub hservices =>
        deployAndReport_legal hservices (hsub ho))
    refine Calls.Legal.ite ?_ (fun _ => hrest found _ (Set.mem_insert _ _))
    intro _
    exact (updateStatus_legal (Set.mem_insert _ _) _).conseq fun o seen' _ ho => hrest o seen' ho

end Reconcile

/-! ## Passes among other clients -/

abbrev Passes (ι : Type) := System Content ι Point Unit

abbrev PassesEvent (ι : Type) := Lib.Api.Event Content ι Point Unit

/-- What a call of a pass does to the server. -/
inductive Effect (name : String) (s : Server Content) : Server Content → Prop
  | nothing : Effect name s s
  | status {o : Obj (ClusterNamed name)} (status : KahunaClusterStatus) :
      s.current (Key.cluster name) = some o →
      Effect name s (s.put (Key.cluster name)
        (some (s.updated (Key.cluster name) o (withStatus o.value status))))
  | created {ref : ObjectRef} (v : Owned (Resource ref.kind)) :
      s.current (Key.object ref) = none → Named name ref → CreatedAs name ref v.controller →
      Effect name s (s.put (Key.object ref) (some (s.created (Key.object ref) v)))
  | updated {ref : ObjectRef} {o : Obj (Owned (Resource ref.kind))}
      (v : Owned (Resource ref.kind)) : s.current (Key.object ref) = some o → Named name ref →
      Rewritten ref.kind → mayControl name o.value.controller = true →
      v.controller = some (.cluster name) →
      Effect name s (s.put (Key.object ref) (some (s.updated (Key.object ref) o v)))
  | deleted {ref : ObjectRef} {o : Obj (Owned (Resource ref.kind))} :
      s.current (Key.object ref) = some o →
      ref = { kind := .podDisruptionBudget, name := name } ∨
        (Named name ref ∧ Disposable name ref o.value) →
      Effect name s (s.put (Key.object ref) none)

/-- A call that is permitted has no other effect: an object named by its version is the
one that was seen. -/
theorem effect_of_permitted {name : String} {s s' : Server Content} {c : Call Content}
    (hsound : s.Sound) (hp : Permitted name s.seen c) (hc : Change s c s') : Effect name s s' := by
  cases hp with
  | get key live =>
      rw [hc.of_get trivial]
      exact .nothing
  | status status hseen =>
      rcases hc.update_inv with rfl | ⟨o, ho, hversion, rfl⟩
      · exact .nothing
      · cases hsound.current_eq hseen ho hversion
        exact .status status ho
  | create hnamed hcreated _ =>
      rcases hc.create_inv with rfl | ⟨hnone, rfl⟩
      · exact .nothing
      · exact .created _ hnone hnamed hcreated
  | update hnamed hkind hseen hmay hcontroller _ =>
      rcases hc.update_inv with rfl | ⟨o, ho, hversion, rfl⟩
      · exact .nothing
      · cases hsound.current_eq hseen ho hversion
        exact .updated _ ho hnamed hkind hmay hcontroller
  | budget _ =>
      rcases hc.delete_inv with rfl | ⟨o, ho, _, rfl⟩
      · exact .nothing
      · exact .deleted ho (Or.inl rfl)
  | discard hnamed hseen hdisposable =>
      rcases hc.delete_inv with rfl | ⟨o, ho, hpin, rfl⟩
      · exact .nothing
      · cases hsound.current_eq hseen ho (hpin _ rfl).2
        exact .deleted ho (Or.inr ⟨hnamed, hdisposable⟩)

section Operator
variable {ι : Type} [DecidableEq ι] {name : ι → String} {y y' a b : Passes ι}
  {e : PassesEvent ι} {ts : List (Transition (Passes ι) (PassesEvent ι))}

/-- A pass may begin at any time; `name i` is the cluster it is for. -/
def PassStarts (name : ι → String) (_ : Passes ι) (i : ι) (p : Program Unit) : Prop :=
  ∃ env inp, p = reconcile env inp (name i)

/-- Passes of any clusters, next to clients that may do anything. -/
abbrev PassesStep (name : ι → String) :=
  Lib.Api.Step (PassStarts name) fun (_ : Passes ι) (_ : Call Content) => True

def Untouched (y : Passes ι) : Prop := y.server.Empty ∧ ∀ i, y.program i = none

/-- What every run keeps: histories of guarded writes, and passes that ask for nothing
but what they may. -/
def Lawful (name : ι → String) (y : Passes ι) : Prop :=
  y.server.Sound ∧ y.Legal fun i => Permitted (name i)

omit [DecidableEq ι] in
theorem Untouched.lawful (h : Untouched y) : Lawful name y := by
  refine ⟨h.1.sound, ?_⟩
  intro i p hp
  rw [h.2 i] at hp
  cases hp

theorem lawful_step (h : Lawful name a) (hstep : PassesStep name a e b) : Lawful name b := by
  refine ⟨hstep.sound h.1, Lib.Api.legal_step (fun i => permitted_mono (name i)) ?_ h.2 hstep⟩
  rintro y i p ⟨env, inp, rfl⟩
  exact reconcile_legal

/-- The step lemma: a call of a pass is one that it may make, and has its effect. -/
theorem call_effect (h : Lawful name a) (hstep : PassesStep name a e b) {i : ι}
    {c : Call Content} {revision : Nat} (he : e = .call i c revision) :
    Permitted (name i) a.server.seen c ∧ Effect (name i) a.server b.server := by
  cases hstep with
  | start _ => cases he
  | other _ _ => cases he
  | call hp _ hanswer =>
      cases he
      have hpermitted := (h.2 _ _ hp).1
      exact ⟨hpermitted, effect_of_permitted h.1 hpermitted hanswer.change⟩

/-! ### A schedule -/

def bareNamespace (ι : Type) : Passes ι := { server := fun _ => { rev := fun _ => none, top := 0 } }

theorem bareNamespace_untouched (ι : Type) : Untouched (bareNamespace ι) :=
  ⟨fun _ => ⟨rfl, rfl⟩, fun _ => rfl⟩

def plainEnv : CallEnv :=
  { digest := id, decodeKeystore := .encoded, password := some "pw", macKey := some "key" }

/-- The next call of each agent in turn, answered with a cache that does not lag. -/
def answered (y : Passes ι) : List ι → List (Transition (Passes ι) (PassesEvent ι)) × Passes ι
  | [] => ([], y)
  | i :: is =>
      match y.program i with
      | some (.call c next) =>
          let revision := (y.server c.key).top
          let answer := y.server.serve revision c
          let y' : Passes ι :=
            { server := answer.1, program := Function.update y.program i (some (next answer.2)) }
          (⟨y, .call i c revision, y'⟩ :: (answered y' is).1, (answered y' is).2)
      | _ => answered y is

theorem answered_run (name : ι → String) (y : Passes ι) (schedule : List ι) :
    Run (PassesStep name) y (answered y schedule).1 (answered y schedule).2 := by
  induction schedule generalizing y with
  | nil => exact .nil y
  | cons i is ih =>
      simp only [answered]
      split
      · next c next hp => exact .cons (.call hp (Nat.le_refl _) (.served c)) (ih _)
      · exact ih y

theorem answered_fresh (y : Passes ι) (schedule : List ι) :
    ∀ t ∈ (answered y schedule).1, ∃ i c, t.event = .call i c (t.before.server c.key).top := by
  induction schedule generalizing y with
  | nil => exact fun t ht => absurd ht List.not_mem_nil
  | cons i is ih =>
      simp only [answered]
      split
      · next c next hp =>
          intro t ht
          rcases List.mem_cons.mp ht with rfl | ht
          · exact ⟨i, c, rfl⟩
          · exact ih _ t ht
      · exact ih y

def withCluster {cluster : String} (y : Passes ι) (c : ClusterNamed cluster) : Passes ι :=
  { y with server := (y.server.serve 0 (.create (V := Content) (Key.cluster cluster) c)).1 }

def beginning (name : ι → String) (y : Passes ι) (i : ι) (c : ClusterNamed (name i)) : Passes ι :=
  { server := (withCluster y c).server
    program := Function.update y.program i (some (reconcile plainEnv creatingPass (name i))) }

theorem beginning_run (name : ι → String) (y : Passes ι) (i : ι) (c : ClusterNamed (name i)) :
    Run (PassesStep name) y
      [⟨y, .other (.create (V := Content) (Key.cluster (name i)) c), withCluster y c⟩,
        ⟨withCluster y c, .start i (reconcile plainEnv creatingPass (name i)),
          beginning name y i c⟩] (beginning name y i c) :=
  .cons (.other trivial (Lib.Api.serve_change _ _ _)) (.single (.start ⟨_, _, rfl⟩))

end Operator

/-! ## What passes write -/

section Written
variable {ι : Type} [DecidableEq ι] {name : ι → String} {y y' : Passes ι}
  {ts : List (Transition (Passes ι) (PassesEvent ι))}

/-- Over every run from an empty namespace, with any number of passes of any clusters at
once and other clients that do anything: whatever a pass changes is its own.  It sets the
status of its cluster, creates objects of its own, updates objects that nobody controlled
or its own cluster did, and deletes its budget, a claim of its own that has no volume and a
keystore issued for it. -/
theorem passes_write_their_own (hrun : Run (PassesStep name) y ts y') (hnew : Untouched y) :
    ∀ t ∈ ts, ∀ i c revision, t.event = .call i c revision →
      Effect (name i) t.before.server t.after.server := by
  refine Run.forall_mem (I := Lawful name) lawful_step ?_ hrun hnew.lawful
  intro x e z hx hstep i c revision hevent
  exact (call_effect hx hstep hevent).2

end Written

def storedOrders : ClusterNamed "orders" :=
  { cluster := provisioned "orders", named := rfl, references := by decide }

theorem orders_pinned :
    ∃ ts y', Run (PassesStep fun _ : Unit => "orders") (bareNamespace Unit) ts y' ∧
      ∃ t ∈ ts, ∃ o o', t.before.server.current (Key.cluster "orders") = some o ∧
        t.after.server.current (Key.cluster "orders") = some o' ∧
        ClusterNamed.cluster o.value ≠ ClusterNamed.cluster o'.value ∧
        Effect "orders" t.before.server t.after.server := by
  have hrun := (beginning_run (fun _ => "orders") (bareNamespace Unit) () storedOrders).append
    (answered_run _ _ [(), ()])
  refine ⟨_, _, hrun, _, List.getLast_mem (List.cons_ne_nil _ _), _, _, rfl, rfl, by decide, ?_⟩
  exact passes_write_their_own hrun (bareNamespace_untouched Unit) _
    (List.getLast_mem (List.cons_ne_nil _ _)) _ _ _ rfl

/-! ## Generated secrets -/

/-- The password of a keystore, or the key that signs backups, of any cluster. -/
def Generated (ref : ObjectRef) : Prop :=
  ∃ cluster, ref = { kind := .secret, name := cluster ++ "-tls-password" } ∨
    ref = { kind := .secret, name := cluster ++ "-backup-mac" }

theorem Generated.not_disposable {ref : ObjectRef} (h : Generated ref) {cluster : String}
    {v : Owned (Resource ref.kind)} : ¬Disposable cluster ref v := by
  obtain ⟨owner, rfl | rfl⟩ := h
  · rintro ⟨hname, _⟩
    exact absurd (getLast_of_append_eq hname (by decide) (by decide)) (by decide)
  · rintro ⟨hname, _⟩
    exact absurd (getLast_of_append_eq hname (by decide) (by decide)) (by decide)

theorem Generated.kind {ref : ObjectRef} (h : Generated ref) : ref.kind = .secret := by
  obtain ⟨owner, rfl | rfl⟩ := h <;> rfl

/-- What a pass does leaves a generated Secret that is stored as it is. -/
theorem Effect.keeps_generated {cluster : String} {s s' : Server Content} {ref : ObjectRef}
    (h : Effect cluster s s') (hgen : Generated ref) {o : Obj (Owned (Resource ref.kind))}
    (ho : s.current (Key.object ref) = some o) : s'.current (Key.object ref) = some o := by
  have hother : ∀ {key : Key} (x : Option (Obj (Content key))), Key.object ref ≠ key →
      (s.put key x).current (Key.object ref) = some o := by
    intro key x hne
    rw [Server.current, Server.put_other s x hne]
    exact ho
  cases h with
  | nothing => exact ho
  | status _ _ =>
      refine hother _ ?_
      rintro ⟨⟩
  | @created ref' _ hnone _ _ =>
      refine hother _ ?_
      rintro ⟨⟩
      rw [hnone] at ho
      cases ho
  | @updated ref' _ _ _ _ hkind _ _ =>
      refine hother _ ?_
      rintro ⟨⟩
      rw [hgen.kind] at hkind
      exact hkind
  | @deleted ref' _ _ hdeleted =>
      refine hother _ ?_
      rintro ⟨⟩
      rcases hdeleted with rfl | ⟨_, hdisposable⟩
      · cases hgen.kind
      · exact hgen.not_disposable hdisposable

section Kept
variable {ι : Type} [DecidableEq ι] {name : ι → String} {y y' : Passes ι}

/-- A generated Secret, once it is stored, stays as it is for as long as nobody else
writes to it, also when several passes find it missing at the same time. -/
theorem generated_secret_kept {pre post : List (Transition (Passes ι) (PassesEvent ι))}
    {t : Transition (Passes ι) (PassesEvent ι)}
    (hrun : Run (PassesStep name) y (pre ++ t :: post) y') (hnew : Untouched y)
    {ref : ObjectRef} (hgen : Generated ref) {o : Obj (Owned (Resource ref.kind))}
    (hstored : t.after.server.current (Key.object ref) = some o)
    (hothers : ∀ u ∈ post, ∀ c, u.event = .other c → c.key ≠ Key.object ref) :
    y'.server.current (Key.object ref) = some o := by
  obtain ⟨hpre, hstep, hpost⟩ := Run.split hrun
  have hlawful := lawful_step (Run.inv lawful_step hpre hnew.lawful) hstep
  refine (Run.inv_of (I := fun z => Lawful name z ∧ z.server.current (Key.object ref) = some o)
    (C := fun u => ∀ c, u.event = .other c → c.key ≠ Key.object ref) ?_ hpost
    ⟨hlawful, hstored⟩ hothers).2
  rintro x e z ⟨hx, ho⟩ hC hstep
  refine ⟨lawful_step hx hstep, ?_⟩
  cases hstep with
  | start _ => exact ho
  | call hp hrev hanswer =>
      exact (call_effect hx (.call hp hrev hanswer) rfl).2.keeps_generated hgen ho
  | other hother hchange =>
      exact (congrArg History.current (hchange.frame (hC _ rfl).symm)).trans ho

end Kept

def ordersPassword : Obj (Owned Secret) :=
  { uid := 1, version := 1, value := passwordSecret (provisioned "orders") "pw" }

theorem orders_password_kept :
    ∃ ts y', Run (PassesStep fun _ : Unit => "orders") (bareNamespace Unit) ts y' ∧
      ts.length = 7 ∧
      y'.server.current (Key.object ⟨.secret, "orders-tls-password"⟩) = some ordersPassword := by
  have hrun := (beginning_run (fun _ => "orders") (bareNamespace Unit) () storedOrders).append
    (answered_run _ _ [(), (), (), (), ()])
  refine ⟨_, _, hrun, rfl, ?_⟩
  refine @generated_secret_kept _ _ _ _ _ [_, _, _, _, _] [_] _ hrun
    (bareNamespace_untouched Unit) _ ⟨"orders", Or.inl rfl⟩ _ rfl ?_
  rintro u hu c hc
  cases List.mem_singleton.mp hu
  cases hc

/-! ## A Service with two owners -/

/-- A pass of the cluster asks for something that it writes after its Services. -/
def WritesLate {ι : Type} (name : ι → String) (cluster : String)
    (t : Transition (Passes ι) (PassesEvent ι)) : Prop :=
  ∃ i c revision ref, t.event = .call i c revision ∧ name i = cluster ∧ ¬c.IsGet ∧
    c.key = Key.object ref ∧ AfterServices ref.kind

/-- It has seen both of its Services by then. -/
theorem Permitted.services {cluster : String} {seen : Seen} {c : Call Content} {ref : ObjectRef}
    (h : Permitted cluster seen c) (hget : ¬c.IsGet) (hkey : c.key = Key.object ref)
    (hkind : AfterServices ref.kind) : OwnServices cluster seen := by
  cases h with
  | get _ _ => exact absurd trivial hget
  | status _ _ => cases hkey
  | create _ _ hafter =>
      cases hkey
      exact hafter hkind
  | update _ _ _ _ _ hafter =>
      cases hkey
      exact hafter hkind
  | budget hservices => exact hservices
  | @discard ref' o _ _ hdisposable =>
      cases hkey
      obtain ⟨kind, _⟩ := ref
      cases kind <;> first | exact hdisposable.elim | exact hkind.elim

/-- A Service that has had one controller only, and is there since its first revision. -/
def OneController (h : History (Option (Obj (Owned Service)))) : Prop :=
  (∀ i ≤ h.top, h.rev i = none) ∨
    ∃ controller, (∃ o, h.current = some o) ∧
      ∀ i ≤ h.top, ∀ o, h.rev i = some o → o.value.controller = some controller

theorem OneController.unique {h : History (Option (Obj (Owned Service)))} (hone : OneController h)
    {i j : Nat} (hi : i ≤ h.top) (hj : j ≤ h.top) {o o' : Obj (Owned Service)}
    (ho : h.rev i = some o) (ho' : h.rev j = some o') :
    o.value.controller = o'.value.controller := by
  rcases hone with hnone | ⟨controller, _, hall⟩
  · rw [hnone i hi] at ho
    cases ho
  · rw [hall i hi o ho, hall j hj o' ho']

/-- A revision keeps it so: the first one by any controller, and each further one by the
same. -/
theorem OneController.push {h : History (Option (Obj (Owned Service)))} (hone : OneController h)
    {o : Obj (Owned Service)} {controller : Controller}
    (ho : o.value.controller = some controller)
    (hsame : ∀ o', h.current = some o' → o'.value.controller = some controller) :
    OneController (h.push (some o)) := by
  refine Or.inr ⟨controller, ⟨o, History.push_current _ _⟩, ?_⟩
  refine History.forall_push
    (P := fun _ b => ∀ o : Obj (Owned Service), b = some o →
      o.value.controller = some controller) ?_ ?_
  · rcases hone with hnone | ⟨controller', ⟨o', ho'⟩, hall⟩
    · intro i hi o hrev
      rw [hnone i hi] at hrev
      cases hrev
    · intro i hi o hrev
      rw [hall i hi o hrev, ← hall h.top (Nat.le_refl _) o' ho']
      exact hsame o' ho'
  · rintro o' ⟨⟩
    exact ho

/-- No pass takes a Service over from another controller, or deletes it. -/
theorem Effect.keeps_controller {cluster service : String} {s s' : Server Content}
    (h : Effect cluster s s') (hone : OneController (s (Key.object ⟨.service, service⟩))) :
    OneController (s' (Key.object ⟨.service, service⟩)) := by
  have hother : ∀ {key : Key} (x : Option (Obj (Content key))),
      Key.object ⟨.service, service⟩ ≠ key →
      OneController (s.put key x (Key.object ⟨.service, service⟩)) := by
    intro key x hne
    rw [Server.put_other s x hne]
    exact hone
  cases h with
  | nothing => exact hone
  | status _ _ =>
      refine hother _ ?_
      rintro ⟨⟩
  | @created ref v hnone _ hcreated =>
      by_cases href : Key.object ⟨.service, service⟩ = Key.object ref
      · cases href
        rw [Server.put_same]
        rcases hcreated with hcontroller | ⟨_, hout⟩
        · refine hone.push hcontroller ?_
          intro o' ho'
          cases hnone.symm.trans ho'
        · rcases hout with hout | hout <;> cases hout
      · exact hother _ href
  | @updated ref o v ho _ _ hmay hcontroller =>
      by_cases href : Key.object ⟨.service, service⟩ = Key.object ref
      · cases href
        rw [Server.put_same]
        refine hone.push hcontroller ?_
        intro o' ho'
        cases ho.symm.trans ho'
        rcases hone with hnone | ⟨controller, _, hall⟩
        · cases (hnone _ (Nat.le_refl _)).symm.trans ho
        · have hset := hall _ (Nat.le_refl _) o ho
          rw [hset] at hmay ⊢
          simpa [mayControl] using hmay
      · exact hother _ href
  | @deleted ref o _ hdeleted =>
      refine hother _ ?_
      rintro ⟨⟩
      rcases hdeleted with href | ⟨_, hdisposable⟩
      · cases href
      · exact hdisposable

section Clash
variable {ι : Type} [DecidableEq ι] {name : ι → String} {y y' a b : Passes ι}
  {e : PassesEvent ι} {ts : List (Transition (Passes ι) (PassesEvent ι))}

theorem oneController_step {service : String} (h : Lawful name a)
    (hone : OneController (a.server (Key.object ⟨.service, service⟩)))
    (hother : ∀ c, e = .other c → c.key ≠ Key.object ⟨.service, service⟩)
    (hstep : PassesStep name a e b) :
    OneController (b.server (Key.object ⟨.service, service⟩)) := by
  cases hstep with
  | start _ => exact hone
  | call hp hrev hanswer =>
      exact (call_effect h (.call hp hrev hanswer) rfl).2.keeps_controller hone
  | other _ hchange =>
      have hframe := hchange.frame (hother _ rfl).symm
      dsimp only
      rw [hframe]
      exact hone

/-- A cluster that has got past its Services is seen to control both, from then on. -/
theorem WritesLate.services {cluster : String} {t : Transition (Passes ι) (PassesEvent ι)}
    (h : WritesLate name cluster t) (hrun : Run (PassesStep name) y ts y') (hnew : Untouched y)
    (ht : t ∈ ts) : OwnServices cluster y'.server.seen := by
  obtain ⟨i, c, revision, ref, hevent, rfl, hget, hkey, hkind⟩ := h
  have hservices : OwnServices (name i) t.before.server.seen := by
    refine Run.forall_mem (I := Lawful name) (P := fun t => t.event = .call i c revision →
      OwnServices (name i) t.before.server.seen) lawful_step ?_ hrun hnew.lawful t ht hevent
    intro x e z hx hstep hevent
    exact (call_effect hx hstep hevent).1.services hget hkey hkind
  refine (Run.after_mem (I := fun z => OwnServices (name i) z.server.seen) ?_ hrun ht
    hservices).2
  intro x e z hx hstep
  exact hx.mono hstep.seen

/-- The peer Service of `cluster` is the client Service of `cluster-peer`.  When nobody
else writes to it, whichever cluster comes first keeps it: over a whole run at most one of
the two ever asks for a ConfigMap, a PodDisruptionBudget or a StatefulSet to be written. -/
theorem clashing_clusters_exclude {cluster : String}
    (hrun : Run (PassesStep name) y ts y') (hnew : Untouched y)
    (hothers : ∀ t ∈ ts, ∀ c, t.event = .other c →
      c.key ≠ Key.object ⟨.service, cluster ++ "-peer"⟩) :
    ¬((∃ t ∈ ts, WritesLate name cluster t) ∧
      ∃ t ∈ ts, WritesLate name (cluster ++ "-peer") t) := by
  rintro ⟨⟨t, ht, hlate⟩, t', ht', hlate'⟩
  obtain ⟨⟨o, ⟨i, hi, hrev⟩, ho⟩, _⟩ := hlate.services hrun hnew ht
  obtain ⟨_, o', ⟨j, hj, hrev'⟩, ho'⟩ := hlate'.services hrun hnew ht'
  have hone := (Run.inv_of (I := fun z => Lawful name z ∧
      OneController (z.server (Key.object ⟨.service, cluster ++ "-peer"⟩)))
    (C := fun u => ∀ c, u.event = .other c →
      c.key ≠ Key.object ⟨.service, cluster ++ "-peer"⟩) ?_ hrun
    ⟨hnew.lawful, Or.inl ?_⟩ hothers).2
  · -- both have seen the Service under their own control
    have hcontroller := hone.unique hi hj hrev hrev'
    rw [ho, ho'] at hcontroller
    have hlength := congrArg String.length (Controller.cluster.inj (Option.some.inj hcontroller))
    simp at hlength
  · rintro x e z ⟨hx, hone⟩ hC hstep
    exact ⟨lawful_step hx hstep, oneController_step hx hone hC hstep⟩
  · intro i hi
    have hempty := hnew.1 (Key.object ⟨.service, cluster ++ "-peer"⟩)
    rw [hempty.2] at hi
    rw [Nat.le_zero.mp hi]
    exact hempty.1

end Clash

def plainCluster (name : String) : ClusterNamed name :=
  { cluster := { name := name, ns := "kv", spec := { tls := { secretRef := some "keystore" } } }
    named := rfl
    references := ⟨show true ≠ false by decide, fun b hb => by cases hb⟩ }

def twoNames : Bool → String
  | true => "orders"
  | false => "orders-peer"

theorem orders_peer_locked_out :
    ∃ ts y', Run (PassesStep twoNames) (bareNamespace Bool) ts y' ∧
      (∃ t ∈ ts, WritesLate twoNames "orders" t) ∧
      y'.program false = some (.failed .services) ∧
      ¬((∃ t ∈ ts, WritesLate twoNames "orders" t) ∧
        ∃ t ∈ ts, WritesLate twoNames ("orders" ++ "-peer") t) := by
  have hrun := ((beginning_run twoNames (bareNamespace Bool) true (plainCluster "orders")).append
    (beginning_run twoNames _ false (plainCluster "orders-peer"))).append
    (answered_run twoNames _ (List.replicate 8 true ++ List.replicate 5 false))
  refine ⟨_, _, hrun, ⟨_, List.mem_append_right _ (List.mem_of_getElem? (i := 7) rfl), ?_⟩, rfl,
    clashing_clusters_exclude hrun (bareNamespace_untouched Bool) ?_⟩
  · exact ⟨true, _, _, _, rfl, rfl, id, rfl, trivial⟩
  · intro t ht c hc
    rcases List.mem_append.mp ht with ht | ht
    · simp only [List.cons_append, List.nil_append, List.mem_cons, List.not_mem_nil,
        or_false] at ht
      rcases ht with rfl | rfl | rfl | rfl <;> cases hc <;> nofun
    · obtain ⟨j, c', hcall⟩ := answered_fresh _ _ t ht
      rw [hcall] at hc
      cases hc

end KahunaOperator
