/-
# `KahunaOperator.Deploy` — the StatefulSet that is stored, over whole runs

`reconcileStatefulSet` of `internal/controller/kahunacluster_controller.go` creates the
StatefulSet from one spec and then writes part of it again from every later one: its
labels, size, template, update strategy and retention policy.  The selector, the
Service name and the claim templates stay as they were created, because the API server
lets no update change them.  So the object that is stored is made from two specs, the
one it was created with and the one of the last write (`Stored`).

    the selector always selects the pods of the template, and every path is on the
    volume meant for it, but for the log
    every mount has a volume
      ⟺  the last write had no log volume, or the creation had one
                                                       (`stored_statefulSet_wired`)

The spec may be given a log volume at any time.  A StatefulSet that was created
without one then has a template whose pods cannot be created.
-/
import KahunaOperator.Recreate
import KahunaOperator.Rollout
import KahunaOperator.Volumes

namespace KahunaOperator

open Lib (Run Transition Since)

/-! ## Writing the object -/

/-- `applyPlan` on the object: the fields of an existing one that the source sets. -/
def applyPlanObject (digest : String → String) (cluster : KahunaCluster) (p : Plan)
    (existing : StatefulSetObject) : StatefulSetObject :=
  let desired := desiredStatefulSetObject digest cluster p.partition
  { existing with
    labels := desired.labels
    replicas := some p.replicas
    template := desired.template
    rollingUpdate := desired.rollingUpdate
    whenScaled := desired.whenScaled
    whenDeleted := desired.whenDeleted }

/-- The StatefulSet a pass leaves, as an object. -/
def reconcileStatefulSetObject (digest : String → String) (env : PassEnv)
    (cluster : KahunaCluster) (bootstrapped : Bool) (o : Observed) :
    Option StatefulSetObject → StatefulSetObject
  | none => desiredStatefulSetObject digest cluster 0
  | some existing =>
      applyPlanObject digest cluster (planStatefulSet env cluster bootstrapped o existing.size)
        existing

/-- Its size is what the other modules reason about. -/
theorem reconcileStatefulSetObject_refines (digest : String → String) (env : PassEnv)
    (cluster : KahunaCluster) (bootstrapped : Bool) (o : Observed)
    (existing : Option StatefulSetObject) :
    (reconcileStatefulSetObject digest env cluster bootstrapped o existing).toStatefulSet =
      reconcileStatefulSet env cluster bootstrapped o
        (existing.map StatefulSetObject.toStatefulSet) := by
  cases existing <;> rfl

/-- The world with the stored StatefulSet as an object. -/
structure Deployed where
  world : World
  object : Option StatefulSetObject := none

def Deployed.Synced (d : Deployed) : Prop :=
  d.world.sts = d.object.map StatefulSetObject.toStatefulSet

def deploy (digest : String → String) (inp : PassInput) (d : Deployed) : Deployed :=
  let cluster := pinBootstrapSize d.world.cluster
  { world := pass inp d.world
    object :=
      if inp.reached .writeStatefulSet then
        match autoscaled inp.toPassEnv cluster with
        | .error _ => d.object
        | .ok cl =>
            some (reconcileStatefulSetObject digest inp.toPassEnv cl cluster.status.bootstrapped
              (observe inp.toPassEnv cluster) d.object)
      else d.object }

inductive DeployStep (digest : String → String) : Deployed → LifeEvent → Deployed → Prop
  | pass {d : Deployed} (inp : PassInput) :
      DeployStep digest d (.step (.pass inp)) (deploy digest inp d)
  | other {d : Deployed} {e : Event} {w : World} : (∀ inp, e ≠ .pass inp) → Step d.world e w →
      DeployStep digest d (.step e) { d with world := w }
  | deleteStatefulSet {d : Deployed} :
      DeployStep digest d .deleteStatefulSet
        { world := { d.world with sts := none }, object := none }

section Steps
variable {digest : String → String} {inp : PassInput} {a b d : Deployed} {e : LifeEvent}

theorem deploy_writes (h : Writes inp d.world) :
    ∃ cl, autoscaled inp.toPassEnv (pinBootstrapSize d.world.cluster) = .ok cl ∧
      (deploy digest inp d).object =
        some (reconcileStatefulSetObject digest inp.toPassEnv cl
          (pinBootstrapSize d.world.cluster).status.bootstrapped
          (observe inp.toPassEnv (pinBootstrapSize d.world.cluster)) d.object) := by
  obtain ⟨hreached, cl, hcl⟩ := h
  exact ⟨cl, hcl, by simp only [deploy, hreached, if_true, hcl]⟩

theorem deploy_keeps (h : ¬Writes inp d.world) : (deploy digest inp d).object = d.object := by
  simp only [deploy]
  split
  · next hreached =>
      split
      · rfl
      · next cl hcl => exact absurd ⟨hreached, cl, hcl⟩ h
  · rfl

theorem deploy_synced (h : d.Synced) : (deploy digest inp d).Synced := by
  unfold Deployed.Synced at h ⊢
  by_cases hw : Writes inp d.world
  · obtain ⟨cl, hcl, hobject⟩ := @deploy_writes digest _ _ hw
    rw [hobject, Option.map_some, reconcileStatefulSetObject_refines, ← h]
    exact (pass_passed inp d.world).sts_written hcl hw.1
  · rw [deploy_keeps hw, ← h]
    exact sts_of_not_writes hw

/-- The object refines the model of its size: every step is one of `LifeStep`. -/
theorem deployStep_refines (hstep : DeployStep digest a e b) (h : a.Synced) :
    LifeStep a.world e b.world ∧ b.Synced := by
  cases hstep with
  | pass inp => exact ⟨.step (.pass inp), deploy_synced h⟩
  | other hno hstep =>
      refine ⟨.step hstep, ?_⟩
      cases hstep with
      | pass inp => exact absurd rfl (hno inp)
      | edit _ => exact h
      | start _ _ _ => exact h
      | reclaim _ _ _ => exact h
  | deleteStatefulSet => exact ⟨.deleteStatefulSet, rfl⟩

end Steps

/-! ## What is stored -/

/-- The StatefulSet created from one cluster and last written from another of the same
name. -/
structure Stored (digest : String → String) (born last : KahunaCluster)
    (obj : StatefulSetObject) : Prop extends MadeFrom digest born last obj where
  key : obj.name = stsName born ∧ obj.ns = born.ns
  serviceName : obj.serviceName = peerServiceName born
  selector : obj.selector = selectorLabels born
  parallel : obj.podManagementPolicy = .parallel
  sameName : last.name = born.name ∧ last.ns = born.ns

/-- Every mount has a claim template or a volume: its pods can be created. -/
def StatefulSetObject.Mountable (obj : StatefulSetObject) : Prop :=
  ∀ m ∈ obj.mounts, (obj.backing m.name).isSome = true

section Stored
variable {digest : String → String} {born last : KahunaCluster} {obj : StatefulSetObject}

theorem Stored.selects (h : Stored digest born last obj) {key value : String}
    (hkey : obj.selector key = some value) : obj.template.labels key = some value := by
  have hsame : selectorLabels last = selectorLabels born := by
    simp only [selectorLabels, h.sameName.1]
  rw [h.template]
  refine podLabels_selector ?_
  rw [hsame, ← h.selector]
  exact hkey

/-- The one mount that can be without a volume is the log's. -/
theorem MadeFrom.mountable_iff (h : MadeFrom digest born last obj) :
    obj.Mountable ↔
      (last.spec.storage.wal.isSome = true → born.spec.storage.wal.isSome = true) := by
  have hbacked : ∀ m ∈ podVolumeMounts last, m.name ≠ "wal" →
      (obj.backing m.name).isSome = true := by
    intro m hm hwal
    by_cases hdata : m.name = "data"
    · rw [hdata, h.backing_data]
      rfl
    · obtain ⟨v, hv, hname⟩ := mounted_volume hm hdata hwal
      rw [← hname, h.backing_volume hv]
      rfl
  unfold StatefulSetObject.Mountable
  rw [h.mounts]
  constructor
  · intro hall hlast
    have hm : walMount ∈ podVolumeMounts last := by simp [podVolumeMounts, walMount, hlast]
    have hsome := hall walMount hm
    rw [show walMount.name = "wal" from rfl, h.backing_wal, Option.isSome_map] at hsome
    exact hsome
  · intro himp m hm
    by_cases hwal : m.name = "wal"
    · rw [hwal, h.backing_wal, Option.isSome_map]
      exact himp ((mem_podVolumeMounts hm).2.1 hwal)
    · exact hbacked m hm hwal

theorem autoscaled_identity {env : PassEnv} {cluster cl : KahunaCluster}
    (hcl : autoscaled env (pinBootstrapSize cluster) = .ok cl) :
    cl.name = cluster.name ∧ cl.ns = cluster.ns ∧ cl.spec = cluster.spec := by
  obtain ⟨_, _, rfl, _⟩ := autoscaled_ok hcl
  unfold pinBootstrapSize
  split <;> exact ⟨rfl, rfl, rfl⟩

theorem podTemplate_autoscaled {env : PassEnv} {cluster cl : KahunaCluster}
    (hcl : autoscaled env (pinBootstrapSize cluster) = .ok cl) :
    podTemplate digest cl = podTemplate digest cluster := by
  obtain ⟨hname, hns, hspec⟩ := autoscaled_identity hcl
  have hsame : cl.unscaled = cluster.unscaled := by
    simp only [KahunaCluster.unscaled, hname, hns, hspec]
  rw [← podTemplate_unscaled digest cl, hsame, podTemplate_unscaled]

end Stored

/-! ## Over a run -/

def WritesObject (t : Transition Deployed LifeEvent) : Prop :=
  ∃ inp, t.event = .step (.pass inp) ∧ Writes inp t.before.world

def WritesFrom (cluster : KahunaCluster) (t : Transition Deployed LifeEvent) : Prop :=
  WritesObject t ∧ t.before.world.cluster = cluster

def CreatesFrom (cluster : KahunaCluster) (t : Transition Deployed LifeEvent) : Prop :=
  WritesFrom cluster t ∧ t.before.object = none

def DeletesObject (t : Transition Deployed LifeEvent) : Prop := t.event = .deleteStatefulSet

/-- The StatefulSet that is there was created since the last deletion, and is made of
that creation and the last write. -/
structure Traced (digest : String → String) (past : List (Transition Deployed LifeEvent))
    (d : Deployed) (obj : StatefulSetObject) (born last : KahunaCluster) : Prop where
  created : Since (CreatesFrom born) DeletesObject past
  written : Since (WritesFrom last) WritesObject past
  stored : Stored digest born last obj
  named : born.name = d.world.cluster.name ∧ born.ns = d.world.cluster.ns

section Run
variable {digest : String → String} {past : List (Transition Deployed LifeEvent)}
  {a b : Deployed} {e : LifeEvent} {obj : StatefulSetObject}

theorem pass_named (inp : PassInput) (w : World) :
    (pass inp w).cluster.name = w.cluster.name ∧ (pass inp w).cluster.ns = w.cluster.ns := by
  obtain ⟨_, hname, hns, _⟩ := (pass_passed inp w).frame
  exact ⟨hname, hns⟩

theorem step_named {w w' : World} {e : Event} (h : Step w e w') :
    w'.cluster.name = w.cluster.name ∧ w'.cluster.ns = w.cluster.ns := by
  cases h with
  | pass inp => exact pass_named inp w
  | edit _ => exact ⟨rfl, rfl⟩
  | start _ _ _ => exact ⟨rfl, rfl⟩
  | reclaim _ _ _ => exact ⟨rfl, rfl⟩

/-- A step that is no write and no deletion. -/
theorem Traced.snoc {born last : KahunaCluster} (h : Traced digest past a obj born last)
    (hwrite : ¬WritesObject ⟨a, e, b⟩) (hdelete : ¬DeletesObject ⟨a, e, b⟩)
    (hnamed : b.world.cluster.name = a.world.cluster.name ∧
      b.world.cluster.ns = a.world.cluster.ns) :
    Traced digest (past ++ [⟨a, e, b⟩]) b obj born last :=
  ⟨h.created.snoc hdelete, h.written.snoc hwrite, h.stored,
    h.named.1.trans hnamed.1.symm, h.named.2.trans hnamed.2.symm⟩

theorem stored_rewritten {born last cluster cl : KahunaCluster} {inp : PassInput}
    (h : Stored digest born last obj)
    (hnamed : born.name = cluster.name ∧ born.ns = cluster.ns)
    (hcl : autoscaled inp.toPassEnv (pinBootstrapSize cluster) = .ok cl) (bootstrapped : Bool)
    (o : Observed) :
    Stored digest born cluster
      (reconcileStatefulSetObject digest inp.toPassEnv cl bootstrapped o (some obj)) where
  claims := h.claims
  template := podTemplate_autoscaled hcl
  key := h.key
  serviceName := h.serviceName
  selector := h.selector
  parallel := h.parallel
  sameName := ⟨hnamed.1.symm, hnamed.2.symm⟩

theorem stored_created {cluster cl : KahunaCluster} {inp : PassInput}
    (hcl : autoscaled inp.toPassEnv (pinBootstrapSize cluster) = .ok cl) (bootstrapped : Bool)
    (o : Observed) :
    Stored digest cluster cluster
      (reconcileStatefulSetObject digest inp.toPassEnv cl bootstrapped o none) := by
  obtain ⟨hname, hns, hspec⟩ := autoscaled_identity hcl
  refine ⟨⟨?_, podTemplate_autoscaled hcl⟩, ⟨hname, hns⟩, ?_, ?_, rfl, rfl, rfl⟩
  · exact congrArg (fun spec => claimTemplates spec.storage) hspec
  · exact congrArg (· ++ "-peer") hname
  · show selectorLabels cl = selectorLabels cluster
    simp only [selectorLabels, hname]

def ObjectTraced (digest : String → String) (past : List (Transition Deployed LifeEvent))
    (d : Deployed) : Prop :=
  ∀ obj, d.object = some obj → ∃ born last, Traced digest past d obj born last

theorem objectTraced_step (h : ObjectTraced digest past a) (hstep : DeployStep digest a e b) :
    ObjectTraced digest (past ++ [⟨a, e, b⟩]) b := by
  cases hstep with
  | pass inp =>
      intro obj hobj
      have hnamed := pass_named inp a.world
      have hdelete : ¬DeletesObject ⟨a, .step (.pass inp), deploy digest inp a⟩ := nofun
      by_cases hw : Writes inp a.world
      · obtain ⟨cl, hcl, hobject⟩ := @deploy_writes digest _ _ hw
        cases hobject.symm.trans hobj
        have hwrites : WritesFrom a.world.cluster
            ⟨a, .step (.pass inp), deploy digest inp a⟩ := ⟨⟨inp, rfl, hw⟩, rfl⟩
        cases hold : a.object with
        | none =>
            exact ⟨_, _, .now ⟨hwrites, hold⟩, .now hwrites, stored_created hcl _ _,
              hnamed.1.symm, hnamed.2.symm⟩
        | some old =>
            obtain ⟨born, last, htraced⟩ := h old hold
            exact ⟨born, _, htraced.created.snoc hdelete, .now hwrites,
              stored_rewritten htraced.stored htraced.named hcl _ _,
              htraced.named.1.trans hnamed.1.symm, htraced.named.2.trans hnamed.2.symm⟩
      · rw [deploy_keeps hw] at hobj
        obtain ⟨born, last, htraced⟩ := h obj hobj
        refine ⟨born, last, htraced.snoc ?_ hdelete hnamed⟩
        rintro ⟨inp', hevent, hw'⟩
        cases hevent
        exact hw hw'
  | other hno hstep =>
      intro obj hobj
      obtain ⟨born, last, htraced⟩ := h obj hobj
      refine ⟨born, last, htraced.snoc ?_ nofun (step_named hstep)⟩
      rintro ⟨inp, hevent, _⟩
      cases hevent
      exact hno inp rfl
  | deleteStatefulSet => exact nofun

end Run

/-- Over every run from before there was a StatefulSet, with passes, edits, pods that
start, volumes that are reclaimed and deletions of the StatefulSet: the object that is
stored is made of the cluster of its creation and the cluster of its last write.  Its
selector selects its pods, its paths are wired, and its pods can be created unless a
log volume was added to the spec after the creation. -/
theorem stored_statefulSet_wired {digest : String → String} {d d' : Deployed}
    {ts : List (Transition Deployed LifeEvent)} (hrun : Run (DeployStep digest) d ts d')
    (hnew : d.object = none ∧ d.world.sts = none) {obj : StatefulSetObject}
    (hobj : d'.object = some obj) :
    d'.world.sts = some obj.toStatefulSet ∧ ∃ born last,
      Since (CreatesFrom born) DeletesObject ts ∧ Since (WritesFrom last) WritesObject ts ∧
      Stored digest born last obj ∧
      (∀ key value, obj.selector key = some value → obj.template.labels key = some value) ∧
      Wired born last obj ∧
      (obj.Mountable ↔
        (last.spec.storage.wal.isSome = true → born.spec.storage.wal.isSome = true)) := by
  have hstart : ObjectTraced digest [] d := by
    intro obj hsome
    rw [hnew.1] at hsome
    cases hsome
  have hsynced : d'.Synced := by
    refine Run.inv (fun ha hstep => (deployStep_refines hstep ha).2) hrun ?_
    rw [Deployed.Synced, hnew.1, hnew.2]
    rfl
  obtain ⟨born, last, htraced⟩ := Run.history objectTraced_step hrun [] hstart obj hobj
  refine ⟨?_, born, last, htraced.created, htraced.written, htraced.stored,
    fun _ _ => htraced.stored.selects, htraced.stored.wired, htraced.stored.mountable_iff⟩
  rw [Deployed.Synced, hobj] at hsynced
  exact hsynced

/-! ## A log volume added later -/

def newDeployed : Deployed := { world := newWorld }

def createdDeployed : Deployed := deploy id creatingPass newDeployed

def loggedSpec : KahunaClusterSpec :=
  { replicas := some 5, storage := { wal := some { size := 10 } } }

def editedDeployed : Deployed :=
  { createdDeployed with
    world := { createdDeployed.world with
      cluster := { createdDeployed.world.cluster with
        spec := loggedSpec
        generation := createdDeployed.world.cluster.generation + 1 } } }

def loggedDeployed : Deployed := deploy id creatingPass editedDeployed

theorem logged_run :
    Run (DeployStep id) newDeployed
      [⟨newDeployed, .step (.pass creatingPass), createdDeployed⟩,
        ⟨createdDeployed, .step (.edit loggedSpec), editedDeployed⟩,
        ⟨editedDeployed, .step (.pass creatingPass), loggedDeployed⟩]
      loggedDeployed := by
  have hspec : createdDeployed.world.cluster.spec = newWorld.cluster.spec :=
    (pass_passed creatingPass newWorld).frame.1
  have haccepted : createdDeployed.world.cluster.spec.AcceptedUpdate loggedSpec := by
    rw [hspec]
    decide
  exact .cons (.pass creatingPass) (.cons (.other nofun (.edit haccepted))
    (.single (.pass creatingPass)))

theorem creatingPass_writes {w : World} (h : w.cluster.spec.autoscaling = none) :
    Writes creatingPass w := by
  obtain ⟨cl, hcl, _⟩ := autoscaled_fixed creatingPass.toPassEnv h
  exact ⟨rfl, cl, hcl⟩

theorem added_log_volume_unmountable :
    ∃ obj, loggedDeployed.object = some obj ∧ ¬obj.Mountable ∧
      loggedDeployed.world.sts = some obj.toStatefulSet ∧ ∃ born last,
        Stored id born last obj ∧ Wired born last obj := by
  obtain ⟨cl, hcl, hcreated⟩ := @deploy_writes id creatingPass newDeployed
    (creatingPass_writes rfl)
  obtain ⟨cl', hcl', hlogged⟩ := @deploy_writes id creatingPass editedDeployed
    (creatingPass_writes rfl)
  have hborn := @stored_created id _ _ _ hcl (pinBootstrapSize newWorld.cluster).status.bootstrapped
    (observe creatingPass.toPassEnv (pinBootstrapSize newWorld.cluster))
  have hnamed : editedDeployed.world.cluster.name = newWorld.cluster.name ∧
      editedDeployed.world.cluster.ns = newWorld.cluster.ns := pass_named creatingPass newWorld
  have hkept : editedDeployed.object = (deploy id creatingPass newDeployed).object := rfl
  rw [hkept, hcreated] at hlogged
  have hstored := stored_rewritten hborn ⟨hnamed.1.symm, hnamed.2.symm⟩ hcl'
    (pinBootstrapSize editedDeployed.world.cluster).status.bootstrapped
    (observe creatingPass.toPassEnv (pinBootstrapSize editedDeployed.world.cluster))
  obtain ⟨hsynced, born, last, _, _, hmade, _, hwired, _⟩ :=
    stored_statefulSet_wired logged_run ⟨rfl, rfl⟩ hlogged
  refine ⟨_, hlogged, fun hmounted => ?_, hsynced, born, last, hmade, hwired⟩
  exact absurd (hstored.mountable_iff.mp hmounted) (by decide)

end KahunaOperator
