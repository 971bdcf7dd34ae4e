/-
# `KahunaOperator.Parallel` — passes side by side, and passes one at a time

The other modules take a pass as one step, and a cluster as if it were alone.  In the
operator neither is so: a pass is a sequence of calls, up to four clusters have one under
way, the spec may be edited between any two calls, and any call may fail or be the last.

A cluster is seen on the API server in three objects: itself, its StatefulSet and its
ConfigMap (`deployedView`).  However the calls of all passes are interleaved,

    what these three show at any moment is a state that a run of whole passes, each
    stopped somewhere, and edits of the spec leads to       (`operator_refines_clusters`)

so what holds over every run of `DeployStep` holds of the operator.  Assumed is one pass
of the cluster at a time, as the workqueue sees to, reads of the three that are up to
date, and nobody else to write to them but for edits.

The pass is proved against everything the others may do (`Lib.Api`, `wp`).  Its `Stage`
says how far it has come, as the point where the pass of the sequential model stops.
-/
import KahunaOperator.Ownership
import Mathlib.Logic.Relation

namespace KahunaOperator

open KahunaClusterReconciler
open Lib (Run Transition)
open Lib.Api (Call Calls Server System Change Answer Running)
open Lib.Api.Calls (Within Rely)
open Lib.Guarded (Obj History)

/-! ## A cluster on the API server -/

abbrev stsKey (n : String) : Key := Key.object { kind := .statefulSet, name := n }

abbrev configKey (n : String) : Key := Key.object { kind := .configMap, name := n ++ "-config" }

def Known (n : String) (key : Key) : Prop :=
  key = Key.cluster n ∨ key = stsKey n ∨ key = configKey n

def storedStatefulSet (n : String) (s : Server Content) : Option StatefulSetObject :=
  (s.current (stsKey n)).map fun (o : Obj (Owned StatefulSetObject)) => o.value.value

def storedConfigMap (n : String) (s : Server Content) : Option ConfigMap :=
  (s.current (configKey n)).map fun (o : Obj (Owned ConfigMapObject)) => o.value.value.data

/-- The sequential model's state, with this cluster and these volumes. -/
def deployedView (n : String) (hasData : Nat → Bool) (s : Server Content)
    (cluster : KahunaCluster) : Deployed where
  world :=
    { cluster := cluster
      sts := (storedStatefulSet n s).map StatefulSetObject.toStatefulSet
      config := storedConfigMap n s
      hasData := hasData }
  object := storedStatefulSet n s

def Edit {n : String} (a b : ClusterNamed n) : Prop :=
  ∃ spec, a.cluster.spec.AcceptedUpdate spec ∧
    b.cluster = { a.cluster with spec := spec, generation := a.cluster.generation + 1 }

def EditStep {n : String} (h h' : History (Option (Obj (ClusterNamed n)))) : Prop :=
  ∃ o v, h.current = some o ∧ Edit o.value v ∧
    h' = h.push (some { o with version := h.top + 1, value := v })

abbrev Edits {n : String} := Relation.ReflTransGen (@EditStep n)

/-- What the others may do to the three objects. -/
def OthersDo (n : String) (s t : Server Content) : Prop :=
  t (stsKey n) = s (stsKey n) ∧ t (configKey n) = s (configKey n) ∧
    @Edits n (s (Key.cluster n)) (t (Key.cluster n))

theorem OthersDo.refl {n : String} (s : Server Content) : OthersDo n s s :=
  ⟨rfl, rfl, .refl⟩

abbrev SoundAt (s : Server Content) (key : Key) : Prop :=
  Lib.Guarded.Sound (α := Content key) id (fun _ _ => True) (s key)

section Edits
variable {n : String} {h h' : History (Option (Obj (ClusterNamed n)))}

theorem edits_sound (hedits : Edits h h')
    (hs : Lib.Guarded.Sound (α := ClusterNamed n) id (fun _ _ => True) h) :
    Lib.Guarded.Sound (α := ClusterNamed n) id (fun _ _ => True) h' := by
  induction hedits with
  | refl => exact hs
  | tail _ hstep ih =>
      obtain ⟨o, v, ho, _, rfl⟩ := hstep
      exact ih.push (fun _ => trivial) (fun _ _ => trivial) (.update v ho trivial rfl)

theorem edits_keep (hedits : Edits h h') {i : Nat} (hi : i ≤ h.top) :
    i ≤ h'.top ∧ h'.rev i = h.rev i := by
  induction hedits with
  | refl => exact ⟨hi, rfl⟩
  | tail _ hstep ih =>
      obtain ⟨o, v, _, _, rfl⟩ := hstep
      exact ⟨Nat.le_succ_of_le ih.1, (History.push_rev_of_le ih.1).trans ih.2⟩

/-- A pass or an edit of the sequential model, and no other of its steps. -/
def PassOrEdit (digest : String → String) (a : Deployed) (e : LifeEvent) (b : Deployed) : Prop :=
  DeployStep digest a e b ∧ ((∃ inp, e = .step (.pass inp)) ∨ ∃ spec, e = .step (.edit spec))

/-- Edits of the stored cluster are edits of the sequential model. -/
theorem edits_run {digest : String → String} {v₀ d : Deployed}
    {tr : List (Transition Deployed LifeEvent)} (hedits : Edits h h')
    {o : Obj (ClusterNamed n)} (ho : h.current = some o)
    (hrun : Run (PassOrEdit digest) v₀ tr d) (hd : d.world.cluster = o.value.cluster) :
    ∃ o' tr', h'.current = some o' ∧
      Run (PassOrEdit digest) v₀ tr'
        { d with world := { d.world with cluster := o'.value.cluster } } := by
  induction hedits with
  | refl =>
      refine ⟨o, tr, ho, ?_⟩
      rw [← hd]
      exact hrun
  | tail _ hstep ih =>
      obtain ⟨o₁, tr₁, ho₁, hrun₁⟩ := ih
      obtain ⟨o₂, v, ho₂, ⟨spec, haccepted, hv⟩, rfl⟩ := hstep
      cases ho₁.symm.trans ho₂
      refine ⟨_, tr₁ ++ [⟨_, .step (.edit spec), _⟩], History.push_current _ _,
        hrun₁.append (.single ?_)⟩
      rw [hv]
      exact ⟨.other nofun (.edit haccepted), Or.inr ⟨spec, rfl⟩⟩

end Edits

/-! ## The condition, and how far a pass has come -/

section Stages
variable {n : String} {digest : String → String} {hasData : Nat → Bool} {v₀ d₀ : Deployed}
  {inp : PassInput} {p p' : Option Point} {o : Obj (ClusterNamed n)} {s t : Server Content}

theorem storedStatefulSet_congr (h : t (stsKey n) = s (stsKey n)) :
    storedStatefulSet n t = storedStatefulSet n s := by
  simp only [storedStatefulSet, Server.current, h]

theorem storedConfigMap_congr (h : t (configKey n) = s (configKey n)) :
    storedConfigMap n t = storedConfigMap n s := by
  simp only [storedConfigMap, Server.current, h]

theorem deployedView_congr (hsts : t (stsKey n) = s (stsKey n))
    (hconfig : t (configKey n) = s (configKey n)) (cluster : KahunaCluster) :
    deployedView n hasData t cluster = deployedView n hasData s cluster := by
  simp only [deployedView, storedStatefulSet_congr hsts, storedConfigMap_congr hconfig]

theorem deployedView_config (x : Obj (Owned ConfigMapObject)) (cluster : KahunaCluster) :
    deployedView n hasData (s.put (configKey n) (some x)) cluster =
      { deployedView n hasData s cluster with
        world := { (deployedView n hasData s cluster).world with
          config := some x.value.value.data } } := by
  have hconfig : storedConfigMap n (s.put (configKey n) (some x)) = some x.value.value.data :=
    congrArg (Option.map _) (Server.current_put s (configKey n) (some x))
  have hsts : storedStatefulSet n (s.put (configKey n) (some x)) = storedStatefulSet n s :=
    storedStatefulSet_congr (Server.put_other s _ (by simp))
  simp only [deployedView, hconfig, hsts]

theorem deployedView_stored {obj : StatefulSetObject} (h : storedStatefulSet n s = some obj)
    (cluster : KahunaCluster) :
    deployedView n hasData s cluster =
      { world := { (deployedView n hasData s cluster).world with sts := some obj.toStatefulSet }
        object := some obj } := by
  simp only [deployedView, h, Option.map_some]

theorem deployedView_sts (x : Obj (Owned StatefulSetObject)) (cluster : KahunaCluster) :
    deployedView n hasData (s.put (stsKey n) (some x)) cluster =
      { world := { (deployedView n hasData s cluster).world with
          sts := some x.value.value.toStatefulSet }
        object := some x.value.value } := by
  have hconfig : storedConfigMap n (s.put (stsKey n) (some x)) = storedConfigMap n s :=
    storedConfigMap_congr (Server.put_other s _ (by simp))
  have hsts : storedStatefulSet n (s.put (stsKey n) (some x)) = some x.value.value :=
    congrArg (Option.map _) (Server.current_put s (stsKey n) (some x))
  simp only [deployedView, hconfig, hsts, Option.map_some]

/-- The three objects show a state that the sequential model reaches. -/
structure Refines (n : String) (digest : String → String) (hasData : Nat → Bool)
    (v₀ : Deployed) (s : Server Content) : Prop where
  sound : ∀ key, Known n key → SoundAt s key
  reached : ∃ (o : Obj (ClusterNamed n)) (tr : _), s.current (Key.cluster n) = some o ∧
    Run (PassOrEdit digest) v₀ tr (deployedView n hasData s o.value.cluster)

theorem OthersDo.sound (h : OthersDo n s t) (hs : ∀ key, Known n key → SoundAt s key) :
    ∀ key, Known n key → SoundAt t key := by
  obtain ⟨hsts, hconfig, hedits⟩ := h
  rintro key (rfl | rfl | rfl)
  · exact edits_sound hedits (hs _ (Or.inl rfl))
  · rw [SoundAt, hsts]
    exact hs _ (Or.inr (Or.inl rfl))
  · rw [SoundAt, hconfig]
    exact hs _ (Or.inr (Or.inr rfl))

theorem othersDo_rely : Rely (OthersDo n) (Refines n digest hasData v₀) where
  refl := OthersDo.refl
  trans h h' := ⟨h'.1.trans h.1, h'.2.1.trans h.2.1, h.2.2.trans h'.2.2⟩
  stable := by
    intro s t hs hst
    obtain ⟨o, tr, ho, hrun⟩ := hs.reached
    obtain ⟨o', tr', ho', hrun'⟩ := edits_run hst.2.2 ho hrun rfl
    refine ⟨hst.sound hs.sound, o', tr', ho', ?_⟩
    rw [deployedView_congr hst.1 hst.2.1]
    exact hrun'

/-- The pass that began in `d₀` has come to where a pass of the sequential model stops at
`p`, and has the cluster in hand as `o`; by now the spec may have been edited. -/
structure Stage (n : String) (digest : String → String) (hasData : Nat → Bool)
    (v₀ d₀ : Deployed) (inp : PassInput) (p : Option Point) (o : Obj (ClusterNamed n))
    (s : Server Content) : Prop where
  sound : ∀ key, Known n key → SoundAt s key
  began : ∃ tr, Run (PassOrEdit digest) v₀ tr d₀
  held : ∃ h : History (Option (Obj (ClusterNamed n))), h.current = some o ∧
    Edits h (s (Key.cluster n))
  view : deployedView n hasData s o.value.cluster = deploy digest { inp with stop := p } d₀

theorem Stage.refines (h : Stage n digest hasData v₀ d₀ inp p o s) :
    Refines n digest hasData v₀ s := by
  obtain ⟨tr, hrun⟩ := h.began
  obtain ⟨history, ho, hedits⟩ := h.held
  have hpass : Run (PassOrEdit digest) v₀ (tr ++ [⟨d₀, .step (.pass { inp with stop := p }), _⟩])
      (deploy digest { inp with stop := p } d₀) := hrun.append (.single ⟨.pass _, Or.inl ⟨_, rfl⟩⟩)
  rw [← h.view] at hpass
  obtain ⟨o', tr', ho', hrun'⟩ := edits_run hedits ho hpass rfl
  exact ⟨h.sound, o', tr', ho', hrun'⟩

theorem Stage.rely (h : Stage n digest hasData v₀ d₀ inp p o s) (hst : OthersDo n s t) :
    Stage n digest hasData v₀ d₀ inp p o t := by
  obtain ⟨history, ho, hedits⟩ := h.held
  refine ⟨hst.sound h.sound, h.began, ⟨history, ho, hedits.trans hst.2.2⟩, ?_⟩
  rw [deployedView_congr hst.1 hst.2.1]
  exact h.view

theorem Stage.shown (h : Stage n digest hasData v₀ d₀ inp p o s) :
    ∃ i ≤ (s (Key.cluster n)).top, (s (Key.cluster n)).rev i = some o := by
  obtain ⟨history, ho, hedits⟩ := h.held
  obtain ⟨hle, hrev⟩ := edits_keep hedits (Nat.le_refl history.top)
  exact ⟨history.top, hle, hrev.trans ho⟩

end Stages

/-! ## The points a pass comes by -/

section Points
variable {digest : String → String} {inp : PassInput} {d : Deployed} {cl : KahunaCluster}

theorem deploy_pinned :
    deploy digest { inp with stop := some .keystorePassword } d =
      { d with world := { d.world with cluster := pinBootstrapSize d.world.cluster } } := rfl

theorem deploy_configured :
    deploy digest { inp with stop := some .podDisruptionBudget } d =
      { d with world := configured d.world } := rfl

def passObject (digest : String → String) (inp : PassInput) (d : Deployed) (cl : KahunaCluster) :
    StatefulSetObject :=
  reconcileStatefulSetObject digest inp.toPassEnv cl
    (pinBootstrapSize d.world.cluster).status.bootstrapped
    (observe inp.toPassEnv (pinBootstrapSize d.world.cluster)) d.object

theorem sized_passObject (hsync : d.Synced) :
    sized inp.toPassEnv (pinBootstrapSize d.world.cluster) cl d.world.sts =
      (passObject digest inp d cl).toStatefulSet := by
  rw [passObject, reconcileStatefulSetObject_refines, ← hsync]
  rfl

theorem deploy_sized (hsync : d.Synced)
    (hcl : autoscaled inp.toPassEnv (pinBootstrapSize d.world.cluster) = .ok cl) :
    deploy digest { inp with stop := some .writeStatus } d =
      { world := { configured d.world with sts := some (passObject digest inp d cl).toStatefulSet }
        object := some (passObject digest inp d cl) } := by
  simp only [deploy, pass, PassInput.reached, Point.rank, hcl, @sized_passObject digest _ _ _ hsync]
  rfl

theorem deploy_reported (hsync : d.Synced)
    (hcl : autoscaled inp.toPassEnv (pinBootstrapSize d.world.cluster) = .ok cl) :
    deploy digest { inp with stop := none } d =
      { world :=
          { configured d.world with
            sts := some (passObject digest inp d cl).toStatefulSet
            cluster := { pinBootstrapSize d.world.cluster with
              status := reported inp (pinBootstrapSize d.world.cluster) cl
                (passObject digest inp d cl).toStatefulSet } }
        object := some (passObject digest inp d cl) } := by
  simp only [deploy, pass, PassInput.reached, hcl, @sized_passObject digest _ _ _ hsync]
  rfl

end Points

/-! ## The steps of a pass, against the others -/

/-- The program is right next to whatever the others do to this cluster. -/
abbrev Right {α : Type} (n : String) (digest : String → String) (hasData : Nat → Bool)
    (v₀ : Deployed) (Q : α → Server Content → Prop) (p : Program α) (s : Server Content) : Prop :=
  p.wp (Known n) (OthersDo n) (Refines n digest hasData v₀) Q s

section Steps
variable {n : String} {digest : String → String} {hasData : Nat → Bool} {v₀ d₀ : Deployed}
  {inp : PassInput} {p p' : Option Point} {o : Obj (ClusterNamed n)} {s t : Server Content}

theorem sound_put {key : Key} {x : Option (Obj (Content key))}
    (hs : ∀ key, Known n key → SoundAt s key)
    (hw : Lib.Guarded.Write (α := Content key) id (fun _ _ => True) (s key) x) :
    ∀ key', Known n key' → SoundAt (s.put key x) key' := by
  intro key' hkey'
  by_cases hkey : key' = key
  · subst hkey
    rw [SoundAt, Server.put_same]
    exact (hs _ hkey').push (fun _ => trivial) (fun _ _ => trivial) hw
  · rw [SoundAt, Server.put_other s _ hkey]
    exact hs key' hkey'

theorem Stage.written {cur : Obj (ClusterNamed n)} {status : KahunaClusterStatus}
    (h : Stage n digest hasData v₀ d₀ inp p o s)
    (hview : ∀ s, deployedView n hasData s o.value.cluster =
        deploy digest { inp with stop := p } d₀ →
      deployedView n hasData s { o.value.cluster with status := status } =
        deploy digest { inp with stop := p' } d₀)
    (hcur : s.current (Key.cluster n) = some cur) :
    Stage n digest hasData v₀ d₀ inp p'
      (s.updated (Key.cluster n) cur (withStatus o.value status))
      (s.put (Key.cluster n)
        (some (s.updated (Key.cluster n) cur (withStatus o.value status)))) := by
  refine ⟨sound_put h.sound (.update _ hcur trivial rfl), h.began,
    ⟨_, Server.current_put s (Key.cluster n) _, .refl⟩, ?_⟩
  refine (deployedView_congr (Server.put_other s _ ?_) (Server.put_other s _ ?_) _).trans
    (hview s h.view)
  · nofun
  · nofun

theorem updateStatus_right (p' : Option Point) {point : Point} {status : KahunaClusterStatus}
    (h : Stage n digest hasData v₀ d₀ inp p o s)
    (hview : ∀ s, deployedView n hasData s o.value.cluster =
        deploy digest { inp with stop := p } d₀ →
      deployedView n hasData s { o.value.cluster with status := status } =
        deploy digest { inp with stop := p' } d₀) :
    Right n digest hasData v₀ (Stage n digest hasData v₀ d₀ inp p')
      (updateStatus point o status) s := by
  refine Calls.wp_call (Or.inl rfl) h.refines ?_
  intro t s' r ht hanswer
  have hstage := h.rely ht
  rcases hanswer.update_inv with ⟨rfl, e, rfl⟩ | ⟨rfl, i, hi, o', ho', hversion, hvalue, rfl⟩ |
    ⟨cur, hcur, _, rfl, hr⟩
  · exact hstage.refines
  · -- what was read has this status already
    obtain ⟨j, hj, hrev⟩ := hstage.shown
    obtain rfl := (hstage.sound _ (Or.inl rfl)).eq_of_version hi hj ho' hrev hversion
    have hstage' : Stage n digest hasData v₀ d₀ inp p' o' s' := by
      refine ⟨hstage.sound, hstage.began, hstage.held, ?_⟩
      rw [← hview s' hstage.view, congrArg ClusterNamed.cluster hvalue]
      rfl
    exact ⟨hstage'.refines, hstage'⟩
  · have hwritten := hstage.written hview hcur
    cases r with
    | error e => exact hwritten.refines
    | ok o' =>
        cases hr o' rfl
        exact ⟨hwritten.refines, hwritten⟩

/-- The pass has come to the other point by doing nothing. -/
theorem Stage.congr (h : Stage n digest hasData v₀ d₀ inp p o s)
    (hdeploy : deploy digest { inp with stop := p } d₀ = deploy digest { inp with stop := p' } d₀) :
    Stage n digest hasData v₀ d₀ inp p' o s :=
  ⟨h.sound, h.began, h.held, h.view.trans hdeploy⟩

theorem pinStatus_right (h : Stage n digest hasData v₀ d₀ inp (some .pinStatus) o s) :
    Right n digest hasData v₀ (Stage n digest hasData v₀ d₀ inp (some .keystorePassword))
      (pinStatus o) s := by
  have hcluster : o.value.cluster = d₀.world.cluster :=
    congrArg (fun d => d.world.cluster) h.view
  by_cases hzero : o.value.cluster.status.bootstrapSize = 0
  · rw [pinStatus, if_pos hzero]
    refine updateStatus_right _ h ?_
    intro s hs
    rw [deploy_pinned, ← show deployedView n hasData s o.value.cluster = d₀ from hs]
    have hpin : pinBootstrapSize o.value.cluster =
        { o.value.cluster with status := (pinBootstrapSize o.value.cluster).status } := by
      simp only [pinBootstrapSize, if_pos hzero]
    simp only [deployedView]
    rw [← hpin]
  · rw [pinStatus, if_neg hzero]
    have hstage : Stage n digest hasData v₀ d₀ inp (some .keystorePassword) o s := by
      refine h.congr ?_
      rw [deploy_pinned, ← hcluster, pinBootstrapSize_of_ne hzero, hcluster]
      rfl
    exact ⟨hstage.refines, hstage⟩

/-- A step on other objects than the three leaves the pass where it is. -/
theorem outside_right {α : Type} {q : Program α} {seen : Seen} {kinds : List Kind}
    {permit : Seen → Call Content → Prop} {Q : α → Seen → Prop}
    (h : Stage n digest hasData v₀ d₀ inp p o s)
    (hlegal : q.Legal (Within (OfKinds kinds) permit) Q seen)
    (hsts : Kind.statefulSet ∉ kinds) (hconfig : Kind.configMap ∉ kinds) :
    Right n digest hasData v₀ (fun _ s' => Stage n digest hasData v₀ d₀ inp p o s') q s := by
  refine Calls.wp_mono (Calls.wp_frame othersDo_rely ?_ hlegal h.refines) ?_
  · rintro _ c ⟨hkind, _⟩ (hkey | hkey | hkey)
    · rw [hkey] at hkind
      exact hkind
    · rw [hkey] at hkind
      exact hsts hkind
    · rw [hkey] at hkind
      exact hconfig hkind
  · intro _ s' hs'
    exact h.rely hs'

theorem OthersDo.object {ref : ObjectRef} (h : OthersDo n s t) (hkey : Known n (Key.object ref)) :
    t (Key.object ref) = s (Key.object ref) := by
  rcases hkey with hkey | hkey | hkey
  · cases hkey
  · cases hkey
    exact h.1
  · cases hkey
    exact h.2.1

theorem Stage.put {ref : ObjectRef} {x : Obj (Owned (Resource ref.kind))}
    (h : Stage n digest hasData v₀ d₀ inp p o s)
    (hw : Lib.Guarded.Write (α := Content (Key.object ref)) id (fun _ _ => True)
      (s (Key.object ref)) (some x))
    (hview : deployedView n hasData (s.put (Key.object ref) (some x)) o.value.cluster =
      deploy digest { inp with stop := p' } d₀) :
    Stage n digest hasData v₀ d₀ inp p' o (s.put (Key.object ref) (some x)) := by
  refine ⟨sound_put h.sound hw, h.began, ?_, hview⟩
  have hne : Key.cluster n ≠ Key.object ref := nofun
  rw [Server.put_other s _ hne]
  exact h.held

/-- Writing an object of the cluster by its version: the version is the one read, and so
is the object. -/
theorem updateObject_right (p' : Option Point) {ref : ObjectRef} {point : Point}
    {v : Owned (Resource ref.kind)}
    {x : Obj (Owned (Resource ref.kind))} (hkey : Known n (Key.object ref))
    (h : Stage n digest hasData v₀ d₀ inp p o s) (hx : s.current (Key.object ref) = some x)
    (hsame : ∀ t, Stage n digest hasData v₀ d₀ inp p o t →
      t (Key.object ref) = s (Key.object ref) → x.value = v →
      Stage n digest hasData v₀ d₀ inp p' o t)
    (hput : ∀ t (x' : Obj (Owned (Resource ref.kind))),
      Stage n digest hasData v₀ d₀ inp p o t → t (Key.object ref) = s (Key.object ref) →
      x'.value = v →
      deployedView n hasData (t.put (Key.object ref) (some x')) o.value.cluster =
        deploy digest { inp with stop := p' } d₀) :
    Right n digest hasData v₀
      (fun x' s' => x'.value = v ∧ Stage n digest hasData v₀ d₀ inp p' o s')
      (updateObject point ref x.version v) s := by
  refine Calls.wp_call hkey h.refines ?_
  intro t s' r ht hanswer
  have hstage := h.rely ht
  have hobject := ht.object hkey
  have hcurrent : t.current (Key.object ref) = some x :=
    (congrArg History.current hobject).trans hx
  rcases hanswer.update_inv with ⟨rfl, e, rfl⟩ | ⟨rfl, i, hi, x', hx', hversion, hvalue, rfl⟩ |
    ⟨cur, hcur, _, rfl, hr⟩
  · exact hstage.refines
  · obtain rfl := (hstage.sound _ hkey).eq_of_version hi (Nat.le_refl _) hx' hcurrent hversion
    have hstage' := hsame s' hstage hobject hvalue
    exact ⟨hstage'.refines, hvalue, hstage'⟩
  · have hstage' := hstage.put (.update v hcur trivial rfl)
      (hput t (t.updated (Key.object ref) cur v) hstage hobject rfl)
    cases r with
    | error e => exact hstage'.refines
    | ok x' =>
        cases hr x' rfl
        exact ⟨hstage'.refines, rfl, hstage'⟩

theorem createObject_right (p' : Option Point) {ref : ObjectRef} {point : Point}
    {v : Owned (Resource ref.kind)}
    (hkey : Known n (Key.object ref)) (h : Stage n digest hasData v₀ d₀ inp p o s)
    (hput : ∀ t (x' : Obj (Owned (Resource ref.kind))),
      Stage n digest hasData v₀ d₀ inp p o t → t (Key.object ref) = s (Key.object ref) →
      x'.value = v →
      deployedView n hasData (t.put (Key.object ref) (some x')) o.value.cluster =
        deploy digest { inp with stop := p' } d₀) :
    Right n digest hasData v₀
      (fun x' s' => x'.value = v ∧ Stage n digest hasData v₀ d₀ inp p' o s')
      (createObject point ref v) s := by
  refine Calls.wp_call hkey h.refines ?_
  intro t s' r ht hanswer
  have hstage := h.rely ht
  rcases hanswer.create_inv with ⟨rfl, e, rfl⟩ | ⟨_, rfl, hr⟩
  · exact hstage.refines
  · have hstage' := hstage.put (.create v rfl)
      (hput t (t.created (Key.object ref) v) hstage (ht.object hkey) rfl)
    cases r with
    | error e => exact hstage'.refines
    | ok x' =>
        cases hr x' rfl
        exact ⟨hstage'.refines, rfl, hstage'⟩

theorem getObject_right {α : Type} {ref : ObjectRef} {Q : α → Server Content → Prop}
    {next : Except Lib.Api.ApiError (Obj (Owned (Resource ref.kind))) → Program α}
    (hkey : Known n (Key.object ref)) (h : Stage n digest hasData v₀ d₀ inp p o s)
    (hok : ∀ t x, Stage n digest hasData v₀ d₀ inp p o t →
      t.current (Key.object ref) = some x → Right n digest hasData v₀ Q (next (.ok x)) t)
    (hnone : ∀ t, Stage n digest hasData v₀ d₀ inp p o t →
      t.current (Key.object ref) = none →
      Right n digest hasData v₀ Q (next (.error .notFound)) t)
    (herror : ∀ t e, Stage n digest hasData v₀ d₀ inp p o t → e ≠ .notFound →
      Right n digest hasData v₀ Q (next (.error e)) t) :
    Right n digest hasData v₀ Q (getObject ref next) s := by
  refine Calls.wp_call hkey h.refines ?_
  intro t s' r ht hanswer
  have hstage := h.rely ht
  obtain ⟨rfl, hfound, hmissing⟩ := hanswer.get_inv
  cases r with
  | ok x => exact hok s' x hstage (hfound x rfl)
  | error e =>
      by_cases he : e = .notFound
      · subst he
        exact hnone s' hstage (hmissing rfl)
      · exact herror s' e hstage he

end Steps

/-! ## The pass -/

section Pass
variable {cluster : KahunaCluster} {digest : String → String} {hasData : Nat → Bool}
  {v₀ d₀ : Deployed} {inp : PassInput} {o : Obj (ClusterNamed cluster.name)}
  {s : Server Content}

theorem reconcileConfigMap_right (hcluster : o.value.cluster = cluster)
    (h : Stage cluster.name digest hasData v₀ d₀ inp (some .keystorePassword) o s) :
    Right cluster.name digest hasData v₀
      (fun _ s' => Stage cluster.name digest hasData v₀ d₀ inp (some .podDisruptionBudget) o s')
      (reconcileConfigMap cluster) s := by
  have hkey : Known cluster.name (Key.object (configMapRef cluster)) := Or.inr (Or.inr rfl)
  -- what the object is to hold, and the view then
  have hdesired : ∀ t, Stage cluster.name digest hasData v₀ d₀ inp (some .keystorePassword) o t →
      { deployedView cluster.name hasData t o.value.cluster with
        world := { (deployedView cluster.name hasData t o.value.cluster).world with
          config := some (desiredConfigMapObject cluster).data } } =
      deploy digest { inp with stop := some .podDisruptionBudget } d₀ := by
    intro t ht
    have hpin : cluster = pinBootstrapSize d₀.world.cluster :=
      hcluster.symm.trans (congrArg (fun d => d.world.cluster) ht.view)
    rw [ht.view, deploy_pinned, deploy_configured]
    simp only [configured, desiredConfigMapObject, ← hpin]
  refine Calls.wp_bind ?_
  refine Calls.wp_mono (Q := fun _ s' =>
    Stage cluster.name digest hasData v₀ d₀ inp (some .podDisruptionBudget) o s') ?_
    fun _ s' hs' => ⟨hs'.refines, hs'⟩
  refine getObject_right hkey h ?_ ?_ ?_
  · intro t x ht hx
    by_cases hmay : mayControl cluster.name x.value.controller = true
    · simp only [hmay, if_true]
      refine Calls.wp_mono (updateObject_right _ hkey ht hx ?_ ?_) fun _ s' hs' => hs'.2
      · intro t' ht' hobject hx'
        have hstored : storedConfigMap cluster.name t' =
            some (desiredConfigMapObject cluster).data := by
          rw [storedConfigMap_congr hobject]
          exact (congrArg (Option.map _) hx).trans
            (congrArg (fun v : Owned ConfigMapObject => some v.value.data) hx')
        refine ⟨ht'.sound, ht'.began, ht'.held, ?_⟩
        rw [← hdesired t' ht', ← hstored]
        rfl
      · intro t' x' ht' _ hx'
        refine (deployedView_config x' _).trans ?_
        rw [hx']
        exact hdesired t' ht'
    · simp only [hmay]
      exact ht.refines
  · intro t ht hnone
    refine Calls.wp_mono (createObject_right _ hkey ht ?_) fun _ s' hs' => hs'.2
    intro t' x' ht' _ hx'
    refine (deployedView_config x' _).trans ?_
    rw [hx']
    exact hdesired t' ht'
  · intro t e ht he
    cases e with
    | notFound => exact absurd rfl he
    | alreadyExists => exact ht.refines
    | conflict => exact ht.refines
    | unavailable => exact ht.refines

end Pass

section StatefulSet
variable {cl : KahunaCluster} {digest : String → String} {hasData : Nat → Bool}
  {v₀ d₀ : Deployed} {inp : PassInput} {o : Obj (ClusterNamed cl.name)} {s : Server Content}
  {env : CallEnv}

/-- Until the pass writes the StatefulSet, it is the one the pass began with. -/
theorem Stage.object_eq
    (h : Stage cl.name digest hasData v₀ d₀ inp (some .podDisruptionBudget) o s) :
    d₀.object = storedStatefulSet cl.name s ∧ d₀.Synced := by
  have hview := h.view
  rw [deploy_configured] at hview
  have hobject : storedStatefulSet cl.name s = d₀.object := congrArg Deployed.object hview
  have hsts : (storedStatefulSet cl.name s).map StatefulSetObject.toStatefulSet = d₀.world.sts :=
    congrArg (fun d => d.world.sts) hview
  refine ⟨hobject.symm, ?_⟩
  rw [Deployed.Synced, ← hobject]
  exact hsts.symm

theorem view_sized
    (hcl : autoscaled inp.toPassEnv (pinBootstrapSize d₀.world.cluster) = .ok cl)
    (h : Stage cl.name digest hasData v₀ d₀ inp (some .podDisruptionBudget) o s)
    {x : Obj (Owned StatefulSetObject)} (hx : x.value.value = passObject digest inp d₀ cl) :
    deployedView cl.name hasData (s.put (stsKey cl.name) (some x)) o.value.cluster =
      deploy digest { inp with stop := some .writeStatus } d₀ := by
  rw [deployedView_sts, h.view, deploy_configured, deploy_sized h.object_eq.2 hcl, hx]

/-- The plan for the StatefulSet read, written to the StatefulSet read. -/
theorem updateStatefulSet_right {again : Obj (Owned StatefulSetObject)}
    (hcl : autoscaled inp.toPassEnv (pinBootstrapSize d₀.world.cluster) = .ok cl)
    (h : Stage cl.name env.digest hasData v₀ d₀ inp (some .podDisruptionBudget) o s)
    (hagain : s.current (stsKey cl.name) = some again)
    (hobject : d₀.object = some again.value.value) :
    Right cl.name env.digest hasData v₀
      (fun sts s' => sts = passObject env.digest inp d₀ cl ∧
        Stage cl.name env.digest hasData v₀ d₀ inp (some .writeStatus) o s')
      (updateStatefulSet env cl
        (planStatefulSet inp.toPassEnv cl (pinBootstrapSize d₀.world.cluster).status.bootstrapped
          (observe inp.toPassEnv (pinBootstrapSize d₀.world.cluster))
          (StatefulSet.size again.value.value.toStatefulSet)) again) s := by
  have hkey : Known cl.name (Key.object (stsRef cl)) := Or.inr (Or.inl rfl)
  have hwritten : passObject env.digest inp d₀ cl = applyPlanObject env.digest cl
      (planStatefulSet inp.toPassEnv cl (pinBootstrapSize d₀.world.cluster).status.bootstrapped
        (observe inp.toPassEnv (pinBootstrapSize d₀.world.cluster))
        (StatefulSet.size again.value.value.toStatefulSet)) again.value.value := by
    rw [passObject, hobject]
    rfl
  refine Calls.wp_ite ?_ (fun _ => h.refines)
  intro _
  refine Calls.wp_bind (Calls.wp_mono
    (updateObject_right (some .writeStatus) hkey h hagain ?_ ?_) ?_)
  · intro t ht _ hvalue
    -- it is what it is to be
    have hstored : storedStatefulSet cl.name t = some (passObject env.digest inp d₀ cl) := by
      rw [← ht.object_eq.1, hobject, hwritten]
      exact congrArg (fun v : Owned StatefulSetObject => some v.value) hvalue
    refine ⟨ht.sound, ht.began, ht.held, ?_⟩
    rw [deployedView_stored hstored, ht.view, deploy_configured,
      deploy_sized ht.object_eq.2 hcl]
  · intro t x ht _ hx
    exact view_sized hcl ht ((congrArg Owned.value hx).trans hwritten.symm)
  · rintro x s' ⟨hx, hs'⟩
    exact ⟨hs'.refines, (congrArg Owned.value hx).trans hwritten.symm, hs'⟩

theorem reconcileStatefulSet_right (hdigest : env.digest = digest)
    (hcl : autoscaled inp.toPassEnv (pinBootstrapSize d₀.world.cluster) = .ok cl)
    (h : Stage cl.name digest hasData v₀ d₀ inp (some .podDisruptionBudget) o s) :
    Right cl.name digest hasData v₀
      (fun sts s' => sts = passObject digest inp d₀ cl ∧
        Stage cl.name digest hasData v₀ d₀ inp (some .writeStatus) o s')
      (KahunaClusterReconciler.reconcileStatefulSet env cl inp.toPassEnv
        (pinBootstrapSize d₀.world.cluster).status.bootstrapped
        (observe inp.toPassEnv (pinBootstrapSize d₀.world.cluster))) s := by
  subst hdigest
  have hkey : Known cl.name (Key.object (stsRef cl)) := Or.inr (Or.inl rfl)
  refine getObject_right hkey h ?_ ?_ ?_
  · intro t existing ht hexisting
    refine getObject_right hkey ht ?_ ?_ ?_
    · intro t' again ht' hagain
      have hread : d₀.object = some existing.value.value :=
        ht.object_eq.1.trans (congrArg (Option.map _) hexisting)
      have hreread : d₀.object = some again.value.value :=
        ht'.object_eq.1.trans (congrArg (Option.map _) hagain)
      have hsame : existing.value.value = again.value.value :=
        Option.some.inj (hread.symm.trans hreread)
      rw [hsame]
      exact updateStatefulSet_right hcl ht' hagain hreread
    · intro t' ht' _
      exact ht'.refines
    · intro t' e ht' _
      exact ht'.refines
  · intro t ht hnone
    have hobject : d₀.object = none := ht.object_eq.1.trans (congrArg (Option.map _) hnone)
    have hwritten : passObject env.digest inp d₀ cl =
        reconcileStatefulSetObject env.digest inp.toPassEnv cl
          (pinBootstrapSize d₀.world.cluster).status.bootstrapped
          (observe inp.toPassEnv (pinBootstrapSize d₀.world.cluster)) none := by
      rw [passObject, hobject]
    refine Calls.wp_bind (Calls.wp_mono (createObject_right (some .writeStatus) hkey ht ?_) ?_)
    · intro t' x ht' _ hx
      exact view_sized hcl ht' ((congrArg Owned.value hx).trans hwritten.symm)
    · rintro x s' ⟨hx, hs'⟩
      exact ⟨hs'.refines, (congrArg Owned.value hx).trans hwritten.symm, hs'⟩
  · intro t e ht he
    cases e with
    | notFound => exact absurd rfl he
    | alreadyExists => exact ht.refines
    | conflict => exact ht.refines
    | unavailable => exact ht.refines

theorem deployAndReport_right {n : String} {o : Obj (ClusterNamed n)}
    (hdigest : env.digest = digest)
    (h : Stage n digest hasData v₀ d₀ inp (some .podDisruptionBudget) o s) :
    Right n digest hasData v₀ (fun _ _ => True) (deployAndReport env inp o) s := by
  have hpin : o.value.cluster = pinBootstrapSize d₀.world.cluster :=
    congrArg (fun d => d.world.cluster) h.view
  simp only [deployAndReport]
  cases hcl : autoscaled inp.toPassEnv o.value.cluster with
  | error _ => exact h.refines
  | ok cl =>
      have hname : cl.name = n := by
        obtain ⟨_, _, rfl, _⟩ := autoscaled_ok hcl
        exact o.value.named
      subst hname
      rw [hpin] at hcl ⊢
      refine Calls.wp_bind (Calls.wp_mono (reconcileStatefulSet_right hdigest hcl h) ?_)
      rintro sts s' ⟨rfl, hs'⟩
      refine Calls.wp_bind (Calls.wp_mono (updateStatus_right none hs' ?_) ?_)
      · intro u hu
        rw [deploy_sized h.object_eq.2 hcl] at hu
        rw [deploy_reported h.object_eq.2 hcl, hpin]
        exact congrArg (fun d : Deployed => { d with world := { d.world with
          cluster := { pinBootstrapSize d₀.world.cluster with
            status := reported inp (pinBootstrapSize d₀.world.cluster) cl
              (passObject digest inp d₀ cl).toStatefulSet } } }) hu
      · intro o' s'' hs''
        exact ⟨hs''.refines, trivial⟩

end StatefulSet

section Reconcile
variable {n : String} {digest : String → String} {hasData : Nat → Bool} {v₀ d₀ : Deployed}
  {inp : PassInput} {env : CallEnv} {s : Server Content}

/-- Everything provisioned, of which the sequential model has the ConfigMap. -/
theorem provision_right {o : Obj (ClusterNamed n)}
    (h : Stage n digest hasData v₀ d₀ inp (some .keystorePassword) o s) :
    Right n digest hasData v₀
      (fun _ s' => Stage n digest hasData v₀ d₀ inp (some .podDisruptionBudget) o s')
      (provision env o.value.cluster) s := by
  obtain ⟨cluster, hcluster⟩ : ∃ cluster, o.value.cluster = cluster := ⟨_, rfl⟩
  have hname : cluster.name = n := by
    rw [← hcluster]
    exact o.value.named
  have hreferences : cluster.spec.ReferencesAccepted := by
    rw [← hcluster]
    exact o.value.references
  rw [hcluster]
  subst hname
  -- what may be asked for depends on what was seen; here it is all one
  have hservices : OwnServices cluster.name Set.univ := by
    refine ⟨⟨⟨0, 0, ⟨some (.cluster cluster.name), desiredPeerService cluster⟩⟩, trivial, rfl⟩,
      ⟨0, 0, ⟨some (.cluster cluster.name), desiredClientService cluster⟩⟩, trivial, rfl⟩
  refine Calls.wp_bind (Calls.wp_mono
    (outside_right h (@reconcileKeystorePassword_legal _ Set.univ _) (by decide) (by decide)) ?_)
  intro _ s₁ h₁
  refine Calls.wp_bind (Calls.wp_mono
    (outside_right h₁ (@reconcileCertificate_legal _ Set.univ _ hreferences) (by decide)
      (by decide)) ?_)
  intro _ s₂ h₂
  refine Calls.wp_bind (Calls.wp_mono
    (outside_right h₂ (@reconcileServices_legal _ Set.univ) (by decide) (by decide)) ?_)
  intro _ s₃ h₃
  refine Calls.wp_bind (Calls.wp_mono (reconcileConfigMap_right hcluster h₃) ?_)
  intro _ s₄ h₄
  refine Calls.wp_bind (Calls.wp_mono
    (outside_right h₄ (reconcilePDB_legal hservices) (by decide) (by decide)) ?_)
  intro _ s₅ h₅
  exact outside_right h₅ (@reconcileBackupResources_legal _ Set.univ _ hreferences) (by decide)
    (by decide)

theorem reconcile_right (hdigest : env.digest = digest) (h : Refines n digest hasData v₀ s) :
    Right n digest hasData v₀ (fun _ _ => True) (reconcile env inp n) s := by
  refine Calls.wp_call (Or.inl rfl) h ?_
  intro t s' r ht hanswer
  have hrefines := othersDo_rely.stable h ht
  obtain ⟨rfl, hfound, _⟩ := hanswer.get_inv
  cases r with
  | error e => cases e <;> first | exact ⟨hrefines, trivial⟩ | exact hrefines
  | ok found =>
      obtain ⟨o, tr, ho, hrun⟩ := hrefines.reached
      cases (hfound found rfl).symm.trans ho
      have hstage : Stage n digest hasData v₀ (deployedView n hasData s' found.value.cluster) inp
          (some .pinStatus) found s' :=
        ⟨hrefines.sound, ⟨tr, hrun⟩, ⟨_, ho, .refl⟩, rfl⟩
      refine Calls.wp_bind (Calls.wp_mono (pinStatus_right hstage) ?_)
      intro o' s₁ h₁
      refine Calls.wp_bind (Calls.wp_mono (provision_right h₁) ?_)
      intro _ s₂ h₂
      exact deployAndReport_right hdigest h₂

end Reconcile

/-! ## Passes of every cluster -/

/-- What is assumed of a step for the cluster `n`, whose passes agent `i` makes: they run
with the operator's digest and read the three objects up to date, and other clients do no
more to the three than edit the spec. -/
structure CalmFor {ι : Type} (digest : String → String) (n : String) (i : ι)
    (t : Transition (Passes ι) (PassesEvent ι)) : Prop where
  starts : ∀ p, t.event = .start i p →
    ∃ env inp, CallEnv.digest env = digest ∧ p = reconcile env inp n
  fresh : ∀ c revision, t.event = .call i c revision → Known n c.key →
    revision = (t.before.server c.key).top
  edits : ∀ c, t.event = .other c → Known n c.key →
    ∃ version v, c = .update (V := Content) (Key.cluster n) version v ∧
      ∀ o : Obj (ClusterNamed n), t.before.server.current (Key.cluster n) = some o → Edit o.value v

section Operator
variable {ι : Type} [DecidableEq ι] {name : ι → String} {i : ι} {digest : String → String}
  {hasData : Nat → Bool} {v₀ : Deployed} {y y' a b : Passes ι} {e : PassesEvent ι}
  {ts : List (Transition (Passes ι) (PassesEvent ι))}

/-- The passes of another cluster write to none of the three. -/
theorem Permitted.known {m n : String} {seen : Seen} {c : Call Content}
    (h : Permitted m seen c) (hget : ¬c.IsGet) (hknown : Known n c.key) : m = n := by
  have hnamed : ∀ {ref}, Named m ref → Known n (Key.object ref) → m = n := by
    rintro ref ⟨suffix, hsuffix, hname⟩ (hkey | hkey | hkey)
    · cases hkey
    · cases hkey
      simp only [suffixes, List.mem_singleton] at hsuffix
      rw [hsuffix, String.append_empty] at hname
      exact hname.symm
    · cases hkey
      simp only [suffixes, List.mem_singleton] at hsuffix
      rw [hsuffix] at hname
      exact (String.append_left_inj "-config").mp hname.symm
  cases h with
  | get _ _ => exact absurd trivial hget
  | status _ _ =>
      rcases hknown with hkey | hkey | hkey <;> cases hkey
      rfl
  | create hn _ _ => exact hnamed hn hknown
  | update hn _ _ _ _ _ => exact hnamed hn hknown
  | budget _ => rcases hknown with hkey | hkey | hkey <;> cases hkey
  | discard hn _ _ => exact hnamed hn hknown

/-- A call on another object is none of the cluster's business. -/
theorem othersDo_of_change {n : String} {s s' : Server Content} {c : Call Content}
    (hc : Change s c s') (hkey : ¬Known n c.key) : OthersDo n s s' := by
  have hframe : ∀ key, Known n key → s' key = s key := by
    intro key hknown
    refine hc.frame ?_
    rintro rfl
    exact hkey hknown
  refine ⟨hframe _ (Or.inr (Or.inl rfl)), hframe _ (Or.inr (Or.inr rfl)), ?_⟩
  rw [hframe _ (Or.inl rfl)]

/-- An edit of the spec is. -/
theorem othersDo_of_edit {n : String} {s s' : Server Content} {version : Nat}
    {v : ClusterNamed n}
    (hc : Change s (.update (V := Content) (Key.cluster n) version v) s')
    (hedit : ∀ o : Obj (ClusterNamed n), s.current (Key.cluster n) = some o → Edit o.value v) :
    OthersDo n s s' := by
  rcases hc.update_inv with rfl | ⟨o, ho, _, rfl⟩
  · exact OthersDo.refl _
  · refine ⟨Server.put_other s _ ?_, Server.put_other s _ ?_, .single ⟨o, v, ho, hedit o ho, ?_⟩⟩
    · nofun
    · nofun
    · exact Server.put_same s (Key.cluster n) _

/-- What every such step keeps: the three objects show a state of the sequential model,
and the pass of the cluster goes on rightly. -/
structure InStep (name : ι → String) (i : ι) (digest : String → String) (hasData : Nat → Bool)
    (v₀ : Deployed) (y : Passes ι) : Prop where
  lawful : Lawful name y
  refines : Refines (name i) digest hasData v₀ y.server
  running : ∀ p, y.program i = some p →
    Running (Known (name i)) (OthersDo (name i)) (Refines (name i) digest hasData v₀)
      (fun _ _ => True) p y.server

omit [DecidableEq ι] in
theorem InStep.rely (h : InStep name i digest hasData v₀ a) (hlawful : Lawful name b)
    (hothers : OthersDo (name i) a.server b.server) (hprogram : b.program i = a.program i) :
    InStep name i digest hasData v₀ b := by
  refine ⟨hlawful, othersDo_rely.stable h.refines hothers, ?_⟩
  intro p hp
  rw [hprogram] at hp
  exact (h.running p hp).rely othersDo_rely hothers

theorem inStep_step (huniq : ∀ j, name j = name i → j = i)
    (h : InStep name i digest hasData v₀ a) (hcalm : CalmFor digest (name i) i ⟨a, e, b⟩)
    (hstep : PassesStep name a e b) : InStep name i digest hasData v₀ b := by
  have hlawful := lawful_step h.lawful hstep
  cases hstep with
  | @start j p hstart =>
      by_cases hj : i = j
      · subst hj
        refine ⟨hlawful, h.refines, ?_⟩
        intro q hq
        obtain ⟨env, inp, hdigest, rfl⟩ := hcalm.starts p rfl
        rcases Lib.Api.program_update hq with ⟨_, rfl⟩ | ⟨hne, _⟩
        · exact ⟨a.server, reconcile_right hdigest h.refines, OthersDo.refl _⟩
        · exact absurd rfl hne
      · exact h.rely hlawful (OthersDo.refl _) (Function.update_of_ne hj _ _)
  | @call j c next revision s' r hp hrev hanswer =>
      by_cases hj : i = j
      · subst hj
        have hnext := (h.running _ hp).call othersDo_rely hanswer
          (fun hknown _ => hcalm.fresh c revision rfl hknown)
          (othersDo_of_change hanswer.change)
        refine ⟨hlawful, hnext.holds othersDo_rely, ?_⟩
        intro q hq
        rcases Lib.Api.program_update hq with ⟨_, rfl⟩ | ⟨hne, _⟩
        · exact hnext
        · exact absurd rfl hne
      · refine h.rely hlawful ?_ (Function.update_of_ne hj _ _)
        by_cases hknown : Known (name i) c.key
        · -- another cluster's pass only reads it
          have hget : c.IsGet := by
            by_contra hget
            exact hj (huniq j ((h.lawful.2 j _ hp).1.known hget hknown)).symm
          rw [hanswer.change.of_get hget]
          exact OthersDo.refl _
        · exact othersDo_of_change hanswer.change hknown
  | @other c s' _ hchange =>
      refine h.rely hlawful ?_ rfl
      by_cases hknown : Known (name i) c.key
      · obtain ⟨version, v, rfl, hedit⟩ := hcalm.edits c rfl hknown
        exact othersDo_of_edit hchange hedit
      · exact othersDo_of_change hchange hknown

/-- However the passes of all clusters are interleaved, and whenever the spec is edited:
what the API server shows of a cluster at the end of a run, and so at any moment, is
reached by passes and edits of the sequential model, where a pass is one step that may
stop anywhere. -/
theorem operator_refines_clusters (hrun : Run (PassesStep name) y ts y')
    (huniq : ∀ j, name j = name i → j = i)
    (hcalm : ∀ t ∈ ts, CalmFor digest (name i) i t) (hlawful : Lawful name y)
    (hidle : y.program i = none) {o : Obj (ClusterNamed (name i))}
    (ho : y.server.current (Key.cluster (name i)) = some o) :
    ∃ (o' : Obj (ClusterNamed (name i))) (tr : _),
      y'.server.current (Key.cluster (name i)) = some o' ∧
      Run (DeployStep digest) (deployedView (name i) hasData y.server o.value.cluster) tr
        (deployedView (name i) hasData y'.server o'.value.cluster) ∧
      ∀ t ∈ tr, (∃ inp, t.event = .step (.pass inp)) ∨ ∃ spec, t.event = .step (.edit spec) := by
  have hstart : InStep name i digest hasData
      (deployedView (name i) hasData y.server o.value.cluster) y := by
    refine ⟨hlawful, ⟨fun key _ => hlawful.1 key, o, [], ho, .nil _⟩, ?_⟩
    intro p hp
    rw [hidle] at hp
    cases hp
  have hend := Run.inv_of (fun hI hC hs => inStep_step huniq hI hC hs) hrun hstart hcalm
  obtain ⟨o', tr, ho', hreached⟩ := hend.refines.reached
  exact ⟨o', tr, ho', hreached.mono And.left, Run.forall_step And.right hreached⟩

end Operator

/-! ### Two clusters at once -/

def bothStored : Passes Bool :=
  withCluster (withCluster (bareNamespace Bool) (plainCluster "orders"))
    (plainCluster "orders-peer")

theorem bothStored_lawful : Lawful twoNames bothStored :=
  lawful_step (lawful_step (bareNamespace_untouched Bool).lawful
      (.other trivial (Lib.Api.serve_change _ 0 _)))
    (.other trivial (Lib.Api.serve_change _ 0 _))

def bothBegun : Passes Bool :=
  { bothStored with
    program := Function.update
      (Function.update bothStored.program true (some (reconcile plainEnv creatingPass "orders")))
      false (some (reconcile plainEnv creatingPass "orders-peer")) }

def inTurn : List Bool := (List.replicate 13 [true, false]).flatten

theorem answered_calm {ι : Type} [DecidableEq ι] {y : Passes ι} {schedule : List ι}
    {digest : String → String} {n : String} {i : ι} :
    ∀ t ∈ (answered y schedule).1, CalmFor digest n i t := by
  intro t ht
  obtain ⟨j, c, hevent⟩ := answered_fresh _ _ t ht
  refine ⟨?_, ?_, ?_⟩
  · intro p hp
    rw [hevent] at hp
    cases hp
  · intro c' revision hc' _
    rw [hevent] at hc'
    cases hc'
    rfl
  · intro c' hc'
    rw [hevent] at hc'
    cases hc'

theorem start_calm {ι : Type} {a b : Passes ι} {digest : String → String} {n : String} {i j : ι}
    {p : Program Unit}
    (h : j = i → ∃ env inp, CallEnv.digest env = digest ∧ p = reconcile env inp n) :
    CalmFor digest n i ⟨a, .start j p, b⟩ := by
  refine ⟨?_, ?_, ?_⟩
  · intro q hq
    cases hq
    exact h rfl
  · intro c revision hc
    cases hc
  · intro c hc
    cases hc

theorem orders_deployed_next_to_peer :
    ∃ ts y', Run (PassesStep twoNames) bothStored ts y' ∧ y'.program true = some (.done ()) ∧
      (storedStatefulSet "orders" y'.server).isSome = true ∧
      ∃ (o' : Obj (ClusterNamed "orders")) (tr : _),
        Run (DeployStep id)
          (deployedView "orders" (fun _ => false) bothStored.server (plainCluster "orders").cluster)
          tr (deployedView "orders" (fun _ => false) y'.server o'.value.cluster) ∧
        ∀ t ∈ tr, (∃ inp, t.event = .step (.pass inp)) ∨ ∃ spec, t.event = .step (.edit spec) := by
  have hrun : Run (PassesStep twoNames) bothStored _ (answered bothBegun inTurn).2 :=
    Run.cons (.start (i := true) ⟨plainEnv, creatingPass, rfl⟩)
      (.cons (.start (i := false) ⟨plainEnv, creatingPass, rfl⟩)
        (answered_run twoNames bothBegun inTurn))
  have huniq : ∀ j, twoNames j = twoNames true → j = true := by decide
  obtain ⟨o', tr, _, hrefines⟩ := @operator_refines_clusters _ _ twoNames true id (fun _ => false)
    _ _ _ hrun huniq
    (List.forall_mem_cons.mpr ⟨start_calm fun _ => ⟨plainEnv, creatingPass, rfl, rfl⟩,
      List.forall_mem_cons.mpr ⟨start_calm nofun, answered_calm⟩⟩) bothStored_lawful rfl _ rfl
  exact ⟨_, _, hrun, rfl, rfl, o', tr, hrefines⟩

end KahunaOperator
