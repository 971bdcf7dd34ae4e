/-
# `KahunaOperator.InFlight` — one backup at a time, each recorded once

Runs of a cluster with its backups: passes, goroutines that return, and what else
happens to the cluster, edits of `spec.backup` among it.  Two guarantees rest on
the job table, and the table loses its entry in two places.

`forget` drops the entry of a goroutine that runs on.  A pass that finds
`spec.backup` gone does that, and once the block is back another pass starts a
second backup beside the first:

    at most one goroutine runs            if no pass finds spec.backup gone
                                          while one runs       (`one_backup_in_flight`)
    edited away and back, two run                            (`readded_backup_runs_twice`)

`poll` drops the entry of a finished job before the status that carries its result
is written.  When that write is rejected, nothing carries it any more:

    no result is collected twice          always
    each is recorded, by one pass         if the pass that collects it gets its
                                          status write through (`result_recorded_once`)
    a rejected write loses it                                 (`rejected_write_loses_result`)
-/
import KahunaOperator.BackupPass

namespace KahunaOperator

open Lib (Run Transition)

/-! ## The system -/

inductive ClusterEvent where
  | pass (inp : PassInput) (env : BackupEnv)
  /-- The goroutine of a job returns. -/
  | complete (job : Nat) (result : BackupResult)
  /-- Anything else that happens to the cluster. -/
  | other (e : Event)

def Runner.Unfinished (r : Runner) (i : Nat) : Prop :=
  ∃ job, r.jobs[i]? = some job ∧ job.result = none

inductive ClusterStep : BackupWorld → ClusterEvent → BackupWorld → Prop
  | pass {bw : BackupWorld} (inp : PassInput) (env : BackupEnv) :
      ClusterStep bw (.pass inp env) (backupPass inp env bw)
  | complete {bw : BackupWorld} {i : Nat} {result : BackupResult} : bw.runner.Unfinished i →
      ClusterStep bw (.complete i result) { bw with runner := bw.runner.complete i result }
  | other {bw : BackupWorld} {e : Event} {w : World} : (∀ inp, e ≠ .pass inp) →
      Step bw.world e w → ClusterStep bw (.other e) { bw with world := w }

theorem ClusterStep.pass_inv {a b : BackupWorld} {inp : PassInput} {env : BackupEnv}
    (h : ClusterStep a (.pass inp env) b) : b = backupPass inp env a := by
  cases h with
  | pass inp env => rfl

/-! ## What a pass does to the runner and the stored backup status -/

/-- The stored status after a pass that reached the backup step. -/
def storedBackup (inp : PassInput) (bw : BackupWorld) (computed : Option BackupStatus) :
    Option BackupStatus :=
  if inp.reached .writeStatus then computed else bw.backup

/-- The four things a pass can do about backups. -/
inductive Ran (inp : PassInput) (env : BackupEnv) (bw : BackupWorld) :
    Runner → Option BackupStatus → Prop
  | missed : backupStep inp env bw = none → Ran inp env bw bw.runner bw.backup
  | dropped : (backupStep inp env bw).isSome = true → bw.world.cluster.spec.backup = none →
      Ran inp env bw bw.runner.forget (storedBackup inp bw none)
  | ran {polled : Option BackupJob} {r : Runner} : (backupStep inp env bw).isSome = true →
      bw.world.cluster.spec.backup.isSome = true → Polled bw.runner polled r →
      Ran inp env bw r
        (storedBackup inp bw (some (collectBackup (bw.backup.getD {}) polled env.clock).1))
  | started {polled : Option BackupJob} {r : Runner} {cl : KahunaCluster} {spec : BackupSpec}
      {s : BackupStart} : (backupStep inp env bw).isSome = true →
      bw.world.cluster.spec.backup = some spec → Polled bw.runner polled r → r.table = none →
      Startable env cl spec (inp.roster bw.world) inp.pods
        (readBackupVolume cl spec env.claim env.warnings)
        (collectBackup (bw.backup.getD {}) polled env.clock).1 s →
      Ran inp env bw (r.start s.job)
        (storedBackup inp bw (some (collectBackup (bw.backup.getD {}) polled env.clock).1))

theorem backupPass_ran (inp : PassInput) (env : BackupEnv) (bw : BackupWorld) :
    Ran inp env bw (backupPass inp env bw).runner (backupPass inp env bw).backup := by
  cases hstep : backupStep inp env bw with
  | none =>
      simp only [backupPass, hstep]
      exact .missed hstep
  | some found =>
      obtain ⟨cl, out⟩ := found
      have hsome : (backupStep inp env bw).isSome = true := by rw [hstep]; rfl
      obtain ⟨hcl, _, hout⟩ := backupStep_some hstep
      have hspec := autoscaled_spec hcl
      have hbackup : (backupPass inp env bw).backup = storedBackup inp bw out.backup := by
        simp only [backupPass, hstep, storedBackup]
        split <;> rfl
      rw [backupPass_runner hstep, hbackup]
      cases hset : bw.world.cluster.spec.backup with
      | none =>
          rw [hout]
          simp only [reconcileBackup, hspec, hset]
          exact .dropped hsome hset
      | some spec =>
          have hisset : bw.world.cluster.spec.backup.isSome = true := by rw [hset]; rfl
          have hpolled := poll_polled bw.runner
          obtain ⟨hstatus, hidle⟩ := reconcileBackup_set env (inp.roster bw.world) inp.pods
            bw.backup bw.conditions bw.runner (hspec ▸ hset)
          rw [← hout] at hstatus hidle
          rw [hstatus]
          cases hstarted : out.started with
          | none =>
              rw [hidle hstarted]
              exact .ran hsome hisset hpolled
          | some s =>
              rw [hout] at hstarted
              obtain ⟨_, hspec', hstart, hrunner, hfree, _⟩ := reconcileBackup_started hstarted
              rw [hspec, hset] at hspec'
              cases hspec'
              rw [hout, hrunner]
              exact .started hsome hset hpolled hfree hstart

/-! ## At most one goroutine -/

namespace Runner

theorem unfinished_complete {r : Runner} {i j : Nat} {result : BackupResult}
    (h : (r.complete i result).Unfinished j) : r.Unfinished j := by
  obtain ⟨job, hjob, hrunning⟩ := h
  have hmodify : (r.jobs.modify i (finish result))[j]? = some job := hjob
  rw [List.getElem?_modify] at hmodify
  obtain ⟨old, hold, rfl⟩ := Option.map_eq_some_iff.mp hmodify
  split at hrunning
  · cases hrunning
  · exact ⟨old, hold, hrunning⟩

theorem unfinished_start {r : Runner} {j : Nat} {job : BackupJob}
    (h : (r.start job).Unfinished j) : r.Unfinished j ∨ j = r.jobs.length := by
  obtain ⟨found, hfound, hrunning⟩ := h
  have happend : (r.jobs ++ [job])[j]? = some found := hfound
  rcases Nat.lt_trichotomy j r.jobs.length with hlt | heq | hgt
  · rw [List.getElem?_append_left hlt] at happend
    exact Or.inl ⟨found, happend, hrunning⟩
  · exact Or.inr heq
  · rw [List.getElem?_append_right hgt.le] at happend
    rw [List.getElem?_eq_none (by simp only [List.length_singleton]; omega)] at happend
    cases happend

/-- A goroutine that runs is the table's. -/
def Tabled (r : Runner) : Prop := ∀ i, r.Unfinished i → r.table = some i

theorem Tabled.unique {r : Runner} (h : r.Tabled) {i j : Nat} (hi : r.Unfinished i)
    (hj : r.Unfinished j) : i = j :=
  Option.some.inj ((h i hi).symm.trans (h j hj))

theorem Tabled.forget {r : Runner} (hdone : ∀ i, ¬ r.Unfinished i) : r.forget.Tabled :=
  fun i hi => absurd hi (hdone i)

theorem Tabled.poll {r r₁ : Runner} {polled : Option BackupJob} (h : r.Tabled)
    (hpoll : Polled r polled r₁) : r₁.Tabled := by
  cases hpoll with
  | free _ => exact h
  | @finished i job result htable hjob hresult =>
      refine Tabled.forget ?_
      -- The only one that could run is the table's, and that has finished.
      intro j hj
      cases htable.symm.trans (h j hj)
      obtain ⟨found, hfound, hrunning⟩ := hj
      cases hjob.symm.trans hfound
      cases hresult.symm.trans hrunning
  | running _ _ _ => exact h

theorem Tabled.start {r : Runner} (h : r.Tabled) (hfree : r.table = none) (job : BackupJob) :
    (r.start job).Tabled := by
  intro j hj
  rcases unfinished_start hj with hold | rfl
  · cases hfree.symm.trans (h j hold)
  · rfl

end Runner

/-- A pass that gets to the backup step and finds `spec.backup` gone finds no
backup running. -/
def StopsIdle (t : Transition BackupWorld ClusterEvent) : Prop :=
  ∀ inp env, t.event = .pass inp env → (backupStep inp env t.before).isSome = true →
    t.before.world.cluster.spec.backup = none → ∀ i, ¬ t.before.runner.Unfinished i

theorem tabled_step {a b : BackupWorld} {e : ClusterEvent} (h : a.runner.Tabled)
    (hidle : StopsIdle ⟨a, e, b⟩) (hstep : ClusterStep a e b) : b.runner.Tabled := by
  cases hstep with
  | pass inp env =>
      have hran := backupPass_ran inp env a
      generalize (backupPass inp env a).runner = r at hran ⊢
      generalize (backupPass inp env a).backup = st at hran
      cases hran with
      | missed _ => exact h
      | dropped hreached hgone => exact .forget (hidle inp env rfl hreached hgone)
      | ran _ _ hpoll => exact h.poll hpoll
      | started _ _ hpoll hfree _ => exact (h.poll hpoll).start hfree _
  | complete _ => exact fun j hj => h j (Runner.unfinished_complete hj)
  | other _ _ => exact h

/-- From the start of an operator process, at most one goroutine that takes a
backup of the cluster runs at any time, provided no pass finds `spec.backup`
gone while one runs. -/
theorem one_backup_in_flight {bw s : BackupWorld} {ts : List (Transition BackupWorld ClusterEvent)}
    (hrun : Run ClusterStep bw ts s) (hnew : bw.runner = .empty) (hidle : ∀ t ∈ ts, StopsIdle t) :
    ∀ t ∈ ts, ∀ i j, t.after.runner.Unfinished i → t.after.runner.Unfinished j → i = j := by
  have hstart : bw.runner.Tabled := by
    rw [hnew]
    rintro i ⟨job, hjob, _⟩
    cases hjob
  refine Run.forall_mem_of (I := fun a => a.runner.Tabled) tabled_step ?_ hrun hstart hidle
  intro a e b ha hidle hstep i j hi hj
  exact (tabled_step ha hidle hstep).unique hi hj

/-! ### A backup edited away and back -/

def BackupWorld.edited (bw : BackupWorld) (spec : KahunaClusterSpec) : BackupWorld :=
  { bw with world := { bw.world with cluster := { bw.world.cluster with
      spec := spec, generation := bw.world.cluster.generation + 1 } } }

theorem edited_step {bw : BackupWorld} {spec : KahunaClusterSpec}
    (h : bw.world.cluster.spec.AcceptedUpdate spec) :
    ClusterStep bw (.other (.edit spec)) (bw.edited spec) :=
  .other (fun _ heq => nomatch heq) (.edit h)

/-- Passes over the cluster of three steady nodes keep all that their next pass
depends on. -/
structure BackedUp (bw : BackupWorld) (backup : Option BackupSpec) : Prop where
  named : bw.world.cluster.name = "kahuna" ∧ bw.world.cluster.ns = "kv"
  spec : bw.world.cluster.spec = (backedUpCluster backup).spec
  bootstrapped : bw.world.cluster.status.bootstrapped = true

theorem BackedUp.pass {bw : BackupWorld} {backup : Option BackupSpec} (h : BackedUp bw backup)
    (inp : PassInput) (env : BackupEnv) : BackedUp (backupPass inp env bw) backup := by
  have hpassed := pass_passed inp bw.world
  obtain ⟨hspec, hname, hns, _⟩ := hpassed.frame
  have hboot := hpassed.bootstrapped.mpr (Or.inl h.bootstrapped)
  refine ⟨?_, ?_, ?_⟩ <;> rw [backupPass_world]
  · rw [hname, hns]
    exact h.named
  · exact hspec.trans h.spec
  · exact hboot

theorem BackedUp.edited {bw : BackupWorld} {old backup : Option BackupSpec} (h : BackedUp bw old) :
    BackedUp (bw.edited (backedUpCluster backup).spec) backup :=
  ⟨h.named, rfl, h.bootstrapped⟩

theorem BackedUp.starts {bw : BackupWorld} (h : BackedUp bw (some nightly)) (inp : PassInput)
    (clock : Time) (hpods : inp.pods = steadyInput.pods) (hkahuna : inp.kahuna = steadyInput.kahuna)
    (hreached : inp.reached .writeStatefulSet = true) (hfree : bw.runner.table = none)
    (hnew : bw.backup.getD {} = {}) :
    (backupPass inp (nightlyEnv clock) bw).runner =
      bw.runner.start { kind := .full, scheduled := clock, parent := "" } := by
  have hsteady := steady_input inp clock hpods hkahuna hreached h.named h.spec h.bootstrapped hfree
    hnew
  have hset : bw.world.cluster.spec.backup = some nightly := by
    rw [h.spec]
    rfl
  obtain ⟨cl, s, hstarts, hjob⟩ := hsteady.starts hset rfl (by decide)
  rw [hstarts.runner, poll_free hfree, hjob]
  rfl

theorem BackedUp.reaches {bw : BackupWorld} {backup : Option BackupSpec} (h : BackedUp bw backup)
    {inp : PassInput} (env : BackupEnv) (hreached : inp.reached .writeStatefulSet = true) :
    (backupStep inp env bw).isSome = true := by
  have hfixed : bw.world.cluster.spec.autoscaling = none := by
    rw [h.spec]
    rfl
  obtain ⟨cl, hcl, _⟩ := autoscaled_fixed inp.toPassEnv hfixed
  simp only [backupStep, hcl, hreached, if_true, Option.isSome_some]

theorem BackedUp.drops {bw : BackupWorld} (h : BackedUp bw none) (inp : PassInput)
    (env : BackupEnv) (hreached : inp.reached .writeStatus = true) :
    (backupPass inp env bw).runner = bw.runner.forget ∧ (backupPass inp env bw).backup = none := by
  have hwritten : inp.reached .writeStatefulSet = true :=
    PassInput.reached_mono (q := .writeStatus) (by decide) hreached
  have hsome := h.reaches env hwritten
  have hgone : bw.world.cluster.spec.backup = none := by
    rw [h.spec]
    rfl
  have hran := backupPass_ran inp env bw
  generalize (backupPass inp env bw).backup = st at hran ⊢
  generalize (backupPass inp env bw).runner = r at hran ⊢
  cases hran with
  | missed hnone =>
      rw [hnone] at hsome
      cases hsome
  | dropped _ _ => exact ⟨rfl, if_pos hreached⟩
  | ran _ hset _ =>
      rw [hgone] at hset
      cases hset
  | started _ hset _ _ _ => cases hgone.symm.trans hset

theorem backedUp_world : BackedUp backedUpWorld (some nightly) := ⟨⟨rfl, rfl⟩, rfl, rfl⟩

/-- A first pass starts a backup. -/
def backingUp : BackupWorld := backupPass steadyInput (nightlyEnv 0) backedUpWorld

theorem backingUp_runner :
    backingUp.runner = Runner.empty.start { kind := .full, scheduled := 0, parent := "" } :=
  backedUp_world.starts steadyInput 0 rfl rfl rfl rfl rfl

/-- It runs alone. -/
theorem first_backup_alone :
    backingUp.runner.Unfinished 0 ∧ ∀ j, backingUp.runner.Unfinished j → 0 = j := by
  have hrunning : backingUp.runner.Unfinished 0 := by
    rw [backingUp_runner]
    exact ⟨_, rfl, rfl⟩
  have hrun : Run ClusterStep backedUpWorld
      [⟨backedUpWorld, .pass steadyInput (nightlyEnv 0), backingUp⟩] backingUp :=
    Run.single (.pass _ _)
  have hone := one_backup_in_flight hrun rfl ?_ _ List.mem_cons_self
  · exact ⟨hrunning, fun j hj => hone 0 j hrunning hj⟩
  · intro t ht inp env _ _ hgone
    cases List.mem_singleton.mp ht
    cases hgone

/-- Then its block is removed and put back, and each time a pass follows. -/
def editedAway : BackupWorld := backingUp.edited (backedUpCluster none).spec

def droppedBackup : BackupWorld := backupPass steadyInput (nightlyEnv (minutes 1)) editedAway

def editedBack : BackupWorld := droppedBackup.edited (backedUpCluster (some nightly)).spec

def backingUpTwice : BackupWorld := backupPass steadyInput (nightlyEnv (minutes 2)) editedBack

theorem backedUp_backingUp : BackedUp backingUp (some nightly) := backedUp_world.pass _ _

theorem backedUp_dropped : BackedUp droppedBackup none := by
  have haway : BackedUp editedAway none := backedUp_backingUp.edited
  exact haway.pass _ _

theorem backingUpTwice_run :
    Run ClusterStep backedUpWorld
      [⟨backedUpWorld, .pass steadyInput (nightlyEnv 0), backingUp⟩,
        ⟨backingUp, .other (.edit (backedUpCluster none).spec), editedAway⟩,
        ⟨editedAway, .pass steadyInput (nightlyEnv (minutes 1)), droppedBackup⟩,
        ⟨droppedBackup, .other (.edit (backedUpCluster (some nightly)).spec), editedBack⟩,
        ⟨editedBack, .pass steadyInput (nightlyEnv (minutes 2)), backingUpTwice⟩]
      backingUpTwice := by
  refine .cons (.pass _ _) (.cons (edited_step ?_) (.cons (.pass _ _) (.cons (edited_step ?_)
    (.cons (.pass _ _) (.nil _)))))
  · rw [backedUp_backingUp.spec]
    decide
  · rw [backedUp_dropped.spec]
    decide

/-- The first goroutine still runs when the last pass starts a second one. -/
theorem readded_backup_runs_twice :
    backedUpWorld.runner = .empty ∧ (∃ ts, Run ClusterStep backedUpWorld ts backingUpTwice) ∧
      backingUpTwice.runner.Unfinished 0 ∧ backingUpTwice.runner.Unfinished 1 := by
  have haway : BackedUp editedAway none := backedUp_backingUp.edited
  have hback : BackedUp editedBack (some nightly) := backedUp_dropped.edited
  obtain ⟨hdropped, hcleared⟩ := haway.drops steadyInput (nightlyEnv (minutes 1)) rfl
  have hrunner : editedBack.runner = backingUp.runner.forget := hdropped
  have hbackup : editedBack.backup = none := hcleared
  have hsecond : backingUpTwice.runner =
      editedBack.runner.start { kind := .full, scheduled := minutes 2, parent := "" } :=
    hback.starts steadyInput (minutes 2) rfl rfl rfl (by rw [hrunner]; rfl) (by rw [hbackup]; rfl)
  rw [hsecond, hrunner, backingUp_runner]
  exact ⟨rfl, ⟨_, backingUpTwice_run⟩, ⟨_, rfl, rfl⟩, ⟨_, rfl, rfl⟩⟩

/-! ## Each result once -/

/-- The pass `t` takes the `i`-th job, which has finished, out of the table. -/
structure Collects (t : Transition BackupWorld ClusterEvent) (i : Nat) (inp : PassInput)
    (env : BackupEnv) (job : BackupJob) (result : BackupResult) : Prop where
  event : t.event = .pass inp env
  reached : (backupStep inp env t.before).isSome = true
  set : t.before.world.cluster.spec.backup.isSome = true
  table : t.before.runner.table = some i
  found : t.before.runner.jobs[i]? = some job
  finished : job.result = some result

def CollectsJob (i : Nat) (t : Transition BackupWorld ClusterEvent) : Prop :=
  ∃ inp env job result, Collects t i inp env job result

/-- And its result is applied to the stored status. -/
def RecordsJob (i : Nat) (t : Transition BackupWorld ClusterEvent) : Prop :=
  ∃ inp env job result, Collects t i inp env job result ∧
    t.after.backup = some (applyBackupResult (t.before.backup.getD {}) job result env.clock)

/-- The `i`-th job has been started and is out of the table. -/
def Runner.Past (r : Runner) (i : Nat) : Prop := i < r.jobs.length ∧ r.table ≠ some i

theorem Polled.past {r r₁ : Runner} {polled : Option BackupJob} {i : Nat} (h : r.Past i)
    (hpoll : Polled r polled r₁) : r₁.Past i := by
  cases hpoll with
  | free _ => exact h
  | finished _ _ _ => exact ⟨h.1, (Option.some_ne_none i).symm⟩
  | running _ _ _ => exact h

theorem Runner.Past.start {r : Runner} {i : Nat} (h : i < r.jobs.length) (job : BackupJob) :
    (r.start job).Past i := by
  refine ⟨?_, ?_⟩
  · show i < (r.jobs ++ [job]).length
    rw [List.length_append]
    exact h.trans_le (Nat.le_add_right _ _)
  · intro heq
    exact absurd (Option.some.inj heq) (Nat.ne_of_gt h)

/-- A job that is out of the table stays out, and no pass collects it. -/
theorem past_step {i : Nat} {a b : BackupWorld} {e : ClusterEvent} (h : a.runner.Past i)
    (hstep : ClusterStep a e b) : b.runner.Past i ∧ ¬ CollectsJob i ⟨a, e, b⟩ := by
  refine ⟨?_, fun ⟨_, _, _, _, hc⟩ => h.2 hc.table⟩
  cases hstep with
  | pass inp env =>
      have hran := backupPass_ran inp env a
      generalize (backupPass inp env a).runner = r at hran ⊢
      generalize (backupPass inp env a).backup = st at hran
      cases hran with
      | missed _ => exact h
      | dropped _ _ => exact ⟨h.1, (Option.some_ne_none i).symm⟩
      | ran _ _ hpoll => exact hpoll.past h
      | started _ _ hpoll _ _ => exact .start (hpoll.past h).1 _
  | complete _ =>
      refine ⟨?_, h.2⟩
      show i < (a.runner.jobs.modify _ _).length
      rw [List.length_modify]
      exact h.1
  | other _ _ => exact h

/-- Polling a job in the table: it runs and stays there, or has finished and is
out. -/
theorem Polled.tabled {r r₁ : Runner} {polled : Option BackupJob} {i : Nat}
    (hpoll : Polled r polled r₁) (h : r.table = some i) :
    (r₁.table = some i ∧ r.Unfinished i) ∨
      (r₁.Past i ∧ ∃ job result, polled = some job ∧ r.jobs[i]? = some job ∧
        job.result = some result) := by
  cases hpoll with
  | free htable => cases htable.symm.trans h
  | @finished _ job result htable hjob hresult =>
      cases htable.symm.trans h
      exact Or.inr ⟨⟨r.valid i h, (Option.some_ne_none i).symm⟩, job, result, rfl, hjob, hresult⟩
  | @running _ job htable hjob hresult =>
      cases htable.symm.trans h
      exact Or.inl ⟨h, job, hjob, hresult⟩

theorem Runner.Unfinished.not_collects {i : Nat} {t : Transition BackupWorld ClusterEvent}
    (h : t.before.runner.Unfinished i) : ¬ CollectsJob i t := by
  rintro ⟨_, _, _, _, hc⟩
  obtain ⟨job, hjob, hrunning⟩ := h
  cases hjob.symm.trans hc.found
  cases hrunning.symm.trans hc.finished

/-- While `spec.backup` is set, a job in the table stays there until a pass
collects it. -/
theorem tabled_job_step {i : Nat} {a b : BackupWorld} {e : ClusterEvent}
    (h : a.runner.table = some i) (hset : a.world.cluster.spec.backup.isSome = true)
    (hstep : ClusterStep a e b) :
    (b.runner.table = some i ∧ ¬ CollectsJob i ⟨a, e, b⟩) ∨
      (b.runner.Past i ∧ CollectsJob i ⟨a, e, b⟩) := by
  cases hstep with
  | pass inp env =>
      have hran := backupPass_ran inp env a
      generalize (backupPass inp env a).backup = st at hran
      generalize hr : (backupPass inp env a).runner = r at hran ⊢
      cases hran with
      | missed hnone =>
          refine Or.inl ⟨h, ?_⟩
          rintro ⟨_, _, _, _, hc⟩
          cases hc.event
          have hreached := hc.reached
          rw [hnone] at hreached
          cases hreached
      | dropped _ hgone =>
          rw [hgone] at hset
          cases hset
      | ran hreached _ hpoll =>
          rcases hpoll.tabled h with ⟨htable, hrunning⟩ | ⟨hpast, job, result, _, hjob, hresult⟩
          · exact Or.inl ⟨htable, hrunning.not_collects⟩
          · exact Or.inr ⟨hpast, inp, env, job, result, rfl, hreached, hset, h, hjob, hresult⟩
      | started hreached _ hpoll hfree _ =>
          rcases hpoll.tabled h with ⟨htable, _⟩ | ⟨hpast, job, result, _, hjob, hresult⟩
          · cases hfree.symm.trans htable
          · exact Or.inr ⟨.start hpast.1 _, inp, env, job, result, rfl, hreached, hset, h, hjob,
              hresult⟩
  | complete _ => exact Or.inl ⟨h, fun ⟨_, _, _, _, hc⟩ => nomatch hc.event⟩
  | other _ _ => exact Or.inl ⟨h, fun ⟨_, _, _, _, hc⟩ => nomatch hc.event⟩

theorem Collects.past {i : Nat} {t : Transition BackupWorld ClusterEvent} {inp : PassInput}
    {env : BackupEnv} {job : BackupJob} {result : BackupResult}
    (hc : Collects t i inp env job result) (hstep : ClusterStep t.before t.event t.after) :
    t.after.runner.Past i := by
  rcases tabled_job_step hc.table hc.set hstep with ⟨_, hno⟩ | ⟨hpast, _⟩
  · exact absurd ⟨inp, env, job, result, hc⟩ hno
  · exact hpast

/-- A pass that collects a result and writes its status has recorded it. -/
theorem Collects.records {i : Nat} {t : Transition BackupWorld ClusterEvent} {inp : PassInput}
    {env : BackupEnv} {job : BackupJob} {result : BackupResult}
    (hc : Collects t i inp env job result) (hstep : ClusterStep t.before t.event t.after)
    (hwritten : inp.reached .writeStatus = true) :
    t.after.backup = some (applyBackupResult (t.before.backup.getD {}) job result env.clock) := by
  obtain ⟨a, e, b⟩ := t
  obtain ⟨hevent, hreached, hset, htable, hjob, hresult⟩ := hc
  have hstored :
      storedBackup inp a (some (collectBackup (a.backup.getD {}) (some job) env.clock).1) =
      some (applyBackupResult (a.backup.getD {}) job result env.clock) := by
    simp only [storedBackup, hwritten, if_true, collectBackup, hresult]
  cases hevent
  obtain rfl : b = backupPass inp env a := hstep.pass_inv
  have hran := backupPass_ran inp env a
  show (backupPass inp env a).backup = _
  generalize (backupPass inp env a).backup = st at hran ⊢
  generalize (backupPass inp env a).runner = r at hran
  cases hran with
  | missed hnone =>
      rw [hnone] at hreached
      cases hreached
  | dropped _ hgone =>
      rw [hgone] at hset
      cases hset
  | ran _ _ hpoll =>
      cases (hpoll.of_finished htable hjob hresult).1
      exact hstored
  | started _ _ hpoll _ _ =>
      cases (hpoll.of_finished htable hjob hresult).1
      exact hstored

/-- A pass whose status write is rejected stores nothing about backups. -/
theorem backupPass_rejected {inp : PassInput} (env : BackupEnv) (bw : BackupWorld)
    (h : inp.reached .writeStatus = false) : (backupPass inp env bw).backup = bw.backup := by
  have hlost : ∀ computed, storedBackup inp bw computed = bw.backup := by
    intro computed
    simp only [storedBackup, h, Bool.false_eq_true, if_false]
  have hran := backupPass_ran inp env bw
  generalize (backupPass inp env bw).backup = st at hran ⊢
  generalize (backupPass inp env bw).runner = r at hran
  cases hran with
  | missed _ => rfl
  | dropped _ _ => exact hlost _
  | ran _ _ _ => exact hlost _
  | started _ _ _ _ _ => exact hlost _

/-- With no job in the table, a pass adds nothing to the stored status. -/
theorem backupPass_nothing_polled (inp : PassInput) (env : BackupEnv) (bw : BackupWorld)
    (hfree : bw.runner.table = none) (hset : bw.world.cluster.spec.backup.isSome = true) :
    (backupPass inp env bw).backup.getD {} = bw.backup.getD {} := by
  have hstored : (storedBackup inp bw (some (bw.backup.getD {}))).getD {} = bw.backup.getD {} := by
    unfold storedBackup
    split <;> rfl
  have hran := backupPass_ran inp env bw
  generalize (backupPass inp env bw).backup = st at hran ⊢
  generalize (backupPass inp env bw).runner = r at hran
  cases hran with
  | missed _ => rfl
  | dropped _ hgone =>
      rw [hgone] at hset
      cases hset
  | ran _ _ hpoll =>
      cases (hpoll.of_free hfree).1
      exact hstored
  | started _ _ hpoll _ _ =>
      cases (hpoll.of_free hfree).1
      exact hstored

def StartsJob (i : Nat) (t : Transition BackupWorld ClusterEvent) : Prop :=
  t.before.runner.jobs.length = i ∧ t.after.runner.table = some i

/-- Over every run.  No result is collected twice.  A job that was started, with
`spec.backup` set from then on, is still in the table or has been recorded by
exactly one pass, provided the pass that collects it gets its status write
through. -/
theorem result_recorded_once {bw s : BackupWorld}
    {ts : List (Transition BackupWorld ClusterEvent)} (hrun : Run ClusterStep bw ts s) :
    (∀ i pre u mid v post, ts = pre ++ u :: (mid ++ v :: post) → CollectsJob i u →
      ¬ CollectsJob i v) ∧
    ∀ i pre t post, ts = pre ++ t :: post → StartsJob i t →
      (∀ u ∈ post, u.before.world.cluster.spec.backup.isSome = true) →
      (∀ u ∈ post, ∀ inp env job result, Collects u i inp env job result →
        inp.reached .writeStatus = true) →
      (s.runner.table = some i ∧ ∀ u ∈ post, ¬ CollectsJob i u) ∨
        ∃ old u rest, post = old ++ u :: rest ∧ RecordsJob i u ∧
          ∀ v ∈ old ++ rest, ¬ CollectsJob i v := by
  refine ⟨?_, ?_⟩
  · rintro i pre u mid v post rfl ⟨_, _, _, _, hu⟩
    obtain ⟨_, hstep, hrest⟩ := Run.split hrun
    obtain ⟨_, hvstep, _⟩ := Run.split hrest
    have hpast := Run.window (J := fun a => a.runner.Past i) (C := fun _ => True)
      (fun ha _ hs => (past_step ha hs).1) hrun (hu.past hstep) (fun _ _ => trivial)
    exact (past_step hpast hvstep).2
  · rintro i pre t post rfl hstarts hset hwritten
    obtain ⟨_, _, hrest⟩ := Run.split hrun
    rcases Run.once (A := fun a => a.runner.table = some i) (O := fun a => a.runner.Past i)
      (C := CollectsJob i) (K := fun u => u.before.world.cluster.spec.backup.isSome = true)
      (fun ha hs hstep => tabled_job_step ha hs hstep) (fun ho _ hstep => past_step ho hstep)
      hrest hstarts.2 hset with hwaiting | ⟨old, u, rest, rfl, ⟨inp, env, job, result, hu⟩, hothers⟩
    · exact Or.inl hwaiting
    · obtain ⟨_, hstep, _⟩ := Run.split hrest
      refine Or.inr ⟨old, u, rest, rfl, ⟨inp, env, job, result, hu, ?_⟩, hothers⟩
      exact hu.records hstep (hwritten u (by simp) inp env job result hu)

/-! ### A first backup that succeeds -/

def firstInfo : BackupInfo := { backupID := "a" }

def doneJob : BackupJob :=
  { kind := .full, scheduled := 0, parent := "", result := some (.ok firstInfo) }

def backupDone : BackupWorld :=
  { backingUp with runner := backingUp.runner.complete 0 (.ok firstInfo) }

theorem backedUp_done : BackedUp backupDone (some nightly) :=
  ⟨backedUp_backingUp.named, backedUp_backingUp.spec, backedUp_backingUp.bootstrapped⟩

theorem backupDone_runner :
    backupDone.runner.table = some 0 ∧ backupDone.runner.jobs = [doneJob] := by
  have hrunner : backupDone.runner = backingUp.runner.complete 0 (.ok firstInfo) := rfl
  rw [hrunner, backingUp_runner]
  exact ⟨rfl, rfl⟩

def doneRun : List (Transition BackupWorld ClusterEvent) :=
  [⟨backedUpWorld, .pass steadyInput (nightlyEnv 0), backingUp⟩,
    ⟨backingUp, .complete 0 (.ok firstInfo), backupDone⟩]

theorem doneRun_run : Run ClusterStep backedUpWorld doneRun backupDone := by
  refine .cons (.pass _ _) (.cons (.complete ?_) (.nil _))
  rw [backingUp_runner]
  exact ⟨_, rfl, rfl⟩

theorem done_collected {inp : PassInput} (env : BackupEnv) (after : BackupWorld)
    (hreached : inp.reached .writeStatefulSet = true) :
    Collects ⟨backupDone, .pass inp env, after⟩ 0 inp env doneJob (.ok firstInfo) := by
  obtain ⟨htable, hjobs⟩ := backupDone_runner
  refine ⟨rfl, backedUp_done.reaches env hreached, ?_, htable, ?_, rfl⟩
  · rw [backedUp_done.spec]
    rfl
  · rw [hjobs]
    rfl

theorem starts_first :
    StartsJob 0 ⟨backedUpWorld, .pass steadyInput (nightlyEnv 0), backingUp⟩ := by
  refine ⟨rfl, ?_⟩
  show backingUp.runner.table = some 0
  rw [backingUp_runner]
  rfl

def collection (inp : PassInput) : List (Transition BackupWorld ClusterEvent) :=
  [⟨backingUp, .complete 0 (.ok firstInfo), backupDone⟩,
    ⟨backupDone, .pass inp (nightlyEnv (minutes 1)),
      backupPass inp (nightlyEnv (minutes 1)) backupDone⟩]

theorem collection_run (inp : PassInput) :
    Run ClusterStep backedUpWorld
      (⟨backedUpWorld, .pass steadyInput (nightlyEnv 0), backingUp⟩ :: collection inp)
      (backupPass inp (nightlyEnv (minutes 1)) backupDone) :=
  doneRun_run.append (Run.single (.pass _ _))

theorem collection_set (inp : PassInput) :
    ∀ u ∈ collection inp, u.before.world.cluster.spec.backup.isSome = true := by
  intro u hu
  rcases List.mem_cons.mp hu with rfl | hu
  · show backingUp.world.cluster.spec.backup.isSome = true
    rw [backedUp_backingUp.spec]
    rfl
  · cases List.mem_singleton.mp hu
    show backupDone.world.cluster.spec.backup.isSome = true
    rw [backedUp_done.spec]
    rfl

/-- The result is recorded, by one pass. -/
theorem first_result_recorded :
    ∃ old u rest, collection steadyInput = old ++ u :: rest ∧ RecordsJob 0 u ∧
      ∀ v ∈ old ++ rest, ¬ CollectsJob 0 v := by
  have hcollected := done_collected (nightlyEnv (minutes 1))
    (backupPass steadyInput (nightlyEnv (minutes 1)) backupDone)
    (show steadyInput.reached .writeStatefulSet = true from rfl)
  have hwritten : ∀ u ∈ collection steadyInput, ∀ inp env job result,
      Collects u 0 inp env job result → inp.reached .writeStatus = true := by
    intro u hu inp env job result hc
    rcases List.mem_cons.mp hu with rfl | hu
    · cases hc.event
    · cases List.mem_singleton.mp hu
      cases hc.event
      rfl
  rcases (result_recorded_once (collection_run steadyInput)).2 0 [] _ _ rfl starts_first
    (collection_set steadyInput) hwritten with ⟨_, hnone⟩ | hrecorded
  · exact absurd ⟨_, _, _, _, hcollected⟩ (hnone _ (List.mem_cons_of_mem _ List.mem_cons_self))
  · exact hrecorded

def rejectedInput : PassInput := { steadyInput with stop := some .writeStatus }

def lostBackup : BackupWorld := backupPass rejectedInput (nightlyEnv (minutes 1)) backupDone

theorem backupDone_backup : backupDone.backup.getD {} = {} :=
  backupPass_nothing_polled steadyInput (nightlyEnv 0) backedUpWorld rfl rfl

/-- The pass that collects the result finds nothing else due. -/
theorem lostBackup_runner : lostBackup.runner = backupDone.runner.forget := by
  obtain ⟨htable, hjobs⟩ := backupDone_runner
  have hreached := backedUp_done.reaches (nightlyEnv (minutes 1))
    (show rejectedInput.reached .writeStatefulSet = true from rfl)
  have hset : backupDone.world.cluster.spec.backup = some nightly := by
    rw [backedUp_done.spec]
    rfl
  have hjob : backupDone.runner.jobs[0]? = some doneJob := by
    rw [hjobs]
    rfl
  have hran := backupPass_ran rejectedInput (nightlyEnv (minutes 1)) backupDone
  show (backupPass rejectedInput (nightlyEnv (minutes 1)) backupDone).runner = _
  generalize (backupPass rejectedInput (nightlyEnv (minutes 1)) backupDone).runner = r at hran ⊢
  generalize (backupPass rejectedInput (nightlyEnv (minutes 1)) backupDone).backup = st at hran
  cases hran with
  | missed hnone =>
      rw [hnone] at hreached
      cases hreached
  | dropped _ hgone => cases hgone.symm.trans hset
  | ran _ _ hpoll => exact (hpoll.of_finished htable hjob rfl).2
  | started _ hspec hpoll _ hstart =>
      cases hset.symm.trans hspec
      cases (hpoll.of_finished htable hjob rfl).1
      obtain ⟨full, incremental, hfull, hincremental, hdue⟩ := hstart.due
      cases hfull
      cases hincremental
      rw [backupDone_backup] at hdue
      cases hdue

/-- The result is collected, and no status carries it: the stored one is as empty
as before, and the next pass starts the same backup again. -/
theorem rejected_write_loses_result :
    Run ClusterStep backedUpWorld
      (⟨backedUpWorld, .pass steadyInput (nightlyEnv 0), backingUp⟩ :: collection rejectedInput)
      lostBackup ∧
    StartsJob 0 ⟨backedUpWorld, .pass steadyInput (nightlyEnv 0), backingUp⟩ ∧
    (∀ u ∈ collection rejectedInput, u.before.world.cluster.spec.backup.isSome = true) ∧
    (∃ u ∈ collection rejectedInput, CollectsJob 0 u) ∧
    (¬ ∃ u ∈ collection rejectedInput, RecordsJob 0 u) ∧
    (backupPass steadyInput (nightlyEnv (minutes 2)) lostBackup).runner.Unfinished 1 := by
  have hcollected := done_collected (nightlyEnv (minutes 1)) lostBackup
    (show rejectedInput.reached .writeStatefulSet = true from rfl)
  have hkept : lostBackup.backup = backupDone.backup := backupPass_rejected _ _ rfl
  refine ⟨collection_run rejectedInput, starts_first, collection_set rejectedInput,
    ⟨_, List.mem_cons_of_mem _ List.mem_cons_self, _, _, _, _, hcollected⟩, ?_, ?_⟩
  · rintro ⟨u, hu, inp, env, job, result, hc, hstored⟩
    rcases List.mem_cons.mp hu with rfl | hu
    · cases hc.event
    · cases List.mem_singleton.mp hu
      cases hc.event
      have hfound := hc.found
      rw [backupDone_runner.2] at hfound
      cases hfound
      cases hc.finished
      -- A stored result would show in the id of the latest backup.
      have hstored : backupDone.backup =
          some (applyBackupResult (backupDone.backup.getD {}) doneJob (.ok firstInfo)
            (minutes 1)) := hkept.symm.trans hstored
      have hid := congrArg (fun st : Option BackupStatus => (st.getD {}).lastBackupID) hstored
      simp only [backupDone_backup] at hid
      exact absurd hid (by decide)
  · have hlost : BackedUp lostBackup (some nightly) := backedUp_done.pass _ _
    have hagain := hlost.starts steadyInput (minutes 2) rfl rfl rfl
      (by rw [lostBackup_runner]; rfl) (by rw [hkept]; exact backupDone_backup)
    refine ⟨{ kind := .full, scheduled := minutes 2, parent := "" }, ?_, rfl⟩
    rw [hagain, lostBackup_runner]
    show (backupDone.runner.jobs ++ [_])[1]? = _
    rw [backupDone_runner.2]
    rfl

end KahunaOperator
