/-
# `KahunaOperator.Scheduled` — the operator's backups are runs of the scheduler

The laws of whole runs of backups are about `BackupStep`, where decisions and
results alternate.  In the operator they are the two halves of a pass, around a
table that the goroutines write to.  Here a run of the operator is read as a run
of the scheduler:

    a pass that collects a finished job     a result, at the time of the pass
    a pass that starts a job                a decision, at the same time
    anything else                           no step

provided every pass that gets to the backup step finds `spec.backup` set, and a
pass that collects a job gets its status write through (`operator_simulates`).
So the law of the chain is one of the operator's passes (`incremental_on_chain`).
-/
import KahunaOperator.Chain
import KahunaOperator.InFlight

namespace KahunaOperator

open Lib (Run Since Transition)

/-! ## The operator over time -/

/-- A cluster with its backups, and the time of the last pass. -/
structure Operator where
  cluster : BackupWorld
  last : Option Time := none

/-- Passes happen at increasing times. -/
inductive OperatorStep : Operator → ClusterEvent → Operator → Prop
  | pass {o : Operator} (inp : PassInput) (env : BackupEnv) : (∀ l ∈ o.last, l < env.clock) →
      OperatorStep o (.pass inp env) ⟨backupPass inp env o.cluster, some env.clock⟩
  | quiet {o : Operator} {e : ClusterEvent} {bw : BackupWorld} : (∀ inp env, e ≠ .pass inp env) →
      ClusterStep o.cluster e bw → OperatorStep o e ⟨bw, o.last⟩

theorem OperatorStep.pass_later {o o' : Operator} {inp : PassInput} {env : BackupEnv}
    (h : OperatorStep o (.pass inp env) o') : ∀ l ∈ o.last, l < env.clock := by
  cases h with
  | pass _ _ hlater => exact hlater
  | quiet hno _ => exact absurd rfl (hno inp env)

def onCluster (t : Transition Operator ClusterEvent) : Transition BackupWorld ClusterEvent :=
  ⟨t.before.cluster, t.event, t.after.cluster⟩

/-- What the simulation asks of a transition. -/
structure Undisturbed (t : Transition Operator ClusterEvent) : Prop where
  set : ∀ inp env, t.event = .pass inp env → (backupStep inp env t.before.cluster).isSome = true →
    t.before.cluster.world.cluster.spec.backup.isSome = true
  recorded : ∀ i inp env job result, Collects (onCluster t) i inp env job result →
    inp.reached .writeStatus = true

/-! ## What the scheduler sees -/

def BackupJob.pending (job : BackupJob) : BackupJob := { job with result := none }

/-- A scheduler state for a status, a runner, and the time of the last pass. -/
structure Tracks (st : BackupStatus) (r : Runner) (last : Option Time) (q : Backups) : Prop where
  status : q.status = st
  running : q.running = r.entry.map BackupJob.pending
  clock : ∀ t ∈ q.clock, ∃ l ∈ last, t ≤ l

namespace Runner

theorem entry_free {r : Runner} (h : r.table = none) : r.entry = none := by
  unfold entry
  rw [h]
  rfl

theorem entry_tabled {r : Runner} {i : Nat} {job : BackupJob} (h : r.table = some i)
    (hjob : r.jobs[i]? = some job) : r.entry = some job := by
  unfold entry
  rw [h]
  exact hjob

theorem entry_start (r : Runner) (job : BackupJob) : (r.start job).entry = some job :=
  entry_tabled rfl (by simp [start])

theorem entry_complete (r : Runner) (i : Nat) (result : BackupResult) :
    (r.complete i result).entry.map BackupJob.pending = r.entry.map BackupJob.pending := by
  cases htable : r.table with
  | none => rw [entry_free htable, entry_free (r := r.complete i result) htable]
  | some j =>
      have hj := r.valid j htable
      have hjob : r.jobs[j]? = some r.jobs[j] := List.getElem?_eq_getElem hj
      have hfound : (r.complete i result).jobs[j]? =
          some (if i = j then finish result r.jobs[j] else r.jobs[j]) := by
        show (r.jobs.modify i (finish result))[j]? = _
        rw [List.getElem?_modify, hjob]
        rfl
      rw [entry_tabled htable hjob, entry_tabled (r := r.complete i result) htable hfound]
      split <;> rfl

end Runner

section Tracks
variable {st : BackupStatus} {r r₁ : Runner} {last : Option Time} {q : Backups} {now : Time}

theorem Tracks.later (h : Tracks st r last q) (hlater : ∀ l ∈ last, l < now) :
    (∀ t ∈ q.clock, t < now) ∧ Tracks st r (some now) q := by
  have hclock : ∀ t ∈ q.clock, t < now := by
    intro t ht
    obtain ⟨l, hl, hle⟩ := h.clock t ht
    exact hle.trans_lt (hlater l hl)
  exact ⟨hclock, h.status, h.running, fun t ht => ⟨now, rfl, (hclock t ht).le⟩⟩

/-- Polling is a result, when it finds one. -/
theorem Tracks.collect {polled : Option BackupJob} (h : Tracks st r last q)
    (hpoll : Polled r polled r₁) (hlater : ∀ l ∈ last, l < now) :
    ∃ us q₁, Run BackupStep q us q₁ ∧
      Tracks (collectBackup st polled now).1 r₁ (some now) q₁ ∧
      ∀ u ∈ us, ∀ job result, Records u job result →
        ∃ i found, r.table = some i ∧ r.jobs[i]? = some found ∧ found.result = some result ∧
          found.pending = job := by
  obtain ⟨hclock, hnow⟩ := h.later hlater
  cases hpoll with
  | free _ => exact ⟨[], q, .nil q, hnow, fun u hu => absurd hu List.not_mem_nil⟩
  | running htable hjob hresult =>
      refine ⟨[], q, .nil q, ?_, fun u hu => absurd hu List.not_mem_nil⟩
      simp only [collectBackup, hresult]
      exact hnow
  | @finished i found result htable hjob hresult =>
      have hrunning : q.running = some found.pending := by
        rw [h.running, Runner.entry_tabled htable hjob]
        rfl
      refine ⟨[⟨q, .finish result now, q.finished found.pending result now⟩], _,
        Run.single (.finish hrunning hclock), ?_, ?_⟩
      · refine ⟨?_, rfl, ?_⟩
        · -- The record of a result reads the kind and the schedule of its job only.
          simp only [collectBackup, hresult, Backups.finished, h.status]
          rfl
        · rintro t ⟨⟩
          exact ⟨now, rfl, le_refl now⟩
      · intro u hu job result' hrec
        rw [List.mem_singleton.mp hu] at hrec
        obtain ⟨rfl, rfl⟩ := records_finish hrunning hrec
        exact ⟨i, found, htable, hjob, hresult, rfl⟩

/-- Starting a job is a decision. -/
theorem Tracks.start {env : BackupEnv} {cl : KahunaCluster} {spec : BackupSpec}
    {membership : Option Membership} {pods : List Pod} {volume : BackupVolume} {s : BackupStart}
    (h : Tracks st r (some env.clock) q) (hfree : r.table = none)
    (hstart : Startable env cl spec membership pods volume st s) :
    ∃ full incremental,
      BackupStep q (.decide full incremental env.clock) (q.decided full incremental env.clock) ∧
      Tracks st (r.start s.job) (some env.clock) (q.decided full incremental env.clock) ∧
      (q.decided full incremental env.clock).running = some s.job := by
  obtain ⟨full, incremental, _, _, hdue⟩ := hstart.due
  have hclock : ∀ t ∈ q.clock, t ≤ env.clock := by
    intro t ht
    obtain ⟨l, hl, hle⟩ := h.clock t ht
    cases hl
    exact hle
  have hidle : q.running = none := by
    rw [h.running, Runner.entry_free hfree]
    rfl
  have hstarted : startedJob st (s.job.kind, s.job.scheduled) = s.job := by
    have hparent := hstart.parent
    have hresult := hstart.running
    obtain ⟨⟨kind, scheduled, parent, result⟩, timeout, targets⟩ := s
    simp only at hparent hresult
    rw [hparent, hresult]
    rfl
  have hrunning : (q.decided full incremental env.clock).running = some s.job := by
    simp only [Backups.decided, h.status, hdue, Option.map_some, hstarted]
  refine ⟨full, incremental, .decide hidle hclock, ⟨h.status, ?_, ?_⟩, hrunning⟩
  · rw [hrunning, Runner.entry_start, ← hstarted]
    rfl
  · rintro t ⟨⟩
    exact ⟨env.clock, rfl, le_refl _⟩

end Tracks

/-! ## One pass -/

def Schedules (o : Operator) (q : Backups) : Prop :=
  Tracks (o.cluster.backup.getD {}) o.cluster.runner o.last q

/-- A result in the scheduler is one that the transition collects. -/
def Matches (t : Transition Operator ClusterEvent) (u : Transition Backups BackupEvent) : Prop :=
  ∀ job result, Records u job result →
    ∃ i inp env found, Collects (onCluster t) i inp env found result ∧ found.pending = job

theorem storedBackup_collected {inp : PassInput} {bw : BackupWorld} {polled : Option BackupJob}
    {r : Runner} (now : Time) (hpoll : Polled bw.runner polled r)
    (hrecorded : ∀ i job result, bw.runner.table = some i → bw.runner.jobs[i]? = some job →
      job.result = some result → inp.reached .writeStatus = true) :
    (storedBackup inp bw (some (collectBackup (bw.backup.getD {}) polled now).1)).getD {} =
      (collectBackup (bw.backup.getD {}) polled now).1 := by
  unfold storedBackup
  cases hwritten : inp.reached .writeStatus with
  | true => rfl
  | false =>
      cases hpoll with
      | free _ => rfl
      | finished htable hjob hresult =>
          rw [hrecorded _ _ _ htable hjob hresult] at hwritten
          cases hwritten
      | running _ _ hresult =>
          simp only [collectBackup, hresult]
          rfl

section Pass
variable {o : Operator} {q : Backups} {inp : PassInput} {env : BackupEnv}

theorem Schedules.collect {polled : Option BackupJob} {r : Runner} (h : Schedules o q)
    (o' : Operator) (hlater : ∀ l ∈ o.last, l < env.clock)
    (hreached : (backupStep inp env o.cluster).isSome = true)
    (hset : o.cluster.world.cluster.spec.backup.isSome = true)
    (hpoll : Polled o.cluster.runner polled r) :
    ∃ us q₁, Run BackupStep q us q₁ ∧
      Tracks (collectBackup (o.cluster.backup.getD {}) polled env.clock).1 r (some env.clock) q₁ ∧
      ∀ u ∈ us, Matches ⟨o, .pass inp env, o'⟩ u := by
  obtain ⟨us, q₁, hrun, htracks, hfrom⟩ := Tracks.collect h hpoll hlater
  refine ⟨us, q₁, hrun, htracks, ?_⟩
  intro u hu job result hrec
  obtain ⟨i, found, htable, hjob, hresult, hpending⟩ := hfrom u hu job result hrec
  exact ⟨i, inp, env, found, ⟨rfl, hreached, hset, htable, hjob, hresult⟩, hpending⟩

theorem matches_decide {t : Transition Operator ClusterEvent} {a b : Backups} {full : Schedule}
    {incremental : Option Schedule} {now : Time} :
    Matches t ⟨a, .decide full incremental now, b⟩ :=
  fun _ _ hrec => absurd hrec not_records_decide

theorem Schedules.pass (h : Schedules o q) (hlater : ∀ l ∈ o.last, l < env.clock)
    (hundisturbed : Undisturbed
      ⟨o, .pass inp env, ⟨backupPass inp env o.cluster, some env.clock⟩⟩) :
    ∃ us q', Run BackupStep q us q' ∧
      Schedules ⟨backupPass inp env o.cluster, some env.clock⟩ q' ∧
      ∀ u ∈ us, Matches ⟨o, .pass inp env, ⟨backupPass inp env o.cluster, some env.clock⟩⟩ u := by
  have hstored : ∀ {polled r}, (backupStep inp env o.cluster).isSome = true →
      o.cluster.world.cluster.spec.backup.isSome = true → Polled o.cluster.runner polled r →
      (storedBackup inp o.cluster
        (some (collectBackup (o.cluster.backup.getD {}) polled env.clock).1)).getD {} =
        (collectBackup (o.cluster.backup.getD {}) polled env.clock).1 := by
    intro polled r hreached hset hpoll
    refine storedBackup_collected env.clock hpoll ?_
    intro i job result htable hjob hresult
    exact hundisturbed.recorded i inp env job result
      ⟨rfl, hreached, hset, htable, hjob, hresult⟩
  have hset := hundisturbed.set inp env rfl
  unfold Schedules
  have hran := backupPass_ran inp env o.cluster
  generalize backupPass inp env o.cluster = bw at hran ⊢
  simp only
  generalize bw.runner = r at hran ⊢
  generalize bw.backup = st at hran ⊢
  cases hran with
  | missed _ =>
      exact ⟨[], q, .nil q, (Tracks.later h hlater).2, fun u hu => absurd hu List.not_mem_nil⟩
  | dropped hreached hgone =>
      have hsome := hset hreached
      rw [hgone] at hsome
      cases hsome
  | ran hreached _ hpoll =>
      obtain ⟨us, q₁, hrun, htracks, hmatch⟩ :=
        h.collect ⟨bw, some env.clock⟩ hlater hreached (hset hreached) hpoll
      rw [hstored hreached (hset hreached) hpoll]
      exact ⟨us, q₁, hrun, htracks, hmatch⟩
  | started hreached _ hpoll hfree hstart =>
      obtain ⟨us, q₁, hrun, htracks, hmatch⟩ :=
        h.collect ⟨bw, some env.clock⟩ hlater hreached (hset hreached) hpoll
      rw [hstored hreached (hset hreached) hpoll]
      obtain ⟨full, incremental, hstep, hdecided, _⟩ := htracks.start hfree hstart
      refine ⟨us ++ [⟨q₁, .decide full incremental env.clock, _⟩], _,
        hrun.append (Run.single hstep), hdecided, ?_⟩
      intro u hu
      rcases List.mem_append.mp hu with hu | hu
      · exact hmatch u hu
      · rw [List.mem_singleton.mp hu]
        exact matches_decide

end Pass

/-! ## Whole runs -/

section Runs
variable {o s : Operator} {q : Backups}

theorem Schedules.step {o' : Operator} {e : ClusterEvent} (h : Schedules o q)
    (hundisturbed : Undisturbed ⟨o, e, o'⟩) (hstep : OperatorStep o e o') :
    ∃ us q', Run BackupStep q us q' ∧ Schedules o' q' ∧ ∀ u ∈ us, Matches ⟨o, e, o'⟩ u := by
  cases hstep with
  | pass inp env hlater => exact h.pass hlater hundisturbed
  | quiet hno hcluster =>
      refine ⟨[], q, .nil q, ?_, fun u hu => absurd hu List.not_mem_nil⟩
      cases hcluster with
      | pass inp env => exact absurd rfl (hno inp env)
      | complete _ => exact ⟨h.status, h.running.trans (Runner.entry_complete _ _ _).symm, h.clock⟩
      | other _ _ => exact h

/-- Every undisturbed run of the operator is a run of the scheduler. -/
theorem operator_simulates {ts : List (Transition Operator ClusterEvent)}
    (hrun : Run OperatorStep o ts s) (hstart : Schedules o q)
    (hundisturbed : ∀ t ∈ ts, Undisturbed t) :
    ∃ us q', Run BackupStep q us q' ∧ Schedules s q' ∧ ∀ u ∈ us, ∃ t ∈ ts, Matches t u :=
  Run.simulate Schedules.step hrun hstart hundisturbed

theorem schedules_init (hnew : o.cluster.runner.table = none)
    (hempty : o.cluster.backup.getD {} = {}) : Schedules o {} where
  status := hempty.symm
  running := by rw [Runner.entry_free hnew]; rfl
  clock := nofun

def RecordsSuccess (P : BackupJob → BackupInfo → Prop) (t : Transition Operator ClusterEvent) :
    Prop :=
  ∃ i inp env job info, Collects (onCluster t) i inp env job (.ok info) ∧ P job info

/-- An incremental that the operator starts continues a chain: some pass up to and
including this one has recorded the success of a full backup, and one of them that
of its parent. -/
theorem incremental_on_chain {pre post : List (Transition Operator ClusterEvent)}
    {t : Transition Operator ClusterEvent} (hrun : Run OperatorStep o (pre ++ t :: post) s)
    (hnew : o.cluster.runner.table = none) (hempty : o.cluster.backup.getD {} = {})
    (hundisturbed : ∀ u ∈ pre, Undisturbed u) {inp : PassInput} {env : BackupEnv}
    {cl : KahunaCluster} {start : BackupStart} (hevent : t.event = .pass inp env)
    (hstarts : BackupStarts inp env t.before.cluster cl start)
    (hkind : start.job.kind = .incremental) :
    (∃ u ∈ pre ++ [t], RecordsSuccess (fun job _ => job.kind = .full) u) ∧
      ∃ u ∈ pre ++ [t], RecordsSuccess (fun _ info => info.backupID = start.job.parent) u := by
  obtain ⟨hpre, hstep, _⟩ := Run.split hrun
  obtain ⟨us, q, hus, hq, hmatch⟩ :=
    operator_simulates hpre (schedules_init hnew hempty) hundisturbed
  obtain ⟨a, e, b⟩ := t
  cases hevent
  have hlater : ∀ l ∈ a.last, l < env.clock := hstep.pass_later
  obtain ⟨out, hreached, hstarted⟩ := hstarts
  obtain ⟨hcl, _, rfl⟩ := backupStep_some hreached
  obtain ⟨spec, hspec, hstart, _⟩ := reconcileBackup_started hstarted
  have hset : a.cluster.world.cluster.spec.backup.isSome = true := by
    rw [← autoscaled_spec hcl, hspec]
    rfl
  obtain ⟨us₁, q₁, hus₁, hq₁, hmatch₁⟩ := hq.collect b hlater
    (by rw [hreached]; rfl) hset (poll_polled a.cluster.runner)
  have hchain := (run_lawful (hus.append hus₁)).1
  -- Every result the scheduler knows of was collected by one of these passes.
  have hfrom : ∀ {P : BackupJob → BackupInfo → Prop},
      (∀ job info, P job.pending info → P job info) →
      (∃ u ∈ us ++ us₁, ∃ job info, Records u job (.ok info) ∧ P job info) →
      ∃ u ∈ pre ++ [⟨a, .pass inp env, b⟩], RecordsSuccess P u := by
    rintro P hpending ⟨u, hu, job, info, hrec, hP⟩
    rcases List.mem_append.mp hu with hu | hu
    · obtain ⟨t, ht, hM⟩ := hmatch u hu
      obtain ⟨i, inp', env', found, hc, rfl⟩ := hM job _ hrec
      exact ⟨t, List.mem_append_left _ ht, i, inp', env', found, info, hc, hpending _ _ hP⟩
    · obtain ⟨i, inp', env', found, hc, rfl⟩ := hmatch₁ u hu job _ hrec
      exact ⟨_, List.mem_append_right _ List.mem_cons_self, i, inp', env', found, info, hc,
        hpending _ _ hP⟩
  obtain ⟨full, incremental, _, _, hdue⟩ := hstart.due
  have hdue := (decideBackup_start hdue).1
  rw [hkind] at hdue
  cases hdue with
  | incremental hlast hid _ _ =>
      rw [← hq₁.status] at hlast hid
      rw [hstart.parent, ← hq₁.status]
      refine ⟨hfrom (fun _ _ h => h) ?_, hfrom (fun _ _ h => h) ?_⟩
      · obtain ⟨old, u, rest, hsplit, ⟨d, job, info, hrec, hfull, _⟩, _⟩ :=
          hchain.full (by rw [hlast]; exact Option.some_ne_none _)
        exact ⟨u, by rw [hsplit]; simp, job, info, hrec, hfull⟩
      · obtain ⟨old, u, rest, hsplit, ⟨job, info, hrec, hparent⟩, _⟩ := hchain.latest hid
        exact ⟨u, by rw [hsplit]; simp, job, info, hrec, hparent⟩

end Runs

end KahunaOperator
