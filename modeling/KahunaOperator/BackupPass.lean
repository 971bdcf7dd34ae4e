/-
# `KahunaOperator.BackupPass` — the backup step of a pass

`backupRunner` and `reconcileBackup` of `internal/controller/backup.go`, and the
pass of `Reconcile` with that step in it.  A backup runs in a goroutine of its
own, so what a cluster's backups are is spread over three places:

    goroutines     every job ever started, finished or not      Runner.jobs
    job table      the one job a pass asks about                Runner.table
    Status.Backup  what the finished ones came to               BackupWorld.backup

The table is the process's memory and the step writes it at once; the status is
written several calls later, if that write goes through.

    reconcileBackup_started    when the step starts a job, and which
    backup_starts_steady       the same over a whole pass, with the size the
                               autoscaler chose in it
-/
import KahunaOperator.Backup
import KahunaOperator.BackupGate
import KahunaOperator.Agreed
import KahunaOperator.Reconcile

namespace KahunaOperator

/-! ## The runner -/

theorem mem_none_lt {n : Nat} : ∀ i ∈ (none : Option Nat), i < n :=
  fun _ h => nomatch h

/-- The goroutines of one cluster, each with its result once it has returned, and
its entry of the job table, which is one of them. -/
structure Runner where
  jobs : List BackupJob
  table : Option Nat
  valid : ∀ i ∈ table, i < jobs.length

namespace Runner

def empty : Runner where
  jobs := []
  table := none
  valid := mem_none_lt

theorem valid_start (r : Runner) (job : BackupJob) :
    ∀ i ∈ some r.jobs.length, i < (r.jobs ++ [job]).length := by
  rintro i ⟨⟩
  rw [List.length_append]
  exact Nat.lt_succ_self _

/-- `start`: a new goroutine, whose job takes the table's place. -/
def start (r : Runner) (job : BackupJob) : Runner where
  jobs := r.jobs ++ [job]
  table := some r.jobs.length
  valid := r.valid_start job

/-- `forget`: the table loses its entry, and the goroutine runs on. -/
def forget (r : Runner) : Runner where
  jobs := r.jobs
  table := none
  valid := mem_none_lt

def entry (r : Runner) : Option BackupJob := r.table.bind (r.jobs[·]?)

/-- `poll`: the job in the table, which a finished one leaves. -/
def poll (r : Runner) : Option BackupJob × Runner :=
  match r.entry with
  | none => (none, r)
  | some job => if job.result.isSome then (some job, r.forget) else (some job, r)

def finish (result : BackupResult) (job : BackupJob) : BackupJob :=
  { job with result := some (job.result.getD result) }

theorem valid_complete (r : Runner) (i : Nat) (result : BackupResult) :
    ∀ j ∈ r.table, j < (r.jobs.modify i (finish result)).length := by
  intro j hj
  rw [List.length_modify]
  exact r.valid j hj

def complete (r : Runner) (i : Nat) (result : BackupResult) : Runner where
  jobs := r.jobs.modify i (finish result)
  table := r.table
  valid := r.valid_complete i result

end Runner

/-! ## The step -/

def backupPollInterval : Time := seconds 10

def defaultBackupTimeout : Time := minutes 60

structure BackupTarget where
  pod : String
  url : String
deriving DecidableEq, Repr

structure BackupStart where
  job : BackupJob
  timeout : Time
  targets : List BackupTarget

/-- What the surroundings supply to the step: the cron library, the digest of a
script, the printing of times, the claim and its warnings, and the clock. -/
structure BackupEnv where
  parseSchedule : String → Except String Schedule
  configHash : Script → String
  formatTime : Time → String
  claim : Except GetError Claim
  warnings : List ClaimEvent := []
  clock : Time

/-- The condition the step reports, how soon to look again, and what it starts. -/
structure BackupAction where
  failing : Bool
  reason : String
  message : String
  wake : Time := 0
  start : Option BackupStart := none

def untilDue (next : Option Time) (now : Time) : Time :=
  match next with
  | none => 0
  | some t => max (t - now) (seconds 1)

def invalidSchedule (field schedule err : String) : BackupAction :=
  { failing := true
    reason := "InvalidSchedule"
    message := field ++ " " ++ quote schedule ++ ": " ++ err }

def failureText (st : BackupStatus) : String :=
  if 0 < st.consecutiveFailures then
    toString st.consecutiveFailures ++ " consecutive failures, latest: " ++
      st.lastFailureMessage ++ ". "
  else ""

def backupReport (st : BackupStatus) (reason message : String) (wake : Time) : BackupAction :=
  { failing := decide (0 < st.consecutiveFailures)
    reason := if 0 < st.consecutiveFailures then "BackupFailed" else reason
    message := failureText st ++ message
    wake := wake }

def runningReport (env : BackupEnv) (st : BackupStatus) (kind : BackupKind) (scheduled : Time) :
    BackupAction :=
  backupReport st "BackupRunning"
    (kind.name ++ " backup scheduled for " ++ env.formatTime scheduled ++ " is running")
    backupPollInterval

def idleReport (env : BackupEnv) (st : BackupStatus) (d : BackupDecision) : BackupAction :=
  let wake := untilDue d.next env.clock
  match d.retryAt, st.unclaimedSince with
  | some retry, some since =>
      if 0 < st.consecutiveFailures then
        backupReport st "BackupScheduled" ("retrying at " ++ env.formatTime retry) wake
      else
        { failing := false
          reason := "BackupWaiting"
          message := "a backup is due, but no node has taken it since " ++ env.formatTime since ++
            ": every node refused it with an outcome that clears on retry, such as a meta " ++
            "partition with no settled leader yet. Retrying at " ++ env.formatTime retry
          wake := wake }
  | some retry, none =>
      backupReport st "BackupScheduled" ("retrying at " ++ env.formatTime retry) wake
  | none, _ =>
      match d.next with
      | some t => backupReport st "BackupScheduled" ("next backup at " ++ env.formatTime t) wake
      | none => backupReport st "BackupScheduled" "no backup is scheduled" wake

def backupTargets (cluster : KahunaCluster) (pods : List Pod) : List BackupTarget :=
  ((podsBelow pods (desiredReplicas cluster)).filter (·.podIP != "")).map fun p =>
    { pod := p.name, url := podBaseURL cluster p }

def backupTimeout (spec : BackupSpec) : Time :=
  match spec.timeout with
  | some t => if 0 < t then t else defaultBackupTimeout
  | none => defaultBackupTimeout

def dueReport (env : BackupEnv) (cluster : KahunaCluster) (spec : BackupSpec)
    (membership : Option Membership) (pods : List Pod) (volume : BackupVolume) (st : BackupStatus)
    (kind : BackupKind) (scheduled : Time) : BackupAction :=
  if spec.suspend = some true then
    backupReport st "BackupSuspended" "backups are suspended" 0
  else
    let blocked := backupBlocked env.configHash cluster membership pods
    let reason := if volume.bound then blocked else volume.message
    if reason ≠ "" then
      backupReport st "BackupWaiting" (kind.name ++ " backup is due, waiting because " ++ reason) 0
    else
      { runningReport env st kind scheduled with
        start := some
          { job := { kind := kind, scheduled := scheduled, parent := st.lastBackupID }
            timeout := backupTimeout spec
            targets := backupTargets cluster pods } }

def parseIncremental (env : BackupEnv) (spec : BackupSpec) : Except String (Option Schedule) :=
  if spec.incrementalSchedule = "" then .ok none
  else
    match env.parseSchedule spec.incrementalSchedule with
    | .ok s => .ok (some s)
    | .error e => .error e

/-- What follows the collection of a finished job.  `running` is a job that is
still in the table. -/
def nextBackup (env : BackupEnv) (cluster : KahunaCluster) (spec : BackupSpec)
    (membership : Option Membership) (pods : List Pod) (volume : BackupVolume) (st : BackupStatus)
    (running : Option BackupJob) : BackupAction :=
  match env.parseSchedule spec.schedule with
  | .error e => invalidSchedule "backup.schedule" spec.schedule e
  | .ok full =>
      match parseIncremental env spec with
      | .error e => invalidSchedule "backup.incrementalSchedule" spec.incrementalSchedule e
      | .ok incremental =>
          if backupUnsupported cluster ≠ "" then
            { failing := true, reason := "UnsupportedImage", message := backupUnsupported cluster }
          else
            match running with
            | some job => runningReport env st job.kind job.scheduled
            | none =>
                let d := decideBackup { full := full, incremental := incremental, status := st,
                                        now := env.clock }
                match d.start with
                | none => idleReport env st d
                | some (kind, scheduled) =>
                    dueReport env cluster spec membership pods volume st kind scheduled

/-- The status with the result of a polled job, if it has one, and otherwise the
job as still running. -/
def collectBackup (st : BackupStatus) (polled : Option BackupJob) (now : Time) :
    BackupStatus × Option BackupJob :=
  match polled with
  | none => (st, none)
  | some job =>
      match job.result with
      | some result => (applyBackupResult st job result now, none)
      | none => (st, some job)

/-- `Status.Backup`, the two conditions, and the runner after the step. -/
structure BackupReconciled where
  backup : Option BackupStatus
  conditions : List Condition
  runner : Runner
  wake : Time := 0
  started : Option BackupStart := none

def setBackupVolumeCondition (conditions : List Condition) (v : BackupVolume) : List Condition :=
  setStatusCondition conditions
    { type := .backupVolumeReady, status := v.ready, reason := v.reason, message := v.message }

def setBackupCondition (conditions : List Condition) (a : BackupAction) : List Condition :=
  setStatusCondition conditions
    { type := .backupFailing, status := a.failing, reason := a.reason, message := a.message }

def reconcileBackup (env : BackupEnv) (cluster : KahunaCluster) (membership : Option Membership)
    (pods : List Pod) (backup : Option BackupStatus) (conditions : List Condition)
    (runner : Runner) : BackupReconciled :=
  match cluster.spec.backup with
  | none =>
      { backup := none
        conditions := removeStatusCondition (removeStatusCondition conditions .backupFailing)
          .backupVolumeReady
        runner := runner.forget }
  | some spec =>
      let volume := readBackupVolume cluster spec env.claim env.warnings
      let polled := runner.poll
      let collected := collectBackup (backup.getD {}) polled.1 env.clock
      let action := nextBackup env cluster spec membership pods volume collected.1 collected.2
      { backup := some collected.1
        conditions := setBackupCondition (setBackupVolumeCondition conditions volume) action
        runner :=
          match action.start with
          | none => polled.2
          | some s => polled.2.start s.job
        wake := action.wake
        started := action.start }

/-! ## When the step starts a job -/

structure Startable (env : BackupEnv) (cluster : KahunaCluster) (spec : BackupSpec)
    (membership : Option Membership) (pods : List Pod) (volume : BackupVolume) (st : BackupStatus)
    (s : BackupStart) : Prop where
  supported : backupUnsupported cluster = ""
  unblocked : backupBlocked env.configHash cluster membership pods = ""
  bound : volume.bound = true
  active : spec.suspend ≠ some true
  due : ∃ full incremental, env.parseSchedule spec.schedule = .ok full ∧
    parseIncremental env spec = .ok incremental ∧
    (decideBackup { full := full, incremental := incremental, status := st,
                    now := env.clock }).start = some (s.job.kind, s.job.scheduled)
  parent : s.job.parent = st.lastBackupID
  running : s.job.result = none
  targets : s.targets = backupTargets cluster pods

theorem idleReport_start (env : BackupEnv) (st : BackupStatus) (d : BackupDecision) :
    (idleReport env st d).start = none := by
  unfold idleReport
  split
  · split <;> rfl
  · rfl
  · split <;> rfl

section Start
variable {env : BackupEnv} {cluster : KahunaCluster} {spec : BackupSpec}
  {membership : Option Membership} {pods : List Pod} {volume : BackupVolume} {st : BackupStatus}
  {s : BackupStart}

theorem dueReport_start {kind : BackupKind} {scheduled : Time}
    (hvolume : volume.bound = false → volume.message ≠ "")
    (h : (dueReport env cluster spec membership pods volume st kind scheduled).start = some s) :
    spec.suspend ≠ some true ∧ volume.bound = true ∧
      backupBlocked env.configHash cluster membership pods = "" ∧
      s = { job := { kind := kind, scheduled := scheduled, parent := st.lastBackupID }
            timeout := backupTimeout spec
            targets := backupTargets cluster pods } := by
  simp only [dueReport] at h
  split at h
  · cases h
  · next hactive =>
      cases hbound : volume.bound with
      | true =>
          simp only [hbound, if_true] at h
          split at h
          · cases h
          · next hfree =>
              cases h
              exact ⟨hactive, rfl, not_not.mp hfree, rfl⟩
      | false =>
          simp only [hbound, Bool.false_eq_true, if_false] at h
          rw [if_pos (hvolume hbound)] at h
          cases h

theorem nextBackup_start {running : Option BackupJob}
    (hvolume : volume.bound = false → volume.message ≠ "")
    (h : (nextBackup env cluster spec membership pods volume st running).start = some s) :
    running = none ∧ Startable env cluster spec membership pods volume st s := by
  unfold nextBackup at h
  split at h
  · cases h
  · next full hfull =>
      split at h
      · cases h
      · next incremental hincremental =>
          split at h
          · cases h
          · next hsupported =>
              cases running with
              | some job => cases h
              | none =>
                  simp only at h
                  split at h
                  · rw [idleReport_start] at h
                    cases h
                  · next kind scheduled hstart =>
                      obtain ⟨hactive, hbound, hblocked, rfl⟩ := dueReport_start hvolume h
                      exact ⟨rfl, not_not.mp hsupported, hblocked, hbound, hactive,
                        ⟨full, incremental, hfull, hincremental, hstart⟩, rfl, rfl, rfl⟩

end Start

/-- What polling finds, and leaves: no job, a finished one that it removes, or one
that runs. -/
inductive Polled (r : Runner) : Option BackupJob → Runner → Prop
  | free : r.table = none → Polled r none r
  | finished {i : Nat} {job : BackupJob} {result : BackupResult} : r.table = some i →
      r.jobs[i]? = some job → job.result = some result → Polled r (some job) r.forget
  | running {i : Nat} {job : BackupJob} : r.table = some i → r.jobs[i]? = some job →
      job.result = none → Polled r (some job) r

theorem poll_polled (r : Runner) : Polled r r.poll.1 r.poll.2 := by
  unfold Runner.poll Runner.entry
  cases htable : r.table with
  | none => exact .free htable
  | some i =>
      have hi := r.valid i htable
      have hjob : r.jobs[i]? = some r.jobs[i] := List.getElem?_eq_getElem hi
      rw [Option.bind_some, hjob]
      simp only
      cases hresult : r.jobs[i].result with
      | some result => exact .finished htable hjob hresult
      | none => exact .running htable hjob hresult

theorem poll_free {r : Runner} (h : r.table = none) : r.poll = (none, r) := by
  simp only [Runner.poll, Runner.entry, h, Option.bind_none]

theorem Polled.of_free {r r₁ : Runner} {polled : Option BackupJob} (h : Polled r polled r₁)
    (hfree : r.table = none) : polled = none ∧ r₁ = r := by
  cases h with
  | free _ => exact ⟨rfl, rfl⟩
  | finished htable _ _ => cases hfree.symm.trans htable
  | running htable _ _ => cases hfree.symm.trans htable

theorem Polled.of_finished {r r₁ : Runner} {polled : Option BackupJob} {i : Nat} {job : BackupJob}
    {result : BackupResult} (h : Polled r polled r₁) (htable : r.table = some i)
    (hjob : r.jobs[i]? = some job) (hresult : job.result = some result) :
    polled = some job ∧ r₁ = r.forget := by
  cases h with
  | free hfree => cases hfree.symm.trans htable
  | finished htable' hjob' _ =>
      cases htable.symm.trans htable'
      cases hjob.symm.trans hjob'
      exact ⟨rfl, rfl⟩
  | running htable' hjob' hrunning =>
      cases htable.symm.trans htable'
      cases hjob.symm.trans hjob'
      cases hresult.symm.trans hrunning

theorem Polled.jobs {r r₁ : Runner} {polled : Option BackupJob} (h : Polled r polled r₁) :
    r₁.jobs = r.jobs := by
  cases h with
  | free _ => rfl
  | finished _ _ _ => rfl
  | running _ _ _ => rfl

/-! ## The pass with the backup step -/

/-- A cluster with its backups.  `backup` is the stored `Status.Backup`, and
`conditions` the stored conditions that the backup step owns. -/
structure BackupWorld where
  world : World
  backup : Option BackupStatus := none
  conditions : List Condition := []
  runner : Runner := .empty

/-- The backup step of a pass, when the pass gets to it: the StatefulSet write went
through and the autoscaler did not panic. -/
def backupStep (inp : PassInput) (env : BackupEnv) (bw : BackupWorld) :
    Option (KahunaCluster × BackupReconciled) :=
  let cluster := pinBootstrapSize bw.world.cluster
  match autoscaled inp.toPassEnv cluster with
  | .error _ => none
  | .ok cl =>
      if inp.reached .writeStatefulSet then
        some (cl, reconcileBackup env cl (observe inp.toPassEnv cluster).membership inp.pods
          bw.backup bw.conditions bw.runner)
      else none

/-- A pass.  What the backup step did to the table stays; what it did to the status
is stored with the rest of the status. -/
def backupPass (inp : PassInput) (env : BackupEnv) (bw : BackupWorld) : BackupWorld :=
  match backupStep inp env bw with
  | none => { bw with world := pass inp bw.world }
  | some (_, out) =>
      if inp.reached .writeStatus then
        { world := pass inp bw.world
          backup := out.backup
          conditions := out.conditions
          runner := out.runner }
      else { bw with world := pass inp bw.world, runner := out.runner }

theorem backupStep_some {inp : PassInput} {env : BackupEnv} {bw : BackupWorld} {cl : KahunaCluster}
    {out : BackupReconciled} (h : backupStep inp env bw = some (cl, out)) :
    autoscaled inp.toPassEnv (pinBootstrapSize bw.world.cluster) = .ok cl ∧
      inp.reached .writeStatefulSet = true ∧
      out = reconcileBackup env cl (inp.roster bw.world) inp.pods bw.backup bw.conditions
        bw.runner := by
  simp only [backupStep] at h
  split at h
  · cases h
  · next hcl =>
      split at h
      · next hreached =>
          cases h
          exact ⟨hcl, hreached, rfl⟩
      · cases h

theorem backupPass_world (inp : PassInput) (env : BackupEnv) (bw : BackupWorld) :
    (backupPass inp env bw).world = pass inp bw.world := by
  unfold backupPass
  split
  · rfl
  · split <;> rfl

/-- What the step did to the runner stays, whatever comes of the status. -/
theorem backupPass_runner {inp : PassInput} {env : BackupEnv} {bw : BackupWorld}
    {cl : KahunaCluster} {out : BackupReconciled} (h : backupStep inp env bw = some (cl, out)) :
    (backupPass inp env bw).runner = out.runner := by
  unfold backupPass
  rw [h]
  simp only
  split <;> rfl

/-- The pass starts a backup; `cl` is the cluster as the autoscaler left it. -/
def BackupStarts (inp : PassInput) (env : BackupEnv) (bw : BackupWorld) (cl : KahunaCluster)
    (s : BackupStart) : Prop :=
  ∃ out, backupStep inp env bw = some (cl, out) ∧ out.started = some s

theorem collectBackup_free {r r₁ : Runner} {polled : Option BackupJob} {st : BackupStatus}
    {now : Time} (h : Polled r polled r₁) (hfree : (collectBackup st polled now).2 = none) :
    r₁.table = none ∧ ∀ i ∈ r.table, ∃ job, r.jobs[i]? = some job ∧ job.result ≠ none := by
  cases h with
  | free htable =>
      refine ⟨htable, ?_⟩
      intro i hi
      rw [htable] at hi
      cases hi
  | finished htable hjob hresult =>
      refine ⟨rfl, ?_⟩
      intro i hi
      cases htable.symm.trans hi
      refine ⟨_, hjob, ?_⟩
      rw [hresult]
      exact Option.some_ne_none _
  | running htable hjob hresult =>
      simp only [collectBackup, hresult] at hfree
      cases hfree

/-- While `spec.backup` is set the step reports what it collected, and leaves the
runner as polled unless it starts a job. -/
theorem reconcileBackup_set (env : BackupEnv) {cluster : KahunaCluster} {spec : BackupSpec}
    (membership : Option Membership) (pods : List Pod) (backup : Option BackupStatus)
    (conditions : List Condition) (runner : Runner) (hspec : cluster.spec.backup = some spec) :
    (reconcileBackup env cluster membership pods backup conditions runner).backup =
        some (collectBackup (backup.getD {}) runner.poll.1 env.clock).1 ∧
      ((reconcileBackup env cluster membership pods backup conditions runner).started = none →
        (reconcileBackup env cluster membership pods backup conditions runner).runner =
          runner.poll.2) := by
  simp only [reconcileBackup, hspec]
  refine ⟨trivial, ?_⟩
  intro hnone
  rw [hnone]

/-- The step starts a job only from an empty table, and then every check passed. -/
theorem reconcileBackup_started {env : BackupEnv} {cluster : KahunaCluster}
    {membership : Option Membership} {pods : List Pod} {backup : Option BackupStatus}
    {conditions : List Condition} {runner : Runner} {s : BackupStart}
    (h : (reconcileBackup env cluster membership pods backup conditions runner).started = some s) :
    ∃ spec, cluster.spec.backup = some spec ∧
      Startable env cluster spec membership pods
        (readBackupVolume cluster spec env.claim env.warnings)
        (collectBackup (backup.getD {}) runner.poll.1 env.clock).1 s ∧
      (reconcileBackup env cluster membership pods backup conditions runner).runner =
        runner.poll.2.start s.job ∧
      runner.poll.2.table = none ∧
      ∀ i ∈ runner.table, ∃ job, runner.jobs[i]? = some job ∧ job.result ≠ none := by
  unfold reconcileBackup at h ⊢
  split at h
  · cases h
  · next spec hspec =>
      have hvolume : (readBackupVolume cluster spec env.claim env.warnings).bound = false →
          (readBackupVolume cluster spec env.claim env.warnings).message ≠ "" := by
        intro hunbound
        rcases readBackupVolume_bound cluster spec env.claim env.warnings with
          ⟨hbound, _⟩ | ⟨_, hmessage⟩
        · cases hunbound.symm.trans hbound
        · exact hmessage
      simp only at h ⊢
      obtain ⟨hrunning, hstartable⟩ := nextBackup_start hvolume h
      obtain ⟨hempty, hdone⟩ := collectBackup_free (poll_polled runner) hrunning
      refine ⟨spec, hspec, hstartable, ?_, hempty, hdone⟩
      rw [h]

theorem BackupStarts.runner {inp : PassInput} {env : BackupEnv} {bw : BackupWorld}
    {cl : KahunaCluster} {s : BackupStart} (h : BackupStarts inp env bw cl s) :
    (backupPass inp env bw).runner = bw.runner.poll.2.start s.job := by
  obtain ⟨out, hstep, hstarted⟩ := h
  obtain ⟨_, _, rfl⟩ := backupStep_some hstep
  obtain ⟨_, _, _, hrunner, _⟩ := reconcileBackup_started hstarted
  rw [backupPass_runner hstep, hrunner]

/-- Neither pinning nor the autoscaler changes what a node runs or where it is. -/
theorem entrypointScript_autoscaled {env : PassEnv} {cluster cl : KahunaCluster}
    (h : autoscaled env (pinBootstrapSize cluster) = .ok cl) :
    entrypointScript cl = entrypointScript cluster ∧ podBaseURL cl = podBaseURL cluster := by
  obtain ⟨_, _, rfl, _⟩ := autoscaled_ok h
  unfold pinBootstrapSize
  split <;> exact ⟨rfl, rfl⟩

/-- The size of a pass is at most the size the cluster can have. -/
theorem desiredReplicas_le_most {env : PassEnv} {cluster cl : KahunaCluster}
    (h : autoscaled env (pinBootstrapSize cluster) = .ok cl) :
    desiredReplicas cl ≤ mostReplicas cl := by
  unfold mostReplicas
  have hspec := (autoscaled_status h).1
  split
  · next as has =>
      rw [hspec] at has
      exact autoscaled_le_max has h
  · next has => exact (desiredReplicas_fixed has).le

theorem mem_backupTargets {cluster : KahunaCluster} {pods : List Pod} {t : BackupTarget}
    (hpods : NamedPods cluster pods) (hsmall : desiredReplicas cluster < 2 ^ 31) :
    t ∈ backupTargets cluster pods ↔
      ∃ i < desiredReplicas cluster, ∃ p ∈ pods, p.name = podName cluster i ∧ p.podIP ≠ "" ∧
        t = { pod := p.name, url := podBaseURL cluster p } := by
  unfold backupTargets
  rw [List.mem_map]
  constructor
  · rintro ⟨p, hp, rfl⟩
    obtain ⟨hbelow, hip⟩ := List.mem_filter.mp hp
    obtain ⟨hmem, i, hi, hname⟩ := (hpods.mem_podsBelow hsmall).mp hbelow
    exact ⟨i, hi, p, hmem, hname, by simpa using hip, rfl⟩
  · rintro ⟨i, hi, p, hmem, hname, hip, rfl⟩
    refine ⟨p, List.mem_filter.mpr ⟨?_, by simpa using hip⟩, rfl⟩
    exact (hpods.mem_podsBelow hsmall).mpr ⟨hmem, i, hi, hname⟩

/-- A pass that starts a backup does so on a steady, capable cluster.  With `d` the
size it drives the cluster to: no job was left in the table, the cluster is
bootstrapped and its claim bound, the roster is exactly the Voters of the first
`d` ordinals, each has a pod that is ready, stays, and runs the current script
and image, the requests go to those of them that have an address, and either
every node holds every partition or the image may compose a backup. -/
theorem backup_starts_steady {inp : PassInput} {env : BackupEnv} {bw : BackupWorld}
    {cl : KahunaCluster} {s : BackupStart} (hpods : NamedPods bw.world.cluster inp.pods)
    (h : BackupStarts inp env bw cl s) :
    (backupPass inp env bw).runner.jobs = bw.runner.jobs ++ [s.job] ∧
      bw.runner.poll.2.table = none ∧
      (∀ i ∈ bw.runner.table, ∃ job, bw.runner.jobs[i]? = some job ∧ job.result ≠ none) ∧
      bw.world.cluster.status.bootstrapped = true ∧
      (∃ c, env.claim = .ok c ∧ c.phase = .bound) ∧
      (∃ m, inp.roster bw.world = some m ∧
        ExactVoters bw.world.cluster m (desiredReplicas cl)) ∧
      (∀ i < desiredReplicas cl, ∃ p ∈ inp.pods, p.name = podName bw.world.cluster i ∧
        Fit bw.world.cluster (env.configHash (entrypointScript bw.world.cluster)) p) ∧
      (∀ t, t ∈ s.targets ↔
        ∃ i < desiredReplicas cl, ∃ p ∈ inp.pods, p.name = podName bw.world.cluster i ∧
          p.podIP ≠ "" ∧ t = { pod := p.name, url := podBaseURL bw.world.cluster p }) ∧
      (bw.world.cluster.spec.replication = none ∨
        (∃ r, bw.world.cluster.spec.replication = some r ∧ desiredReplicas cl ≤ r.factor) ∨
        imageVersion bw.world.cluster.spec.image = none ∨
        ∃ v, imageVersion bw.world.cluster.spec.image = some v ∧ composedBackupVersion ≤ v) := by
  have hrunner := h.runner
  obtain ⟨out, hstep, hstarted⟩ := h
  obtain ⟨hcl, _, rfl⟩ := backupStep_some hstep
  obtain ⟨spec, _, hstart, _, hempty, hdone⟩ := reconcileBackup_started hstarted
  have hname := podName_autoscaled hcl
  have hspec := autoscaled_spec hcl
  have hcluster : NamedPods cl inp.pods := by
    refine ⟨hpods.distinct, ?_⟩
    intro p hp
    obtain ⟨i, hi, hp⟩ := hpods.named p hp
    exact ⟨i, hi, hp.trans (hname i).symm⟩
  obtain ⟨hboot, ⟨m, hm, hexact⟩, hsmall, hfit⟩ := backupBlocked_free hcluster hstart.unblocked
  refine ⟨?_, hempty, hdone, ?_, ?_, ⟨m, hm, ?_⟩, ?_, ?_, ?_⟩
  · rw [hrunner]
    show bw.runner.poll.2.jobs ++ [s.job] = bw.runner.jobs ++ [s.job]
    rw [(poll_polled bw.runner).jobs]
  · rw [(autoscaled_status hcl).2.2, (pinBootstrapSize_status bw.world.cluster).1] at hboot
    exact hboot
  · rcases readBackupVolume_bound cl spec env.claim env.warnings with
      ⟨_, hbound⟩ | ⟨hunbound, _⟩
    · exact hbound
    · cases hunbound.symm.trans hstart.bound
  · simpa only [ExactVoters, raftEndpoint_autoscaled hcl] using hexact
  · intro i hi
    obtain ⟨p, hp, hpname, hready, hstays, hhash, himage⟩ := hfit i hi
    refine ⟨p, hp, hpname.trans (hname i), hready, hstays, ?_, ?_⟩
    · rw [hhash, (entrypointScript_autoscaled hcl).1]
    · rw [himage, hspec]
  · intro t
    rw [hstart.targets, mem_backupTargets hcluster hsmall]
    simp only [hname, (entrypointScript_autoscaled hcl).2]
  · rw [← hspec]
    rcases backupUnsupported_free hstart.supported with hnone | ⟨r, hr, hfactor⟩ | hversion
    · exact Or.inl hnone
    · exact Or.inr (Or.inl ⟨r, hr, (desiredReplicas_le_most hcl).trans hfactor⟩)
    · exact Or.inr (Or.inr hversion)

/-! ## A first backup -/

/-- On a steady cluster with a bound claim, a cluster without a full backup takes
one at once, whatever its schedule. -/
theorem first_backup_starts {env : BackupEnv} {cluster : KahunaCluster} {spec : BackupSpec}
    {membership : Option Membership} {pods : List Pod} {backup : Option BackupStatus}
    (conditions : List Condition) {runner : Runner} {full : Schedule} {c : Claim}
    (hspec : cluster.spec.backup = some spec)
    (hschedule : env.parseSchedule spec.schedule = .ok full)
    (hincremental : spec.incrementalSchedule = "") (hactive : spec.suspend ≠ some true)
    (hclaim : env.claim = .ok c) (hbound : c.phase = .bound)
    (hsupported : backupUnsupported cluster = "")
    (hfree : backupBlocked env.configHash cluster membership pods = "")
    (htable : runner.table = none) (hnew : backup.getD {} = {}) :
    (reconcileBackup env cluster membership pods backup conditions runner).started =
      some { job := { kind := .full, scheduled := env.clock, parent := "" }
             timeout := backupTimeout spec
             targets := backupTargets cluster pods } := by
  have hpoll := poll_free htable
  have hvolume : (readBackupVolume cluster spec env.claim env.warnings).bound = true := by
    rcases readBackupVolume_bound cluster spec env.claim env.warnings with ⟨h, _⟩ | ⟨h, _⟩
    · exact h
    · obtain ⟨_, _, _, _⟩ := c
      cases hbound
      simp only [readBackupVolume, hclaim] at h
      split at h <;> cases h
  have hparse : parseIncremental env spec = .ok none := if_pos hincremental
  simp only [reconcileBackup, hspec, hpoll, collectBackup, hnew, nextBackup, hschedule, hparse,
    hsupported, ne_eq, not_true_eq_false, if_false, dueReport, hactive, hvolume, hfree, if_true]
  rfl

def steadyPods (cluster : KahunaCluster) (n : Nat) (hash : String) : List Pod :=
  (List.range n).map fun i =>
    { readyPod cluster i with
      containers := [{ name := containerName, image := cluster.spec.image }]
      configHash := hash }

theorem steadyPods_named (cluster : KahunaCluster) (hash : String) {n : Nat} (h : n < 2 ^ 31) :
    NamedPods cluster (steadyPods cluster n hash) :=
  namedPods_range (fun _ => rfl) h.le

theorem steadyPods_fit (cluster : KahunaCluster) (n : Nat) (hash : String) :
    ∀ p ∈ steadyPods cluster n hash, Fit cluster hash p := by
  intro p hp
  obtain ⟨i, _, rfl⟩ := List.mem_map.mp hp
  exact ⟨rfl, rfl, rfl, rfl⟩

theorem steadyPods_below (cluster : KahunaCluster) (hash : String) {n : Nat} (h : n < 2 ^ 31) :
    (podsBelow (steadyPods cluster n hash) n).length = n := by
  refine (steadyPods_named cluster hash h).length_podsBelow h ?_
  intro i hi
  exact ⟨_, List.mem_map.mpr ⟨i, List.mem_range.mpr hi, rfl⟩, rfl⟩

/-- A pass over a steady cluster of fixed size that has never been backed up. -/
structure SteadyPass (inp : PassInput) (env : BackupEnv) (bw : BackupWorld) (n : Nat) (a : Answers)
    (full : Schedule) : Prop where
  fixed : bw.world.cluster.spec.autoscaling = none
  size : specReplicas bw.world.cluster = n
  bootstrapped : bw.world.cluster.status.bootstrapped = true
  pods : inp.pods =
    steadyPods bw.world.cluster n (env.configHash (entrypointScript bw.world.cluster))
  agreed : inp.kahuna = agreedClient a
  roster : ExactVoters bw.world.cluster a.membership n
  nonempty : 0 < n
  reached : inp.reached .writeStatefulSet = true
  schedule : ∀ text, env.parseSchedule text = .ok full
  bound : ∃ c, env.claim = .ok c ∧ c.phase = .bound
  supported : bw.world.cluster.spec.replication = none
  free : bw.runner.table = none
  new : bw.backup.getD {} = {}

theorem SteadyPass.starts {inp : PassInput} {env : BackupEnv} {bw : BackupWorld} {n : Nat}
    {a : Answers} {full : Schedule} {spec : BackupSpec} (h : SteadyPass inp env bw n a full)
    (hspec : bw.world.cluster.spec.backup = some spec) (hinc : spec.incrementalSchedule = "")
    (hactive : spec.suspend ≠ some true) :
    ∃ cl s, BackupStarts inp env bw cl s ∧
      s.job = { kind := .full, scheduled := env.clock, parent := "" } := by
  obtain ⟨cl, hcl, hdesired⟩ := autoscaled_fixed inp.toPassEnv h.fixed
  have hsize : desiredReplicas cl = n := hdesired.trans h.size
  have hclspec := autoscaled_spec hcl
  have hsmall := h.roster.small
  have hready : SomeReadyPod inp.pods := by
    rw [h.pods]
    refine ⟨_, List.mem_map.mpr ⟨0, List.mem_range.mpr h.nonempty, rfl⟩, ?_, rfl, rfl⟩
    simp [readyPod, String.append_eq_empty_iff]
  have hmembership : inp.roster bw.world = some a.membership := by
    unfold PassInput.roster
    rw [observe_agreed h.agreed hready]
  have hfree : backupBlocked env.configHash cl (inp.roster bw.world) inp.pods = "" := by
    rw [hmembership]
    refine backupBlocked_steady ?_ ?_ ?_ ?_
    · rw [(autoscaled_status hcl).2.2, (pinBootstrapSize_status bw.world.cluster).1]
      exact h.bootstrapped
    · rw [hsize]
      simpa only [ExactVoters, raftEndpoint_autoscaled hcl] using h.roster
    · rw [h.pods, (entrypointScript_autoscaled hcl).1]
      intro p hp
      obtain ⟨hpready, hstays, hhash, himage⟩ := steadyPods_fit _ _ _ p hp
      exact ⟨hpready, hstays, hhash, by rw [himage, hclspec]⟩
    · rw [hsize, h.pods]
      exact steadyPods_below _ _ hsmall
  have hsupported : backupUnsupported cl = "" := by
    unfold backupUnsupported
    rw [hclspec, h.supported]
  obtain ⟨c, hclaim, hbound⟩ := h.bound
  have hstart := first_backup_starts bw.conditions (hclspec ▸ hspec) (h.schedule _) hinc hactive
    hclaim hbound hsupported hfree h.free h.new
  refine ⟨cl, _, ⟨_, ?_, hstart⟩, rfl⟩
  simp only [backupStep, hcl, h.reached, if_true]
  rfl

/-- Names and spec are all that the pods and the script depend on. -/
theorem steadyPods_congr {c₁ c₂ : KahunaCluster} (hname : c₁.name = c₂.name) (hns : c₁.ns = c₂.ns)
    (hspec : c₁.spec = c₂.spec) (n : Nat) (digest : Script → String) :
    steadyPods c₁ n (digest (entrypointScript c₁)) =
      steadyPods c₂ n (digest (entrypointScript c₂)) := by
  obtain ⟨name, ns, _, spec, _⟩ := c₁
  obtain ⟨_, _, _, _, _⟩ := c₂
  cases hname
  cases hns
  cases hspec
  rfl

/-! ### Three steady nodes -/

def neverAgain : Schedule where
  next := fun _ => none
  later := fun h => nomatch h

def nightly : BackupSpec := { schedule := "0 3 * * *" }

def backedUpCluster (backup : Option BackupSpec) : KahunaCluster :=
  { name := "kahuna"
    ns := "kv"
    spec := { replicas := some 3, image := "kahuna:1.12.6", backup := backup }
    status := { bootstrapped := true, bootstrapSize := 3 } }

def backedUpAnswers : Answers :=
  { membership := rosterOf (backedUpCluster (some nightly)) 3 three_small
    leave := { outcome := .committed } }

/-- Tells two scripts apart by their arguments. -/
def argsDigest (script : Script) : String := " ".intercalate script.staticArgs

def nightlyEnv (clock : Time) : BackupEnv :=
  { parseSchedule := fun _ => .ok neverAgain
    configHash := argsDigest
    formatTime := fun t => toString t
    claim := .ok { phase := .bound, statusAccessModes := [.readWriteMany] }
    clock := clock }

/-- A pass over pods that run the configuration with backups. -/
def steadyInput : PassInput :=
  { pods := steadyPods (backedUpCluster (some nightly)) 3
      (argsDigest (entrypointScript (backedUpCluster (some nightly))))
    kahuna := agreedClient backedUpAnswers
    float := wrappingDouble }

def backedUpWorld : BackupWorld :=
  { world := { cluster := backedUpCluster (some nightly), sts := some { replicas := some 3 } } }

theorem steady_input {bw : BackupWorld} (inp : PassInput) (clock : Time)
    (hpods : inp.pods = steadyInput.pods) (hkahuna : inp.kahuna = steadyInput.kahuna)
    (hreached : inp.reached .writeStatefulSet = true)
    (hname : bw.world.cluster.name = "kahuna" ∧ bw.world.cluster.ns = "kv")
    (hspec : bw.world.cluster.spec = (backedUpCluster (some nightly)).spec)
    (hboot : bw.world.cluster.status.bootstrapped = true)
    (hfree : bw.runner.table = none) (hnew : bw.backup.getD {} = {}) :
    SteadyPass inp (nightlyEnv clock) bw 3 backedUpAnswers neverAgain where
  fixed := by rw [hspec]; rfl
  size := by rw [specReplicas, hspec]; rfl
  bootstrapped := hboot
  pods := hpods.trans (steadyPods_congr hname.1.symm hname.2.symm hspec.symm 3 argsDigest)
  agreed := hkahuna
  roster := by
    have hroster : ExactVoters (backedUpCluster (some nightly)) backedUpAnswers.membership 3 :=
      exactVoters_rosterOf _ 3 three_small
    have hends : ∀ i,
        raftEndpoint bw.world.cluster i = raftEndpoint (backedUpCluster (some nightly)) i :=
      raftEndpoint_congr hname.1 hname.2 (congrArg KahunaClusterSpec.ports hspec)
    simpa only [ExactVoters, hends] using hroster
  nonempty := by decide
  reached := hreached
  schedule := fun _ => rfl
  bound := ⟨_, rfl, rfl⟩
  supported := by rw [hspec]; rfl
  free := hfree
  new := hnew

/-- A pass over three steady nodes starts the first backup. -/
theorem three_steady_nodes :
    ∃ cl s, BackupStarts steadyInput (nightlyEnv 0) backedUpWorld cl s ∧ s.job.kind = .full ∧
      (backupPass steadyInput (nightlyEnv 0) backedUpWorld).runner.jobs = [s.job] ∧
      ∀ t ∈ s.targets, ∃ p ∈ steadyInput.pods, p.podIP ≠ "" ∧ t.pod = p.name := by
  have hsteady : SteadyPass steadyInput (nightlyEnv 0) backedUpWorld 3 backedUpAnswers neverAgain :=
    steady_input steadyInput 0 rfl rfl rfl ⟨rfl, rfl⟩ rfl rfl rfl rfl
  obtain ⟨cl, s, hstarts, hjob⟩ := hsteady.starts (show _ = some nightly from rfl) rfl (by decide)
  have hpods : NamedPods backedUpWorld.world.cluster steadyInput.pods :=
    steadyPods_named _ _ three_small
  obtain ⟨hjobs, _, _, _, _, _, _, htargets, _⟩ := backup_starts_steady hpods hstarts
  refine ⟨cl, s, hstarts, congrArg BackupJob.kind hjob, hjobs, ?_⟩
  intro t ht
  obtain ⟨_, _, p, hp, _, hip, rfl⟩ := (htargets t).mp ht
  exact ⟨p, hp, hip, rfl⟩

end KahunaOperator
