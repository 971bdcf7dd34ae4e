/-
# `KahunaOperator.Chain` — whole runs of the backup scheduler

`decideBackup` and `applyBackupResult` meet only in the status.  Here they are the
two steps of one system: while no job runs a decision may start one, and a job
that runs finishes with some result.  The schedules are arguments of the
decision, so they may be edited between any two steps.

What the anchors in the status stand for is a law about the past (`Chained`,
`Anchored`), and from it, for every run from an empty status:

    an incremental is started only on a chain: a full backup has succeeded since
      a parent was last found missing, and the parent is the latest success
    a job is scheduled for no later than it starts
    the schedule times of the successes go up, those of incrementals also past
      the completion of every full backup
    a failure moves no anchor                                    (`chain_consistent`)

A refusal for a missing parent ends the chain only when an incremental gets it;
on a full backup it is a failure like any other (`full_parent_missing_keeps_chain`).
-/
import KahunaOperator.Backup
import KahunaOperator.Lib.Run

namespace KahunaOperator

open Lib (Run Since Transition)

/-! ## The system -/

/-- The status, the job that runs, and the time of the last step. -/
structure Backups where
  status : BackupStatus := {}
  running : Option BackupJob := none
  clock : Option Time := none

inductive BackupEvent where
  | decide (full : Schedule) (incremental : Option Schedule) (now : Time)
  | finish (result : BackupResult) (now : Time)

def BackupEvent.now : BackupEvent → Time
  | .decide _ _ now => now
  | .finish _ now => now

def startedJob (st : BackupStatus) (start : BackupKind × Time) : BackupJob :=
  { kind := start.1, scheduled := start.2, parent := st.lastBackupID }

def Backups.decided (s : Backups) (full : Schedule) (incremental : Option Schedule) (now : Time) :
    Backups :=
  { s with
    running := (decideBackup { full := full, incremental := incremental, status := s.status,
                               now := now }).start.map (startedJob s.status)
    clock := some now }

def Backups.finished (s : Backups) (job : BackupJob) (result : BackupResult) (now : Time) :
    Backups :=
  { status := applyBackupResult s.status job result now
    running := none
    clock := some now }

/-- A result is later than the start of its job.  A decision may share the time of
the result before it, as it does in a pass. -/
inductive BackupStep : Backups → BackupEvent → Backups → Prop
  | decide {s : Backups} {full : Schedule} {incremental : Option Schedule} {now : Time} :
      s.running = none → (∀ t ∈ s.clock, t ≤ now) →
      BackupStep s (.decide full incremental now) (s.decided full incremental now)
  | finish {s : Backups} {job : BackupJob} {result : BackupResult} {now : Time} :
      s.running = some job → (∀ t ∈ s.clock, t < now) →
      BackupStep s (.finish result now) (s.finished job result now)

/-! ## What happens in a transition -/

def Starts (t : Transition Backups BackupEvent) (job : BackupJob) : Prop :=
  t.before.running = none ∧ t.after.running = some job

def Records (t : Transition Backups BackupEvent) (job : BackupJob) (result : BackupResult) : Prop :=
  t.before.running = some job ∧ ∃ now, t.event = .finish result now

def Succeeds (kind : BackupKind) (d : Time) (t : Transition Backups BackupEvent) : Prop :=
  ∃ job info, Records t job (.ok info) ∧ job.kind = kind ∧ job.scheduled = d

def SucceedsAs (id : String) (t : Transition Backups BackupEvent) : Prop :=
  ∃ job info, Records t job (.ok info) ∧ info.backupID = id

def LosesParent (t : Transition Backups BackupEvent) : Prop :=
  ∃ job e, Records t job (.error e) ∧ job.kind = .incremental ∧ e.parentMissing = true

/-- A job that starts was due, and nothing held it back. -/
theorem BackupStep.start_inv {a b : Backups} {e : BackupEvent} {job : BackupJob}
    (h : BackupStep a e b) (hstart : Starts ⟨a, e, b⟩ job) :
    ∃ full incremental, e = .decide full incremental e.now ∧
      Due { full := full, incremental := incremental, status := a.status, now := e.now }
        job.kind job.scheduled ∧
      (∀ r ∈ backupRetryAt a.status, r ≤ e.now) ∧ job.parent = a.status.lastBackupID := by
  obtain ⟨hnone, hsome⟩ := hstart
  cases h with
  | decide _ _ =>
      obtain ⟨start, hdec, rfl⟩ := Option.map_eq_some_iff.mp hsome
      obtain ⟨hdue, hfree⟩ := decideBackup_start hdec
      exact ⟨_, _, rfl, hdue, hfree, rfl⟩
  | finish hrun _ => cases hsome

/-- What a result does, by its verdict. -/
theorem BackupStep.finish_inv {a b : Backups} {result : BackupResult} {now : Time}
    (h : BackupStep a (.finish result now) b) :
    ∃ job, a.running = some job ∧ (∀ t ∈ a.clock, t < now) ∧ b.running = none ∧
      b.clock = some now ∧
      Applied a.status job now result (verdict a.status job result now) b.status := by
  cases h with
  | finish hrun hclock => exact ⟨_, hrun, hclock, rfl, rfl, applyBackupResult_applied _ _ _ _⟩

theorem not_records_decide {a b : Backups} {full : Schedule} {incremental : Option Schedule}
    {now : Time} {job : BackupJob} {result : BackupResult} :
    ¬ Records ⟨a, .decide full incremental now, b⟩ job result := by
  rintro ⟨_, _, hevent⟩
  cases hevent

theorem records_finish {a b : Backups} {job job' : BackupJob} {result result' : BackupResult}
    {now : Time} (hrun : a.running = some job)
    (h : Records ⟨a, .finish result now, b⟩ job' result') : job' = job ∧ result' = result := by
  obtain ⟨hrun', now', hevent⟩ := h
  cases hevent
  exact ⟨Option.some.inj (hrun'.symm.trans hrun), rfl⟩

/-! ## The chain -/

/-- A full anchor and a latest id in the status are memories of the past. -/
structure Chained (past : List (Transition Backups BackupEvent)) (s : Backups) : Prop where
  full : s.status.lastFullScheduleTime ≠ none →
    Since (fun t => ∃ d, Succeeds .full d t) LosesParent past
  latest : s.status.lastBackupID ≠ "" →
    Since (SucceedsAs s.status.lastBackupID) (fun t => ∃ id, SucceedsAs id t) past

/-- A transition without a success keeps what it keeps of the anchors; one that
loses a parent keeps none of the full one. -/
theorem Chained.snoc {past : List (Transition Backups BackupEvent)} {a b : Backups}
    {x : Transition Backups BackupEvent} (h : Chained past a)
    (hnone : ∀ job info, ¬ Records x job (.ok info))
    (hfull : b.status.lastFullScheduleTime ≠ none →
      a.status.lastFullScheduleTime ≠ none ∧ ¬ LosesParent x)
    (hid : b.status.lastBackupID ≠ "" → b.status.lastBackupID = a.status.lastBackupID) :
    Chained (past ++ [x]) b where
  full := by
    intro hb
    obtain ⟨ha, hkept⟩ := hfull hb
    exact (h.full ha).snoc hkept
  latest := by
    intro hb
    have hsame := hid hb
    rw [hsame] at hb ⊢
    refine (h.latest hb).snoc ?_
    rintro ⟨id, job, info, hrec, _⟩
    exact hnone job info hrec

/-- A success is the latest one, and no parent is lost by it. -/
theorem Chained.success {past : List (Transition Backups BackupEvent)} {a : Backups}
    {job : BackupJob} {now : Time} (info : BackupInfo) (h : Chained past a)
    (hrun : a.running = some job) :
    Chained (past ++ [⟨a, .finish (.ok info) now, a.finished job (.ok info) now⟩])
      (a.finished job (.ok info) now) := by
  have hrec : Records ⟨a, .finish (.ok info) now, a.finished job (.ok info) now⟩ job (.ok info) :=
    ⟨hrun, now, rfl⟩
  have hstatus : (a.finished job (.ok info) now).status = applySuccess a.status job info now := rfl
  refine ⟨?_, ?_⟩
  · intro hfull
    cases hkind : job.kind with
    | full => exact Since.now ⟨job.scheduled, job, info, hrec, hkind, rfl⟩
    | incremental =>
        rw [hstatus, ((applySuccess_anchors a.status job info now).2 hkind).1] at hfull
        refine (h.full hfull).snoc ?_
        rintro ⟨job', e', hrec', _⟩
        cases (records_finish hrun hrec').2
  · intro _
    refine Since.now ⟨job, info, hrec, ?_⟩
    rw [hstatus]
    unfold applySuccess
    cases job.kind <;> rfl

theorem Chained.step {past : List (Transition Backups BackupEvent)} {a b : Backups}
    {e : BackupEvent} (h : Chained past a) (hstep : BackupStep a e b) :
    Chained (past ++ [⟨a, e, b⟩]) b := by
  cases hstep with
  | decide _ _ =>
      refine h.snoc (fun _ _ => not_records_decide) (fun hfull => ⟨hfull, ?_⟩) (fun _ => rfl)
      rintro ⟨job, e, hrec, _⟩
      exact not_records_decide hrec
  | @finish job result now hrun _ =>
      cases result with
      | ok info => exact h.success info hrun
      | error e =>
          have happ := applyBackupResult_applied a.status job (.error e) now
          obtain ⟨_, ⟨hfull, hid, hkept⟩ | ⟨hfull, hid, _⟩⟩ := happ.error_anchors
          all_goals
            refine h.snoc (fun _ _ hrec => nomatch (records_finish hrun hrec).2) ?_ ?_
          · intro hset
            refine ⟨fun hnone => hset (hfull.trans hnone), ?_⟩
            rintro ⟨job', e', hrec, hlost⟩
            obtain ⟨rfl, heq⟩ := records_finish hrun hrec
            cases heq
            exact hkept hlost
          · exact fun _ => hid
          · exact fun hset => absurd hfull hset
          · exact fun hset => absurd hid hset

/-! ## The anchors -/

/-- A success in `t` lies before what `job` is scheduled for. -/
structure Precedes (t : Transition Backups BackupEvent) (job : BackupJob) : Prop where
  full : ∀ d, Succeeds .full d t → job.kind = .full → d < job.scheduled
  completed : ∀ d, Succeeds .full d t → job.kind = .incremental → t.event.now < job.scheduled
  incremental : ∀ d, Succeeds .incremental d t → job.kind = .incremental → d < job.scheduled

/-- The anchors are bounds on the past, and what runs lies after it. -/
structure Anchored (past : List (Transition Backups BackupEvent)) (s : Backups) : Prop where
  clocked : ∀ t ∈ past, ∀ kind d, Succeeds kind d t →
    ∃ c, s.clock = some c ∧ d < c ∧ t.event.now ≤ c
  full : ∀ t ∈ past, ∀ d, Succeeds .full d t → ∀ last ∈ s.status.lastFullScheduleTime, d ≤ last
  completed : ∀ t ∈ past, ∀ d, Succeeds .full d t →
    ∃ last, s.status.lastIncrementalScheduleTime = some last ∧ t.event.now ≤ last
  incremental : ∀ t ∈ past, ∀ d, Succeeds .incremental d t →
    ∃ last, s.status.lastIncrementalScheduleTime = some last ∧ d ≤ last
  scheduled : ∀ job ∈ s.running, ∃ c, s.clock = some c ∧ job.scheduled ≤ c
  running : ∀ job ∈ s.running, ∀ t ∈ past, Precedes t job

theorem anchored_init : Anchored [] {} where
  clocked := fun t ht => absurd ht List.not_mem_nil
  full := fun t ht => absurd ht List.not_mem_nil
  completed := fun t ht => absurd ht List.not_mem_nil
  incremental := fun t ht => absurd ht List.not_mem_nil
  scheduled := fun job hjob => absurd hjob (by simp)
  running := fun job hjob => absurd hjob (by simp)

theorem Anchored.precedes_due {past : List (Transition Backups BackupEvent)} {a : Backups}
    {full : Schedule} {incremental : Option Schedule} {now : Time} {job : BackupJob}
    (h : Anchored past a) (hclock : ∀ t ∈ a.clock, t ≤ now)
    (hdue : Due { full := full, incremental := incremental, status := a.status, now := now }
      job.kind job.scheduled) : ∀ t ∈ past, Precedes t job := by
  intro t ht
  generalize hkind : job.kind = kind at hdue
  generalize hsched : job.scheduled = d at hdue
  cases hdue with
  | first _ =>
      refine ⟨?_, ?_, ?_⟩
      · intro d hs _
        obtain ⟨c, hc, hlt, _⟩ := h.clocked t ht _ d hs
        rw [hsched]
        exact lt_of_lt_of_le hlt (hclock c hc)
      · intro _ _ hinc
        cases hkind.symm.trans hinc
      · intro _ _ hinc
        cases hkind.symm.trans hinc
  | @full last _ hlast hlt _ =>
      refine ⟨?_, ?_, ?_⟩
      · intro d hs _
        rw [hsched]
        exact lt_of_le_of_lt (h.full t ht d hs last hlast) hlt
      · intro _ _ hinc
        cases hkind.symm.trans hinc
      · intro _ _ hinc
        cases hkind.symm.trans hinc
  | @incremental last _ hlast _ hlt _ =>
      have hbase := (le_incrementalBase a.status last).2
      refine ⟨?_, ?_, ?_⟩
      · intro _ _ hfull
        cases hkind.symm.trans hfull
      · intro d hs _
        obtain ⟨i, hi, hle⟩ := h.completed t ht d hs
        rw [hsched]
        exact lt_of_le_of_lt (hle.trans (hbase i hi)) hlt
      · intro d hs _
        obtain ⟨i, hi, hle⟩ := h.incremental t ht d hs
        rw [hsched]
        exact lt_of_le_of_lt (hle.trans (hbase i hi)) hlt

/-- A transition without a success keeps the bounds, when the anchors stay or the
full one is dropped, and what runs after it lies after the past. -/
theorem Anchored.snoc {past : List (Transition Backups BackupEvent)} {a b : Backups}
    {x : Transition Backups BackupEvent} {now : Time} (h : Anchored past a)
    (hnone : ∀ kind d, ¬ Succeeds kind d x) (hlater : ∀ t ∈ a.clock, t ≤ now)
    (hclock : b.clock = some now)
    (hfull : ∀ last ∈ b.status.lastFullScheduleTime, last ∈ a.status.lastFullScheduleTime)
    (hinc : b.status.lastIncrementalScheduleTime = a.status.lastIncrementalScheduleTime)
    (hscheduled : ∀ job ∈ b.running, job.scheduled ≤ now)
    (hrunning : ∀ job ∈ b.running, ∀ t ∈ past, Precedes t job) : Anchored (past ++ [x]) b where
  clocked := by
    refine List.forall_mem_append.mpr ⟨?_, List.forall_mem_singleton.mpr ?_⟩
    · intro t ht kind d hs
      obtain ⟨c, hc, hlt, hle⟩ := h.clocked t ht kind d hs
      have hnow := hlater c hc
      exact ⟨now, hclock, lt_of_lt_of_le hlt hnow, hle.trans hnow⟩
    · exact fun kind d hs => absurd hs (hnone kind d)
  full := by
    refine List.forall_mem_append.mpr ⟨?_, List.forall_mem_singleton.mpr ?_⟩
    · exact fun t ht d hs last hlast => h.full t ht d hs last (hfull last hlast)
    · exact fun d hs => absurd hs (hnone _ d)
  completed := by
    rw [hinc]
    refine List.forall_mem_append.mpr ⟨h.completed, List.forall_mem_singleton.mpr ?_⟩
    exact fun d hs => absurd hs (hnone _ d)
  incremental := by
    rw [hinc]
    refine List.forall_mem_append.mpr ⟨h.incremental, List.forall_mem_singleton.mpr ?_⟩
    exact fun d hs => absurd hs (hnone _ d)
  scheduled := fun job hjob => ⟨now, hclock, hscheduled job hjob⟩
  running := by
    intro job hjob
    refine List.forall_mem_append.mpr ⟨hrunning job hjob, List.forall_mem_singleton.mpr ?_⟩
    exact ⟨fun d hs => absurd hs (hnone _ d), fun d hs => absurd hs (hnone _ d),
      fun d hs => absurd hs (hnone _ d)⟩

theorem Anchored.decide {past : List (Transition Backups BackupEvent)} {a b : Backups}
    {full : Schedule} {incremental : Option Schedule} {now : Time} (h : Anchored past a)
    (hstep : BackupStep a (.decide full incremental now) b) :
    Anchored (past ++ [⟨a, .decide full incremental now, b⟩]) b := by
  cases hstep with
  | decide hnone hclock =>
      refine h.snoc ?_ hclock rfl (fun _ hlast => hlast) rfl ?_ ?_
      · rintro kind d ⟨job, info, hrec, _⟩
        exact not_records_decide hrec
      · intro job hjob
        obtain ⟨start, hdec, rfl⟩ := Option.map_eq_some_iff.mp hjob
        exact (decideBackup_start hdec).1.le_now
      · intro job hjob
        obtain ⟨start, hdec, rfl⟩ := Option.map_eq_some_iff.mp hjob
        exact h.precedes_due hclock (decideBackup_start hdec).1

theorem succeeds_finish {a b : Backups} {job : BackupJob} {result : BackupResult} {now d : Time}
    {kind : BackupKind} (hrun : a.running = some job)
    (h : Succeeds kind d ⟨a, .finish result now, b⟩) :
    (∃ info, result = .ok info) ∧ job.kind = kind ∧ job.scheduled = d := by
  obtain ⟨job', info, hrec, hkind, hd⟩ := h
  obtain ⟨rfl, rfl⟩ := records_finish hrun hrec
  exact ⟨⟨info, rfl⟩, hkind, hd⟩

theorem Anchored.earlier {past : List (Transition Backups BackupEvent)} {a : Backups} {now : Time}
    (h : Anchored past a) (hclock : ∀ t ∈ a.clock, t < now) :
    ∀ t ∈ past, ∀ kind d, Succeeds kind d t → d < now ∧ t.event.now < now := by
  intro t ht kind d hs
  obtain ⟨c, hc, hlt, hle⟩ := h.clocked t ht kind d hs
  have hnow := hclock c hc
  exact ⟨hlt.trans hnow, lt_of_le_of_lt hle hnow⟩

theorem Anchored.clocked_finish {past : List (Transition Backups BackupEvent)} {a b : Backups}
    {job : BackupJob} {now : Time} (h : Anchored past a) (result : BackupResult)
    (hrun : a.running = some job) (hclock : ∀ t ∈ a.clock, t < now) :
    ∀ t ∈ past ++ [⟨a, .finish result now, b⟩], ∀ kind d, Succeeds kind d t →
      ∃ c, some now = some c ∧ d < c ∧ t.event.now ≤ c := by
  refine List.forall_mem_append.mpr ⟨?_, List.forall_mem_singleton.mpr ?_⟩
  · intro t ht kind d hs
    obtain ⟨hbefore, hevent⟩ := h.earlier hclock t ht kind d hs
    exact ⟨now, rfl, hbefore, hevent.le⟩
  · intro kind d hs
    obtain ⟨_, _, rfl⟩ := succeeds_finish hrun hs
    obtain ⟨c, hc, hsched⟩ := h.scheduled job hrun
    exact ⟨now, rfl, lt_of_le_of_lt hsched (hclock c hc), le_refl _⟩

/-- A success moves the anchors past itself and everything before it. -/
theorem Anchored.success {past : List (Transition Backups BackupEvent)} {a : Backups}
    {job : BackupJob} {now : Time} (info : BackupInfo) (h : Anchored past a)
    (hrun : a.running = some job) (hclock : ∀ t ∈ a.clock, t < now) :
    Anchored (past ++ [⟨a, .finish (.ok info) now, a.finished job (.ok info) now⟩])
      (a.finished job (.ok info) now) := by
  have hold := h.earlier hclock
  have hnew : ∀ kind d,
      Succeeds kind d ⟨a, .finish (.ok info) now, a.finished job (.ok info) now⟩ →
      job.kind = kind ∧ job.scheduled = d :=
    fun kind d hs => (succeeds_finish hrun hs).2
  have hdone := h.clocked_finish (b := a.finished job (.ok info) now) (.ok info) hrun hclock
  have hstatus : (a.finished job (.ok info) now).status = applySuccess a.status job info now := rfl
  have hanchors := applySuccess_anchors a.status job info now
  rw [← hstatus] at hanchors
  have hrunning := h.running job hrun
  cases hkind : job.kind with
  | full =>
      obtain ⟨hfull, hinc⟩ := hanchors.1 hkind
      refine ⟨hdone, ?_, ?_, ?_, nofun, nofun⟩ <;>
        refine List.forall_mem_append.mpr ⟨?_, List.forall_mem_singleton.mpr ?_⟩
      · intro t ht d hs last hlast
        cases hfull.symm.trans hlast
        exact ((hrunning t ht).full d hs hkind).le
      · intro d hs last hlast
        cases hfull.symm.trans hlast
        exact (hnew _ d hs).2.ge
      · exact fun t ht d hs => ⟨now, hinc, (hold t ht _ d hs).2.le⟩
      · exact fun d hs => ⟨now, hinc, le_refl _⟩
      · exact fun t ht d hs => ⟨now, hinc, (hold t ht _ d hs).1.le⟩
      · intro d hs
        cases hkind.symm.trans (hnew _ d hs).1
  | incremental =>
      obtain ⟨hfull, hinc⟩ := hanchors.2 hkind
      refine ⟨hdone, ?_, ?_, ?_, nofun, nofun⟩ <;>
        refine List.forall_mem_append.mpr ⟨?_, List.forall_mem_singleton.mpr ?_⟩
      · rw [hfull]
        exact h.full
      · intro d hs
        cases hkind.symm.trans (hnew _ d hs).1
      · exact fun t ht d hs => ⟨job.scheduled, hinc, ((hrunning t ht).completed d hs hkind).le⟩
      · intro d hs
        cases hkind.symm.trans (hnew _ d hs).1
      · exact fun t ht d hs => ⟨job.scheduled, hinc, ((hrunning t ht).incremental d hs hkind).le⟩
      · exact fun d hs => ⟨job.scheduled, hinc, (hnew _ d hs).2.ge⟩

theorem Anchored.finish {past : List (Transition Backups BackupEvent)} {a b : Backups}
    {result : BackupResult} {now : Time} (h : Anchored past a)
    (hstep : BackupStep a (.finish result now) b) :
    Anchored (past ++ [⟨a, .finish result now, b⟩]) b := by
  cases hstep with
  | @finish job _ _ hrun hclock =>
      cases result with
      | ok info => exact h.success info hrun hclock
      | error e =>
          have happ := applyBackupResult_applied a.status job (.error e) now
          obtain ⟨hinc, hfull⟩ := happ.error_anchors
          refine h.snoc ?_ (fun t ht => (hclock t ht).le) rfl ?_ hinc nofun nofun
          · intro kind d hs
            obtain ⟨⟨_, hok⟩, _⟩ := succeeds_finish hrun hs
            cases hok
          · intro last hlast
            rcases hfull with ⟨hkept, _⟩ | ⟨hgone, _⟩
            · exact hkept.symm.trans hlast
            · cases hgone.symm.trans hlast

theorem Anchored.step {past : List (Transition Backups BackupEvent)} {a b : Backups}
    {e : BackupEvent} (h : Anchored past a) (hstep : BackupStep a e b) :
    Anchored (past ++ [⟨a, e, b⟩]) b := by
  cases e with
  | decide full incremental now => exact h.decide hstep
  | finish result now => exact h.finish hstep

/-! ## Over every run -/

theorem run_lawful {s : Backups} {ts : List (Transition Backups BackupEvent)}
    (hrun : Run BackupStep {} ts s) : Chained ts s ∧ Anchored ts s := by
  refine Run.history (I := fun past s => Chained past s ∧ Anchored past s) ?_ hrun []
    ⟨⟨fun h => absurd rfl h, fun h => absurd rfl h⟩, anchored_init⟩
  rintro past a e b ⟨hchain, hanchor⟩ hstep
  exact ⟨hchain.step hstep, hanchor.step hstep⟩

/-- Over every run from an empty status, with any results and schedules.  A job is
scheduled for no later than its start, and an incremental continues a chain: a
full backup has succeeded since a parent was last missing, and its parent is the
latest success.  Full backups succeed for increasing schedule times; incrementals
for increasing ones, later than the completion of every full backup before.  A
failure that ends no chain moves no anchor. -/
theorem chain_consistent {s : Backups} {ts : List (Transition Backups BackupEvent)}
    (hrun : Run BackupStep {} ts s) :
    (∀ pre t post, ts = pre ++ t :: post → ∀ job, Starts t job →
      job.scheduled ≤ t.event.now ∧
      (job.kind = .incremental →
        Since (fun u => ∃ d, Succeeds .full d u) LosesParent pre ∧
          Since (SucceedsAs job.parent) (fun u => ∃ id, SucceedsAs id u) pre)) ∧
    (∀ pre t mid u post, ts = pre ++ t :: (mid ++ u :: post) → ∀ d d',
      (Succeeds .full d t → Succeeds .full d' u → d < d') ∧
      (Succeeds .incremental d t → Succeeds .incremental d' u → d < d') ∧
      (Succeeds .full d t → Succeeds .incremental d' u → t.event.now < d')) ∧
    ∀ t ∈ ts, ∀ job e, Records t job (.error e) →
      ¬ (job.kind = .incremental ∧ e.parentMissing = true) →
      t.after.status.lastFullScheduleTime = t.before.status.lastFullScheduleTime ∧
        t.after.status.lastIncrementalScheduleTime =
          t.before.status.lastIncrementalScheduleTime := by
  refine ⟨?_, ?_, ?_⟩
  · rintro pre t post rfl job hstart
    obtain ⟨hpre, hstep, _⟩ := Run.split hrun
    obtain ⟨full, incremental, _, hdue, _, hparent⟩ := hstep.start_inv hstart
    refine ⟨hdue.le_now, ?_⟩
    intro hkind
    have hchain := (run_lawful hpre).1
    rw [hkind] at hdue
    cases hdue with
    | incremental hlast hid _ _ =>
        rw [hparent]
        refine ⟨hchain.full ?_, hchain.latest hid⟩
        rw [hlast]
        exact Option.some_ne_none _
  · rintro pre t mid u post rfl d d'
    have happend : pre ++ t :: (mid ++ u :: post) = (pre ++ t :: mid) ++ u :: post := by simp
    rw [happend] at hrun
    obtain ⟨hpre, _, _⟩ := Run.split hrun
    have hrunning := (run_lawful hpre).2.running
    have ht : t ∈ pre ++ t :: mid := by simp
    refine ⟨?_, ?_, ?_⟩
    · rintro hs ⟨job, _, ⟨hjob, _⟩, hkind, rfl⟩
      exact (hrunning job hjob t ht).full d hs hkind
    · rintro hs ⟨job, _, ⟨hjob, _⟩, hkind, rfl⟩
      exact (hrunning job hjob t ht).incremental d hs hkind
    · rintro hs ⟨job, _, ⟨hjob, _⟩, hkind, rfl⟩
      exact (hrunning job hjob t ht).completed d hs hkind
  · refine Run.forall_step ?_ hrun
    rintro a e b hstep job f ⟨hjob, now, hevent⟩ hnot
    cases hevent
    obtain ⟨job', hjob', _, _, _, happ⟩ := hstep.finish_inv
    cases hjob.symm.trans hjob'
    obtain ⟨hinc, ⟨hfull, _⟩ | ⟨_, _, hchain⟩⟩ := happ.error_anchors
    · exact ⟨hfull, hinc⟩
    · exact absurd hchain hnot

/-! ### Two histories -/

def onceAt (time : Time) : Schedule where
  next := fun t => if t < time then some time else none
  later := by
    intro t n h
    split at h
    · next hlt =>
        cases h
        exact hlt
    · cases h

def firstStarted : Backups := ({} : Backups).decided (onceAt (minutes 100)) none 0

def firstJob : BackupJob := { kind := .full, scheduled := 0, parent := "" }

def firstTaken : Backups := firstStarted.finished firstJob (.ok { backupID := "a" }) (minutes 1)

def firstBackup : List (Transition Backups BackupEvent) :=
  [⟨{}, .decide (onceAt (minutes 100)) none 0, firstStarted⟩,
    ⟨firstStarted, .finish (.ok { backupID := "a" }) (minutes 1), firstTaken⟩]

/-- A full backup is due by its schedule. -/
def secondStarted : Backups := firstTaken.decided (onceAt (minutes 100)) none (minutes 100)

def secondJob : BackupJob := { kind := .full, scheduled := minutes 100, parent := "a" }

/-- A server that refuses it as it would an incremental without its parent. -/
def oddRefusal : BackupFailure :=
  .failed "kahuna-0: backup refused with HTTP 409 (ParentMissing)" (some .parentMissing)

def secondRefused : Backups := secondStarted.finished secondJob (.error oddRefusal) (minutes 101)

/-- The schedules are edited: no full time is left, and an incremental one. -/
def thirdStarted : Backups :=
  secondRefused.decided (onceAt 0) (some (onceAt (minutes 102))) (minutes 102)

def thirdJob : BackupJob := { kind := .incremental, scheduled := minutes 102, parent := "a" }

theorem firstBackup_run : Run BackupStep {} firstBackup firstTaken := by
  refine .cons (.decide rfl ?_)
    (.cons (@BackupStep.finish firstStarted firstJob _ _ rfl ?_) (.nil _))
  · rintro t ⟨⟩
  · rintro t ⟨⟩
    decide

/-- An incremental started after the first full backup continues it. -/
theorem incremental_continues_first :
    let started := firstTaken.decided (onceAt 0) (some (onceAt (minutes 50))) (minutes 50)
    started.running = some { kind := .incremental, scheduled := minutes 50, parent := "a" } ∧
      Since (fun u => ∃ d, Succeeds .full d u) LosesParent firstBackup ∧
      Since (SucceedsAs "a") (fun u => ∃ id, SucceedsAs id u) firstBackup := by
  intro started
  have hstep : BackupStep firstTaken (.decide (onceAt 0) (some (onceAt (minutes 50))) (minutes 50))
      started := by
    refine .decide rfl ?_
    rintro t ⟨⟩
    decide
  have hrun := firstBackup_run.append (Run.single hstep)
  exact ⟨rfl, ((chain_consistent hrun).1 firstBackup _ [] rfl _ ⟨rfl, rfl⟩).2 rfl⟩

/-- The result before an incremental is a missing parent, reported of a full
backup: it counts as a failure and the chain goes on. -/
theorem full_parent_missing_keeps_chain :
    Run BackupStep {}
      (firstBackup ++
        [⟨firstTaken, .decide (onceAt (minutes 100)) none (minutes 100), secondStarted⟩,
          ⟨secondStarted, .finish (.error oddRefusal) (minutes 101), secondRefused⟩,
          ⟨secondRefused, .decide (onceAt 0) (some (onceAt (minutes 102))) (minutes 102),
            thirdStarted⟩]) thirdStarted ∧
    Records ⟨secondStarted, .finish (.error oddRefusal) (minutes 101), secondRefused⟩ secondJob
      (.error oddRefusal) ∧
    oddRefusal.parentMissing = true ∧
    Starts ⟨secondRefused, .decide (onceAt 0) (some (onceAt (minutes 102))) (minutes 102),
      thirdStarted⟩ thirdJob ∧ thirdJob.kind = .incremental := by
  refine ⟨firstBackup_run.append (.cons (.decide rfl ?_)
    (.cons (@BackupStep.finish secondStarted secondJob _ _ rfl ?_)
      (.cons (.decide rfl ?_) (.nil _)))), ⟨rfl, _, rfl⟩, rfl, ⟨rfl, rfl⟩, rfl⟩
  · rintro t ⟨⟩
    decide
  · rintro t ⟨⟩
    decide
  · rintro t ⟨⟩
    decide

end KahunaOperator
