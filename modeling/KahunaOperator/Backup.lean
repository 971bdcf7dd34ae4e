/-
# `KahunaOperator.Backup` — when a backup is due, and what its result changes

The scheduler half of `internal/controller/backup.go`: `decideBackup`, which
reads the status and two schedules, and `applyBackupResult`, which writes the
status from the result of a finished job.  The zero time of the source, which
stands for "no time", is `none`.

A `Schedule` carries its contract: the next time, when there is one, is later.
From it follow the two facts the scheduler rests on, that a due time lies after
its base and not in the future (`latestDue_spec`), and that the retry delay
doubles up to its maximum (`backupRetryDelay_eq`).

What a result does to the status depends on which of four verdicts it gets
(`Verdict`); `Applied` says what each of them changes, and no later module
unfolds `applyBackupResult`.
-/
import KahunaOperator.Membership

namespace KahunaOperator

/-! ## Schedules -/

def minutes (n : Int) : Time := seconds (60 * n)

/-- A cron schedule: the first time after a given one, if there is any. -/
structure Schedule where
  next : Time → Option Time
  later : ∀ {t n}, next t = some n → t < n

/-- How far `latestDue` walks before it gives up. -/
def maxMissedSchedules : Nat := 100000

/-- The walk from a due time to the latest one, with the first that is not due. -/
def walkDue (s : Schedule) (now : Time) : Nat → Time → Option Time × Option Time
  | 0, t => (some t, none)
  | fuel + 1, t =>
      match s.next t with
      | none => (some t, none)
      | some n => if now < n then (some t, some n) else walkDue s now fuel n

/-- The latest schedule time after `base` that is not in the future, and the first
one that is. -/
def latestDue (s : Schedule) (base now : Time) : Option Time × Option Time :=
  match s.next base with
  | none => (none, none)
  | some t => if now < t then (none, some t) else walkDue s now maxMissedSchedules t

theorem walkDue_spec {s : Schedule} {now : Time} {fuel : Nat} {t d : Time} (ht : t ≤ now)
    (h : (walkDue s now fuel t).1 = some d) : t ≤ d ∧ d ≤ now := by
  induction fuel generalizing t with
  | zero =>
      cases h
      exact ⟨le_refl _, ht⟩
  | succ fuel ih =>
      simp only [walkDue] at h
      cases hn : s.next t with
      | none =>
          simp only [hn] at h
          cases h
          exact ⟨le_refl _, ht⟩
      | some n =>
          simp only [hn] at h
          have hlater := s.later hn
          by_cases hfuture : now < n
          · rw [if_pos hfuture] at h
            cases h
            exact ⟨le_refl _, ht⟩
          · rw [if_neg hfuture] at h
            obtain ⟨hle, hnow⟩ := ih (not_lt.mp hfuture) h
            exact ⟨hlater.le.trans hle, hnow⟩

theorem latestDue_spec {s : Schedule} {base now d : Time} (h : (latestDue s base now).1 = some d) :
    base < d ∧ d ≤ now := by
  simp only [latestDue] at h
  cases hn : s.next base with
  | none =>
      simp only [hn] at h
      cases h
  | some t =>
      simp only [hn] at h
      by_cases hfuture : now < t
      · rw [if_pos hfuture] at h
        cases h
      · rw [if_neg hfuture] at h
        obtain ⟨hle, hnow⟩ := walkDue_spec (not_lt.mp hfuture) h
        exact ⟨lt_of_lt_of_le (s.later hn) hle, hnow⟩

def earliest (a b : Option Time) : Option Time :=
  match a, b with
  | none, b => b
  | a, none => a
  | some a, some b => if b < a then some b else some a

/-! ## Retries -/

def backupRetryInitial : Time := minutes 1

def backupRetryMax : Time := minutes 30

def unclaimedRetryDelay : Time := seconds 15

def unclaimedFailAfter : Time := minutes 5

/-- The doubling loop, with the iterations that are left. -/
def doubled : Nat → Time → Time
  | 0, d => d
  | n + 1, d => if d < backupRetryMax then doubled n (d * 2) else d

def backupRetryDelay (failures : Int) : Time :=
  min (doubled (failures - 1).toNat backupRetryInitial) backupRetryMax

theorem doubled_min (n : Nat) {d : Time} (hd : 0 < d) :
    min (doubled n d) backupRetryMax = min (2 ^ n * d) backupRetryMax := by
  induction n generalizing d with
  | zero => rw [doubled, pow_zero, one_mul]
  | succ n ih =>
      simp only [doubled]
      split
      · rw [ih (mul_pos hd (by decide)), pow_succ, mul_assoc, mul_comm 2 d]
      · next hmax =>
          have hle : backupRetryMax ≤ d := not_lt.mp hmax
          have hone : (1 : Int) ≤ 2 ^ (n + 1) := one_le_pow₀ (by decide)
          have hgrow : d ≤ 2 ^ (n + 1) * d := le_mul_of_one_le_left hd.le hone
          rw [min_eq_right hle, min_eq_right (hle.trans hgrow)]

/-- After the `k`-th failure in a row: `2 ^ (k - 1)` minutes, at most thirty. -/
theorem backupRetryDelay_eq (k : Nat) :
    backupRetryDelay (k + 1 : Nat) = minutes (min (2 ^ k) 30) := by
  have hloop : ((k + 1 : Nat) - 1 : Int).toNat = k := by omega
  have hmin := doubled_min k (d := backupRetryInitial) (by decide)
  unfold backupRetryDelay
  rw [hloop, hmin]
  have hscale : ∀ p : Int, min (p * (60 * 1 * 1000000000)) (60 * 30 * 1000000000) =
      60 * min p 30 * 1000000000 := by
    intro p
    omega
  exact hscale (2 ^ k)

/-! ## The decision -/

inductive BackupKind where
  | full
  | incremental
deriving DecidableEq, Repr

def BackupKind.name : BackupKind → String
  | .full => "Full"
  | .incremental => "Incremental"

structure BackupInput where
  full : Schedule
  incremental : Option Schedule
  status : BackupStatus
  now : Time

/-- What to do now and when to look again.  `start` is the source's `kind` and
`scheduled`, which are set together. -/
structure BackupDecision where
  start : Option (BackupKind × Time) := none
  retryAt : Option Time := none
  next : Option Time := none
deriving DecidableEq, Repr

/-- Where the incremental schedule goes on from. -/
def incrementalBase (st : BackupStatus) (lastFull : Time) : Time :=
  match st.lastIncrementalScheduleTime with
  | some t => if lastFull < t then t else lastFull
  | none => lastFull

/-- The incremental half, once no full backup is due. -/
def dueIncremental (i : BackupInput) (lastFull : Time) (fullNext : Option Time) : BackupDecision :=
  match i.incremental with
  | none => { next := fullNext }
  | some inc =>
      if i.status.lastBackupID = "" then { next := fullNext }
      else
        let due := latestDue inc (incrementalBase i.status lastFull) i.now
        { start := due.1.map fun t => (.incremental, t)
          next := earliest fullNext due.2 }

def dueBackup (i : BackupInput) : BackupDecision :=
  match i.status.lastFullScheduleTime with
  | none => { start := some (.full, i.now) }
  | some lastFull =>
      let due := latestDue i.full lastFull i.now
      match due.1 with
      | some t => { start := some (.full, t), next := due.2 }
      | none => dueIncremental i lastFull due.2

def backupRetryAt (st : BackupStatus) : Option Time :=
  match st.lastFailureTime with
  | some t =>
      if 0 < st.consecutiveFailures then some (t + backupRetryDelay st.consecutiveFailures)
      else st.lastUnclaimedTime.map (· + unclaimedRetryDelay)
  | none => st.lastUnclaimedTime.map (· + unclaimedRetryDelay)

def decideBackup (i : BackupInput) : BackupDecision :=
  let d := dueBackup i
  match d.start, backupRetryAt i.status with
  | some _, some r => if i.now < r then { retryAt := some r, next := some r } else d
  | _, _ => d

inductive Due (i : BackupInput) : BackupKind → Time → Prop
  | first : i.status.lastFullScheduleTime = none → Due i .full i.now
  | full {last d : Time} : i.status.lastFullScheduleTime = some last → last < d → d ≤ i.now →
      Due i .full d
  | incremental {last d : Time} : i.status.lastFullScheduleTime = some last →
      i.status.lastBackupID ≠ "" → incrementalBase i.status last < d → d ≤ i.now →
      Due i .incremental d

theorem dueIncremental_due {i : BackupInput} {last : Time} {next : Option Time} {kind : BackupKind}
    {d : Time} (hlast : i.status.lastFullScheduleTime = some last)
    (h : (dueIncremental i last next).start = some (kind, d)) : Due i kind d := by
  simp only [dueIncremental] at h
  split at h
  · cases h
  · split at h
    · cases h
    · next inc _ hid =>
        obtain ⟨t, ht, heq⟩ := Option.map_eq_some_iff.mp h
        cases heq
        obtain ⟨hbase, hnow⟩ := latestDue_spec ht
        exact .incremental hlast hid hbase hnow

theorem dueBackup_due {i : BackupInput} {kind : BackupKind} {d : Time}
    (h : (dueBackup i).start = some (kind, d)) : Due i kind d := by
  simp only [dueBackup] at h
  cases hlast : i.status.lastFullScheduleTime with
  | none =>
      simp only [hlast] at h
      cases h
      exact .first hlast
  | some last =>
      simp only [hlast] at h
      cases hdue : (latestDue i.full last i.now).1 with
      | some t =>
          simp only [hdue] at h
          cases h
          obtain ⟨hbase, hnow⟩ := latestDue_spec hdue
          exact .full hlast hbase hnow
      | none =>
          simp only [hdue] at h
          exact dueIncremental_due hlast h

/-- A backup that is started was due, and no backoff holds it. -/
theorem decideBackup_start {i : BackupInput} {kind : BackupKind} {d : Time}
    (h : (decideBackup i).start = some (kind, d)) :
    Due i kind d ∧ ∀ r ∈ backupRetryAt i.status, r ≤ i.now := by
  simp only [decideBackup] at h
  split at h
  · next r _ hr =>
      split at h
      · cases h
      · next hfree =>
          refine ⟨dueBackup_due h, ?_⟩
          intro r' hr'
          cases hr.symm.trans hr'
          exact not_lt.mp hfree
  · next hnone =>
      refine ⟨dueBackup_due h, ?_⟩
      intro r hr
      exact absurd hr (hnone _ _ h)

theorem Due.le_now {i : BackupInput} {kind : BackupKind} {d : Time} (h : Due i kind d) :
    d ≤ i.now := by
  cases h with
  | first _ => exact le_refl _
  | full _ _ hnow => exact hnow
  | incremental _ _ _ hnow => exact hnow

theorem le_incrementalBase (st : BackupStatus) (last : Time) :
    last ≤ incrementalBase st last ∧
      ∀ t ∈ st.lastIncrementalScheduleTime, t ≤ incrementalBase st last := by
  unfold incrementalBase
  cases hinc : st.lastIncrementalScheduleTime with
  | none => exact ⟨le_refl _, fun t ht => absurd ht (by simp)⟩
  | some t =>
      by_cases hlt : last < t
      · simp only [hlt, if_true]
        exact ⟨hlt.le, fun t' ht' => by cases ht'; exact le_refl _⟩
      · simp only [hlt, if_false]
        exact ⟨le_refl _, fun t' ht' => by cases ht'; exact not_lt.mp hlt⟩

/-! ## Results -/

/-- How a job failed: no node took it and every refusal clears on retry, or an
error, with the text it prints and the outcome of the refusal in its chain. -/
inductive BackupFailure where
  | unclaimed (refusals : List String)
  | failed (text : String) (refusal : Option BackupOutcome)
deriving DecidableEq, Repr

abbrev BackupResult := Except BackupFailure BackupInfo

structure BackupJob where
  kind : BackupKind
  scheduled : Time
  parent : String
  result : Option BackupResult := none

namespace BackupFailure

def message : BackupFailure → String
  | unclaimed refusals => "no node took the backup: " ++ "; ".intercalate refusals
  | failed text _ => text

def isUnclaimed : BackupFailure → Bool
  | unclaimed _ => true
  | failed _ _ => false

def parentMissing : BackupFailure → Bool
  | unclaimed _ => false
  | failed _ refusal => refusal == some .parentMissing

end BackupFailure

def maxFailureMessage : Nat := 1024

/-- The first `n` bytes of a text.  Of a character cut in two each byte that is left is
the replacement character, as it is stored: the JSON encoder writes it for a byte that
is not UTF-8. -/
def takeBytes : Nat → List Char → List Char
  | _, [] => []
  | n, c :: cs =>
      if c.utf8Size ≤ n then c :: takeBytes (n - c.utf8Size) cs
      else List.replicate n (Char.ofNat 0xfffd)

def cutMessage (msg : String) : String :=
  if maxFailureMessage < msg.utf8ByteSize then
    String.ofList (takeBytes maxFailureMessage msg.toList)
  else msg

/-- A success, on either kind of job. -/
def applySuccess (st : BackupStatus) (job : BackupJob) (info : BackupInfo) (now : Time) :
    BackupStatus :=
  let st := { st with
    lastSuccessfulTime := some now
    lastBackupID := info.backupID
    lastBackupType := if info.actualKind = "" then info.type else info.actualKind
    consecutiveFailures := 0
    lastFailureTime := none
    lastFailureMessage := ""
    unclaimedSince := none
    lastUnclaimedTime := none }
  match job.kind with
  | .full =>
      { st with
        lastFullScheduleTime := some job.scheduled
        lastIncrementalScheduleTime := some now }
  | .incremental => { st with lastIncrementalScheduleTime := some job.scheduled }

/-- A failure that is not an unclaimed attempt inside the bound. -/
def applyFailure (st : BackupStatus) (job : BackupJob) (e : BackupFailure) (now : Time) :
    BackupStatus :=
  let st := { st with unclaimedSince := none, lastUnclaimedTime := none }
  if job.kind = .incremental ∧ e.parentMissing = true then
    { st with lastBackupID := "", lastFullScheduleTime := none }
  else
    { st with
      consecutiveFailures := int32 (st.consecutiveFailures + 1)
      lastFailureTime := some now
      lastFailureMessage := job.kind.name ++ " backup: " ++ cutMessage e.message }

/-- Record the result of a finished job in the status. -/
def applyBackupResult (st : BackupStatus) (job : BackupJob) (result : BackupResult) (now : Time) :
    BackupStatus :=
  match result with
  | .ok info => applySuccess st job info now
  | .error e =>
      if e.isUnclaimed = true ∧ st.consecutiveFailures = 0 then
        let since := st.unclaimedSince.getD now
        if now - since < unclaimedFailAfter then
          { st with unclaimedSince := some since, lastUnclaimedTime := some now }
        else applyFailure { st with unclaimedSince := some since } job e now
      else applyFailure st job e now

/-! ### The four verdicts -/

inductive Verdict where
  | success
  | unclaimed
  | newChain
  | failure
deriving DecidableEq, Repr

def verdict (st : BackupStatus) (job : BackupJob) (result : BackupResult) (now : Time) : Verdict :=
  match result with
  | .ok _ => .success
  | .error e =>
      if e.isUnclaimed = true ∧ st.consecutiveFailures = 0 ∧
          now - st.unclaimedSince.getD now < unclaimedFailAfter then .unclaimed
      else if job.kind = .incremental ∧ e.parentMissing = true then .newChain
      else .failure

/-- What each verdict changes. -/
inductive Applied (st : BackupStatus) (job : BackupJob) (now : Time) :
    BackupResult → Verdict → BackupStatus → Prop
  | success (info : BackupInfo) :
      Applied st job now (.ok info) .success (applySuccess st job info now)
  | unclaimed {e : BackupFailure} : e.isUnclaimed = true → st.consecutiveFailures = 0 →
      now - st.unclaimedSince.getD now < unclaimedFailAfter →
      Applied st job now (.error e) .unclaimed
        { st with
          unclaimedSince := some (st.unclaimedSince.getD now)
          lastUnclaimedTime := some now }
  | newChain {e : BackupFailure} : job.kind = .incremental → e.parentMissing = true →
      Applied st job now (.error e) .newChain
        { st with
          unclaimedSince := none
          lastUnclaimedTime := none
          lastBackupID := ""
          lastFullScheduleTime := none }
  | failure {e : BackupFailure} : ¬ (job.kind = .incremental ∧ e.parentMissing = true) →
      (e.isUnclaimed = true → st.consecutiveFailures = 0 →
        unclaimedFailAfter ≤ now - st.unclaimedSince.getD now) →
      Applied st job now (.error e) .failure
        { st with
          unclaimedSince := none
          lastUnclaimedTime := none
          consecutiveFailures := int32 (st.consecutiveFailures + 1)
          lastFailureTime := some now
          lastFailureMessage := job.kind.name ++ " backup: " ++ cutMessage e.message }

theorem applyFailure_applied {st : BackupStatus} {job : BackupJob} {e : BackupFailure} {now : Time}
    (h : e.isUnclaimed = true → st.consecutiveFailures = 0 →
      unclaimedFailAfter ≤ now - st.unclaimedSince.getD now) :
    Applied st job now (.error e)
      (if job.kind = .incremental ∧ e.parentMissing = true then .newChain else .failure)
      (applyFailure st job e now) := by
  unfold applyFailure
  by_cases hchain : job.kind = .incremental ∧ e.parentMissing = true
  · simp only [hchain, and_self, if_true]
    exact .newChain hchain.1 hchain.2
  · simp only [hchain, if_false]
    exact .failure hchain h

theorem applyBackupResult_applied (st : BackupStatus) (job : BackupJob) (result : BackupResult)
    (now : Time) :
    Applied st job now result (verdict st job result now)
      (applyBackupResult st job result now) := by
  cases result with
  | ok info => exact .success info
  | error e =>
      simp only [applyBackupResult, verdict]
      by_cases hunclaimed : e.isUnclaimed = true ∧ st.consecutiveFailures = 0
      · rw [if_pos hunclaimed]
        by_cases hbound : now - st.unclaimedSince.getD now < unclaimedFailAfter
        · rw [if_pos hbound, if_pos ⟨hunclaimed.1, hunclaimed.2, hbound⟩]
          exact .unclaimed hunclaimed.1 hunclaimed.2 hbound
        · rw [if_neg hbound, if_neg fun h => hbound h.2.2]
          exact applyFailure_applied fun _ _ => not_lt.mp hbound
      · rw [if_neg hunclaimed, if_neg fun h => hunclaimed ⟨h.1, h.2.1⟩]
        exact applyFailure_applied fun h₁ h₂ => absurd ⟨h₁, h₂⟩ hunclaimed

theorem BackupFailure.not_parentMissing {e : BackupFailure} (h : e.isUnclaimed = true) :
    e.parentMissing = false := by
  cases e with
  | unclaimed _ => rfl
  | failed _ _ => cases h

/-- A result that is no success keeps the incremental anchor; the full one and the
latest id go only with the chain. -/
theorem Applied.error_anchors {st st' : BackupStatus} {job : BackupJob} {now : Time}
    {e : BackupFailure} {v : Verdict} (h : Applied st job now (.error e) v st') :
    st'.lastIncrementalScheduleTime = st.lastIncrementalScheduleTime ∧
      ((st'.lastFullScheduleTime = st.lastFullScheduleTime ∧
          st'.lastBackupID = st.lastBackupID ∧
          ¬ (job.kind = .incremental ∧ e.parentMissing = true)) ∨
        (st'.lastFullScheduleTime = none ∧ st'.lastBackupID = "" ∧
          job.kind = .incremental ∧ e.parentMissing = true)) := by
  cases h with
  | unclaimed hun _ _ =>
      refine ⟨rfl, Or.inl ⟨rfl, rfl, ?_⟩⟩
      rintro ⟨_, hparent⟩
      cases (BackupFailure.not_parentMissing hun).symm.trans hparent
  | newChain hkind hparent => exact ⟨rfl, Or.inr ⟨rfl, rfl, hkind, hparent⟩⟩
  | failure hnot _ => exact ⟨rfl, Or.inl ⟨rfl, rfl, hnot⟩⟩

theorem applySuccess_anchors (st : BackupStatus) (job : BackupJob) (info : BackupInfo)
    (now : Time) :
    (job.kind = .full →
      (applySuccess st job info now).lastFullScheduleTime = some job.scheduled ∧
        (applySuccess st job info now).lastIncrementalScheduleTime = some now) ∧
    (job.kind = .incremental →
      (applySuccess st job info now).lastFullScheduleTime = st.lastFullScheduleTime ∧
        (applySuccess st job info now).lastIncrementalScheduleTime = some job.scheduled) := by
  constructor
  · intro hkind
    simp only [applySuccess, hkind, and_self]
  · intro hkind
    simp only [applySuccess, hkind, and_self]

theorem applySuccess_retry (st : BackupStatus) (job : BackupJob) (info : BackupInfo) (now : Time) :
    (applySuccess st job info now).consecutiveFailures = 0 ∧
      (applySuccess st job info now).lastFailureTime = none ∧
      (applySuccess st job info now).unclaimedSince = none ∧
      (applySuccess st job info now).lastUnclaimedTime = none := by
  unfold applySuccess
  cases job.kind <;> exact ⟨rfl, rfl, rfl, rfl⟩

end KahunaOperator
