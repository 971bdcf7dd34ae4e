/-
# `KahunaOperator.Timing` — missed schedule times, and when to look again

`latestDue` walks from the last schedule time that was covered to the latest one
that is due, and `decideBackup` says when to look again if nothing is started.

    the walk stops at its bound of 100000 steps.  Up to 100001 missed schedule times
    collapse into one run; of more, one run covers the first 100001
                                                             (`missed_runs_collapse_iff`)
    a backup that is started at a later time, and not now, was announced for that
    time or an earlier one                                         (`never_sleeps_past`)

The bound is deliberate: the comment at the end of the walk has the next pass
continue it.
-/
import KahunaOperator.BackupPass
import KahunaOperator.Lib.Walk

namespace KahunaOperator

/-! ## The walk to the latest due time -/

theorem walkDue_walk (s : Schedule) (now : Time) (fuel : Nat) (t : Time) :
    (walkDue s now fuel t).1 = some (Lib.walk s.next now fuel t) := by
  induction fuel generalizing t with
  | zero => rfl
  | succ fuel ih =>
      simp only [walkDue, Lib.walk]
      cases s.next t with
      | none => rfl
      | some n =>
          by_cases hdue : n ≤ now
          · simp only [hdue, not_lt.mpr hdue, if_true, if_false, ih]
          · simp only [hdue, not_le.mp hdue, if_true, if_false]

section Latest
variable {s : Schedule} {base now d : Time}

/-- Nothing is due exactly when the first schedule time is in the future or there is
none; it is then the next one. -/
theorem latestDue_none_iff :
    (latestDue s base now).1 = none ↔ ∀ t, s.next base = some t → now < t := by
  simp only [latestDue]
  cases s.next base with
  | none => simp
  | some t =>
      by_cases hfuture : now < t
      · simp [hfuture]
      · simp [hfuture, walkDue_walk]

theorem latestDue_next (h : (latestDue s base now).1 = none) :
    (latestDue s base now).2 = s.next base := by
  rw [latestDue_none_iff] at h
  simp only [latestDue]
  cases hn : s.next base with
  | none => rfl
  | some t => simp only [h t hn, if_true]

theorem latestDue_walk (h : (latestDue s base now).1 = some d) :
    ∃ t, s.next base = some t ∧ t ≤ now ∧ d = Lib.walk s.next now maxMissedSchedules t := by
  simp only [latestDue] at h
  cases hn : s.next base with
  | none =>
      rw [hn] at h
      cases h
  | some t =>
      simp only [hn] at h
      by_cases hfuture : now < t
      · rw [if_pos hfuture] at h
        cases h
      · rw [if_neg hfuture, walkDue_walk] at h
        exact ⟨t, rfl, not_lt.mp hfuture, (Option.some.inj h).symm⟩

/-- At most 100001 schedule times lie after `base` and not after `now`: the one
after those is missing or in the future. -/
def FewMissed (s : Schedule) (base now : Time) : Prop :=
  ∀ t, Lib.ahead s.next (maxMissedSchedules + 2) base = some t → now < t

theorem latestDue_last_iff (h : (latestDue s base now).1 = some d) :
    (∀ n, s.next d = some n → now < n) ↔ FewMissed s base now := by
  obtain ⟨t, hn, _, rfl⟩ := latestDue_walk h
  have hcomplete :
      (∀ n, s.next (Lib.walk s.next now maxMissedSchedules t) = some n → ¬ n ≤ now) ↔ _ :=
    Lib.walk_complete_iff s.later maxMissedSchedules t
  simp only [not_le] at hcomplete
  rw [hcomplete, FewMissed, Lib.ahead_of_next _ hn]

/-- Of more than that, the due time is the one numbered 100001. -/
theorem latestDue_bound (h : (latestDue s base now).1 = some d) (hmany : ¬ FewMissed s base now) :
    Lib.ahead s.next (maxMissedSchedules + 1) base = some d := by
  obtain ⟨t, hn, _, rfl⟩ := latestDue_walk h
  rw [FewMissed, Lib.ahead_of_next _ hn, Lib.ahead_succ] at hmany
  push Not at hmany
  obtain ⟨last, hlast, hdue⟩ := hmany
  obtain ⟨b, hb, hnext⟩ := Option.bind_eq_some_iff.mp hlast
  rw [Lib.ahead_of_next _ hn, hb,
    Lib.walk_of_ahead s.later hb ((s.later hnext).le.trans hdue)]

end Latest

/-! ## Missed runs -/

theorem decideBackup_free {i : BackupInput} (hfree : ∀ r ∈ backupRetryAt i.status, r ≤ i.now) :
    decideBackup i = dueBackup i := by
  simp only [decideBackup]
  split
  · next r _ hr => exact if_neg (not_lt.mpr (hfree r hr))
  · rfl

theorem dueIncremental_not_full {i : BackupInput} {last : Time} {next : Option Time} {d : Time} :
    (dueIncremental i last next).start ≠ some (.full, d) := by
  simp only [dueIncremental]
  split
  · simp
  · split <;> simp

/-- After a full backup, the next one is started exactly when a schedule time since is
due. -/
theorem full_started_iff {i : BackupInput} {last d : Time}
    (hlast : i.status.lastFullScheduleTime = some last)
    (hfree : ∀ r ∈ backupRetryAt i.status, r ≤ i.now) :
    (decideBackup i).start = some (.full, d) ↔ (latestDue i.full last i.now).1 = some d := by
  rw [decideBackup_free hfree]
  simp only [dueBackup, hlast]
  cases (latestDue i.full last i.now).1 with
  | none => exact iff_of_false dueIncremental_not_full (by simp)
  | some t => simp

theorem backupRetryAt_success (st : BackupStatus) (job : BackupJob) (info : BackupInfo)
    (now : Time) : backupRetryAt (applySuccess st job info now) = none := by
  obtain ⟨_, hfailed, _, hunclaimed⟩ := applySuccess_retry st job info now
  simp only [backupRetryAt, hfailed, hunclaimed, Option.map_none]

/-- The input at the same time, after the full backup for the schedule time `d` has
succeeded. -/
def BackupInput.afterFull (i : BackupInput) (d : Time) (info : BackupInfo) (finished : Time) :
    BackupInput :=
  { i with
    status := applyBackupResult i.status { kind := .full, scheduled := d, parent := "" } (.ok info)
      finished }

/-- No other full one is started then. -/
def Collapses (i : BackupInput) (d : Time) : Prop :=
  ∀ info finished t, (decideBackup (i.afterFull d info finished)).start ≠ some (.full, t)

theorem collapses_iff {i : BackupInput} {d : Time} :
    Collapses i d ↔ ∀ n, i.full.next d = some n → i.now < n := by
  have hstarted : ∀ info finished t,
      (decideBackup (i.afterFull d info finished)).start = some (.full, t) ↔
        (latestDue i.full d i.now).1 = some t := by
    intro info finished t
    refine full_started_iff (i := i.afterFull d info finished) rfl ?_
    intro r hr
    rw [BackupInput.afterFull, applyBackupResult, backupRetryAt_success] at hr
    cases hr
  rw [← latestDue_none_iff, Option.eq_none_iff_forall_ne_some]
  constructor
  · intro hcollapse t ht
    exact hcollapse { backupID := "" } i.now t ((hstarted _ _ _).mpr ht)
  · intro hnone info finished t ht
    exact hnone t ((hstarted _ _ _).mp ht)

/-- The due time is one of the schedule times after the base, not in the future.  It
is the last such time, and the run for it leaves no other to start, exactly when at
most 100001 of them were missed; of more it is the one numbered so. -/
theorem missed_runs_collapse_iff {i : BackupInput} {base d : Time}
    (hbase : i.status.lastFullScheduleTime = some base)
    (hfree : ∀ r ∈ backupRetryAt i.status, r ≤ i.now)
    (h : (latestDue i.full base i.now).1 = some d) :
    (∃ k, Lib.ahead i.full.next (k + 1) base = some d) ∧ base < d ∧ d ≤ i.now ∧
      (decideBackup i).start = some (.full, d) ∧
      ((∀ n, i.full.next d = some n → i.now < n) ↔ FewMissed i.full base i.now) ∧
      (Collapses i d ↔ FewMissed i.full base i.now) ∧
      (¬ FewMissed i.full base i.now →
        Lib.ahead i.full.next (maxMissedSchedules + 1) base = some d) := by
  have hlast := latestDue_last_iff h
  obtain ⟨hafter, hnow⟩ := latestDue_spec h
  refine ⟨?_, hafter, hnow, (full_started_iff hbase hfree).mpr h, hlast,
    collapses_iff.trans hlast, latestDue_bound h⟩
  obtain ⟨t, hn, _, rfl⟩ := latestDue_walk h
  obtain ⟨k, hk⟩ := Lib.walk_ahead i.full.next i.now maxMissedSchedules t
  exact ⟨k, (Lib.ahead_of_next k hn).trans hk⟩

/-! ### A schedule of every minute -/

theorem minutes_lt_iff {m n : Int} : minutes m < minutes n ↔ m < n := by
  have hscale : ∀ m n : Int, 60 * m * 1000000000 < 60 * n * 1000000000 ↔ m < n := by
    intro m n
    omega
  exact hscale m n

def everyMinute : Schedule where
  next t := some (minutes (t / 60000000000 + 1))
  later := by
    intro t n h
    cases h
    have hminute : ∀ t : Int, t < 60 * (t / 60000000000 + 1) * 1000000000 := by
      intro t
      omega
    exact hminute t

theorem everyMinute_next (k : Int) : everyMinute.next (minutes k) = some (minutes (k + 1)) := by
  have hdiv : ∀ k : Int, 60 * k * 1000000000 / 60000000000 = k := by
    intro k
    omega
  exact congrArg (fun m => some (minutes (m + 1))) (hdiv k)

theorem everyMinute_ahead (k : Nat) (n : Int) :
    Lib.ahead everyMinute.next k (minutes n) = some (minutes (n + k)) := by
  induction k with
  | zero => simp [Lib.ahead]
  | succ k ih =>
      rw [Lib.ahead_succ, ih, Option.bind_some, everyMinute_next]
      congr 2
      push_cast
      omega

/-- A full backup at time zero, and then none for so many minutes. -/
def missedInput (n : Nat) : BackupInput :=
  { full := everyMinute
    incremental := none
    status := { lastFullScheduleTime := some (minutes 0), lastBackupID := "full-0" }
    now := minutes n }

theorem missed_due {n : Nat} (h : 0 < n) :
    ∃ d, (latestDue everyMinute (minutes 0) (minutes n)).1 = some d := by
  refine Option.ne_none_iff_exists'.mp ?_
  rw [Ne, latestDue_none_iff, everyMinute_next]
  intro hfuture
  have hlate := minutes_lt_iff.mp (hfuture _ rfl)
  omega

theorem fewMissed_everyMinute (n : Nat) :
    FewMissed everyMinute (minutes 0) (minutes n) ↔ n ≤ maxMissedSchedules + 1 := by
  rw [FewMissed, everyMinute_ahead]
  simp only [Option.some.injEq, forall_eq', minutes_lt_iff]
  omega

/-- Ten missed minutes collapse into the tenth. -/
theorem ten_missed_collapse :
    ∃ d, (decideBackup (missedInput 10)).start = some (.full, d) ∧
      Collapses (missedInput 10) d := by
  obtain ⟨d, hd⟩ := missed_due (n := 10) (by decide)
  have hall := missed_runs_collapse_iff (i := missedInput 10) rfl (by rintro r ⟨⟩) hd
  obtain ⟨_, _, _, hstart, _, hcollapse, _⟩ := hall
  exact ⟨d, hstart, hcollapse.mpr ((fewMissed_everyMinute 10).mpr (by decide))⟩

/-- Of 100002 missed minutes, the first run covers all but the last, and a second one
is started at the same time. -/
theorem missed_past_bound :
    ∃ d n, (latestDue everyMinute (minutes 0) (missedInput 100002).now).1 = some d ∧
      (decideBackup (missedInput 100002)).start = some (.full, d) ∧
      everyMinute.next d = some n ∧ n ≤ (missedInput 100002).now ∧
      ¬ Collapses (missedInput 100002) d := by
  obtain ⟨d, hd⟩ := missed_due (n := 100002) (by decide)
  have hmany : ¬ FewMissed everyMinute (minutes 0) (minutes (100002 : Nat)) := by
    rw [fewMissed_everyMinute]
    decide
  have hlast := latestDue_bound hd hmany
  rw [everyMinute_ahead] at hlast
  cases hlast
  have hnext := everyMinute_next (0 + (maxMissedSchedules + 1 : Nat))
  have hdue : minutes (0 + (maxMissedSchedules + 1 : Nat) + 1) ≤ (missedInput 100002).now :=
    le_of_eq rfl
  have hstart := (full_started_iff (i := missedInput 100002) rfl (by rintro r ⟨⟩)).mpr hd
  refine ⟨_, _, hd, hstart, hnext, hdue, ?_⟩
  rw [collapses_iff]
  intro hfuture
  exact absurd (hfuture _ hnext) (not_lt.mpr hdue)

/-! ## When to look again -/

theorem earliest_le_left (x : Time) (b : Option Time) :
    ∃ y, earliest (some x) b = some y ∧ y ≤ x := by
  cases b with
  | none => exact ⟨x, rfl, le_refl x⟩
  | some b =>
      simp only [earliest]
      split
      · next hlt => exact ⟨b, rfl, hlt.le⟩
      · exact ⟨x, rfl, le_refl x⟩

theorem earliest_le_right (a : Option Time) (x : Time) :
    ∃ y, earliest a (some x) = some y ∧ y ≤ x := by
  cases a with
  | none => exact ⟨x, rfl, le_refl x⟩
  | some a =>
      simp only [earliest]
      split
      · exact ⟨x, rfl, le_refl x⟩
      · next hle => exact ⟨a, rfl, not_lt.mp hle⟩

section Wake
variable {i : BackupInput} {last later : Time}

theorem dueIncremental_next_full (i : BackupInput) (last t : Time) :
    ∃ n, (dueIncremental i last (some t)).next = some n ∧ n ≤ t := by
  simp only [dueIncremental]
  split
  · exact ⟨t, rfl, le_refl t⟩
  · split
    · exact ⟨t, rfl, le_refl t⟩
    · exact earliest_le_left t _

theorem dueIncremental_next {fullNext fullNext' : Option Time}
    (hnone : (dueIncremental i last fullNext).start = none)
    (hlater : (dueIncremental { i with now := later } last fullNext').start ≠ none) :
    ∃ n, (dueIncremental i last fullNext).next = some n ∧ n ≤ later := by
  simp only [dueIncremental] at hnone hlater ⊢
  cases hinc : i.incremental with
  | none => simp [hinc] at hlater
  | some inc =>
      by_cases hid : i.status.lastBackupID = ""
      · simp [hinc, hid] at hlater
      · simp only [hinc, hid, if_false, ne_eq, Option.map_eq_none_iff] at hnone hlater ⊢
        obtain ⟨d, hd⟩ := Option.ne_none_iff_exists'.mp hlater
        obtain ⟨t, ht, hdue, _⟩ := latestDue_walk hd
        rw [latestDue_next hnone, ht]
        obtain ⟨n, hn, hle⟩ := earliest_le_right fullNext t
        exact ⟨n, hn, hle.trans hdue⟩

/-- What is due later, and not now, is announced. -/
theorem dueBackup_next (hnone : (dueBackup i).start = none)
    (hlater : (dueBackup { i with now := later }).start ≠ none) :
    ∃ n, (dueBackup i).next = some n ∧ n ≤ later := by
  simp only [dueBackup] at hnone hlater ⊢
  cases hlast : i.status.lastFullScheduleTime with
  | none => simp [hlast] at hnone
  | some last =>
      simp only [hlast] at hnone hlater ⊢
      cases hfull : (latestDue i.full last i.now).1 with
      | some t => simp [hfull] at hnone
      | none =>
          simp only [hfull] at hnone ⊢
          cases hfull' : (latestDue i.full last later).1 with
          | some d =>
              obtain ⟨t, ht, hdue, _⟩ := latestDue_walk hfull'
              rw [latestDue_next hfull, ht]
              obtain ⟨n, hn, hle⟩ := dueIncremental_next_full i last t
              exact ⟨n, hn, hle.trans hdue⟩
          | none =>
              simp only [hfull'] at hlater
              exact dueIncremental_next hnone hlater

theorem decideBackup_none (h : (decideBackup i).start = none) :
    (∃ r ∈ backupRetryAt i.status, (decideBackup i).next = some r) ∨
      ((dueBackup i).start = none ∧ decideBackup i = dueBackup i) := by
  simp only [decideBackup] at h ⊢
  cases hdue : (dueBackup i).start with
  | none => exact Or.inr ⟨rfl, rfl⟩
  | some start =>
      cases hretry : backupRetryAt i.status with
      | none => simp [hdue, hretry] at h
      | some r =>
          by_cases hheld : i.now < r
          · exact Or.inl ⟨r, rfl, by simp [hheld]⟩
          · simp [hdue, hretry, hheld] at h

/-- Where a backup is started later, and not now with the same status, the time to
look again is not after it, and the delay computed from it is at least a second (zero
would ask for no look at all) and not longer than until then, or a second. -/
theorem never_sleeps_past (hnone : (decideBackup i).start = none)
    (hlater : (decideBackup { i with now := later }).start ≠ none) :
    ∃ n, (decideBackup i).next = some n ∧ n ≤ later ∧
      seconds 1 ≤ untilDue (decideBackup i).next i.now ∧
      untilDue (decideBackup i).next i.now ≤ max (later - i.now) (seconds 1) := by
  obtain ⟨⟨kind, d⟩, hstart⟩ := Option.ne_none_iff_exists'.mp hlater
  obtain ⟨_, hfree⟩ := decideBackup_start hstart
  have hnext : ∃ n, (decideBackup i).next = some n ∧ n ≤ later := by
    rcases decideBackup_none hnone with ⟨r, hr, hnext⟩ | ⟨hdue, heq⟩
    · exact ⟨r, hnext, hfree r hr⟩
    · rw [heq]
      rw [decideBackup_free hfree] at hlater
      exact dueBackup_next hdue hlater
  obtain ⟨n, hn, hle'⟩ := hnext
  refine ⟨n, hn, hle', ?_⟩
  rw [hn]
  exact ⟨le_max_right _ _, max_le_max (sub_le_sub_right hle' _) le_rfl⟩

end Wake

/-- Half a minute after the last full backup. -/
def halfMinuteInput : BackupInput := { missedInput 0 with now := seconds 30 }

/-- The next one is half a minute away. -/
theorem half_minute_early :
    ∃ n, (decideBackup halfMinuteInput).next = some n ∧ n ≤ minutes 1 ∧
      seconds 1 ≤ untilDue (decideBackup halfMinuteInput).next (seconds 30) ∧
      untilDue (decideBackup halfMinuteInput).next (seconds 30) ≤
        max (minutes 1 - seconds 30) (seconds 1) := by
  have hnone : (decideBackup halfMinuteInput).start = none := by decide +kernel
  have hlater : (decideBackup { halfMinuteInput with now := minutes 1 }).start ≠ none := by
    decide +kernel
  exact never_sleeps_past hnone hlater

end KahunaOperator
