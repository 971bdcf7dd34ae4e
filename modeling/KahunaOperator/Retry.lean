/-
# `KahunaOperator.Retry` — how soon a backup is tried again

Two regimes share the backup status: a short delay after an attempt that no node
took, and a backoff that doubles after a failure that counts.  They hand over to
each other on a success, when unclaimed attempts have gone on for too long, and
when a chain has to start again.  Over every run of the scheduler of `Chain`:

    the counters and their times are set and cleared together        (`Regular`)
    after the k-th failure in a row, at a, no start before
      a + min (2 ^ (k - 1)) 30 minutes
    after an unclaimed attempt, at a, no start before a + 15 s
    unclaimed attempts that span five minutes contain a failure      (`retries_spaced`)

Both delays are one argument.  A time that holds the next start back holds back
every later one, since a start is only later (`HeldUntil`).
-/
import Mathlib.Data.List.Induction
import KahunaOperator.Chain

namespace KahunaOperator

open Lib (Run Transition)

/-! ## Counting failures -/

def recordedVerdict (t : Transition Backups BackupEvent) : Option Verdict :=
  match t.before.running, t.event with
  | some job, .finish result now => some (verdict t.before.status job result now)
  | _, _ => none

def Verdict.count (k : Nat) : Verdict → Nat
  | .success => 0
  | .failure => k + 1
  | .unclaimed => k
  | .newChain => k

/-- The failures since the last success. -/
def streak (past : List (Transition Backups BackupEvent)) : Nat :=
  past.foldl (fun k t => (recordedVerdict t).elim k (Verdict.count k)) 0

theorem streak_snoc (past : List (Transition Backups BackupEvent))
    (t : Transition Backups BackupEvent) :
    streak (past ++ [t]) =
      (recordedVerdict t).elim (streak past) (Verdict.count (streak past)) := by
  simp only [streak, List.foldl_append, List.foldl_cons, List.foldl_nil]

theorem streak_le_length (past : List (Transition Backups BackupEvent)) :
    streak past ≤ past.length := by
  induction past using List.reverseRecOn with
  | nil => exact le_refl _
  | append_singleton past t ih =>
      rw [streak_snoc, List.length_append, List.length_singleton]
      cases recordedVerdict t with
      | none => exact ih.trans (Nat.le_succ _)
      | some v =>
          cases v with
          | success => exact Nat.zero_le _
          | failure => exact Nat.succ_le_succ ih
          | unclaimed => exact ih.trans (Nat.le_succ _)
          | newChain => exact ih.trans (Nat.le_succ _)

theorem recordedVerdict_finish {a b : Backups} {job : BackupJob} {result : BackupResult}
    {now : Time} (hrun : a.running = some job) :
    recordedVerdict ⟨a, .finish result now, b⟩ = some (verdict a.status job result now) := by
  simp only [recordedVerdict, hrun]

theorem records_of_recordedVerdict {t : Transition Backups BackupEvent} {v : Verdict}
    (h : recordedVerdict t = some v) : ∃ job result, Records t job result := by
  unfold recordedVerdict at h
  split at h
  · next job result now hrun hevent => exact ⟨job, result, hrun, now, hevent⟩
  · cases h

theorem recordedVerdict_decide {a b : Backups} {full : Schedule} {incremental : Option Schedule}
    {now : Time} : recordedVerdict ⟨a, .decide full incremental now, b⟩ = none := by
  unfold recordedVerdict
  cases a.running <;> rfl

/-! ## The status between two steps -/

/-- The counter and the time of the latest failure go together, and so do the two
times of unclaimed attempts, which exclude failures and lie close. -/
structure Regular (st : BackupStatus) : Prop where
  failed : st.consecutiveFailures = 0 ↔ st.lastFailureTime = none
  unclaimed : (st.unclaimedSince = none ∧ st.lastUnclaimedTime = none) ∨
    ∃ since last, st.unclaimedSince = some since ∧ st.lastUnclaimedTime = some last ∧
      st.consecutiveFailures = 0 ∧ last - since < minutes 5

/-- The counter is the streak, and nothing in the status is in the future. -/
structure Counted (past : List (Transition Backups BackupEvent)) (s : Backups) : Prop where
  regular : Regular s.status
  streak : s.status.consecutiveFailures = streak past
  since : ∀ x ∈ s.status.unclaimedSince, ∃ c, s.clock = some c ∧ x ≤ c

theorem counted_init : Counted [] {} where
  regular := ⟨iff_of_true rfl rfl, Or.inl ⟨rfl, rfl⟩⟩
  streak := rfl
  since := fun x hx => absurd hx (by simp)

section Results
variable {st st' : BackupStatus} {job : BackupJob} {now : Time} {result : BackupResult}
  {v : Verdict}

/-- While it does not wrap around, the counter counts. -/
theorem Applied.failures (h : Applied st job now result v st') {k : Nat}
    (hk : st.consecutiveFailures = k) (hfew : v.count k < 2 ^ 31) :
    st'.consecutiveFailures = v.count k := by
  cases h with
  | success info => exact (applySuccess_retry st job info now).1
  | unclaimed _ _ _ => exact hk
  | newChain _ _ => exact hk
  | failure _ _ =>
      show int32 (st.consecutiveFailures + 1) = ((k + 1 : Nat) : Int)
      rw [hk]
      exact int32_of_lt hfew

/-- Every result keeps the status regular, as long as the counter counts. -/
theorem Applied.regular (h : Applied st job now result v st') (hst : Regular st) {k : Nat}
    (hcount : st'.consecutiveFailures = v.count k) : Regular st' := by
  cases h with
  | success info =>
      obtain ⟨hzero, htime, hsince, hlast⟩ := applySuccess_retry st job info now
      exact ⟨iff_of_true hzero htime, Or.inl ⟨hsince, hlast⟩⟩
  | unclaimed _ hzero hbound => exact ⟨hst.failed, Or.inr ⟨_, now, rfl, rfl, hzero, hbound⟩⟩
  | newChain _ _ => exact ⟨hst.failed, Or.inl ⟨rfl, rfl⟩⟩
  | failure _ _ =>
      refine ⟨iff_of_false ?_ (Option.some_ne_none _), Or.inl ⟨rfl, rfl⟩⟩
      rw [hcount]
      exact Int.natCast_ne_zero.mpr (Nat.succ_ne_zero k)

/-- `UnclaimedSince` is left set only by an unclaimed attempt, as it was or at the
attempt's own time. -/
theorem Applied.unclaimedSince (h : Applied st job now result v st') {x : Time}
    (hx : st'.unclaimedSince = some x) : v = .unclaimed ∧ st.unclaimedSince.getD now = x := by
  cases h with
  | success info =>
      rw [(applySuccess_retry st job info now).2.2.1] at hx
      cases hx
  | unclaimed _ _ _ =>
      cases hx
      exact ⟨rfl, rfl⟩
  | newChain _ _ => cases hx
  | failure _ _ => cases hx

end Results

theorem Counted.step {past : List (Transition Backups BackupEvent)} {a b : Backups}
    {e : BackupEvent} (h : Counted past a) (hstep : BackupStep a e b)
    (hfew : KahunaOperator.streak (past ++ [⟨a, e, b⟩]) < 2 ^ 31) :
    Counted (past ++ [⟨a, e, b⟩]) b := by
  have hsnoc := streak_snoc past ⟨a, e, b⟩
  cases hstep with
  | decide _ hclock =>
      rw [recordedVerdict_decide] at hsnoc
      refine ⟨h.regular, h.streak.trans (congrArg Nat.cast hsnoc.symm), ?_⟩
      intro x hx
      obtain ⟨c, hc, hle⟩ := h.since x hx
      exact ⟨_, rfl, hle.trans (hclock c hc)⟩
  | @finish job result now hrun hclock =>
      rw [recordedVerdict_finish hrun] at hsnoc
      have happ := applyBackupResult_applied a.status job result now
      have hcount := happ.failures h.streak (lt_of_eq_of_lt hsnoc.symm hfew)
      refine ⟨happ.regular h.regular hcount, hcount.trans (congrArg Nat.cast hsnoc.symm), ?_⟩
      intro x hx
      refine ⟨now, rfl, ?_⟩
      obtain ⟨_, rfl⟩ := happ.unclaimedSince hx
      cases hold : a.status.unclaimedSince with
      | none => exact le_refl _
      | some y =>
          obtain ⟨c, hc, hle⟩ := h.since y hold
          exact hle.trans (hclock c hc).le

/-! ## Holding a start back -/

/-- No job starts before `r`: the backoff says so, or `r` is over. -/
def HeldUntil (r : Time) (s : Backups) : Prop :=
  (s.running = none ∧ backupRetryAt s.status = some r) ∨ ∃ c, s.clock = some c ∧ r ≤ c

theorem HeldUntil.step {r : Time} {a b : Backups} {e : BackupEvent} (h : HeldUntil r a)
    (hstep : BackupStep a e b) : HeldUntil r b := by
  cases hstep with
  | @decide full incremental now _ hclock =>
      rcases h with ⟨_, hretry⟩ | ⟨c, hc, hle⟩
      · cases hstart : (a.decided full incremental now).running with
        | none => exact Or.inl ⟨hstart, hretry⟩
        | some job =>
            -- A start says that the backoff is over.
            obtain ⟨start, hdec, _⟩ := Option.map_eq_some_iff.mp hstart
            exact Or.inr ⟨now, rfl, (decideBackup_start hdec).2 r hretry⟩
      · exact Or.inr ⟨now, rfl, hle.trans (hclock c hc)⟩
  | @finish job result now hrun hclock =>
      rcases h with ⟨hnone, _⟩ | ⟨c, hc, hle⟩
      · cases hnone.symm.trans hrun
      · exact Or.inr ⟨now, rfl, hle.trans (hclock c hc).le⟩

theorem HeldUntil.start {r : Time} {a b : Backups} {e : BackupEvent} {job : BackupJob}
    (h : HeldUntil r a) (hstep : BackupStep a e b) (hstart : Starts ⟨a, e, b⟩ job) :
    r ≤ e.now := by
  rcases h with ⟨_, hretry⟩ | ⟨c, hc, hle⟩
  · obtain ⟨_, _, _, _, hfree, _⟩ := hstep.start_inv hstart
    exact hfree r hretry
  · cases hstep with
    | decide _ hclock => exact hle.trans (hclock c hc)
    | finish _ hclock => exact hle.trans (hclock c hc).le

/-- What a result leaves for the next start, by its verdict. -/
theorem Applied.retryAt {st st' : BackupStatus} {job : BackupJob} {now : Time}
    {result : BackupResult} {v : Verdict} (h : Applied st job now result v st') {k : Nat}
    (hk : st.consecutiveFailures = k) (hfew : v.count k < 2 ^ 31) :
    (v = .failure → backupRetryAt st' = some (now + minutes (min (2 ^ k) 30))) ∧
      (v = .unclaimed → backupRetryAt st' = some (now + unclaimedRetryDelay)) := by
  have hcount := h.failures hk hfew
  cases h with
  | success _ => exact ⟨fun hv => absurd hv (by decide), fun hv => absurd hv (by decide)⟩
  | newChain _ _ => exact ⟨fun hv => absurd hv (by decide), fun hv => absurd hv (by decide)⟩
  | unclaimed _ hzero _ =>
      refine ⟨fun hv => absurd hv (by decide), fun _ => ?_⟩
      unfold backupRetryAt
      simp only [hzero, Int.lt_irrefl, if_false, Option.map_some]
      cases st.lastFailureTime <;> rfl
  | failure _ _ =>
      refine ⟨fun _ => ?_, fun hv => absurd hv (by decide)⟩
      have hcount : int32 (st.consecutiveFailures + 1) = ((k + 1 : Nat) : Int) := hcount
      unfold backupRetryAt
      simp only [hcount]
      rw [if_pos (by omega), backupRetryDelay_eq]

/-- A result that counts, or that no node took, holds every later start back. -/
theorem held_after_result {a b : Backups} {result : BackupResult} {now r : Time}
    (hstep : BackupStep a (.finish result now) b) (hretry : backupRetryAt b.status = some r) :
    HeldUntil r b := by
  obtain ⟨_, _, _, hidle, _, _⟩ := hstep.finish_inv
  exact Or.inl ⟨hidle, hretry⟩

/-! ## Unclaimed attempts -/

def Unclaims (t : Transition Backups BackupEvent) : Prop :=
  ∃ job e, Records t job (.error e) ∧ e.isUnclaimed = true

theorem Unclaims.verdict {t : Transition Backups BackupEvent} (h : Unclaims t) :
    recordedVerdict t = some .unclaimed ∨ recordedVerdict t = some .failure := by
  obtain ⟨a, e, b⟩ := t
  obtain ⟨job, f, ⟨hrun, now, hevent⟩, hun⟩ := h
  cases hevent
  rw [recordedVerdict_finish hrun]
  have happ := applyBackupResult_applied a.status job (.error f) now
  generalize KahunaOperator.verdict a.status job (.error f) now = v at happ
  generalize applyBackupResult a.status job (.error f) now = st at happ
  cases happ with
  | unclaimed _ _ _ => exact Or.inl rfl
  | newChain _ hparent => cases (BackupFailure.not_parentMissing hun).symm.trans hparent
  | failure _ _ => exact Or.inr rfl

/-- Unclaimed attempts have been made since a time no later than `u`. -/
def UnclaimedBy (u : Time) (s : Backups) : Prop :=
  ∃ since, s.status.unclaimedSince = some since ∧ since ≤ u

theorem uncounted_attempt {a b : Backups} {e : BackupEvent} (hstep : BackupStep a e b)
    (hv : recordedVerdict ⟨a, e, b⟩ = some .unclaimed) :
    (∀ t ∈ a.clock, t < e.now) ∧
      b.status.unclaimedSince = some (a.status.unclaimedSince.getD e.now) ∧
      e.now - a.status.unclaimedSince.getD e.now < minutes 5 := by
  cases hstep with
  | decide _ _ => cases recordedVerdict_decide.symm.trans hv
  | @finish job result now hrun hclock =>
      have hverdict := Option.some.inj ((recordedVerdict_finish hrun).symm.trans hv)
      have happ := applyBackupResult_applied a.status job result now
      rw [hverdict] at happ
      refine ⟨hclock, ?_⟩
      show (applyBackupResult a.status job result now).unclaimedSince = _ ∧ _
      generalize applyBackupResult a.status job result now = st at happ
      cases happ with
      | unclaimed _ _ hbound => exact ⟨rfl, hbound⟩

theorem UnclaimedBy.attempt {past : List (Transition Backups BackupEvent)} {a b : Backups}
    {e : BackupEvent} (hcounted : Counted past a) (hstep : BackupStep a e b)
    (hv : recordedVerdict ⟨a, e, b⟩ = some .unclaimed) : UnclaimedBy e.now b := by
  obtain ⟨hclock, hleft, _⟩ := uncounted_attempt hstep hv
  refine ⟨_, hleft, ?_⟩
  cases hold : a.status.unclaimedSince with
  | none => exact le_refl _
  | some since =>
      obtain ⟨c, hc, hle⟩ := hcounted.since since hold
      exact hle.trans (hclock c hc).le

/-- The time of the first attempt stands while the attempts do not count. -/
theorem UnclaimedBy.step {u : Time} {a b : Backups} {e : BackupEvent} (h : UnclaimedBy u a)
    (hkept : ∀ v, recordedVerdict ⟨a, e, b⟩ = some v → v = .unclaimed) (hstep : BackupStep a e b) :
    UnclaimedBy u b := by
  obtain ⟨since, hsince, hle⟩ := h
  cases hv : recordedVerdict ⟨a, e, b⟩ with
  | none =>
      cases hstep with
      | decide _ _ => exact ⟨since, hsince, hle⟩
      | finish hrun _ => cases (recordedVerdict_finish hrun).symm.trans hv
  | some v =>
      obtain rfl := hkept v hv
      obtain ⟨_, hleft, _⟩ := uncounted_attempt hstep hv
      rw [hsince] at hleft
      exact ⟨since, hleft, hle⟩

/-- An attempt that does not count comes soon after the first one. -/
theorem UnclaimedBy.within {u : Time} {a b : Backups} {e : BackupEvent} (h : UnclaimedBy u a)
    (hstep : BackupStep a e b) (hv : recordedVerdict ⟨a, e, b⟩ = some .unclaimed) :
    e.now - u < minutes 5 := by
  obtain ⟨since, hsince, hle⟩ := h
  obtain ⟨_, _, hbound⟩ := uncounted_attempt hstep hv
  rw [hsince] at hbound
  exact lt_of_le_of_lt (Int.sub_le_sub_left hle e.now) hbound

/-! ## Over every run -/

/-- At no point `2 ^ 31` failures in a row, which the counter does not hold. -/
def FewFailures (ts : List (Transition Backups BackupEvent)) : Prop :=
  ∀ pre post, ts = pre ++ post → streak pre < 2 ^ 31

theorem FewFailures.left {ts ts' : List (Transition Backups BackupEvent)}
    (h : FewFailures (ts ++ ts')) : FewFailures ts := by
  rintro pre post rfl
  exact h pre (post ++ ts') (List.append_assoc ..)

theorem FewFailures.of_length {ts : List (Transition Backups BackupEvent)}
    (h : ts.length < 2 ^ 31) : FewFailures ts := by
  rintro pre post rfl
  rw [List.length_append] at h
  exact lt_of_le_of_lt (streak_le_length pre) (lt_of_le_of_lt (Nat.le_add_right _ _) h)

theorem run_counted {s : Backups} {ts : List (Transition Backups BackupEvent)}
    (hrun : Run BackupStep {} ts s) (hfew : FewFailures ts) : Counted ts s := by
  refine Run.history (I := fun past s => FewFailures past → Counted past s) ?_ hrun []
    (fun _ => counted_init) hfew
  intro past a e b hpast hstep hfew
  exact (hpast hfew.left).step hstep (hfew _ [] (List.append_nil _).symm)

theorem start_after_result {past : List (Transition Backups BackupEvent)} {a b : Backups}
    {e : BackupEvent} (hcounted : Counted past a) (hstep : BackupStep a e b)
    (hfew : streak (past ++ [⟨a, e, b⟩]) < 2 ^ 31) :
    (recordedVerdict ⟨a, e, b⟩ = some .failure →
      HeldUntil (e.now + minutes (min (2 ^ streak past) 30)) b) ∧
    (recordedVerdict ⟨a, e, b⟩ = some .unclaimed → HeldUntil (e.now + seconds 15) b) := by
  cases e with
  | decide full incremental now =>
      rw [recordedVerdict_decide]
      exact ⟨fun hv => absurd hv (by decide), fun hv => absurd hv (by decide)⟩
  | finish result now =>
      obtain ⟨job, hrun, _, _, _, happ⟩ := hstep.finish_inv
      rw [streak_snoc, recordedVerdict_finish hrun] at hfew
      obtain ⟨hfailure, hunclaimed⟩ := happ.retryAt hcounted.streak hfew
      rw [recordedVerdict_finish hrun]
      exact ⟨fun hv => held_after_result hstep (hfailure (Option.some.inj hv)),
        fun hv => held_after_result hstep (hunclaimed (Option.some.inj hv))⟩

/-- Over every run from an empty status with fewer than `2 ^ 31` failures in a row.
The counters and their times go together.  After the `k`-th failure in a row no
job starts for `min (2 ^ (k - 1)) 30` minutes, after an attempt no node took and
that did not count for 15 seconds.  Attempts no node took, with no other result
between them, that span five minutes contain one that counted. -/
theorem retries_spaced {s : Backups} {ts : List (Transition Backups BackupEvent)}
    (hrun : Run BackupStep {} ts s) (hfew : FewFailures ts) :
    Regular s.status ∧
    (∀ pre t mid u post, ts = pre ++ t :: (mid ++ u :: post) → ∀ job, Starts u job →
      (recordedVerdict t = some .failure → ∀ k, streak (pre ++ [t]) = k →
        1 ≤ k ∧ t.event.now + minutes (min (2 ^ (k - 1)) 30) ≤ u.event.now) ∧
      (recordedVerdict t = some .unclaimed → t.event.now + seconds 15 ≤ u.event.now)) ∧
    ∀ pre u mid v post, ts = pre ++ u :: (mid ++ v :: post) → Unclaims u → Unclaims v →
      (∀ w ∈ mid, ∀ job result, Records w job result → Unclaims w) →
      minutes 5 ≤ v.event.now - u.event.now →
      ∃ w ∈ u :: (mid ++ [v]), recordedVerdict w = some .failure := by
  refine ⟨(run_counted hrun hfew).regular, ?_, ?_⟩
  · rintro pre t mid u post rfl job hstart
    obtain ⟨hpre, hstep, hrest⟩ := Run.split hrun
    obtain ⟨_, hustep, _⟩ := Run.split hrest
    have hcounted := run_counted hpre hfew.left
    obtain ⟨hfailure, hunclaimed⟩ :=
      start_after_result hcounted hstep (hfew (pre ++ [t]) (mid ++ u :: post) (by simp))
    have hwait : ∀ r, HeldUntil r t.after → r ≤ u.event.now := by
      intro r hheld
      have hbefore := Run.window (C := fun _ => True) (fun hj _ hs => HeldUntil.step hj hs) hrun
        hheld (fun _ _ => trivial)
      exact hbefore.start hustep hstart
    refine ⟨?_, fun hv => hwait _ (hunclaimed hv)⟩
    rintro hv k rfl
    have hcount : streak (pre ++ [t]) = streak pre + 1 := by
      rw [streak_snoc, hv]
      rfl
    rw [hcount]
    exact ⟨Nat.le_add_left 1 _, hwait _ (hfailure hv)⟩
  · rintro pre u mid v post rfl hu hv hmid hspan
    by_contra hnone
    have hkept : ∀ w ∈ u :: (mid ++ [v]), Unclaims w → recordedVerdict w = some .unclaimed := by
      intro w hw hun
      rcases hun.verdict with h | h
      · exact h
      · exact absurd ⟨w, hw, h⟩ hnone
    obtain ⟨hpre, hstep, hrest⟩ := Run.split hrun
    obtain ⟨_, hvstep, _⟩ := Run.split hrest
    have hfirst : UnclaimedBy u.event.now u.after :=
      UnclaimedBy.attempt (run_counted hpre hfew.left) hstep (hkept u List.mem_cons_self hu)
    have hlast : UnclaimedBy u.event.now v.before := by
      refine Run.window (C := fun w => ∀ x, recordedVerdict w = some x → x = .unclaimed)
        (fun hj hc hs => hj.step hc hs) hrun hfirst ?_
      intro w hw x hx
      obtain ⟨job, result, hrec⟩ := records_of_recordedVerdict hx
      have hwv := hkept w (List.mem_cons_of_mem _ (List.mem_append_left _ hw))
        (hmid w hw job result hrec)
      exact Option.some.inj (hx.symm.trans hwv)
    have hsoon := hlast.within hvstep (hkept v (by simp) hv)
    exact absurd hspan (not_le.mpr hsoon)

/-! ### Attempts no node takes -/

def lockedOut : BackupFailure := .unclaimed ["kahuna-0: another backup holds the lock"]

def firstUnclaimed : Backups := firstStarted.finished firstJob (.error lockedOut) (minutes 1)

def againStarted : Backups := firstUnclaimed.decided (onceAt (minutes 100)) none (minutes 2)

def againJob : BackupJob := { kind := .full, scheduled := minutes 2, parent := "" }

def againUnclaimed : Backups := againStarted.finished againJob (.error lockedOut) (minutes 7)

def thirdTry : Backups := againUnclaimed.decided (onceAt (minutes 100)) none (minutes 8)

def lockedOutRun : List (Transition Backups BackupEvent) :=
  [⟨{}, .decide (onceAt (minutes 100)) none 0, firstStarted⟩,
    ⟨firstStarted, .finish (.error lockedOut) (minutes 1), firstUnclaimed⟩,
    ⟨firstUnclaimed, .decide (onceAt (minutes 100)) none (minutes 2), againStarted⟩,
    ⟨againStarted, .finish (.error lockedOut) (minutes 7), againUnclaimed⟩,
    ⟨againUnclaimed, .decide (onceAt (minutes 100)) none (minutes 8), thirdTry⟩]

theorem lockedOutRun_run : Run BackupStep {} lockedOutRun thirdTry := by
  refine .cons (.decide rfl ?_)
    (.cons (@BackupStep.finish firstStarted firstJob _ _ rfl ?_)
      (.cons (.decide rfl ?_)
        (.cons (@BackupStep.finish againStarted againJob _ _ rfl ?_)
          (.cons (.decide rfl ?_) (.nil _)))))
  · rintro t ⟨⟩
  all_goals
    rintro t ⟨⟩
    decide

/-- The second attempt, six minutes after the first, counts; the third waits for
a minute more. -/
theorem locked_out_counts :
    (∃ w ∈ lockedOutRun, recordedVerdict w = some .failure) ∧
      Regular thirdTry.status ∧ minutes 7 + minutes (min (2 ^ 0) 30) ≤ minutes 8 := by
  obtain ⟨hregular, hspaced, hcounted⟩ :=
    retries_spaced lockedOutRun_run (FewFailures.of_length (by decide))
  have hbetween : ∀ w ∈ [(⟨firstUnclaimed, .decide (onceAt (minutes 100)) none (minutes 2),
      againStarted⟩ : Transition Backups BackupEvent)], ∀ job result, Records w job result →
      Unclaims w := by
    intro w hw job result hrec
    cases List.mem_singleton.mp hw
    exact absurd hrec not_records_decide
  obtain ⟨w, hw, hv⟩ := hcounted (lockedOutRun.take 1) _ _ _ (lockedOutRun.drop 4) rfl
    ⟨firstJob, lockedOut, ⟨rfl, _, rfl⟩, rfl⟩ ⟨againJob, lockedOut, ⟨rfl, _, rfl⟩, rfl⟩
    hbetween (by decide)
  have hthird : Starts ⟨againUnclaimed, .decide (onceAt (minutes 100)) none (minutes 8), thirdTry⟩
      { kind := .full, scheduled := minutes 8, parent := "" } := ⟨rfl, rfl⟩
  exact ⟨⟨w, List.mem_cons_of_mem _ (List.mem_append_left _ hw), hv⟩, hregular,
    ((hspaced (lockedOutRun.take 3) _ [] _ [] rfl _ hthird).1 rfl 1 rfl).2⟩

end KahunaOperator
