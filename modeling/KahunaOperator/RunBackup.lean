/-
# `KahunaOperator.RunBackup` — which nodes are asked for a backup, and what comes of it

`runBackup` of `internal/controller/backup.go` sends a backup to one node after the
other.  A request ends the loop when it succeeds, or is refused for a reason that
any other node would repeat; a refusal that another node may not repeat, and a
node that cannot be reached, do not.

    asked     the targets up to and including the first whose request ends the loop,
              all of them if there is none
    result    what that request came to; if there is none, unclaimed when every node
              refused for a reason that clears on retry, and a plain error otherwise

The loop carries the texts of the refusals and one flag.  `runFrom_skip` says what
it carries past requests that do not end it, and `run_backup_exact` follows from
the two ways the list can go on from there.
-/
import KahunaOperator.BackupPass

namespace KahunaOperator

/-! ## Refusals -/

/-- The outcome a server names.  Those the operator does not act on keep their
name. -/
def BackupOutcome.ofName (name : String) : BackupOutcome :=
  if name = "NotBackupCoordinator" then .notBackupCoordinator
  else if name = "RetryableLeadershipLoss" then .retryableLeadershipLoss
  else if name = "CutUnverified" then .cutUnverified
  else if name = "NotConfigured" then .notConfigured
  else if name = "ParentMissing" then .parentMissing
  else if name = "TopologyChanged" then .topologyChanged
  else if name = "PartitionCaptureFailed" then .partitionCaptureFailed
  else .other name

/-- A backup request the server refused, with the outcome as it named it. -/
structure BackupError where
  statusCode : Nat
  outcome : String
  detail : String := ""
deriving DecidableEq, Repr

namespace BackupError

def message (e : BackupError) : String :=
  if e.detail = "" then
    "backup refused with HTTP " ++ toString e.statusCode ++ " (" ++ e.outcome ++ ")"
  else
    "backup refused with HTTP " ++ toString e.statusCode ++ " (" ++ e.outcome ++ "): " ++ e.detail

/-- A different node can still take the backup now. -/
def tryAnotherNode (e : BackupError) : Bool :=
  match BackupOutcome.ofName e.outcome with
  | .notBackupCoordinator | .retryableLeadershipLoss | .cutUnverified | .notConfigured
  | .topologyChanged | .partitionCaptureFailed => true
  | .parentMissing | .other _ => false

/-- The same request can succeed later with nothing changed. -/
def clearsOnRetry (e : BackupError) : Bool :=
  match BackupOutcome.ofName e.outcome with
  | .notBackupCoordinator | .retryableLeadershipLoss | .cutUnverified | .topologyChanged
  | .partitionCaptureFailed => true
  | .notConfigured | .parentMissing | .other _ => false

theorem not_tryAnotherNode_parentMissing {e : BackupError} (h : e.outcome = "ParentMissing") :
    e.tryAnotherNode = false := by
  unfold tryAnotherNode
  rw [h]
  rfl

end BackupError

/-- How a request fails: with a typed refusal in its chain of errors, or without. -/
inductive RequestError where
  | refused (e : BackupError)
  | transport (text : String)
deriving DecidableEq, Repr

namespace RequestError

def message : RequestError → String
  | refused e => e.message
  | transport text => text

/-- The outcome of the refusal, which `errors.As` finds through every wrapping. -/
def refusal : RequestError → Option BackupOutcome
  | refused e => some (BackupOutcome.ofName e.outcome)
  | transport _ => none

end RequestError

/-! ## The loop -/

/-- The two requests of the client, by the number of requests sent before, and
whether the context has expired when the answer is there. -/
structure BackupClient where
  takeCoordinatedBackup : Nat → String → Except RequestError BackupInfo
  takeIncrementalBackup : Nat → String → String → Except RequestError BackupInfo
  ctxErr : Nat → Bool

structure BackupRequest where
  target : BackupTarget
  answer : Except RequestError BackupInfo
  expired : Bool := false

def BackupClient.requests (c : BackupClient) (kind : BackupKind) (parent : String)
    (targets : List BackupTarget) : List BackupRequest :=
  targets.mapIdx fun n t =>
    { target := t
      answer := match kind with
        | .full => c.takeCoordinatedBackup n t.url
        | .incremental => c.takeIncrementalBackup n t.url parent
      expired := c.ctxErr n }

theorem BackupClient.requests_targets (c : BackupClient) (kind : BackupKind) (parent : String)
    (targets : List BackupTarget) : (c.requests kind parent targets).map (·.target) = targets := by
  unfold BackupClient.requests
  exact List.ext_getElem (by simp) (by simp)

/-- The loop, from the refusals and the flag it has, with the nodes it asks. -/
def runFrom (refusals : List String) (clears : Bool) :
    List BackupRequest → BackupResult × List BackupTarget
  | [] =>
      if refusals.length = 0 then
        (.error (.failed "no ready node to send the backup to" none), [])
      else if clears then (.error (.unclaimed refusals), [])
      else (.error (.failed ("no node took the backup: " ++ "; ".intercalate refusals) none), [])
  | r :: rest =>
      match r.answer with
      | .ok info => (.ok info, [r.target])
      | .error e =>
          if r.expired then
            (.error (.failed (r.target.pod ++ " did not finish the backup before the timeout: " ++
              e.message) e.refusal), [r.target])
          else
            let refused := match e with
              | .refused be => !be.tryAnotherNode
              | .transport _ => false
            if refused then
              (.error (.failed (r.target.pod ++ ": " ++ e.message) e.refusal), [r.target])
            else
              let clears := clears && match e with
                | .refused be => be.clearsOnRetry
                | .transport _ => false
              let after := runFrom (refusals ++ [r.target.pod ++ ": " ++ e.message]) clears rest
              (after.1, r.target :: after.2)

/-- Send the backup to each node in turn until one takes it. -/
def runBackup (c : BackupClient) (kind : BackupKind) (parent : String)
    (targets : List BackupTarget) : BackupResult × List BackupTarget :=
  runFrom [] true (c.requests kind parent targets)

/-! ### What a request is to the loop -/

namespace BackupRequest

/-- The request succeeds, or is refused as any other node would refuse it. -/
def ends (r : BackupRequest) : Bool :=
  match r.answer with
  | .ok _ => true
  | .error (.refused e) => !e.tryAnotherNode
  | .error (.transport _) => false

def result (r : BackupRequest) : BackupResult :=
  match r.answer with
  | .ok info => .ok info
  | .error e => .error (.failed (r.target.pod ++ ": " ++ e.message) e.refusal)

def clears (r : BackupRequest) : Bool :=
  match r.answer with
  | .error (.refused e) => e.clearsOnRetry
  | _ => false

def refusalText (r : BackupRequest) : String :=
  match r.answer with
  | .ok _ => ""
  | .error e => r.target.pod ++ ": " ++ e.message

end BackupRequest

section Loop
variable {refusals : List String} {clears : Bool} {r : BackupRequest}

theorem runFrom_ends (rest : List BackupRequest) (hlive : r.expired = false)
    (hends : r.ends = true) : runFrom refusals clears (r :: rest) = (r.result, [r.target]) := by
  unfold BackupRequest.ends at hends
  unfold runFrom BackupRequest.result
  cases hanswer : r.answer with
  | ok info => rfl
  | error e =>
      cases e with
      | transport text => simp [hanswer] at hends
      | refused be =>
          have hrefused : (!be.tryAnotherNode) = true := by simpa [hanswer] using hends
          simp [hlive, hrefused]

theorem runFrom_goes_on (rest : List BackupRequest) (hlive : r.expired = false)
    (hends : r.ends = false) :
    runFrom refusals clears (r :: rest) =
      ((runFrom (refusals ++ [r.refusalText]) (clears && r.clears) rest).1,
        r.target :: (runFrom (refusals ++ [r.refusalText]) (clears && r.clears) rest).2) := by
  unfold BackupRequest.ends at hends
  rw [runFrom, BackupRequest.refusalText, BackupRequest.clears]
  cases hanswer : r.answer with
  | ok info => simp [hanswer] at hends
  | error e =>
      cases e with
      | transport text => simp [hlive]
      | refused be =>
          have hrefused : (!be.tryAnotherNode) = false := by simpa [hanswer] using hends
          simp [hlive, hrefused]

end Loop

/-! ## What the loop asks and returns -/

theorem runFrom_skip {pre : List BackupRequest} (rest : List BackupRequest)
    (hlive : ∀ r ∈ pre, r.expired = false) (hpre : ∀ r ∈ pre, r.ends = false)
    (refusals : List String) (clears : Bool) :
    runFrom refusals clears (pre ++ rest) =
      ((runFrom (refusals ++ pre.map (·.refusalText)) (clears && pre.all (·.clears)) rest).1,
        pre.map (·.target) ++
          (runFrom (refusals ++ pre.map (·.refusalText)) (clears && pre.all (·.clears))
            rest).2) := by
  induction pre generalizing refusals clears with
  | nil => simp
  | cons r pre ih =>
      have hlive' : ∀ x ∈ pre, x.expired = false := fun x hx => hlive x (List.mem_cons_of_mem _ hx)
      have hpre' : ∀ x ∈ pre, x.ends = false := fun x hx => hpre x (List.mem_cons_of_mem _ hx)
      rw [List.cons_append, runFrom_goes_on _ (hlive r List.mem_cons_self)
        (hpre r List.mem_cons_self), ih hlive' hpre']
      simp only [List.map_cons, List.all_cons, List.append_assoc, List.cons_append, List.nil_append,
        Bool.and_assoc]

section Exact
variable {requests pre post : List BackupRequest} {r : BackupRequest}

theorem runFrom_ended (hlive : ∀ x ∈ requests, x.expired = false)
    (hsplit : requests = pre ++ r :: post) (hpre : ∀ x ∈ pre, x.ends = false)
    (hends : r.ends = true) :
    runFrom [] true requests = (r.result, (pre ++ [r]).map (·.target)) := by
  subst hsplit
  have hlive' : ∀ x ∈ pre, x.expired = false := fun x hx => hlive x (List.mem_append_left _ hx)
  have hr : r.expired = false := hlive r (by simp)
  rw [runFrom_skip _ hlive' hpre, runFrom_ends post hr hends, List.map_append]
  rfl

theorem runFrom_refused (hlive : ∀ x ∈ requests, x.expired = false)
    (hall : ∀ x ∈ requests, x.ends = false) :
    runFrom [] true requests =
      ((runFrom (requests.map (·.refusalText)) (requests.all (·.clears)) []).1,
        requests.map (·.target)) := by
  have hskip := runFrom_skip [] hlive hall [] true
  rw [List.append_nil, List.nil_append, Bool.true_and] at hskip
  have hasked : ∀ texts flag, (runFrom texts flag []).2 = [] := by
    intro texts flag
    unfold runFrom
    split_ifs <;> rfl
  rw [hskip, hasked, List.append_nil]

/-- The result of a loop no request ended. -/
theorem runFrom_nil (texts : List String) (flag : Bool) :
    (texts ≠ [] ∧ flag = true ∧ (runFrom texts flag []).1 = .error (.unclaimed texts)) ∨
      (¬ (texts ≠ [] ∧ flag = true) ∧
        ∃ text, (runFrom texts flag []).1 = .error (.failed text none)) := by
  unfold runFrom
  by_cases hempty : texts.length = 0
  · have hnil : texts = [] := List.eq_nil_of_length_eq_zero hempty
    simp [hnil]
  · have hne : texts ≠ [] := fun hnil => hempty (by rw [hnil]; rfl)
    cases flag with
    | true => simp [hne]
    | false => simp [hne]

/-- It is unclaimed exactly when there are nodes and all of them refuse for a reason
that clears on retry, and a plain error otherwise. -/
theorem runFrom_classified (hlive : ∀ x ∈ requests, x.expired = false)
    (hall : ∀ x ∈ requests, x.ends = false) :
    ((∃ texts, (runFrom [] true requests).1 = .error (.unclaimed texts)) ↔
        requests ≠ [] ∧ ∀ x ∈ requests, x.clears = true) ∧
      (¬ (requests ≠ [] ∧ ∀ x ∈ requests, x.clears = true) →
        ∃ text, (runFrom [] true requests).1 = .error (.failed text none)) := by
  have hcond : (requests.map (·.refusalText) ≠ [] ∧ requests.all (·.clears) = true) ↔
      requests ≠ [] ∧ ∀ x ∈ requests, x.clears = true := by
    rw [Ne, List.map_eq_nil_iff, List.all_eq_true]
  rw [runFrom_refused hlive hall, ← hcond]
  rcases runFrom_nil (requests.map (·.refusalText)) (requests.all (·.clears)) with
    ⟨hne, hclears, hresult⟩ | ⟨hnot, text, hresult⟩
  · refine ⟨iff_of_true ⟨_, hresult⟩ ⟨hne, hclears⟩, ?_⟩
    intro hnot
    exact absurd ⟨hne, hclears⟩ hnot
  · refine ⟨iff_of_false ?_ hnot, fun _ => ⟨text, hresult⟩⟩
    rintro ⟨texts, hunclaimed⟩
    cases hresult.symm.trans hunclaimed

theorem ends_of_success {info : BackupInfo} (h : r.answer = .ok info) : r.ends = true := by
  unfold BackupRequest.ends
  rw [h]

theorem runFrom_success_last (hlive : ∀ x ∈ requests, x.expired = false) {info : BackupInfo}
    (hsplit : requests = pre ++ r :: post) (hok : r.answer = .ok info) :
    (runFrom [] true requests).2.length ≤ pre.length + 1 := by
  have hsome : ((pre ++ [r]).find? (·.ends)).isSome = true := by
    rw [List.find?_isSome]
    exact ⟨r, by simp, ends_of_success hok⟩
  obtain ⟨first, hfirst⟩ := Option.isSome_iff_exists.mp hsome
  obtain ⟨hends, before, between, heq, hbefore⟩ := List.find?_eq_some_iff_append.mp hfirst
  have hsplit' : requests = before ++ first :: (between ++ post) := by
    rw [hsplit, ← List.cons_append, ← List.append_assoc, ← heq, List.append_assoc]
    rfl
  have hnot : ∀ x ∈ before, x.ends = false := by
    intro x hx
    simpa using hbefore x hx
  have hlength : (pre ++ [r]).length = (before ++ first :: between).length := by rw [heq]
  rw [runFrom_ended hlive hsplit' hnot hends]
  simp only [List.length_append, List.length_cons, List.length_nil, List.length_map] at hlength ⊢
  omega

/-- A parent that is missing ends the loop, with an error that says so. -/
theorem runFrom_parentMissing (hlive : ∀ x ∈ requests, x.expired = false) {e : BackupError}
    (hsplit : requests = pre ++ r :: post) (hpre : ∀ x ∈ pre, x.ends = false)
    (hanswer : r.answer = .error (.refused e)) (hmissing : e.outcome = "ParentMissing") :
    ∃ failure, (runFrom [] true requests).1 = .error failure ∧ failure.isUnclaimed = false ∧
      failure.parentMissing = true := by
  have hends : r.ends = true := by
    unfold BackupRequest.ends
    rw [hanswer]
    simp only [BackupError.not_tryAnotherNode_parentMissing hmissing, Bool.not_false]
  rw [runFrom_ended hlive hsplit hpre hends]
  refine ⟨.failed (r.target.pod ++ ": " ++ e.message) (some .parentMissing), ?_, rfl, rfl⟩
  simp only [BackupRequest.result, hanswer, RequestError.message, RequestError.refusal, hmissing]
  rfl

/-- For every list of targets and every assignment of answers, while the context does
not expire: the nodes asked and the result, with a first request that ends the loop
and without; no request follows a success; and a parent that is missing reaches
`applyBackupResult`, which starts a new chain. -/
theorem run_backup_exact {c : BackupClient} {kind : BackupKind} {parent : String}
    {targets : List BackupTarget} (hrequests : c.requests kind parent targets = requests)
    (hlive : ∀ x ∈ requests, x.expired = false) :
    (∀ pre r post, requests = pre ++ r :: post → (∀ x ∈ pre, x.ends = false) → r.ends = true →
        (runBackup c kind parent targets).2 = targets.take (pre.length + 1) ∧
          (runBackup c kind parent targets).1 = r.result) ∧
      ((∀ x ∈ requests, x.ends = false) →
        (runBackup c kind parent targets).2 = targets ∧
          ((∃ texts, (runBackup c kind parent targets).1 = .error (.unclaimed texts)) ↔
            requests ≠ [] ∧ ∀ x ∈ requests, x.clears = true) ∧
          (¬ (requests ≠ [] ∧ ∀ x ∈ requests, x.clears = true) →
            ∃ text, (runBackup c kind parent targets).1 = .error (.failed text none))) ∧
      (∀ pre r post info, requests = pre ++ r :: post → r.answer = .ok info →
        (runBackup c kind parent targets).2.length ≤ pre.length + 1) ∧
      (∀ pre r post e, requests = pre ++ r :: post → (∀ x ∈ pre, x.ends = false) →
        r.answer = .error (.refused e) → e.outcome = "ParentMissing" →
        ∀ st job now, job.kind = .incremental →
          verdict st job (runBackup c kind parent targets).1 now = .newChain ∧
            (applyBackupResult st job (runBackup c kind parent targets).1 now).lastFullScheduleTime
              = none) := by
  have htargets := c.requests_targets kind parent targets
  rw [hrequests] at htargets
  unfold runBackup
  rw [hrequests]
  refine ⟨?_, ?_, ?_, ?_⟩
  · intro pre r post hsplit hpre hends
    rw [runFrom_ended hlive hsplit hpre hends, ← htargets, hsplit]
    refine ⟨?_, rfl⟩
    rw [← List.map_take, List.take_append, List.take_of_length_le (Nat.le_succ _),
      Nat.add_sub_cancel_left]
    rfl
  · intro hall
    refine ⟨?_, runFrom_classified hlive hall⟩
    rw [runFrom_refused hlive hall, htargets]
  · intro pre r post info hsplit hok
    exact runFrom_success_last hlive hsplit hok
  · intro pre r post e hsplit hpre hanswer hmissing st job now hkind
    obtain ⟨failure, hresult, hclaimed, hparent⟩ :=
      runFrom_parentMissing hlive hsplit hpre hanswer hmissing
    have hverdict : verdict st job (.error failure) now = .newChain := by
      simp [verdict, hclaimed, hparent, hkind]
    have happlied := applyBackupResult_applied st job (.error failure) now
    rw [hverdict] at happlied
    rw [hresult]
    refine ⟨hverdict, ?_⟩
    generalize applyBackupResult st job (.error failure) now = after at happlied
    cases happlied with
    | newChain _ _ => rfl

end Exact

/-! ## Three nodes -/

/-- The first node does not lead, the others do not find the parent. -/
def orphanedClient : BackupClient :=
  { takeCoordinatedBackup := fun _ _ => .error (.transport "connection refused")
    takeIncrementalBackup := fun n _ _ => .error (.refused
      { statusCode := 409
        outcome := if n = 0 then "NotBackupCoordinator" else "ParentMissing" })
    ctxErr := fun _ => false }

def threeTargets : List BackupTarget :=
  [{ pod := "kahuna-0", url := "http://10.0.0.1:2070" },
    { pod := "kahuna-1", url := "http://10.0.0.2:2070" },
    { pod := "kahuna-2", url := "http://10.0.0.3:2070" }]

/-- The third is not asked, and the next backup starts a new chain. -/
theorem missing_parent_stops :
    (runBackup orphanedClient .incremental "full-1" threeTargets).2 = threeTargets.take 2 ∧
      verdict {} { kind := .incremental, scheduled := 0, parent := "full-1" }
        (runBackup orphanedClient .incremental "full-1" threeTargets).1 0 = .newChain := by
  have hrequests : orphanedClient.requests .incremental "full-1" threeTargets = _ := rfl
  obtain ⟨hended, _, _, hmissing⟩ := run_backup_exact hrequests (by decide)
  exact ⟨(hended [_] _ _ rfl (by decide) (by decide)).1,
    (hmissing [_] _ _ _ rfl (by decide) rfl rfl _ _ _ rfl).1⟩

end KahunaOperator
