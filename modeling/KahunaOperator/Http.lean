/-
# `KahunaOperator.Http` — from HTTP responses to the answers a pass acts on

`HTTPClient` of `internal/kahuna/client.go`.  `Client` gives a pass one answer a
question; here each answer is computed from a status code, a header and the bytes
of a body, of which at most 2^20 are read.  The documents are decoded by
`json.Unmarshal`, which stays a parameter (`Codec`): what it leaves in the value,
and its error.

Three rules are not the same for every request.

    a read       counts with status 200 and a body that decodes; an undecodable body
                 of another status is left to the status
    a leave      counts with a body that decodes and names an outcome, whatever the
                 status
    a backup     is taken with status 200, a body that decodes and an id; every other
                 status is a refusal, named by the header before the body

So what a pass may do is a statement about responses: a bootstrapped cluster changes
its size only on a decoded 200 with the exact roster, a decoded 200 or a 404 for the
placement, and, to lose a node, a decoded answer of that very node
                                                         (`size_moves_on_responses`).
-/
import KahunaOperator.RunBackup
import KahunaOperator.Scale

namespace KahunaOperator

open Lib (Run)

/-! ## Requests and responses -/

inductive Method where
  | get
  | post
deriving DecidableEq, Repr

structure HttpRequest where
  method : Method
  url : String
  body : Option (List UInt8) := none
deriving DecidableEq, Repr

/-- A response: its status, the header `X-Kahuna-Backup-Outcome` (empty when it is
not there), and the bytes of its body or the error reading them. -/
structure HttpResponse where
  statusCode : Nat
  outcomeHeader : String := ""
  body : Except String (List UInt8)

/-- What comes of a request: a response, or the error of making or sending it. -/
abbrev Transport := HttpRequest → Except String HttpResponse

/-- What `json.Unmarshal` leaves in a value, and its error. -/
structure Decoded (α : Type) where
  value : α
  err : Option String := none

structure LeaveDocument where
  outcome : String
  retryable : Bool := false
  reason : String := ""
deriving DecidableEq, Repr

structure BackupProblem where
  detail : String := ""
  outcome : String := ""
deriving DecidableEq, Repr

/-- The decoders, and the encoder of the one request that has a body. -/
structure Codec where
  membership : List UInt8 → Decoded Membership
  placement : List UInt8 → Decoded Placement
  metrics : List UInt8 → Decoded Metrics
  leave : List UInt8 → Decoded LeaveDocument
  problem : List UInt8 → Decoded BackupProblem
  backupInfo : List UInt8 → Decoded BackupInfo
  parentBackup : String → List UInt8

def bodyLimit : Nat := 2 ^ 20

def exchange (t : Transport) (req : HttpRequest) :
    Except String (HttpResponse × List UInt8) :=
  match t req with
  | .error e => .error e
  | .ok resp =>
      match resp.body with
      | .error e => .error e
      | .ok bytes => .ok (resp, bytes.take bodyLimit)

namespace HTTPClient

/-! ## The calls -/

def get {α : Type} (t : Transport) (url : String) (decode : List UInt8 → Decoded α) :
    Except KahunaError (Nat × α) :=
  match exchange t { method := .get, url := url } with
  | .error e => .error (.other e)
  | .ok (resp, body) =>
      match (decode body).err with
      | none => .ok (resp.statusCode, (decode body).value)
      | some e =>
          if resp.statusCode ≠ 200 then .ok (resp.statusCode, (decode body).value)
          else .error (.other ("decoding " ++ url ++ " (status " ++ toString resp.statusCode ++
            "): " ++ e))

/-- The placement, from the outcome of its request. -/
def placement (answer : Except KahunaError (Nat × Placement)) : Except KahunaError Placement :=
  match answer with
  | .error e => .error e
  | .ok (code, p) =>
      if code = 200 then .ok p
      else if code = 404 then .error .placementUnsupported
      else .error (.other ("placement query returned HTTP " ++ toString code))

def metrics (answer : Except KahunaError (Nat × Metrics)) : Except KahunaError Metrics :=
  match answer with
  | .error e => .error e
  | .ok (code, m) =>
      if code ≠ 200 then .error (.other ("metrics query returned HTTP " ++ toString code))
      else .ok m

end HTTPClient

def LeaveOutcome.ofName (name : String) : LeaveOutcome :=
  if name = "Committed" then .committed
  else if name = "NotAMember" then .notAMember
  else if name = "RefusedInsufficientVoters" then .refusedInsufficientVoters
  else .other name

/-- Only the two names of a removal are read as one. -/
theorem LeaveOutcome.ofName_removed {name : String} :
    (LeaveOutcome.ofName name = .committed ∨ LeaveOutcome.ofName name = .notAMember) ↔
      name = "Committed" ∨ name = "NotAMember" := by
  unfold LeaveOutcome.ofName
  split_ifs <;> simp_all

namespace HTTPClient

/-- Ask a node to leave.  The status is not consulted. -/
def leave (t : Transport) (codec : Codec) (baseURL : String) : Except KahunaError LeaveResult :=
  match exchange t { method := .post, url := baseURL ++ "/v1/cluster/leave" } with
  | .error e => .error (.other e)
  | .ok (resp, body) =>
      match (codec.leave body).err with
      | some e =>
          .error (.other ("decoding leave response (status " ++ toString resp.statusCode ++
            "): " ++ e))
      | none =>
          if (codec.leave body).value.outcome = "" then
            .error (.other ("leave returned HTTP " ++ toString resp.statusCode ++
              " with no outcome"))
          else
            .ok
              { outcome := .ofName (codec.leave body).value.outcome
                retryable := (codec.leave body).value.retryable
                reason := (codec.leave body).value.reason }

def postBackup (t : Transport) (codec : Codec) (url : String) (body : Option (List UInt8)) :
    Except RequestError BackupInfo :=
  match exchange t { method := .post, url := url, body := body } with
  | .error e => .error (.transport e)
  | .ok (resp, raw) =>
      if resp.statusCode ≠ 200 then
        -- what the body leaves in the problem counts, also when it does not decode
        let problem := (codec.problem raw).value
        let outcome :=
          if resp.outcomeHeader = "" then problem.outcome else resp.outcomeHeader
        .error (.refused
          { statusCode := resp.statusCode, outcome := outcome, detail := problem.detail })
      else
        match (codec.backupInfo raw).err with
        | some e => .error (.transport ("decoding backup response: " ++ e))
        | none =>
            if (codec.backupInfo raw).value.backupID = "" then
              .error (.transport "backup response carries no backup id")
            else .ok (codec.backupInfo raw).value

end HTTPClient

def httpClient (t : Transport) (codec : Codec) : Client where
  membership baseURL :=
    HTTPClient.membership
      (HTTPClient.get t (baseURL ++ "/v1/cluster/membership") codec.membership)
  leave baseURL := HTTPClient.leave t codec baseURL
  placement baseURL :=
    HTTPClient.placement (HTTPClient.get t (baseURL ++ "/v1/cluster/placement") codec.placement)
  metrics baseURL :=
    HTTPClient.metrics (HTTPClient.get t (baseURL ++ "/v1/dashboard/metrics") codec.metrics)

/-- The client of a backup, by the number of requests sent before. -/
def httpBackups (t : Nat → Transport) (codec : Codec) (ctxErr : Nat → Bool) : BackupClient where
  takeCoordinatedBackup n baseURL :=
    HTTPClient.postBackup (t n) codec (baseURL ++ "/v1/backups/coordinated") none
  takeIncrementalBackup n baseURL parent :=
    HTTPClient.postBackup (t n) codec (baseURL ++ "/v1/backups/incremental")
      (some (codec.parentBackup parent))
  ctxErr := ctxErr

/-! ## What an answer rests on -/

/-- A GET was answered with status 200 and a body that decodes to `v`. -/
def Served {α : Type} (t : Transport) (url : String) (decode : List UInt8 → Decoded α) (v : α) :
    Prop :=
  ∃ resp body, exchange t { method := .get, url := url } = .ok (resp, body) ∧
    resp.statusCode = 200 ∧ (decode body).err = none ∧ (decode body).value = v

def AnsweredWith (t : Transport) (url : String) (code : Nat) : Prop :=
  ∃ resp body, exchange t { method := .get, url := url } = .ok (resp, body) ∧
    resp.statusCode = code

/-- A leave was answered, with any status, by a document that names a removal. -/
def LeftByAnswer (t : Transport) (codec : Codec) (baseURL : String) : Prop :=
  ∃ resp body,
    exchange t { method := .post, url := baseURL ++ "/v1/cluster/leave" } = .ok (resp, body) ∧
    (codec.leave body).err = none ∧
    ((codec.leave body).value.outcome = "Committed" ∨
      (codec.leave body).value.outcome = "NotAMember")

section Answers
variable {t : Transport} {codec : Codec} {url : String}

theorem get_served {α : Type} {decode : List UInt8 → Decoded α} {v : α} :
    HTTPClient.get t url decode = .ok (200, v) ↔ Served t url decode v := by
  unfold HTTPClient.get Served
  cases hx : exchange t { method := .get, url := url } with
  | error e => simp
  | ok answer =>
      obtain ⟨resp, body⟩ := answer
      simp only [Except.ok.injEq, Prod.mk.injEq]
      cases herr : (decode body).err with
      | none =>
          simp only [Except.ok.injEq, Prod.mk.injEq]
          constructor
          · rintro ⟨hcode, hv⟩
            exact ⟨resp, body, ⟨rfl, rfl⟩, hcode, herr, hv⟩
          · rintro ⟨_, _, ⟨rfl, rfl⟩, hcode, _, hv⟩
            exact ⟨hcode, hv⟩
      | some e =>
          constructor
          · intro h
            simp only at h
            split at h
            · next hne =>
                simp only [Except.ok.injEq, Prod.mk.injEq] at h
                exact absurd h.1 hne
            · cases h
          · rintro ⟨_, _, ⟨rfl, rfl⟩, _, hnone, _⟩
            cases herr.symm.trans hnone

theorem get_code {α : Type} {decode : List UInt8 → Decoded α} {code : Nat} {v : α}
    (h : HTTPClient.get t url decode = .ok (code, v)) : AnsweredWith t url code := by
  unfold HTTPClient.get at h
  cases hx : exchange t { method := .get, url := url } with
  | error e => simp [hx] at h
  | ok answer =>
      obtain ⟨resp, body⟩ := answer
      refine ⟨resp, body, hx, ?_⟩
      simp only [hx] at h
      split at h
      · exact (Prod.mk.inj (Except.ok.inj h)).1
      · split at h
        · exact (Prod.mk.inj (Except.ok.inj h)).1
        · cases h

theorem membership_served {m : Membership} :
    (httpClient t codec).membership url = .ok m ↔
      ∃ raw, Served t (url ++ "/v1/cluster/membership") codec.membership raw ∧
        m = raw.withoutWitnesses := by
  simp only [httpClient, ← get_served]
  cases HTTPClient.get t (url ++ "/v1/cluster/membership") codec.membership with
  | error e => simp [HTTPClient.membership]
  | ok answer =>
      obtain ⟨code, raw⟩ := answer
      simp only [HTTPClient.membership]
      split
      · next hne => simp [hne]
      · next hcode =>
          have hcode : code = 200 := not_not.mp hcode
          subst hcode
          simp [eq_comm]

theorem placement_served {p : Placement} (h : (httpClient t codec).placement url = .ok p) :
    Served t (url ++ "/v1/cluster/placement") codec.placement p := by
  rw [← get_served]
  simp only [httpClient, HTTPClient.placement] at h
  split at h
  · cases h
  · next code q hget =>
      split at h
      · next hcode =>
          cases h
          rw [hget, hcode]
      · split at h <;> cases h

theorem get_not_unsupported {α : Type} {decode : List UInt8 → Decoded α} :
    HTTPClient.get t url decode ≠ .error .placementUnsupported := by
  unfold HTTPClient.get
  cases exchange t { method := .get, url := url } with
  | error e => simp
  | ok answer =>
      simp only
      split
      · simp
      · split <;> simp

theorem placement_unsupported
    (h : (httpClient t codec).placement url = .error .placementUnsupported) :
    AnsweredWith t (url ++ "/v1/cluster/placement") 404 := by
  simp only [httpClient, HTTPClient.placement] at h
  split at h
  · next e hget =>
      cases h
      exact absurd hget get_not_unsupported
  · next code q hget =>
      split at h
      · cases h
      · split at h
        · next hcode =>
            rw [← hcode]
            exact get_code hget
        · cases h

theorem leave_answered {r : LeaveResult} (h : (httpClient t codec).leave url = .ok r)
    (hout : r.outcome = .committed ∨ r.outcome = .notAMember) : LeftByAnswer t codec url := by
  simp only [httpClient, HTTPClient.leave] at h
  split at h
  · cases h
  · next resp body hx =>
      split at h
      · cases h
      · next herr =>
          split at h
          · cases h
          · cases h
            exact ⟨resp, body, hx, herr, LeaveOutcome.ofName_removed.mp hout⟩

end Answers

/-! ## What a pass rests on -/

section Pass
variable {t : Transport} {codec : Codec} {cluster : KahunaCluster} {pods : List Pod}

theorem readMembership_served {m : Membership}
    (h : readMembership cluster (httpClient t codec) pods = .ok m) :
    ∃ p ∈ pods, p.podIP ≠ "" ∧ p.deleting = false ∧
      ∃ raw, Served t (podBaseURL cluster p ++ "/v1/cluster/membership") codec.membership raw ∧
        m = raw.withoutWitnesses := by
  obtain ⟨p, hp, hask⟩ := firstAnswer_ok h
  rw [List.mem_mergeSort, List.mem_filter] at hp
  obtain ⟨hmem, hfit⟩ := hp
  simp only [Bool.and_eq_true, bne_iff_ne, Bool.not_eq_true'] at hfit
  exact ⟨p, hmem, hfit.1, hfit.2, membership_served.mp hask⟩

theorem observe_membership {env : PassEnv} {m : Membership}
    (h : (observe env cluster).membership = some m) :
    readMembership cluster env.kahuna env.pods = .ok m := by
  have hread : (readMembership cluster env.kahuna env.pods).toOption = some m := by
    unfold observe at h
    split at h <;> exact h
  cases hok : readMembership cluster env.kahuna env.pods with
  | error e =>
      rw [hok] at hread
      cases hread
  | ok m' =>
      rw [hok] at hread
      cases hread
      rfl

/-- The placement read comes to the error it starts with, or to the answer of a pod
that is ready. -/
theorem readPlacement_asked (kahuna : Client) (e : KahunaError) :
    readPlacement cluster kahuna pods e = .error e ∨
      ∃ p ∈ pods, p.podIP ≠ "" ∧ p.deleting = false ∧ podIsReady p = true ∧
        kahuna.placement (podBaseURL cluster p) = readPlacement cluster kahuna pods e := by
  induction pods generalizing e with
  | nil => exact Or.inl rfl
  | cons p rest ih =>
      have hrest : ∀ e', readPlacement cluster kahuna rest e' = .error e' ∨
          ∃ q ∈ p :: rest, q.podIP ≠ "" ∧ q.deleting = false ∧ podIsReady q = true ∧
            kahuna.placement (podBaseURL cluster q) = readPlacement cluster kahuna rest e' := by
        intro e'
        refine (ih e').imp_right ?_
        rintro ⟨q, hq, hfit⟩
        exact ⟨q, List.mem_cons_of_mem _ hq, hfit⟩
      rw [readPlacement]
      split
      · exact hrest e
      · next hasked =>
          simp only [Bool.or_eq_true, beq_iff_eq, Bool.not_eq_true', not_or,
            Bool.not_eq_true, Bool.not_eq_false] at hasked
          obtain ⟨⟨hip, hstays⟩, hready⟩ := hasked
          cases hanswer : kahuna.placement (podBaseURL cluster p) with
          | ok q => exact Or.inr ⟨p, List.mem_cons_self, hip, hstays, hready, hanswer⟩
          | error err =>
              cases err with
              | placementUnsupported =>
                  exact Or.inr ⟨p, List.mem_cons_self, hip, hstays, hready, hanswer⟩
              | other text =>
                  rcases hrest (.other text) with hlast | hother
                  · exact Or.inr ⟨p, List.mem_cons_self, hip, hstays, hready,
                      hanswer.trans hlast.symm⟩
                  · exact Or.inr hother

end Pass

/-- The responses a change of size from `c` rests on. -/
structure RestsOn (t : Transport) (codec : Codec) (cluster : KahunaCluster) (pods : List Pod)
    (c after : Nat) : Prop where
  roster : ∃ p ∈ pods, p.podIP ≠ "" ∧ p.deleting = false ∧
    ∃ raw, Served t (podBaseURL cluster p ++ "/v1/cluster/membership") codec.membership raw ∧
      ExactVoters cluster raw.withoutWitnesses c
  placement : ∃ p ∈ pods, p.podIP ≠ "" ∧ p.deleting = false ∧ podIsReady p = true ∧
    ((∃ q, Served t (podBaseURL cluster p ++ "/v1/cluster/placement") codec.placement q ∧
        Settled cluster (some q) c) ∨
      AnsweredWith t (podBaseURL cluster p ++ "/v1/cluster/placement") 404)
  left : after < c → NoReachablePod cluster pods (c - 1) ∨
    ∃ p ∈ pods, p.name = podName cluster (c - 1) ∧ p.podIP ≠ "" ∧
      LeftByAnswer t codec (podBaseURL cluster p)

theorem pass_restsOn {t : Transport} {codec : Codec} {inp : PassInput} {w : World}
    {sts : StatefulSet} (hkahuna : inp.kahuna = httpClient t codec) (hsts : w.sts = some sts)
    (hboot : w.cluster.status.bootstrapped = true) (hmoved : (pass inp w).size ≠ sts.size) :
    RestsOn t codec w.cluster inp.pods sts.size (pass inp w).size := by
  have hpinURL : podBaseURL (pinBootstrapSize w.cluster) = podBaseURL w.cluster := by
    unfold pinBootstrapSize
    split <;> rfl
  cases hcl : autoscaled inp.toPassEnv (pinBootstrapSize w.cluster) with
  | error e =>
      have hkept := pass_panicked hcl
      exact absurd (World.size_of_sts (hkept.trans hsts)) hmoved
  | ok cl =>
      have hgated := pass_gated hsts hboot hcl
      have hurl := (entrypointScript_autoscaled hcl).2
      refine ⟨?_, ?_, ?_⟩
      · obtain ⟨m, hm, hexact⟩ := hgated.roster hmoved
        have hread : readMembership (pinBootstrapSize w.cluster) (httpClient t codec) inp.pods =
            .ok m := by
          rw [← hkahuna]
          exact observe_membership hm
        obtain ⟨p, hp, hip, hstays, raw, hserved, rfl⟩ := readMembership_served hread
        rw [hpinURL] at hserved
        exact ⟨p, hp, hip, hstays, raw, hserved,
          (exactVoters_congr (raftEndpoint_autoscaled hcl)).mp hexact⟩
      · have hplaced := hgated.placement hmoved
        simp only [placementRead, hkahuna] at hplaced
        rcases readPlacement_asked (httpClient t codec)
          (.other "no ready pod to read placement from") with hnone | hasked
        · rw [hnone] at hplaced
          rcases hplaced with ⟨q, hq, _⟩ | hunsupported
          · cases hq
          · cases hunsupported
        · obtain ⟨p, hp, hip, hstays, hready, hanswer⟩ := hasked
          refine ⟨p, hp, hip, hstays, hready, ?_⟩
          rw [hpinURL] at hanswer
          rcases hplaced with ⟨q, hq, hsettled⟩ | hunsupported
          · refine Or.inl ⟨q, placement_served (hanswer.trans hq), ?_⟩
            simpa only [Settled, raftEndpoint_autoscaled hcl] using hsettled
          · exact Or.inr (placement_unsupported (hanswer.trans hunsupported))
      · intro hlt
        have hname := podName_autoscaled hcl
        rcases hgated.left hlt with hnone | ⟨p, hp, hpname, hip, r, hanswer, hout⟩
        · refine Or.inl ?_
          simpa only [NoReachablePod, hname] using hnone
        · refine Or.inr ⟨p, hp, hpname.trans (hname _), hip, ?_⟩
          rw [hkahuna, hurl] at hanswer
          exact leave_answered hanswer hout

/-- Over every run, with any responses: a pass that changes the size of a
bootstrapped cluster rests on them. -/
theorem size_moves_on_responses {w w' : World} {ts : List (Lib.Transition World Event)}
    (hrun : Run Step w ts w') :
    ∀ u ∈ ts, ∀ inp sts t codec, u.event = .pass inp → inp.kahuna = httpClient t codec →
      u.before.sts = some sts → u.before.cluster.status.bootstrapped = true →
      u.after.size ≠ sts.size →
      RestsOn t codec u.before.cluster inp.pods sts.size u.after.size := by
  refine Run.forall_step ?_ hrun
  intro a e b hstep inp sts t codec hevent hkahuna hsts hboot hmoved
  cases hstep with
  | pass inp' =>
      cases hevent
      exact pass_restsOn hkahuna hsts hboot hmoved
  | edit _ => cases hevent
  | start _ _ _ => cases hevent
  | reclaim _ _ _ => cases hevent

def emptyAnswers : Transport := fun _ => .ok { statusCode := 200, body := .ok [] }

/-- An empty body stands for five Voters that agree. -/
def fiveVoters : Codec where
  membership _ := { value := rosterOf (foundedCluster 5 4) 5 five_small }
  placement _ := { value := { partitions := [] } }
  metrics _ := { value := { rows := [], monotonicMs := 0 } }
  leave _ := { value := { outcome := "Committed" } }
  problem _ := { value := {} }
  backupInfo _ := { value := { backupID := "" } }
  parentBackup _ := []

def servedAnswers : Answers :=
  { membership := (rosterOf (foundedCluster 5 4) 5 five_small).withoutWitnesses
    leave := { outcome := .committed }
    placement := some { partitions := [] } }

def servedPass : PassInput :=
  { pods := readyPods (foundedCluster 5 4) 5
    kahuna := httpClient emptyAnswers fiveVoters
    float := wrappingDouble }

theorem servedPass_shrinks : (pass servedPass shrinking).size = 4 := by
  obtain ⟨cl, hcl, hdesired⟩ := autoscaled_fixed servedPass.toPassEnv
    (show (foundedCluster 5 4).spec.autoscaling = none from rfl)
  have hroster : ExactVoters (foundedCluster 5 4) servedAnswers.membership 5 :=
    exactVoters_rosterOf (foundedCluster 5 4) 5 five_small
  have hpods := someReadyPod_readyPods (foundedCluster 5 4) (n := 5) (by decide)
  have hstep := @agreed_pass_size servedPass shrinking _ servedAnswers cl shrinking_sts rfl hcl rfl
    rfl hpods hroster (by simp [Settled, servedAnswers]) rfl
  rw [hstep, hdesired]
  decide

theorem shrinking_rests_on_answers :
    RestsOn emptyAnswers fiveVoters (foundedCluster 5 4) (readyPods (foundedCluster 5 4) 5) 5
      (pass servedPass shrinking).size :=
  size_moves_on_responses (Run.single (.pass servedPass)) _ (List.mem_singleton.mpr rfl)
    servedPass { replicas := some 5 } emptyAnswers fiveVoters rfl rfl rfl rfl (by
      show (pass servedPass shrinking).size ≠ 5
      rw [servedPass_shrinks]
      decide)

/-! ## Backups -/

/-- What the loop does at a node: end with its backup, end with an error, or go on. -/
theorem runFrom_cons (refusals : List String) (clears : Bool) (r : BackupRequest)
    (rest : List BackupRequest) :
    (∃ info, r.answer = .ok info ∧
        runFrom refusals clears (r :: rest) = (.ok info, [r.target])) ∨
      ∃ e, r.answer = .error e ∧
        ((∃ f, runFrom refusals clears (r :: rest) = (.error f, [r.target])) ∨
          ∃ texts flag, runFrom refusals clears (r :: rest) =
            ((runFrom texts flag rest).1, r.target :: (runFrom texts flag rest).2)) := by
  rw [runFrom]
  cases hanswer : r.answer with
  | ok info => exact Or.inl ⟨info, rfl, rfl⟩
  | error e =>
      refine Or.inr ⟨e, rfl, ?_⟩
      cases r.expired with
      | true => exact Or.inl ⟨_, rfl⟩
      | false =>
          cases e with
          | transport text => exact Or.inr ⟨_, _, rfl⟩
          | refused be =>
              simp only [Bool.false_eq_true, if_false]
              split
              · exact Or.inl ⟨_, rfl⟩
              · exact Or.inr ⟨_, _, rfl⟩

/-- The nodes asked are the first ones, none but the last took the backup, and the
result is the last one's. -/
structure AskedInOrder (requests : List BackupRequest) (out : BackupResult × List BackupTarget) :
    Prop where
  asked : out.2 = (requests.map (·.target)).take out.2.length
  failed : ∀ i r, i + 1 < out.2.length → requests[i]? = some r → ∃ e, r.answer = .error e
  result : ∀ info, out.1 = .ok info ↔
    ∃ n r, out.2.length = n + 1 ∧ requests[n]? = some r ∧ r.answer = .ok info

theorem runFrom_askedInOrder (refusals : List String) (clears : Bool)
    (requests : List BackupRequest) :
    AskedInOrder requests (runFrom refusals clears requests) := by
  induction requests generalizing refusals clears with
  | nil =>
      have hnone : (runFrom refusals clears []).2 = [] := by
        unfold runFrom
        split_ifs <;> rfl
      have herror : ∀ info, (runFrom refusals clears []).1 ≠ .ok info := by
        unfold runFrom
        split_ifs <;> simp
      refine ⟨by simp [hnone], by simp, ?_⟩
      intro info
      simp [herror info]
  | cons r rest ih =>
      rcases runFrom_cons refusals clears r rest with
        ⟨info, hok, hrun⟩ | ⟨e, herr, ⟨f, hrun⟩ | ⟨texts, flag, hrun⟩⟩
      · rw [hrun]
        refine ⟨rfl, by simp, ?_⟩
        intro info'
        simp [hok]
      · rw [hrun]
        refine ⟨rfl, by simp, ?_⟩
        intro info'
        simp [herr]
      · obtain ⟨hasked, hfailed, hresult⟩ := ih texts flag
        rw [hrun]
        refine ⟨?_, ?_, ?_⟩
        · simpa using hasked
        · intro i x hi hx
          cases i with
          | zero =>
              cases hx
              exact ⟨e, herr⟩
          | succ i => exact hfailed i x (by simpa using hi) (by simpa using hx)
        · intro info
          rw [hresult info]
          constructor
          · rintro ⟨n, x, hn, hx, hans⟩
            exact ⟨n + 1, x, by simp [hn], by simpa using hx, hans⟩
          · rintro ⟨n, x, hn, hx, hans⟩
            cases n with
            | zero =>
                cases hx
                cases herr.symm.trans hans
            | succ n => exact ⟨n, x, by simpa using hn, by simpa using hx, hans⟩

def backupRequest (codec : Codec) (kind : BackupKind) (parent : String) (target : BackupTarget) :
    HttpRequest :=
  match kind with
  | .full => { method := .post, url := target.url ++ "/v1/backups/coordinated" }
  | .incremental =>
      { method := .post, url := target.url ++ "/v1/backups/incremental"
        body := some (codec.parentBackup parent) }

/-- The reply has status 200, decodes, and carries an id. -/
def Acknowledged (t : Transport) (codec : Codec) (req : HttpRequest) (info : BackupInfo) : Prop :=
  ∃ resp body, exchange t req = .ok (resp, body) ∧ resp.statusCode = 200 ∧
    (codec.backupInfo body).err = none ∧ (codec.backupInfo body).value = info ∧
    info.backupID ≠ ""

theorem postBackup_ok {t : Transport} {codec : Codec} {url : String} {body : Option (List UInt8)}
    {info : BackupInfo} :
    HTTPClient.postBackup t codec url body = .ok info ↔
      Acknowledged t codec { method := .post, url := url, body := body } info := by
  unfold HTTPClient.postBackup Acknowledged
  cases hx : exchange t { method := .post, url := url, body := body } with
  | error e => simp
  | ok answer =>
      obtain ⟨resp, raw⟩ := answer
      simp only [Except.ok.injEq, Prod.mk.injEq]
      constructor
      · intro h
        split at h
        · cases h
        · next hcode =>
            split at h
            · cases h
            · next herr =>
                split at h
                · cases h
                · next hid =>
                    cases h
                    exact ⟨resp, raw, ⟨rfl, rfl⟩, not_not.mp hcode, herr, rfl, hid⟩
      · rintro ⟨_, _, ⟨rfl, rfl⟩, hcode, herr, rfl, hid⟩
        simp [hcode, herr, hid]

theorem requests_answer (t : Nat → Transport) (codec : Codec) (ctxErr : Nat → Bool)
    (kind : BackupKind) (parent : String) (targets : List BackupTarget) (n : Nat)
    {target : BackupTarget} (h : targets[n]? = some target) :
    ∃ r, ((httpBackups t codec ctxErr).requests kind parent targets)[n]? = some r ∧
      ∀ info, r.answer = .ok info ↔
        Acknowledged (t n) codec (backupRequest codec kind parent target) info := by
  refine ⟨_, by simp only [BackupClient.requests, List.getElem?_mapIdx, h]; rfl, ?_⟩
  intro info
  cases kind <;> exact postBackup_ok

/-- Whatever the responses: the nodes are asked in order; the result is the backup the
last one acknowledged; and a reply of an earlier one that was read with status 200 did
not decode or carried no id.  A reply that was lost or cut off says nothing of whether
its node took a backup. -/
theorem last_asked_acknowledges (t : Nat → Transport) (codec : Codec) (ctxErr : Nat → Bool)
    (kind : BackupKind) (parent : String) (targets : List BackupTarget) :
    let out := runBackup (httpBackups t codec ctxErr) kind parent targets
    out.2 = targets.take out.2.length ∧
      (∀ info, out.1 = .ok info ↔ ∃ n target, out.2.length = n + 1 ∧ targets[n]? = some target ∧
        Acknowledged (t n) codec (backupRequest codec kind parent target) info) ∧
      ∀ i target resp body, i + 1 < out.2.length → targets[i]? = some target →
        exchange (t i) (backupRequest codec kind parent target) = .ok (resp, body) →
        resp.statusCode = 200 →
        (codec.backupInfo body).err ≠ none ∨ (codec.backupInfo body).value.backupID = "" := by
  intro out
  obtain ⟨hasked, hfailed, hresult⟩ : AskedInOrder _ out := runFrom_askedInOrder _ _ _
  rw [BackupClient.requests_targets] at hasked
  have hanswer := requests_answer t codec ctxErr kind parent targets
  refine ⟨hasked, ?_, ?_⟩
  · intro info
    rw [hresult info]
    constructor
    · rintro ⟨n, r, hn, hr, hok⟩
      have htarget : ((httpBackups t codec ctxErr).requests kind parent targets).map (·.target) =
          targets := BackupClient.requests_targets _ _ _ _
      have hn' : targets[n]? = some r.target := by
        rw [← htarget, List.getElem?_map, hr]
        rfl
      obtain ⟨r', hr', hiff⟩ := hanswer n hn'
      cases hr.symm.trans hr'
      exact ⟨n, r.target, hn, hn', (hiff info).mp hok⟩
    · rintro ⟨n, target, hn, htarget, hack⟩
      obtain ⟨r, hr, hiff⟩ := hanswer n htarget
      exact ⟨n, r, hn, hr, (hiff info).mpr hack⟩
  · intro i target resp body hi htarget hx hcode
    by_contra hread
    rw [not_or, not_not] at hread
    obtain ⟨r, hr, hiff⟩ := hanswer i htarget
    obtain ⟨e, he⟩ := hfailed i r hi hr
    have hok := (hiff _).mpr ⟨resp, body, hx, hcode, hread.1, rfl, hread.2⟩
    cases he.symm.trans hok

-- An answer without an id: the next node is asked as well.
example :
    (runBackup (httpBackups (fun _ => emptyAnswers) fiveVoters fun _ => false) .full ""
      [⟨"kahuna-0", "a"⟩, ⟨"kahuna-1", "b"⟩]).2 = [⟨"kahuna-0", "a"⟩, ⟨"kahuna-1", "b"⟩] := by
  decide

end KahunaOperator
