/-
# `KahunaOperator.Arguments` — no option twice on the server's command line

The server refuses a repeated option.  The command line is put together in two
places: `staticArgs` of `internal/controller/entrypoint.go` drops what the user's
`extraArgs` replace, and the startup script puts its own options in front.  Only
the first place looks at `extraArgs`.

    script       --raft-nodename --raft-nodeid --raft-host --raft-port
                 --initial-cluster --join-existing --https-certificate-password
    generated    what `generatedArgs` emits, less what `extraArgs` name
    extraArgs    as they are

`optionNames_argv` splits the names of a command line along these parts; values
that look like options are names too, as they are to `flagName` and to the
server.

    no option occurs twice  ⟺  `extraArgs` name none of the script's options, and
                               a value that looks like one is on the line once
                                                                  (`options_once_iff`)
-/
import KahunaOperator.Agreed
import KahunaOperator.Entrypoint
import Mathlib.Data.List.TakeWhile

namespace KahunaOperator

/-! ## Option names -/

/-- The option names among the tokens of a command line. -/
def optionNames (args : List String) : List String := args.filterMap flagName

theorem optionNames_append (a b : List String) :
    optionNames (a ++ b) = optionNames a ++ optionNames b := List.filterMap_append

def IsFlag (token : String) : Prop := flagName token = some token

instance (token : String) : Decidable (IsFlag token) :=
  inferInstanceAs (Decidable (flagName token = some token))

def IsValue (token : String) : Prop := flagName token = none

instance (token : String) : Decidable (IsValue token) :=
  inferInstanceAs (Decidable (flagName token = none))

/-- A token given by its characters, so that a literal need not be decoded. -/
theorem isFlag_ofList {cs : List Char} (hdashes : cs.take 2 = ['-', '-'])
    (hplain : cs.all (· ≠ '=') = true) : IsFlag (String.ofList cs) := by
  have hname : cs.takeWhile (· ≠ '=') = cs :=
    List.takeWhile_eq_self_iff.mpr (List.all_eq_true.mp hplain)
  unfold IsFlag flagName
  rw [String.toList_ofList, if_pos hdashes, hname]

theorem optionNames_flag {f : String} (h : IsFlag f) (rest : List String) :
    optionNames (f :: rest) = f :: optionNames rest := by
  unfold optionNames
  rw [List.filterMap_cons, show flagName f = some f from h]

theorem optionNames_value {v : String} (h : IsValue v) (rest : List String) :
    optionNames (v :: rest) = optionNames rest := by
  unfold optionNames
  rw [List.filterMap_cons, show flagName v = none from h]

/-- A token that starts with something else than a dash is a value. -/
theorem isValue_of_head {t : String} {c : Char} (h : t.toList.head? = some c) (hc : c ≠ '-') :
    IsValue t := by
  unfold IsValue flagName
  cases hl : t.toList with
  | nil => simp
  | cons d rest =>
      rw [hl] at h
      cases h
      rw [if_neg]
      intro htake
      rw [List.take_succ_cons] at htake
      exact hc (List.cons.inj htake).1

theorem isValue_append {a : String} {c : Char} (h : a.toList.head? = some c) (hc : c ≠ '-')
    (b : String) : IsValue (a ++ b) := by
  refine isValue_of_head ?_ hc
  rw [String.toList_append, List.head?_append, h]
  rfl

theorem digits_head (n : Nat) :
    ∃ c rest, (toString n).toList = c :: rest ∧ c.isDigit = true := by
  obtain ⟨hne, hdigits⟩ := toString_digits n
  obtain ⟨c, rest, hlist⟩ := List.exists_cons_of_ne_nil hne
  exact ⟨c, rest, hlist, hdigits c (hlist ▸ List.mem_cons_self)⟩

theorem isValue_nat (n : Nat) : IsValue (toString n) := by
  obtain ⟨c, rest, hlist, hdigit⟩ := digits_head n
  refine isValue_of_head (by rw [hlist]; rfl) ?_
  rintro rfl
  exact absurd hdigit (by decide)

/-- A negative number has one dash. -/
theorem isValue_int (n : Int) : IsValue (toString n) := by
  cases n with
  | ofNat m => exact isValue_nat m
  | negSucc m =>
      obtain ⟨c, rest, hlist, hdigit⟩ := digits_head (m + 1)
      have hneg : (toString (Int.negSucc m)).toList = '-' :: c :: rest := by
        show ("-" ++ toString (m + 1)).toList = _
        rw [String.toList_append, hlist]
        rfl
      unfold IsValue flagName
      rw [hneg, if_neg]
      intro htake
      have hdash : c = '-' := by simpa using htake
      rw [hdash] at hdigit
      exact absurd hdigit (by decide)

/-! ## What `extraArgs` replace -/

theorem optionNames_dropOverridden (overridden : List String) (skipping : Bool)
    (args : List String) :
    optionNames (dropOverridden overridden skipping args) =
      (optionNames args).filter fun n => !overridden.contains n := by
  induction args generalizing skipping with
  | nil => rfl
  | cons a rest ih =>
      simp only [dropOverridden]
      cases ha : flagName a with
      | none =>
          have hdrop : optionNames (a :: rest) = optionNames rest := optionNames_value ha rest
          rw [hdrop]
          simp only
          split
          · exact ih skipping
          · rw [optionNames_value ha]
            exact ih skipping
      | some name =>
          have hkeep : ∀ l, optionNames (a :: l) = name :: optionNames l := by
            intro l
            unfold optionNames
            rw [List.filterMap_cons, ha]
          rw [hkeep]
          simp only
          split
          · next hover =>
              rw [List.filter_cons_of_neg (by simpa using hover)]
              exact ih _
          · next hover =>
              rw [List.filter_cons_of_pos (by simpa using hover), hkeep, ih]

theorem optionNames_staticArgs (cluster : KahunaCluster) :
    optionNames (staticArgs cluster) =
      ((optionNames (generatedArgs cluster)).filter fun n =>
        !(optionNames cluster.spec.extraArgs).contains n) ++
      optionNames cluster.spec.extraArgs := by
  unfold staticArgs withoutOverridden
  rw [optionNames_append, optionNames_dropOverridden]
  rfl

/-! ## Options with their values -/

/-- An option that may be on the command line, and the values it would have. -/
structure Setting where
  flag : String
  present : Bool := true
  values : List String := []

def Setting.args (s : Setting) : List String :=
  if s.present then s.flag :: s.values else []

/-- An option with its values, on the command line when `given`. -/
def Setting.fixed (given : Bool) (flag : String) (values : List String) : Setting :=
  { flag := flag, present := given, values := values }

/-- `flagArgs` as a setting. -/
def Setting.number (flag : String) (v : Option Int) : Setting :=
  { flag := flag, present := v.isSome, values := (v.map toString).toList }

/-- `boolFlag` as a setting. -/
def Setting.presence (flag : String) (v : Option Bool) (want : Bool) : Setting :=
  { flag := flag, present := decide (v = some want) }

@[simp] theorem Setting.fixed_args (given : Bool) (flag : String) (values : List String) :
    (Setting.fixed given flag values).args = if given then flag :: values else [] := rfl

@[simp] theorem Setting.number_args (flag : String) (v : Option Int) :
    (Setting.number flag v).args = flagArgs flag v := by
  cases v <;> rfl

@[simp] theorem Setting.presence_args (flag : String) (v : Option Bool) (want : Bool) :
    (Setting.presence flag v want).args = boolFlag flag v want := by
  unfold Setting.args Setting.presence boolFlag
  simp only [decide_eq_true_eq]

def flagsOf (settings : List Setting) : List String :=
  (settings.filter Setting.present).map Setting.flag

def valuesOf (settings : List Setting) : List String :=
  (settings.filter Setting.present).flatMap Setting.values

theorem flagsOf_sublist (settings : List Setting) :
    (flagsOf settings).Sublist (settings.map Setting.flag) :=
  List.filter_sublist.map Setting.flag

/-- The names on a command line are its options, and its values that look like
options. -/
theorem optionNames_settings (settings : List Setting)
    (hflags : ∀ s ∈ settings, IsFlag s.flag) :
    (optionNames (settings.flatMap Setting.args)).Perm
      (flagsOf settings ++ optionNames (valuesOf settings)) := by
  induction settings with
  | nil => exact List.Perm.refl _
  | cons s rest ih =>
      have ih := ih fun t ht => hflags t (List.mem_cons_of_mem _ ht)
      rw [List.flatMap_cons, optionNames_append]
      cases hs : s.present with
      | false =>
          have hargs : s.args = [] := by simp [Setting.args, hs]
          have hflag : flagsOf (s :: rest) = flagsOf rest := by simp [flagsOf, hs]
          have hvalues : valuesOf (s :: rest) = valuesOf rest := by simp [valuesOf, hs]
          rw [hargs, hflag, hvalues]
          exact ih
      | true =>
          have hargs : s.args = s.flag :: s.values := by simp [Setting.args, hs]
          have hflag : flagsOf (s :: rest) = s.flag :: flagsOf rest := by simp [flagsOf, hs]
          have hvalues : valuesOf (s :: rest) = s.values ++ valuesOf rest := by
            simp [valuesOf, hs]
          rw [hargs, hflag, hvalues, optionNames_append,
            optionNames_flag (hflags s List.mem_cons_self)]
          refine List.Perm.cons _ ?_
          -- The values of this option move behind the options of the others.
          refine (ih.append_left _).trans ?_
          show (optionNames s.values ++ (flagsOf rest ++ optionNames (valuesOf rest))).Perm
            (flagsOf rest ++ (optionNames s.values ++ optionNames (valuesOf rest)))
          rw [← List.append_assoc, ← List.append_assoc]
          exact List.perm_append_comm.append_right _

/-- No value of the option looks like an option. -/
def Setting.Plain (s : Setting) : Prop := ∀ v ∈ s.values, IsValue v

@[simp] theorem Setting.number_plain (flag : String) (v : Option Int) :
    (Setting.number flag v).Plain := by
  intro t ht
  cases v with
  | none => cases ht
  | some n =>
      obtain rfl : t = toString n := by simpa [Setting.number] using ht
      exact isValue_int n

@[simp] theorem Setting.presence_plain (flag : String) (v : Option Bool) (want : Bool) :
    (Setting.presence flag v want).Plain := by
  intro t ht
  cases ht

@[simp] theorem Setting.fixed_plain (given : Bool) (flag : String) (values : List String) :
    (Setting.fixed given flag values).Plain ↔ ∀ v ∈ values, IsValue v := Iff.rfl

theorem optionNames_plain {settings : List Setting} (h : ∀ s ∈ settings, s.Plain) :
    optionNames (valuesOf settings) = [] := by
  unfold optionNames
  rw [List.filterMap_eq_nil_iff]
  intro v hv
  obtain ⟨s, hs, hvs⟩ := List.mem_flatMap.mp hv
  exact h s (List.mem_of_mem_filter hs) v hvs

theorem valuesOf_append (a b : List Setting) : valuesOf (a ++ b) = valuesOf a ++ valuesOf b := by
  unfold valuesOf
  rw [List.filter_append, List.flatMap_append]

/-! ## The generated options -/

def listenerSettings (cluster : KahunaCluster) : List Setting :=
  let p := ports cluster
  [.fixed true "--http-ports" [toString p.http, toString p.internalHTTP],
    .fixed true "--https-ports" [toString p.https, toString p.raft],
    .fixed true "--https-certificate" [tlsMountPath ++ "/" ++ keystoreKey cluster],
    .fixed true "--allow-plaintext-listener" []]

def storageSettings (s : StorageSpec) : List Setting :=
  [.fixed true "--storage" [(s.backend.getD .rocksdb).flag],
    .fixed true "--storage-path" [dataPath],
    .fixed true "--storage-revision" [if s.revision = "" then "v1" else s.revision],
    .fixed true "--wal-storage" [(s.walBackend.getD .rocksdb).flag],
    .fixed true "--wal-path" [walPath],
    .fixed true "--wal-revision" [if s.walRevision = "" then "v1" else s.walRevision],
    .presence "--disable-wal-sync-writes" s.syncWrites false,
    .presence "--disable-rocksdb-direct-reads" s.directReads false,
    .presence "--rocksdb-shared-memory" s.sharedMemory true,
    .number "--rocksdb-shared-memory-budget-mb" s.sharedMemoryBudgetMB,
    .number "--rocksdb-shared-memtable-budget-mb" s.sharedMemtableBudgetMB]

def partitionSettings (cluster : KahunaCluster) : List Setting :=
  [.fixed true "--initial-cluster-partitions" [toString (cluster.spec.partitions.getD 3)],
    .presence "--raft-allow-insecure-certificate-validation"
      cluster.spec.tls.insecureSkipVerify true]

def replicationSettings (rep : Option ReplicationSpec) : List Setting :=
  [.fixed rep.isSome "--raft-replication-factor" (rep.map (toString ·.factor)).toList,
    .fixed rep.isSome "--raft-enable-placement-rebalancer" [],
    .fixed rep.isSome "--raft-max-concurrent-replica-transfers"
      [toString rebalancerConcurrentTransfers],
    .fixed rep.isSome "--raft-max-replica-moves-per-pass" [toString rebalancerMovesPerPass],
    .fixed rep.isSome "--raft-replica-count-deadband" ["0"]]

def raftSettings (r : RaftSpec) : List Setting :=
  [.number "--raft-heartbeat-interval" r.heartbeatIntervalMs,
    .number "--raft-voting-timeout" r.votingTimeoutMs,
    .number "--raft-start-election-timeout" r.startElectionTimeoutMs,
    .number "--raft-end-election-timeout" r.endElectionTimeoutMs,
    .presence "--raft-enable-check-quorum" r.enableCheckQuorum true,
    .number "--raft-gossip-interval" r.gossipIntervalMs,
    .number "--raft-gossip-fanout" r.gossipFanout,
    .number "--raft-ping-timeout" r.pingTimeoutMs,
    .number "--raft-indirect-ping-fanout" r.indirectPingFanout,
    .number "--raft-suspicion-timeout" r.suspicionTimeoutMs,
    .number "--raft-dead-member-eviction-grace" r.deadMemberEvictionGraceMs,
    .number "--raft-backfill-threshold" r.backfillThreshold,
    .number "--raft-max-backfill-entries-per-round" r.maxBackfillEntriesPerRound,
    .number "--raft-learner-promotion-lag" r.learnerPromotionLag,
    .number "--raft-learner-promotion-stable-window" r.learnerPromotionStableWindowMs]

def transactionSettings (t : TransactionsSpec) : List Setting :=
  [.number "--default-transaction-timeout" t.defaultTimeoutMs,
    .number "--default-admission-wait" t.defaultAdmissionWaitMs,
    .number "--max-admission-wait" t.maxAdmissionWaitMs,
    .number "--max-concurrent-transactions" t.maxConcurrentTransactions,
    .number "--max-concurrent-sessions" t.maxConcurrentSessions]

def workerSettings (w : WorkersSpec) : List Setting :=
  [.number "--locks-workers" w.locks,
    .number "--keyvalue-workers" w.keyValue,
    .number "--sequencer-workers" w.sequencer,
    .number "--background-writer-workers" w.backgroundWriter]

def retentionSettings (r : BackupRetentionSpec) : List Setting :=
  [.number "--backup-retention-max-chains" r.maxChains,
    .number "--backup-retention-max-age" r.maxAge,
    .number "--backup-retention-max-bytes" r.maxBytes]

def backupSettings (cluster : KahunaCluster) (b : Option BackupSpec) : List Setting :=
  [.fixed b.isSome "--pitr-backup-dir" [backupPath cluster],
    .fixed b.isSome "--pitr-backup-cluster-id" (b.map (backupClusterID cluster)).toList,
    .fixed b.isSome "--pitr-backup-mac-key-file" [backupMACKeyPath],
    .fixed b.isSome "--backup-gc-interval" ["0"]] ++
  retentionSettings ((b.bind (·.retention)).getD {})

/-- Everything the operator can generate, in the order of `generatedArgs`. -/
def generatedSettings (cluster : KahunaCluster) : List Setting :=
  let s := cluster.spec
  listenerSettings cluster ++ storageSettings s.storage ++ partitionSettings cluster ++
  replicationSettings s.replication ++ raftSettings (s.raft.getD {}) ++
  transactionSettings (s.transactions.getD {}) ++ workerSettings (s.workers.getD {}) ++
  backupSettings cluster s.backup

theorem listenerArgs_eq (cluster : KahunaCluster) :
    listenerArgs cluster = (listenerSettings cluster).flatMap Setting.args := rfl

theorem storageArgs_eq (s : StorageSpec) :
    storageArgs s = (storageSettings s).flatMap Setting.args := by
  simp only [storageArgs, storageSettings, List.flatMap_cons, List.flatMap_nil,
    Setting.fixed_args, Setting.number_args, Setting.presence_args, if_true, List.append_nil,
    List.append_assoc, List.cons_append, List.nil_append]

theorem replicationArgs_eq (rep : Option ReplicationSpec) :
    (rep.map replicationArgs).getD [] = (replicationSettings rep).flatMap Setting.args := by
  cases rep <;> rfl

/-- An absent block emits nothing, and so does a block with nothing set. -/
theorem blockArgs_eq {α : Type} (block : Option α) (default : α) (args : α → List String)
    (settings : α → List Setting) (h : ∀ a, args a = (settings a).flatMap Setting.args)
    (hdefault : args default = []) :
    (block.map args).getD [] = (settings (block.getD default)).flatMap Setting.args := by
  cases block with
  | none => exact hdefault.symm.trans (h default)
  | some a => exact h a

theorem raftArgs_eq (r : RaftSpec) : raftArgs r = (raftSettings r).flatMap Setting.args := by
  simp only [raftArgs, raftSettings, List.flatMap_cons, List.flatMap_nil, Setting.number_args,
    Setting.presence_args, List.append_nil, List.append_assoc]

theorem transactionArgs_eq (t : TransactionsSpec) :
    transactionArgs t = (transactionSettings t).flatMap Setting.args := by
  simp only [transactionArgs, transactionSettings, List.flatMap_cons, List.flatMap_nil,
    Setting.number_args, List.append_nil, List.append_assoc]

theorem workerArgs_eq (w : WorkersSpec) :
    workerArgs w = (workerSettings w).flatMap Setting.args := by
  simp only [workerArgs, workerSettings, List.flatMap_cons, List.flatMap_nil,
    Setting.number_args, List.append_nil, List.append_assoc]

theorem retentionArgs_eq (r : BackupRetentionSpec) :
    retentionArgs r = (retentionSettings r).flatMap Setting.args := by
  simp only [retentionArgs, retentionSettings, List.flatMap_cons, List.flatMap_nil,
    Setting.number_args, List.append_nil, List.append_assoc]

theorem backupArgs_eq (cluster : KahunaCluster) (b : Option BackupSpec) :
    (b.map (backupArgs cluster)).getD [] =
      (backupSettings cluster b).flatMap Setting.args := by
  cases b with
  | none => rfl
  | some b =>
      have hretention := blockArgs_eq b.retention {} retentionArgs retentionSettings
        retentionArgs_eq rfl
      simp only [backupSettings, List.flatMap_append, Option.bind_some, ← hretention]
      rfl

/-- The generated arguments are the settings, written out. -/
theorem generatedArgs_eq (cluster : KahunaCluster) :
    generatedArgs cluster = (generatedSettings cluster).flatMap Setting.args := by
  have hraft := blockArgs_eq cluster.spec.raft {} raftArgs raftSettings raftArgs_eq rfl
  have htransactions := blockArgs_eq cluster.spec.transactions {} transactionArgs
    transactionSettings transactionArgs_eq rfl
  have hworkers := blockArgs_eq cluster.spec.workers {} workerArgs workerSettings workerArgs_eq rfl
  simp only [generatedArgs, generatedSettings, partitionSettings, List.flatMap_append,
    ← listenerArgs_eq, ← storageArgs_eq, ← replicationArgs_eq, ← backupArgs_eq, ← hraft,
    ← htransactions, ← hworkers, List.flatMap_cons, List.flatMap_nil, Setting.fixed_args,
    Setting.presence_args, if_true, List.append_assoc, List.append_nil]

def knownFlags : List String :=
  ["--http-ports", "--https-ports", "--https-certificate", "--allow-plaintext-listener",
    "--storage", "--storage-path", "--storage-revision", "--wal-storage", "--wal-path",
    "--wal-revision", "--disable-wal-sync-writes", "--disable-rocksdb-direct-reads",
    "--rocksdb-shared-memory", "--rocksdb-shared-memory-budget-mb",
    "--rocksdb-shared-memtable-budget-mb", "--initial-cluster-partitions",
    "--raft-allow-insecure-certificate-validation", "--raft-replication-factor",
    "--raft-enable-placement-rebalancer", "--raft-max-concurrent-replica-transfers",
    "--raft-max-replica-moves-per-pass", "--raft-replica-count-deadband",
    "--raft-heartbeat-interval", "--raft-voting-timeout", "--raft-start-election-timeout",
    "--raft-end-election-timeout", "--raft-enable-check-quorum", "--raft-gossip-interval",
    "--raft-gossip-fanout", "--raft-ping-timeout", "--raft-indirect-ping-fanout",
    "--raft-suspicion-timeout", "--raft-dead-member-eviction-grace", "--raft-backfill-threshold",
    "--raft-max-backfill-entries-per-round", "--raft-learner-promotion-lag",
    "--raft-learner-promotion-stable-window", "--default-transaction-timeout",
    "--default-admission-wait", "--max-admission-wait", "--max-concurrent-transactions",
    "--max-concurrent-sessions", "--locks-workers", "--keyvalue-workers", "--sequencer-workers",
    "--background-writer-workers", "--pitr-backup-dir", "--pitr-backup-cluster-id",
    "--pitr-backup-mac-key-file", "--backup-gc-interval", "--backup-retention-max-chains",
    "--backup-retention-max-age", "--backup-retention-max-bytes"]

theorem generatedSettings_flags (cluster : KahunaCluster) :
    (generatedSettings cluster).map Setting.flag = knownFlags := rfl

theorem knownFlags_nodup : knownFlags.Nodup := by
  simp only [knownFlags, List.nodup_cons, List.mem_cons, List.not_mem_nil, String.reduceEq,
    or_self, not_false_eq_true, List.nodup_nil, and_self]

theorem knownFlags_flags : ∀ f ∈ knownFlags, IsFlag f := by
  simp only [knownFlags, List.forall_mem_cons]
  repeat' apply And.intro
  all_goals first
    | exact isFlag_ofList rfl rfl
    | exact List.forall_mem_nil _

/-- The texts of the spec that reach the command line as they are written. -/
def specTexts (cluster : KahunaCluster) : List String :=
  [cluster.spec.storage.revision, cluster.spec.storage.walRevision] ++
    (cluster.spec.backup.map (backupClusterID cluster)).toList

theorem listenerSettings_plain (cluster : KahunaCluster) :
    ∀ s ∈ listenerSettings cluster, s.Plain := by
  simp only [listenerSettings, List.forall_mem_cons, Setting.fixed_plain]
  refine ⟨⟨isValue_nat _, isValue_nat _, by simp⟩, ⟨isValue_nat _, isValue_nat _, by simp⟩,
    ⟨?_, by simp⟩, by simp, by simp⟩
  rw [String.append_assoc]
  exact isValue_append (c := '/') rfl (by decide) _

theorem replicationSettings_plain (rep : Option ReplicationSpec) :
    ∀ s ∈ replicationSettings rep, s.Plain := by
  simp only [replicationSettings, List.forall_mem_cons, Setting.fixed_plain]
  refine ⟨?_, by simp, ⟨isValue_nat _, by simp⟩, ⟨isValue_nat _, by simp⟩,
    ⟨by decide, by simp⟩, by simp⟩
  intro v hv
  obtain ⟨r, _, rfl⟩ : ∃ r, rep = some r ∧ toString r.factor = v := by simpa using hv
  exact isValue_nat _

theorem raftSettings_plain (r : RaftSpec) : ∀ s ∈ raftSettings r, s.Plain := by
  simp [raftSettings]

theorem transactionSettings_plain (t : TransactionsSpec) :
    ∀ s ∈ transactionSettings t, s.Plain := by
  simp [transactionSettings]

theorem workerSettings_plain (w : WorkersSpec) : ∀ s ∈ workerSettings w, s.Plain := by
  simp [workerSettings]

theorem retentionSettings_plain (r : BackupRetentionSpec) :
    ∀ s ∈ retentionSettings r, s.Plain := by
  simp [retentionSettings]

theorem storageSettings_names (s : StorageSpec) :
    optionNames (valuesOf (storageSettings s)) = optionNames [s.revision, s.walRevision] := by
  have hbackend : ∀ b : StorageBackend, IsValue b.flag := by
    intro b
    cases b <;> decide
  have hrevision : ∀ t : String, optionNames [if t = "" then "v1" else t] = optionNames [t] := by
    intro t
    by_cases ht : t = ""
    · subst ht
      decide
    · rw [if_neg ht]
  have hrest : ∀ u ∈ (storageSettings s).drop 6, u.Plain := by simp [storageSettings]
  have hvalues : valuesOf (storageSettings s) =
      (s.backend.getD .rocksdb).flag :: dataPath ::
        ([if s.revision = "" then "v1" else s.revision] ++
          ((s.walBackend.getD .rocksdb).flag :: walPath ::
            ([if s.walRevision = "" then "v1" else s.walRevision] ++
              valuesOf ((storageSettings s).drop 6)))) := rfl
  have hdata : IsValue dataPath := by decide
  have hwal : IsValue walPath := by decide
  rw [hvalues, optionNames_value (hbackend _), optionNames_value hdata, optionNames_append,
    optionNames_value (hbackend _), optionNames_value hwal, optionNames_append, hrevision,
    hrevision, optionNames_plain hrest, List.append_nil, ← optionNames_append]
  rfl

theorem backupSettings_names (cluster : KahunaCluster) (b : Option BackupSpec) :
    optionNames (valuesOf (backupSettings cluster b)) =
      optionNames (b.map (backupClusterID cluster)).toList := by
  have hretention := optionNames_plain (retentionSettings_plain ((b.bind (·.retention)).getD {}))
  unfold backupSettings
  rw [valuesOf_append, optionNames_append, hretention, List.append_nil]
  cases b with
  | none => rfl
  | some b =>
      have hdir : IsValue (backupPath cluster) := by
        unfold backupPath
        rw [String.append_assoc]
        exact isValue_append (c := '/') rfl (by decide) _
      show optionNames (backupPath cluster :: ([backupClusterID cluster b] ++
        [backupMACKeyPath, "0"])) = optionNames [backupClusterID cluster b]
      have hfixed : optionNames [backupMACKeyPath, "0"] = [] := by decide
      rw [optionNames_value hdir, optionNames_append, hfixed, List.append_nil]

theorem partitionSettings_plain (cluster : KahunaCluster) :
    ∀ s ∈ partitionSettings cluster, s.Plain := by
  simp only [partitionSettings, List.forall_mem_cons, Setting.fixed_plain]
  exact ⟨⟨isValue_int _, by simp⟩, Setting.presence_plain _ _ _, by simp⟩

/-- Only three texts of the spec can look like options. -/
theorem generatedSettings_names (cluster : KahunaCluster) :
    optionNames (valuesOf (generatedSettings cluster)) = optionNames (specTexts cluster) := by
  simp only [generatedSettings, specTexts, valuesOf_append, optionNames_append,
    optionNames_plain (listenerSettings_plain cluster), storageSettings_names,
    optionNames_plain (partitionSettings_plain cluster),
    optionNames_plain (replicationSettings_plain _), optionNames_plain (raftSettings_plain _),
    optionNames_plain (transactionSettings_plain _), optionNames_plain (workerSettings_plain _),
    backupSettings_names, List.nil_append, List.append_nil]

/-! ## The script's options -/

/-- What the script puts in front of the static arguments. -/
def launchSettings (l : Launch) : List Setting :=
  [.fixed true "--raft-nodename" [l.nodeName],
    .fixed true "--raft-nodeid" [toString l.nodeID],
    .fixed true "--raft-host" [l.host],
    .fixed true "--raft-port" [toString l.port],
    .fixed (!l.initialCluster.isEmpty) "--initial-cluster" l.initialCluster,
    .fixed l.joinExisting "--join-existing" [],
    .fixed l.password.isSome "--https-certificate-password" l.password.toList]

theorem argv_eq (l : Launch) :
    l.argv =
      "dotnet" :: serverDLLPath :: ((launchSettings l).flatMap Setting.args ++ l.staticArgs) := by
  obtain ⟨nodeName, nodeID, host, port, initialCluster, joinExisting, password, args⟩ := l
  cases initialCluster <;> cases joinExisting <;> cases password <;>
    simp [Launch.argv, launchSettings]

theorem launchSettings_values (l : Launch) :
    valuesOf (launchSettings l) =
      [l.nodeName] ++ toString l.nodeID ::
        ([l.host] ++ toString l.port :: (l.initialCluster ++ l.password.toList)) := by
  obtain ⟨nodeName, nodeID, host, port, initialCluster, joinExisting, password, args⟩ := l
  cases initialCluster <;> cases joinExisting <;> cases password <;>
    simp [valuesOf, launchSettings, Setting.fixed]

def scriptFlags : List String :=
  ["--raft-nodename", "--raft-nodeid", "--raft-host", "--raft-port", "--initial-cluster",
    "--join-existing", "--https-certificate-password"]

theorem launchSettings_flags (l : Launch) :
    (launchSettings l).map Setting.flag = scriptFlags := rfl

theorem scriptFlags_nodup : scriptFlags.Nodup := by decide

theorem scriptFlags_flags : ∀ f ∈ scriptFlags, IsFlag f := by decide

theorem scriptFlags_apart : ∀ f ∈ scriptFlags, f ∉ knownFlags := by decide +kernel

/-! ## The whole command line -/

/-- The options the user's own arguments name. -/
def extraNames (cluster : KahunaCluster) : List String := optionNames cluster.spec.extraArgs

/-- What is left of a list of names when the user's are taken out. -/
def notOverridden (cluster : KahunaCluster) (names : List String) : List String :=
  names.filter fun n => !(extraNames cluster).contains n

/-- The options the operator generates and the user does not replace. -/
def keptFlags (cluster : KahunaCluster) : List String :=
  notOverridden cluster (flagsOf (generatedSettings cluster))

theorem mem_notOverridden {cluster : KahunaCluster} {names : List String} {n : String} :
    n ∈ notOverridden cluster names ↔ n ∈ names ∧ n ∉ extraNames cluster := by
  unfold notOverridden
  rw [List.mem_filter]
  simp

theorem keptFlags_nodup (cluster : KahunaCluster) : (keptFlags cluster).Nodup := by
  refine (List.filter_sublist.trans (flagsOf_sublist _)).nodup ?_
  rw [generatedSettings_flags]
  exact knownFlags_nodup

theorem launchFlags_nodup (l : Launch) : (flagsOf (launchSettings l)).Nodup := by
  refine (flagsOf_sublist _).nodup ?_
  rw [launchSettings_flags]
  exact scriptFlags_nodup

/-- No option is both the script's and generated. -/
theorem launchFlags_apart {l : Launch} {cluster : KahunaCluster} {f : String}
    (hf : f ∈ flagsOf (launchSettings l)) : f ∉ keptFlags cluster := by
  intro hkept
  have hown := (flagsOf_sublist _).subset hf
  rw [launchSettings_flags] at hown
  have hknown := (flagsOf_sublist _).subset (mem_notOverridden.mp hkept).1
  rw [generatedSettings_flags] at hknown
  exact scriptFlags_apart f hown hknown

/-- The names on a command line: the script's options, the generated ones that are
kept, the user's, and the values that look like options. -/
theorem optionNames_argv {l : Launch} {cluster : KahunaCluster}
    (hstatic : l.staticArgs = staticArgs cluster) :
    (optionNames l.argv).Perm
      (flagsOf (launchSettings l) ++ keptFlags cluster ++ extraNames cluster ++
        (optionNames (valuesOf (launchSettings l)) ++
          notOverridden cluster (optionNames (specTexts cluster)))) := by
  have hlaunch := optionNames_settings (launchSettings l) (by
    intro s hs
    refine scriptFlags_flags s.flag ?_
    rw [← launchSettings_flags l]
    exact List.mem_map_of_mem hs)
  have hgenerated := optionNames_settings (generatedSettings cluster) (by
    intro s hs
    refine knownFlags_flags s.flag ?_
    rw [← generatedSettings_flags cluster]
    exact List.mem_map_of_mem hs)
  have hkept : (notOverridden cluster (optionNames (generatedArgs cluster))).Perm
      (keptFlags cluster ++ notOverridden cluster (optionNames (specTexts cluster))) := by
    rw [generatedArgs_eq, ← generatedSettings_names]
    refine (hgenerated.filter _).trans ?_
    rw [List.filter_append]
    exact List.Perm.refl _
  have hnames : optionNames l.argv =
      optionNames ((launchSettings l).flatMap Setting.args) ++
        (notOverridden cluster (optionNames (generatedArgs cluster)) ++ extraNames cluster) := by
    rw [argv_eq, optionNames_value (by decide), optionNames_value (by decide),
      optionNames_append, hstatic, optionNames_staticArgs]
    rfl
  rw [hnames]
  refine (hlaunch.append (hkept.append_right _)).trans ?_
  rw [List.perm_iff_count]
  intro n
  simp only [List.count_append]
  omega

/-! ## What the script reads -/

/-- The options the script adds, from what it reads. -/
def addedFlags (topo : Topology) (ordinal : Nat) (dataEmpty : Bool) (password : Option String) :
    List String :=
  ["--raft-nodename", "--raft-nodeid", "--raft-host", "--raft-port"] ++
  (if ∃ i < topo.replicas, i ≠ ordinal then ["--initial-cluster"] else []) ++
  (if topo.bootstrapSize ≤ ordinal ∧ dataEmpty then ["--join-existing"] else []) ++
  (if password.isSome then ["--https-certificate-password"] else [])

/-- The texts the script adds that are not its own: the pod's name and address,
its peers and the password. -/
def scriptTexts (cluster : KahunaCluster) (topo : Topology) (pod : String) (ordinal : Nat)
    (password : Option String) : List String :=
  [pod] ++ [pod ++ "." ++ peerDomain cluster] ++
  ((List.range topo.replicas).filter (· ≠ ordinal)).map (raftEndpoint cluster) ++
  password.toList

/-- The texts on the command line that look like options. -/
def textNames (cluster : KahunaCluster) (topo : Topology) (pod : String) (ordinal : Nat)
    (password : Option String) : List String :=
  optionNames (scriptTexts cluster topo pod ordinal password) ++
    notOverridden cluster (optionNames (specTexts cluster))

/-- A launch, from what the script read. -/
theorem entrypoint_ok {script : Script} {topo : Topology} {pod : String} {ordinal : Nat}
    {dataEmpty : Bool} {password : Option String} {l : Launch}
    (hordinal : scriptOrdinal pod = some ordinal)
    (h : entrypoint script (some topo) pod dataEmpty password = .ok l) :
    l = { nodeName := pod
          nodeID := ordinal + 1
          host := pod ++ "." ++ script.peerDomain
          port := script.raftPort
          initialCluster := peers script topo.replicas ordinal
          joinExisting := decide (topo.bootstrapSize ≤ ordinal) && dataEmpty
          password := password
          staticArgs := script.staticArgs } := by
  simp only [entrypoint, hordinal] at h
  split at h
  · cases h
  · split at h
    · cases h
    · cases h
      rfl

theorem peers_isEmpty (script : Script) (replicas ordinal : Nat) :
    (!(peers script replicas ordinal).isEmpty) = decide (∃ i < replicas, i ≠ ordinal) := by
  rw [Bool.eq_iff_iff]
  simp [peers]

section launch

variable {cluster : KahunaCluster} {topo : Topology} {pod : String} {ordinal : Nat}
  {dataEmpty : Bool} {password : Option String} {l : Launch}

theorem launchSettings_added (hordinal : scriptOrdinal pod = some ordinal)
    (h : entrypoint (entrypointScript cluster) (some topo) pod dataEmpty password = .ok l) :
    flagsOf (launchSettings l) = addedFlags topo ordinal dataEmpty password := by
  rw [entrypoint_ok hordinal h]
  simp only [launchSettings, addedFlags, peers_isEmpty]
  by_cases hpeers : ∃ i < topo.replicas, i ≠ ordinal <;>
    by_cases hjoin : topo.bootstrapSize ≤ ordinal <;>
    cases dataEmpty <;> cases password <;> simp [flagsOf, Setting.fixed, hpeers, hjoin]

theorem launchSettings_texts (hordinal : scriptOrdinal pod = some ordinal)
    (h : entrypoint (entrypointScript cluster) (some topo) pod dataEmpty password = .ok l) :
    optionNames (valuesOf (launchSettings l)) =
      optionNames (scriptTexts cluster topo pod ordinal password) := by
  rw [entrypoint_ok hordinal h, launchSettings_values]
  simp only [optionNames_append, optionNames_value (isValue_nat _), scriptTexts, peers_eq,
    List.append_assoc]
  rfl

/-- `extraArgs` name none of the options the script adds in this launch, and a
text that looks like an option is the only thing of that name. -/
structure OptionsApart (cluster : KahunaCluster) (topo : Topology) (pod : String) (ordinal : Nat)
    (dataEmpty : Bool) (password : Option String) : Prop where
  spared : ∀ f ∈ addedFlags topo ordinal dataEmpty password, f ∉ extraNames cluster
  texts : (textNames cluster topo pod ordinal password).Nodup
  apart : ∀ t ∈ textNames cluster topo pod ordinal password,
    t ∉ addedFlags topo ordinal dataEmpty password ∧ t ∉ keptFlags cluster ∧
      t ∉ extraNames cluster

/-- When the script reaches its `exec` and `extraArgs` name no option twice, no
option is on the command line twice exactly when `extraArgs` leave the script's
own options alone and no text poses as another option. -/
theorem options_once_iff (hordinal : scriptOrdinal pod = some ordinal)
    (hlaunch : entrypoint (entrypointScript cluster) (some topo) pod dataEmpty password = .ok l)
    (hextra : (optionNames cluster.spec.extraArgs).Nodup) :
    (optionNames l.argv).Nodup ↔
      OptionsApart cluster topo pod ordinal dataEmpty password := by
  have hstatic : l.staticArgs = staticArgs cluster := by
    rw [entrypoint_ok hordinal hlaunch]
    rfl
  have hadded := launchSettings_added hordinal hlaunch
  have hscript : (addedFlags topo ordinal dataEmpty password).Nodup := by
    rw [← hadded]
    exact launchFlags_nodup l
  have hapart : ∀ f ∈ addedFlags topo ordinal dataEmpty password, f ∉ keptFlags cluster := by
    rw [← hadded]
    intro f hf
    exact launchFlags_apart hf
  have hnames := optionNames_argv hstatic
  rw [hadded, launchSettings_texts hordinal hlaunch] at hnames
  change (optionNames l.argv).Perm (_ ++ textNames cluster topo pod ordinal password) at hnames
  rw [hnames.nodup_iff]
  simp only [List.nodup_append, List.mem_append]
  constructor
  · rintro ⟨⟨_, _, hspared⟩, htexts, hothers⟩
    refine ⟨fun f hf he => hspared f (Or.inl hf) f he rfl, htexts, fun t ht => ⟨?_, ?_, ?_⟩⟩
    · exact fun h => hothers t (Or.inl (Or.inl h)) t ht rfl
    · exact fun h => hothers t (Or.inl (Or.inr h)) t ht rfl
    · exact fun h => hothers t (Or.inr h) t ht rfl
  · rintro ⟨hspared, htexts, hothers⟩
    refine ⟨⟨⟨hscript, keptFlags_nodup cluster, ?_⟩, hextra, ?_⟩, htexts, ?_⟩
    · rintro a ha b hb rfl
      exact hapart a ha hb
    · rintro a (ha | ha) b hb rfl
      · exact hspared a ha hb
      · exact (mem_notOverridden.mp ha).2 hb
    · rintro a ((ha | ha) | ha) b hb rfl
      · exact (hothers a hb).1 ha
      · exact (hothers a hb).2.1 ha
      · exact (hothers a hb).2.2 ha

end launch

/-- A founded three-node cluster with extra arguments. -/
def tunedCluster (extra : List String) : KahunaCluster :=
  let cluster := foundedCluster 3 3
  { cluster with spec := { cluster.spec with extraArgs := extra } }

/-- Replacing a generated option repeats nothing. -/
theorem replaced_option_once :
    ∃ l, entrypoint (entrypointScript (tunedCluster ["--storage-path", "/mnt"]))
        (some { replicas := 3, bootstrapSize := 3 })
        (podName (tunedCluster ["--storage-path", "/mnt"]) 0) true none = .ok l ∧
      (optionNames l.argv).Nodup := by
  obtain ⟨l, hlaunch⟩ := entrypoint_starts
    (entrypointScript (tunedCluster ["--storage-path", "/mnt"]))
    (tunedCluster ["--storage-path", "/mnt"]) { replicas := 3, bootstrapSize := 3 } 0 true none
    (by decide +kernel)
  refine ⟨l, hlaunch,
    (options_once_iff (scriptOrdinal_podName _ 0) hlaunch (by decide)).mpr ?_⟩
  exact ⟨by decide +kernel, by decide +kernel, by decide +kernel⟩

/-- A Raft port in `extraArgs` comes on top of the script's. -/
theorem raft_port_twice :
    (optionNames (tunedCluster ["--raft-port", "9000"]).spec.extraArgs).Nodup ∧
    ∃ l, entrypoint (entrypointScript (tunedCluster ["--raft-port", "9000"]))
        (some { replicas := 3, bootstrapSize := 3 }) "kahuna-0" true none = .ok l ∧
      (optionNames l.argv).count "--raft-port" = 2 ∧ ¬(optionNames l.argv).Nodup :=
  ⟨by decide, _, rfl, by decide +kernel, by decide +kernel⟩

end KahunaOperator
