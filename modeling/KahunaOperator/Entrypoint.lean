/-
# `KahunaOperator.Entrypoint` — the ConfigMap and what a starting pod does with it

`internal/controller/entrypoint.go`.  A pass renders two files: the script,
which carries the static configuration, and `topology.env`, which carries the
two sizes.  `entrypoint` is the script's behaviour, from the pod's name, the
topology in force and the disk, to the server's command line or an exit.

Two numbers of `topology.env` feed different parts of the script:

    REPLICAS         the desired size           the peers of `--initial-cluster`
    BOOTSTRAP_SIZE   the pinned founding size   whether `--join-existing` is passed

`entrypoint_at` says what a pod of the StatefulSet launches.
-/
import KahunaOperator.Membership

namespace KahunaOperator

/-! ## Static arguments -/

def storageMountPath : String := "/storage"

def dataPath : String := storageMountPath ++ "/data"

def walPath : String := storageMountPath ++ "/wal"

def configMountPath : String := "/etc/kahuna"

def tlsMountPath : String := "/etc/kahuna/tls"

def tlsPasswordMountPath : String := "/etc/kahuna/tls-password"

def topologyPath : String := configMountPath ++ "/" ++ "topology.env"

def backupMountPath : String := "/backup"

def backupMACKeyPath : String := "/etc/kahuna/backup-mac" ++ "/" ++ "key"

def certManagerKeystoreKey : String := "keystore.p12"

def serverDLLPath : String := "/app/Kahuna.Server.dll"

def rebalancerConcurrentTransfers : Nat := 4

def rebalancerMovesPerPass : Nat := 8

def backupPath (cluster : KahunaCluster) : String := backupMountPath ++ "/" ++ cluster.name

def backupClusterID (cluster : KahunaCluster) (b : BackupSpec) : String :=
  if b.clusterID ≠ "" then b.clusterID else cluster.ns ++ "/" ++ cluster.name

def StorageBackend.flag : StorageBackend → String
  | .rocksdb => "rocksdb"
  | .sqlite => "sqlite"
  | .memory => "memory"

/-- A flag and its value, when there is one: an unset field emits nothing. -/
def flagArgs (flag : String) (v : Option Int) : List String :=
  match v with
  | none => []
  | some n => [flag, toString n]

/-- A presence-only flag, when the field is set to `want`. -/
def boolFlag (flag : String) (v : Option Bool) (want : Bool) : List String :=
  if v = some want then [flag] else []

def keystoreKey (cluster : KahunaCluster) : String :=
  if cluster.spec.tls.certManager then certManagerKeystoreKey
  else if cluster.spec.tls.keystoreKey ≠ "" then cluster.spec.tls.keystoreKey
  else "certificate.pfx"

def listenerArgs (cluster : KahunaCluster) : List String :=
  let p := ports cluster
  ["--http-ports", toString p.http, toString p.internalHTTP,
    "--https-ports", toString p.https, toString p.raft,
    "--https-certificate", tlsMountPath ++ "/" ++ keystoreKey cluster,
    "--allow-plaintext-listener"]

def storageArgs (s : StorageSpec) : List String :=
  ["--storage", (s.backend.getD .rocksdb).flag,
    "--storage-path", dataPath,
    "--storage-revision", if s.revision = "" then "v1" else s.revision,
    "--wal-storage", (s.walBackend.getD .rocksdb).flag,
    "--wal-path", walPath,
    "--wal-revision", if s.walRevision = "" then "v1" else s.walRevision] ++
  boolFlag "--disable-wal-sync-writes" s.syncWrites false ++
  boolFlag "--disable-rocksdb-direct-reads" s.directReads false ++
  boolFlag "--rocksdb-shared-memory" s.sharedMemory true ++
  flagArgs "--rocksdb-shared-memory-budget-mb" s.sharedMemoryBudgetMB ++
  flagArgs "--rocksdb-shared-memtable-budget-mb" s.sharedMemtableBudgetMB

def replicationArgs (rep : ReplicationSpec) : List String :=
  ["--raft-replication-factor", toString rep.factor,
    "--raft-enable-placement-rebalancer",
    "--raft-max-concurrent-replica-transfers", toString rebalancerConcurrentTransfers,
    "--raft-max-replica-moves-per-pass", toString rebalancerMovesPerPass,
    "--raft-replica-count-deadband", "0"]

def raftArgs (r : RaftSpec) : List String :=
  flagArgs "--raft-heartbeat-interval" r.heartbeatIntervalMs ++
  flagArgs "--raft-voting-timeout" r.votingTimeoutMs ++
  flagArgs "--raft-start-election-timeout" r.startElectionTimeoutMs ++
  flagArgs "--raft-end-election-timeout" r.endElectionTimeoutMs ++
  boolFlag "--raft-enable-check-quorum" r.enableCheckQuorum true ++
  flagArgs "--raft-gossip-interval" r.gossipIntervalMs ++
  flagArgs "--raft-gossip-fanout" r.gossipFanout ++
  flagArgs "--raft-ping-timeout" r.pingTimeoutMs ++
  flagArgs "--raft-indirect-ping-fanout" r.indirectPingFanout ++
  flagArgs "--raft-suspicion-timeout" r.suspicionTimeoutMs ++
  flagArgs "--raft-dead-member-eviction-grace" r.deadMemberEvictionGraceMs ++
  flagArgs "--raft-backfill-threshold" r.backfillThreshold ++
  flagArgs "--raft-max-backfill-entries-per-round" r.maxBackfillEntriesPerRound ++
  flagArgs "--raft-learner-promotion-lag" r.learnerPromotionLag ++
  flagArgs "--raft-learner-promotion-stable-window" r.learnerPromotionStableWindowMs

def transactionArgs (t : TransactionsSpec) : List String :=
  flagArgs "--default-transaction-timeout" t.defaultTimeoutMs ++
  flagArgs "--default-admission-wait" t.defaultAdmissionWaitMs ++
  flagArgs "--max-admission-wait" t.maxAdmissionWaitMs ++
  flagArgs "--max-concurrent-transactions" t.maxConcurrentTransactions ++
  flagArgs "--max-concurrent-sessions" t.maxConcurrentSessions

def workerArgs (w : WorkersSpec) : List String :=
  flagArgs "--locks-workers" w.locks ++
  flagArgs "--keyvalue-workers" w.keyValue ++
  flagArgs "--sequencer-workers" w.sequencer ++
  flagArgs "--background-writer-workers" w.backgroundWriter

def retentionArgs (r : BackupRetentionSpec) : List String :=
  flagArgs "--backup-retention-max-chains" r.maxChains ++
  flagArgs "--backup-retention-max-age" r.maxAge ++
  flagArgs "--backup-retention-max-bytes" r.maxBytes

def backupArgs (cluster : KahunaCluster) (b : BackupSpec) : List String :=
  ["--pitr-backup-dir", backupPath cluster,
    "--pitr-backup-cluster-id", backupClusterID cluster b,
    "--pitr-backup-mac-key-file", backupMACKeyPath,
    "--backup-gc-interval", "0"] ++
  (b.retention.map retentionArgs).getD []

/-- The arguments before the user's own, in the order the source appends them. -/
def generatedArgs (cluster : KahunaCluster) : List String :=
  let s := cluster.spec
  listenerArgs cluster ++ storageArgs s.storage ++
  ["--initial-cluster-partitions", toString (s.partitions.getD 3)] ++
  boolFlag "--raft-allow-insecure-certificate-validation" s.tls.insecureSkipVerify true ++
  (s.replication.map replicationArgs).getD [] ++
  (s.raft.map raftArgs).getD [] ++
  (s.transactions.map transactionArgs).getD [] ++
  (s.workers.map workerArgs).getD [] ++
  (s.backup.map (backupArgs cluster)).getD []

/-- The option name of a `--name` or `--name=value` token. -/
def flagName (token : String) : Option String :=
  if token.toList.take 2 = ['-', '-'] then
    some (String.ofList (token.toList.takeWhile (· ≠ '=')))
  else none

/-- The loop of `withoutOverridden`: each flag decides whether it and the values
after it are dropped. -/
def dropOverridden (overridden : List String) : Bool → List String → List String
  | _, [] => []
  | skipping, a :: rest =>
      let skip := match flagName a with
        | some name => overridden.contains name
        | none => skipping
      if skip then dropOverridden overridden skip rest
      else a :: dropOverridden overridden skip rest

def withoutOverridden (generated extra : List String) : List String :=
  dropOverridden (extra.filterMap flagName) false generated

def staticArgs (cluster : KahunaCluster) : List String :=
  withoutOverridden (generatedArgs cluster) cluster.spec.extraArgs ++ cluster.spec.extraArgs

/-! ## The ConfigMap -/

/-- `topology.env`. -/
structure Topology where
  replicas : Nat
  bootstrapSize : Nat
deriving DecidableEq, Repr

/-- What the rendered script carries of the cluster. -/
structure Script where
  ns : String
  name : String
  stsName : String
  peerDomain : String
  raftPort : Nat
  staticArgs : List String
deriving DecidableEq, Repr

structure ConfigMap where
  script : Script
  topology : Topology
deriving DecidableEq, Repr

def topologyEnv (cluster : KahunaCluster) (bootstrapSize : Nat) : Topology :=
  { replicas := desiredReplicas cluster, bootstrapSize := bootstrapSize }

def entrypointScript (cluster : KahunaCluster) : Script :=
  { ns := cluster.ns
    name := cluster.name
    stsName := stsName cluster
    peerDomain := peerDomain cluster
    raftPort := (ports cluster).raft
    staticArgs := staticArgs cluster }

def desiredConfigMap (cluster : KahunaCluster) (bootstrapSize : Nat) : ConfigMap :=
  { script := entrypointScript cluster, topology := topologyEnv cluster bootstrapSize }

/-! ## The script -/

/-- The exits of the script before it starts the server. -/
inductive ScriptError where
  | podNameUnset
  | noOrdinal (podName : String)
  | topologyMissing
  | emptyPeers (replicas : Nat)
deriving DecidableEq, Repr

def ScriptError.message : ScriptError → String
  | .podNameUnset => "kahuna-operator: POD_NAME is unset; the downward API env var is missing"
  | .noOrdinal name => "kahuna-operator: cannot derive an ordinal from POD_NAME=" ++ name
  | .topologyMissing => "kahuna-operator: " ++ topologyPath ++ " is missing"
  | .emptyPeers n =>
      "kahuna-operator: empty --initial-cluster with REPLICAS=" ++ toString n ++
        " would start a standalone node"

/-- What the server is started with. -/
structure Launch where
  nodeName : String
  nodeID : Nat
  host : String
  port : Nat
  initialCluster : List String
  joinExisting : Bool
  password : Option String
  staticArgs : List String
deriving DecidableEq, Repr

/-- The command line of the final `exec`. -/
def Launch.argv (l : Launch) : List String :=
  ["dotnet", serverDLLPath, "--raft-nodename", l.nodeName, "--raft-nodeid", toString l.nodeID,
    "--raft-host", l.host, "--raft-port", toString l.port] ++
  (if l.initialCluster = [] then [] else "--initial-cluster" :: l.initialCluster) ++
  (if l.joinExisting then ["--join-existing"] else []) ++
  (match l.password with
    | none => []
    | some p => ["--https-certificate-password", p]) ++
  l.staticArgs

/-- The text after the last dash of the pod's name, read as decimal digits.
Bash would read a leading zero as octal; a StatefulSet never names a pod so. -/
def scriptOrdinal (podName : String) : Option Nat :=
  parseDigits (podName.toList.reverse.takeWhile (· ≠ '-')).reverse

/-- `PEERS`: the other ordinals below `REPLICAS`. -/
def peers (script : Script) (replicas ordinal : Nat) : List String :=
  ((List.range replicas).filter (· ≠ ordinal)).map fun i =>
    script.stsName ++ "-" ++ toString i ++ "." ++ script.peerDomain ++ ":" ++
      toString script.raftPort

/-- The script, run by a pod.  `topology` is the file as mounted, `dataEmpty`
says that the data directory lists nothing, `password` is what the script reads
of the password file, when there is one. -/
def entrypoint (script : Script) (topology : Option Topology) (podName : String)
    (dataEmpty : Bool) (password : Option String) : Except ScriptError Launch :=
  if podName = "" then .error .podNameUnset
  else
    match scriptOrdinal podName with
    | none => .error (.noOrdinal podName)
    | some ordinal =>
        match topology with
        | none => .error .topologyMissing
        | some topo =>
            let others := peers script topo.replicas ordinal
            if others = [] ∧ topo.replicas ≠ 1 then .error (.emptyPeers topo.replicas)
            else .ok
              { nodeName := podName
                nodeID := ordinal + 1
                host := podName ++ "." ++ script.peerDomain
                port := script.raftPort
                initialCluster := others
                joinExisting := decide (topo.bootstrapSize ≤ ordinal) && dataEmpty
                password := password
                staticArgs := script.staticArgs }

/-! ## A pod of the StatefulSet -/

/-- The script reads a pod's ordinal back from its name. -/
theorem scriptOrdinal_podName (cluster : KahunaCluster) (i : Nat) :
    scriptOrdinal (podName cluster i) = some i := by
  unfold scriptOrdinal
  rw [afterLastDash_podName, parseDigits_toDigits]

theorem podName_ne_empty (cluster : KahunaCluster) (i : Nat) : podName cluster i ≠ "" := by
  simp [podName, String.append_eq_empty_iff]

/-- The peers of a node are the Raft endpoints of the other ordinals. -/
theorem peers_eq (cluster : KahunaCluster) (replicas ordinal : Nat) :
    peers (entrypointScript cluster) replicas ordinal =
      ((List.range replicas).filter (· ≠ ordinal)).map (raftEndpoint cluster) := rfl

theorem mem_peers {cluster : KahunaCluster} {replicas ordinal : Nat} {e : String} :
    e ∈ peers (entrypointScript cluster) replicas ordinal ↔
      ∃ i < replicas, i ≠ ordinal ∧ raftEndpoint cluster i = e := by
  rw [peers_eq]
  simp [and_assoc]

/-- What a started pod of the StatefulSet was launched with, whatever script it
ran. -/
theorem entrypoint_at {script : Script} {cluster : KahunaCluster} {topo : Topology} {i : Nat}
    {dataEmpty : Bool} {password : Option String} {l : Launch}
    (h : entrypoint script (some topo) (podName cluster i) dataEmpty password = .ok l) :
    l.initialCluster = peers script topo.replicas i ∧
      l.joinExisting = (decide (topo.bootstrapSize ≤ i) && dataEmpty) ∧
      l.nodeID = i + 1 ∧ (l.initialCluster = [] → topo.replicas = 1) := by
  simp only [entrypoint, podName_ne_empty, if_false, scriptOrdinal_podName] at h
  split at h
  · cases h
  · next hpeers =>
      cases h
      refine ⟨rfl, rfl, rfl, ?_⟩
      intro hnil
      by_contra hne
      exact hpeers ⟨hnil, hne⟩

/-- A pod with a peer starts. -/
theorem entrypoint_starts (script : Script) (cluster : KahunaCluster) (topo : Topology) (i : Nat)
    (dataEmpty : Bool) (password : Option String) (h : peers script topo.replicas i ≠ []) :
    ∃ l, entrypoint script (some topo) (podName cluster i) dataEmpty password = .ok l := by
  simp only [entrypoint, podName_ne_empty, if_false, scriptOrdinal_podName, h, false_and]
  exact ⟨_, rfl⟩

end KahunaOperator
