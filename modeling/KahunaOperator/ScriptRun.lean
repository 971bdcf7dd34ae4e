/-
# `KahunaOperator.ScriptRun` — running the startup script

`entrypoint` says what the script of `internal/controller/entrypoint.go` does.
Here the script itself runs: the program whose print is the mounted file, on a
host whose topology file is the one `topologyEnv` prints, from whatever environment
the container has.

    exit 1, the message on standard error          where `entrypoint` is an error
    exec with the words of `Launch.argv`, traced   where it is a launch
                                                           (`script_runs_as_modelled`)

Each block of the script has one lemma that gives its next state.  The blocks
after the topology read seven variables and assign others, which is what
`Configured` keeps.
-/
import KahunaOperator.ScriptProgram

namespace KahunaOperator

open Lib.Bash

/-! ## The topology file -/

/-- `topology.env` as `topologyEnv` prints it. -/
def Topology.text (t : Topology) : String :=
  scriptLines
    ["# Generated by kahuna-operator. Read at startup; changes need no pod restart.",
      "REPLICAS=" ++ toString t.replicas,
      "BOOTSTRAP_SIZE=" ++ toString t.bootstrapSize]

theorem newline_not_digit (n : Nat) : '\n' ∉ Nat.toDigits 10 n := by
  intro hmem
  exact absurd (Nat.isDigit_of_mem_toDigits (by decide) (by decide) hmem) (by decide)

theorem readLine_number (name : String) (hname : isName name.toList = true) (n : Nat) :
    readLine (name ++ "=" ++ toString n).toList = some (some (name, toString n)) := by
  have hlist : (name ++ "=" ++ toString n).toList = name.toList ++ '=' :: (toString n).toList := by
    simp
  have hdigits : (toString n).toList.all Char.isAlphanum = true := by
    rw [List.all_eq_true]
    intro c hc
    simp [Char.isAlphanum, (toString_digits n).2 c hc]
  rw [hlist, readLine_assignment hname hdigits, String.ofList_toList, String.ofList_toList]

/-- Sourcing the printed topology assigns its two numbers. -/
theorem readAssignments_topology (topo : Topology) :
    readAssignments topo.text =
      some [("REPLICAS", topo.replicas.repr), ("BOOTSTRAP_SIZE", topo.bootstrapSize.repr)] := by
  have hcomment : readLine
      "# Generated by kahuna-operator. Read at startup; changes need no pod restart.".toList =
      some none := by
    simp [readLine]
  have hreplicas := readLine_number "REPLICAS" (by decide) topo.replicas
  have hsize := readLine_number "BOOTSTRAP_SIZE" (by decide) topo.bootstrapSize
  refine @readAssignments_lines _ [none, some ("REPLICAS", topo.replicas.repr),
    some ("BOOTSTRAP_SIZE", topo.bootstrapSize.repr)] ?_ ?_
  · simp [newline_not_digit]
  · rw [show "REPLICAS=" = "REPLICAS" ++ "=" from rfl,
      show "BOOTSTRAP_SIZE=" = "BOOTSTRAP_SIZE" ++ "=" from rfl]
    simp only [List.mapM_cons, List.mapM_nil, hcomment, hreplicas, hsize]
    rfl

/-! ## The refusals -/

variable {host : Host} {fuel : Nat} {s : State} {script : Script} {topo : Topology}
  {pod : String} {n : Nat}

theorem run_refuse (host : Host) (fuel : Nat) {message : List Part} {m : String}
    (htraced : s.traced = false)
    (hm : expandParts host s message = .ok m) :
    (refuse message).run host fuel s = .exited 1 (s.complain (m ++ "\n")) := by
  simp [refuse, htraced, hm]

theorem expand_podNameUnset :
    expandParts host s
        [.text "kahuna-operator: POD_NAME is unset; the downward API env var is missing"] =
      .ok ScriptError.podNameUnset.message := by
  simp only [expandParts, Part.expand, ok_bind, pure_ok, String.append_empty]
  rfl

theorem expand_noOrdinal (hpod : s.vars "POD_NAME" = some (.text pod)) :
    expandParts host s
        [.text "kahuna-operator: cannot derive an ordinal from POD_NAME=", .value "POD_NAME"] =
      .ok (ScriptError.noOrdinal pod).message := by
  simp only [expandParts, Part.expand, State.textOf_text hpod, ok_bind, pure_ok,
    String.append_empty]
  rfl

theorem expand_topologyMissing (h : s.vars "TOPOLOGY" = some (.text topologyPath)) :
    expandParts host s [.text "kahuna-operator: ", .value "TOPOLOGY", .text " is missing"] =
      .ok ScriptError.topologyMissing.message := by
  simp only [expandParts, Part.expand, State.textOf_text h, ok_bind, pure_ok,
    String.append_empty, ← String.append_assoc]
  rfl

theorem expand_emptyPeers {r : Nat} (h : s.vars "REPLICAS" = some (.text r.repr)) :
    expandParts host s
        [.text "kahuna-operator: empty --initial-cluster with REPLICAS=", .value "REPLICAS",
          .text " would start a standalone node"] =
      .ok (ScriptError.emptyPeers r).message := by
  simp only [expandParts, Part.expand, State.textOf_text h, ok_bind, pure_ok,
    String.append_empty, ← String.append_assoc]
  rfl

/-! ## Up to the topology -/

theorem run_podName (htraced : s.traced = false) (hpod : s.vars "POD_NAME" = some (.text pod))
    (hne : pod ≠ "") : (podNameBlock script).run host fuel s = .next s.harden := by
  simp [podNameBlock, comments, htraced, hpod, State.textOf, hne]

theorem run_podName_empty (htraced : s.traced = false)
    (hpod : s.vars "POD_NAME" = none ∨ s.vars "POD_NAME" = some (.text "")) :
    (podNameBlock script).run host fuel s =
      .exited 1 (s.harden.complain (ScriptError.podNameUnset.message ++ "\n")) := by
  have hrefuse := run_refuse host fuel (s := s.harden) htraced expand_podNameUnset
  rcases hpod with hpod | hpod <;>
  simp [podNameBlock, comments, htraced, hpod, hrefuse, State.textOf]

/-- The script's test is whether the model reads an ordinal. -/
theorem isNumber_pastLast (pod : String) :
    (!(pastLast pod '-').toList.isEmpty && (pastLast pod '-').toList.all Char.isDigit) =
      (scriptOrdinal pod).isSome := by
  simp only [pastLast, String.toList_ofList, scriptOrdinal, parseDigits]
  generalize (pod.toList.reverse.takeWhile (· ≠ '-')).reverse = cs
  rw [List.any_eq_not_all_not]
  simp only [Bool.not_not]
  cases hempty : cs.isEmpty <;> cases hall : cs.all Char.isDigit <;> rfl

theorem run_ordinal (htraced : s.traced = false) (hpod : s.vars "POD_NAME" = some (.text pod))
    (hn : (scriptOrdinal pod).isSome = true) :
    ordinalBlock.run host fuel s = .next (s.set "ORDINAL" (.text (pastLast pod '-'))) := by
  rw [← isNumber_pastLast] at hn
  simp [ordinalBlock, comments, htraced, hpod, State.textOf, hn, -Bool.and_eq_true,
    -Bool.not_eq_true]

theorem run_ordinal_none (htraced : s.traced = false)
    (hpod : s.vars "POD_NAME" = some (.text pod)) (hn : scriptOrdinal pod = none) :
    ordinalBlock.run host fuel s =
      .exited 1 ((s.set "ORDINAL" (.text (pastLast pod '-'))).complain
        ((ScriptError.noOrdinal pod).message ++ "\n")) := by
  have hno := isNumber_pastLast pod
  rw [hn, Option.isSome_none] at hno
  have hrefuse := run_refuse host fuel (s := s.set "ORDINAL" (.text (pastLast pod '-')))
    htraced (expand_noOrdinal (by simpa using hpod))
  simp [ordinalBlock, comments, htraced, hpod, State.textOf, hno, hrefuse]

theorem run_settings (htraced : s.traced = false) :
    (settingsBlock script).run host fuel s =
      .next (((s.set "STS_NAME" (.text script.stsName)).set
        "PEER_DOMAIN" (.text script.peerDomain)).set "RAFT_PORT" (.text script.raftPort.repr)) := by
  simp [settingsBlock, htraced]

theorem run_topology (htraced : s.traced = false)
    (hfile : host.file topologyPath = some topo.text) :
    topologyBlock.run host fuel s =
      .next (((s.set "TOPOLOGY" (.text topologyPath)).set
        "REPLICAS" (.text topo.replicas.repr)).set
          "BOOTSTRAP_SIZE" (.text topo.bootstrapSize.repr)) := by
  simp [topologyBlock, comments, htraced, State.textOf, hfile, readAssignments_topology]

theorem run_topology_missing (htraced : s.traced = false)
    (hfile : host.file topologyPath = none) :
    topologyBlock.run host fuel s =
      .exited 1 ((s.set "TOPOLOGY" (.text topologyPath)).complain
        (ScriptError.topologyMissing.message ++ "\n")) := by
  have hrefuse := run_refuse host fuel (s := s.set "TOPOLOGY" (.text topologyPath)) htraced
    (expand_topologyMissing (by simp))
  simp [topologyBlock, comments, htraced, State.textOf, hfile, hrefuse]

/-! ## After the topology -/

/-- What the blocks after the topology find and none of them assigns. -/
structure Configured (s : State) (script : Script) (topo : Topology) (pod : String) (n : Nat) :
    Prop where
  untraced : s.traced = false
  silent : s.stderr = ""
  podName : s.vars "POD_NAME" = some (.text pod)
  ordinal : s.vars "ORDINAL" = some (.text n.repr)
  stsName : s.vars "STS_NAME" = some (.text script.stsName)
  peerDomain : s.vars "PEER_DOMAIN" = some (.text script.peerDomain)
  raftPort : s.vars "RAFT_PORT" = some (.text script.raftPort.repr)
  replicas : s.vars "REPLICAS" = some (.text topo.replicas.repr)
  bootstrapSize : s.vars "BOOTSTRAP_SIZE" = some (.text topo.bootstrapSize.repr)

theorem Configured.set (h : Configured s script topo pod n) {x : String}
    (hx : x ∉ ["POD_NAME", "ORDINAL", "STS_NAME", "PEER_DOMAIN", "RAFT_PORT", "REPLICAS",
      "BOOTSTRAP_SIZE"]) (v : Value) : Configured (s.set x v) script topo pod n := by
  obtain ⟨htraced, hsilent, h1, h2, h3, h4, h5, h6, h7⟩ := h
  simp only [List.mem_cons, List.not_mem_nil, or_false, not_or] at hx
  obtain ⟨hx1, hx2, hx3, hx4, hx5, hx6, hx7⟩ := hx
  constructor <;> simp [htraced, hsilent, h1, h2, h3, h4, h5, h6, h7, Ne.symm hx1, Ne.symm hx2,
    Ne.symm hx3, Ne.symm hx4, Ne.symm hx5, Ne.symm hx6, Ne.symm hx7]

theorem Configured.makeDirs (h : Configured s script topo pod n) (dirs : List String) :
    Configured (s.makeDirs dirs) script topo pod n :=
  ⟨h.untraced, h.silent, h.podName, h.ordinal, h.stsName, h.peerDomain, h.raftPort, h.replicas,
    h.bootstrapSize⟩

theorem run_identity (h : Configured s script topo pod n) (hn : n + 1 < 2 ^ 63) :
    identityBlock.run host fuel s =
      .next ((s.set "NODE_ID" (.text (n + 1).repr)).set
        "RAFT_HOST" (.text (pod ++ "." ++ script.peerDomain))) := by
  have hnext : (wrap ((n : Int) + 1)).repr = (n + 1).repr := repr_wrap_succ hn
  simp [identityBlock, comments, h.untraced, State.textOf, h.podName, h.peerDomain,
    State.numberOf_repr h.ordinal (by omega), hnext, String.append_assoc]

theorem peers_succ (script : Script) (j n : Nat) :
    peers script (j + 1) n = peers script j n ++ if j = n then [] else
      [script.stsName ++ "-" ++ toString j ++ "." ++ script.peerDomain ++ ":" ++
        toString script.raftPort] := by
  unfold peers
  rw [List.range_succ, List.filter_append, List.map_append]
  by_cases hj : j = n <;> simp [hj]

theorem length_peers_le (script : Script) (r n : Nat) : (peers script r n).length ≤ r := by
  unfold peers
  rw [List.length_map]
  exact (List.length_filter_le _ _).trans_eq List.length_range

/-- The state before turn `j` of the loop. -/
def turnState (s : State) (script : Script) (n j : Nat) : State :=
  (s.set "PEERS" (.list (peers script j n))).set "i" (.text j.repr)

/-- One turn adds the peer, or skips the node itself. -/
theorem run_peerTurn (h : Configured s script topo pod n) {j : Nat} (hn : n < 2 ^ 63)
    (hj : j < 2 ^ 63) :
    ∃ t, (peerTurn.run host fuel (turnState s script n j) = .next t ∨
        peerTurn.run host fuel (turnState s script n j) = .again t) ∧
      t.vars "i" = some (.text j.repr) ∧
      t.set "i" (.text (j + 1).repr) = turnState s script n (j + 1) := by
  by_cases hself : j = n
  · refine ⟨turnState s script n j, Or.inr ?_, rfl, ?_⟩
    · simp [turnState, peerTurn, h.untraced, State.textOf, h.ordinal, hself, number_repr hn]
    · simp [turnState, State.set_set, peers_succ, hself]
  · refine ⟨(turnState s script n j).set "PEERS" (.list (peers script (j + 1) n)), Or.inl ?_,
      by simp [turnState], ?_⟩
    · simp [turnState, peerTurn, h.untraced, State.textOf, State.listOf, h.ordinal, hself,
        number_repr hn, number_repr hj, h.stsName, h.peerDomain, h.raftPort, peers_succ,
        String.append_assoc]
    · rw [turnState, turnState, State.set_comm _ _ (by decide), State.set_set,
        State.set_comm _ _ (by decide), State.set_set]

theorem run_peers (h : Configured s script topo pod n) (hn : n < 2 ^ 63)
    (hr : topo.replicas < 2 ^ 63) (hfuel : topo.replicas < fuel) :
    peersBlock.run host fuel s = .next (turnState s script n topo.replicas) := by
  obtain ⟨t, hloop, ht⟩ : ∃ t, iterate "i" "REPLICAS" (peerTurn.run host fuel) fuel
      (turnState s script n 0) = .next t ∧ t = turnState s script n topo.replicas :=
    iterate_count (fun j t => t = turnState s script n j) hr
    (by
      rintro j _ rfl
      simp [turnState, h.replicas])
    (by
      rintro j hj _ rfl
      exact run_peerTurn h hn (by omega))
    rfl hfuel
  have hstart : (s.set "PEERS" (.list [])).set "i" (.text "0") = turnState s script n 0 := rfl
  simp [peersBlock, comments, h.untraced, hstart, hloop, ht]

theorem number_zero : number "0" = .ok 0 := number_repr (n := 0) (by decide)

theorem number_one : number "1" = .ok 1 := number_repr (n := 1) (by decide)

theorem run_clusterArgs (h : Configured s script topo pod n) {xs : List String}
    (hxs : s.vars "PEERS" = some (.list xs)) (hlen : xs.length < 2 ^ 63)
    (hgo : ¬(xs = [] ∧ topo.replicas ≠ 1)) :
    clusterArgsBlock.run host fuel s =
      .next (s.set "CLUSTER_ARGS"
        (.list (if xs = [] then [] else "--initial-cluster" :: xs))) := by
  by_cases hnil : xs = []
  · subst hnil
    have hone : topo.replicas = 1 := by
      by_contra hne
      exact hgo ⟨rfl, hne⟩
    have hreplicas : s.vars "REPLICAS" = some (.text "1") := by
      rw [h.replicas, hone]
      rfl
    have hzero : Nat.repr 0 = "0" := rfl
    simp [clusterArgsBlock, comments, h.untraced, State.textOf, State.listOf, hxs, hreplicas,
      hzero, number_zero, number_one]
  · have hpos := List.length_pos_of_ne_nil hnil
    simp [clusterArgsBlock, comments, h.untraced, State.listOf, hxs, number_zero,
      number_repr hlen, hpos, hnil, State.set_set]

theorem run_clusterArgs_empty (h : Configured s script topo pod n)
    (hxs : s.vars "PEERS" = some (.list [])) (hr : topo.replicas < 2 ^ 63)
    (hne : topo.replicas ≠ 1) :
    clusterArgsBlock.run host fuel s =
      .exited 1 ((s.set "CLUSTER_ARGS" (.list [])).complain
        ((ScriptError.emptyPeers topo.replicas).message ++ "\n")) := by
  have hrefuse := run_refuse host fuel (s := s.set "CLUSTER_ARGS" (.list [])) h.untraced
    (expand_emptyPeers (by simpa using h.replicas))
  have hzero : Nat.repr 0 = "0" := rfl
  simp [clusterArgsBlock, comments, h.untraced, State.textOf, State.listOf, hxs, h.replicas,
    number_zero, number_one, hzero, number_repr hr, hne, hrefuse]

/-- What the script takes for an empty data directory. -/
def dataEmpty (host : Host) : Bool := captured (listed (host.listing dataPath)) = ""

theorem run_joinArgs (h : Configured s script topo pod n) (hmade : s.made = [])
    (hn : n < 2 ^ 63) (hb : topo.bootstrapSize < 2 ^ 63)
    (hdirs : host.makes dataPath = true ∧ host.makes walPath = true) :
    joinArgsBlock.run host fuel s =
      .next ((s.set "JOIN_ARGS"
        (.list (if decide (topo.bootstrapSize ≤ n) && dataEmpty host then ["--join-existing"]
          else []))).makeDirs [dataPath, walPath]) := by
  by_cases hle : topo.bootstrapSize ≤ n
  · by_cases hempty : captured (listed (host.listing dataPath)) = ""
    · simp [joinArgsBlock, comments, h.untraced, State.textOf, State.listOf, h.ordinal,
        h.bootstrapSize, number_repr hn, number_repr hb, hmade, hdirs, hle, dataEmpty, hempty,
        State.set_set]
    · simp [joinArgsBlock, comments, h.untraced, State.textOf, h.ordinal, h.bootstrapSize,
        number_repr hn, number_repr hb, hmade, hdirs, hle, dataEmpty, hempty]
  · simp [joinArgsBlock, comments, h.untraced, State.textOf, h.ordinal, h.bootstrapSize,
      number_repr hn, number_repr hb, hdirs, hle]

def passwordArgs (password : Option String) : List String :=
  match password with
  | none => []
  | some p => ["--https-certificate-password", p]

theorem run_tlsArgs (h : Configured s script topo pod n) :
    tlsArgsBlock.run host fuel s =
      .next (s.set "TLS_ARGS" (.list (passwordArgs ((host.file passwordPath).map captured)))) := by
  cases hfile : host.file passwordPath with
  | none => simp [tlsArgsBlock, comments, h.untraced, hfile, passwordArgs]
  | some content =>
      simp [tlsArgsBlock, comments, h.untraced, hfile, passwordArgs, State.listOf, State.set_set]

theorem fieldsOf_single (args : List String) : fieldsOf host s (args.map .single) = .ok args := by
  induction args with
  | nil => rfl
  | cons a args ih => simp [ih]

/-- The last block starts the server and traces its words. -/
theorem run_launch (h : Configured s script topo pod n) {c j t : List String}
    {node raftHost : String} (hnode : s.vars "NODE_ID" = some (.text node))
    (hhost : s.vars "RAFT_HOST" = some (.text raftHost))
    (hc : s.vars "CLUSTER_ARGS" = some (.list c)) (hj : s.vars "JOIN_ARGS" = some (.list j))
    (ht : s.vars "TLS_ARGS" = some (.list t)) {argv : List String}
    (hargv : argv = ["dotnet", serverDLLPath, "--raft-nodename", pod, "--raft-nodeid", node,
      "--raft-host", raftHost, "--raft-port", script.raftPort.repr] ++ c ++ j ++ t ++
        script.staticArgs) :
    ∃ s', (launchBlock script).run host fuel s = .replaced argv s' ∧
      s'.stderr = traceLine host ("exec" :: argv) := by
  subst hargv
  simp [launchBlock, comments, h.untraced, h.silent, fieldsOf_single, h.podName, hnode, hhost,
    h.raftPort, hc, hj, ht, State.textOf, State.listOf]

/-! ## The whole script -/

/-- How a run of the script ends, by what the model of its behaviour returns. -/
def EndsAs (host : Host) (flow : Flow) : Except ScriptError Launch → Prop
  | .error e => ∃ s, flow = .exited 1 s ∧ s.stderr = e.message ++ "\n"
  | .ok l => ∃ s, flow = .replaced l.argv s ∧ s.stderr = traceLine host ("exec" :: l.argv)

/-- From the topology on. -/
theorem run_configured (h : Configured s script topo pod n) (hmade : s.made = [])
    (hne : pod ≠ "") (hordinal : scriptOrdinal pod = some n) (hn : n + 1 < 2 ^ 63)
    (hr : topo.replicas < 2 ^ 63) (hb : topo.bootstrapSize < 2 ^ 63)
    (hfuel : topo.replicas < fuel)
    (hdirs : host.makes dataPath = true ∧ host.makes walPath = true) :
    EndsAs host
      ((identityBlock.append <| peersBlock.append <| clusterArgsBlock.append <|
        joinArgsBlock.append <| tlsArgsBlock.append (launchBlock script)).run host fuel s)
      (entrypoint script (some topo) pod (dataEmpty host)
        ((host.file passwordPath).map captured)) := by
  have hn' : n < 2 ^ 63 := by omega
  have hid := (h.set (x := "NODE_ID") (by decide) (.text (n + 1).repr)).set (x := "RAFT_HOST")
    (by decide) (.text (pod ++ "." ++ script.peerDomain))
  have hturns := (hid.set (x := "PEERS") (by decide)
    (.list (peers script topo.replicas n))).set (x := "i") (by decide) (.text topo.replicas.repr)
  rw [Prog.run_append_next (run_identity h hn),
    Prog.run_append_next (run_peers hid hn' hr hfuel), turnState]
  simp only [entrypoint, if_neg hne, hordinal]
  by_cases hpeers : peers script topo.replicas n = [] ∧ topo.replicas ≠ 1
  · rw [Prog.run_append_exited (run_clusterArgs_empty hturns (by simp [hpeers.1]) hr hpeers.2),
      if_pos hpeers]
    exact ⟨_, rfl, by simp [h.silent]⟩
  · have hlen : (peers script topo.replicas n).length < 2 ^ 63 :=
      (length_peers_le script topo.replicas n).trans_lt hr
    have hcluster := hturns.set (x := "CLUSTER_ARGS") (by decide)
      (.list (if peers script topo.replicas n = [] then []
        else "--initial-cluster" :: peers script topo.replicas n))
    have hjoin := (hcluster.set (x := "JOIN_ARGS") (by decide)
      (.list (if decide (topo.bootstrapSize ≤ n) && dataEmpty host then ["--join-existing"]
        else []))).makeDirs [dataPath, walPath]
    rw [if_neg hpeers]
    have htls := hjoin.set (x := "TLS_ARGS") (by decide)
      (.list (passwordArgs ((host.file passwordPath).map captured)))
    rw [Prog.run_append_next (run_clusterArgs hturns (by simp) hlen hpeers),
      Prog.run_append_next (run_joinArgs hcluster (by simp [hmade]) hn' hb hdirs),
      Prog.run_append_next (run_tlsArgs hjoin)]
    refine run_launch htls rfl rfl rfl rfl rfl ?_
    cases host.file passwordPath <;> rfl

/-- The shell a container starts with: its environment, and nothing else. -/
def shellIn (env : String → Option String) : State := { vars := fun x => (env x).map .text }

theorem shellIn_podName {env : String → Option String} (hpod : (env "POD_NAME").getD "" = pod)
    (hne : pod ≠ "") : (shellIn env).vars "POD_NAME" = some (.text pod) := by
  cases henv : env "POD_NAME" with
  | none =>
      rw [henv] at hpod
      exact absurd hpod.symm hne
  | some p =>
      rw [henv] at hpod
      simp only [shellIn, henv, Option.map_some]
      exact congrArg (fun p => some (Value.text p)) hpod

theorem shellIn_podName_empty {env : String → Option String}
    (hpod : (env "POD_NAME").getD "" = "") :
    (shellIn env).vars "POD_NAME" = none ∨ (shellIn env).vars "POD_NAME" = some (.text "") := by
  cases henv : env "POD_NAME" with
  | none => exact Or.inl (by simp [shellIn, henv])
  | some p =>
      rw [henv] at hpod
      exact Or.inr (by simp only [shellIn, henv, Option.map_some, show p = "" from hpod])

/-- The script, from the first line. -/
theorem run_startProgram (script : Script) {env : String → Option String}
    {topology : Option Topology}
    (hfile : host.file topologyPath = topology.map Topology.text)
    (hdirs : host.makes dataPath = true ∧ host.makes walPath = true)
    (hpod : (env "POD_NAME").getD "" = pod)
    (hordinal : ∀ n, scriptOrdinal pod = some n → pastLast pod '-' = toString n ∧ n + 1 < 2 ^ 63)
    (hsizes : ∀ topo, topology = some topo →
      topo.replicas < 2 ^ 63 ∧ topo.bootstrapSize < 2 ^ 63 ∧ topo.replicas < fuel) :
    EndsAs host ((startProgram script).run host fuel (shellIn env))
      (entrypoint script topology pod (dataEmpty host)
        ((host.file passwordPath).map captured)) := by
  rw [startProgram]
  by_cases hempty : pod = ""
  · have hunset := shellIn_podName_empty (hpod.trans hempty)
    rw [Prog.run_append_exited (run_podName_empty rfl hunset), entrypoint, if_pos hempty]
    exact ⟨_, rfl, by simp [shellIn]⟩
  have hvar := shellIn_podName hpod hempty
  have hvar' : (shellIn env).harden.vars "POD_NAME" = some (.text pod) := hvar
  rw [Prog.run_append_next (run_podName rfl hvar hempty)]
  cases hn : scriptOrdinal pod with
  | none =>
      rw [Prog.run_append_exited (run_ordinal_none rfl hvar' hn)]
      simp only [entrypoint, if_neg hempty, hn]
      exact ⟨_, rfl, by simp [shellIn]⟩
  | some n =>
      obtain ⟨hsuffix, hsmall⟩ := hordinal n hn
      rw [Prog.run_append_next (run_ordinal rfl hvar' (by rw [hn]; rfl)),
        Prog.run_append_next (run_settings rfl), hsuffix]
      cases topology with
      | none =>
          rw [Prog.run_append_exited (run_topology_missing rfl hfile)]
          simp only [entrypoint, if_neg hempty, hn]
          exact ⟨_, rfl, by simp [shellIn]⟩
      | some topo =>
          obtain ⟨hr, hb, hfuel⟩ := hsizes topo rfl
          rw [Prog.run_append_next (run_topology rfl hfile)]
          refine run_configured ?_ rfl hempty hn hsmall hr hb hfuel hdirs
          exact ⟨rfl, rfl, hvar, rfl, rfl, rfl, rfl, rfl, rfl⟩

/-- The mounted file is the print of a program.  Run in any environment, on a host
with the printed topology and the password of the cluster, it ends as `startPod`
says, with the same status or the server started by the same words, and has
written what `podOutput` says. -/
theorem script_runs_as_modelled (q : WordQuote) (cluster : KahunaCluster) (host : Host)
    (env : String → Option String) (topology : Option Topology) (content : String) (fuel : Nat)
    {pod : String} (hpod : (env "POD_NAME").getD "" = pod) (hquote : host.quote = q.quote)
    (hfile : host.file topologyPath = topology.map Topology.text)
    (hpassword : host.file passwordPath = (tlsPasswordRef cluster).map fun _ => content)
    (hdirs : host.makes dataPath = true ∧ host.makes walPath = true)
    -- a name with a number that bash reads in base ten, as the names of a StatefulSet are
    (hordinal : ∀ n, scriptOrdinal pod = some n → pastLast pod '-' = toString n ∧ n + 1 < 2 ^ 63)
    (hsizes : ∀ topo, topology = some topo →
      topo.replicas < 2 ^ 63 ∧ topo.bootstrapSize < 2 ^ 63 ∧ topo.replicas < fuel) :
    scriptLines ((startProgram (entrypointScript cluster)).lines shellQuote) =
        (entrypointScript cluster).text ∧
      ∃ s, s.stderr = podOutput q cluster topology pod (dataEmpty host) content ∧
        (startProgram (entrypointScript cluster)).run host fuel (shellIn env) =
          match startPod cluster topology pod (dataEmpty host) content with
          | .error _ => .exited 1 s
          | .ok l => .replaced l.argv s := by
  refine ⟨print_startProgram (entrypointScript cluster), ?_⟩
  have hread : (host.file passwordPath).map captured = passwordFile cluster content := by
    rw [hpassword, Option.map_map]
    rfl
  have hends := run_startProgram (entrypointScript cluster) hfile hdirs hpod hordinal hsizes
  rw [hread] at hends
  unfold podOutput startPod
  revert hends
  cases entrypoint (entrypointScript cluster) topology pod (dataEmpty host)
      (passwordFile cluster content) with
  | error e =>
      rintro ⟨s, hrun, hstderr⟩
      exact ⟨s, hstderr, hrun⟩
  | ok l =>
      rintro ⟨s, hrun, hstderr⟩
      refine ⟨s, ?_, hrun⟩
      rw [hstderr, traceLine, hquote]
      rfl

/-- A host of a founding pod: the topology is mounted, the volume is new. -/
def newHost (topo : Topology) : Host :=
  { file := fun f => if f = topologyPath then some topo.text else none
    listing := fun _ => none
    makes := fun _ => true
    quote := traceWord }

/-- The first pod of a founded cluster starts the server. -/
theorem founding_pod_runs :
    scriptLines ((startProgram (entrypointScript (foundedCluster 3 3))).lines shellQuote) =
        (entrypointScript (foundedCluster 3 3)).text ∧
      ∃ s, s.stderr = podOutput bashQuote (foundedCluster 3 3)
          (some { replicas := 3, bootstrapSize := 3 }) "kahuna-0"
          (dataEmpty (newHost { replicas := 3, bootstrapSize := 3 })) "" ∧
        (startProgram (entrypointScript (foundedCluster 3 3))).run
            (newHost { replicas := 3, bootstrapSize := 3 }) 4
            (shellIn fun x => if x = "POD_NAME" then some "kahuna-0" else none) =
          match startPod (foundedCluster 3 3) (some { replicas := 3, bootstrapSize := 3 })
              "kahuna-0" (dataEmpty (newHost { replicas := 3, bootstrapSize := 3 })) "" with
          | .error _ => .exited 1 s
          | .ok l => .replaced l.argv s :=
  script_runs_as_modelled bashQuote (foundedCluster 3 3)
    (newHost { replicas := 3, bootstrapSize := 3 })
    (fun x => if x = "POD_NAME" then some "kahuna-0" else none)
    (some { replicas := 3, bootstrapSize := 3 }) "" 4 rfl rfl rfl rfl ⟨rfl, rfl⟩
    (by
      intro n hn
      obtain rfl : n = 0 := (Option.some_inj.mp hn).symm
      exact ⟨rfl, by decide⟩)
    (by
      rintro _ ⟨⟩
      decide)

end KahunaOperator
