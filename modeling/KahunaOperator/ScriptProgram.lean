/-
# `KahunaOperator.ScriptProgram` — the startup script as a program

`entrypointScript` of `internal/controller/entrypoint.go` prints a bash script.
Here the script is a program of the fragment of `Lib.Bash`, block by block in the
order of the file, and `print_startProgram` says that its print is the file,
comments included.
-/
import KahunaOperator.Lib.Bash
import KahunaOperator.Quoting

namespace KahunaOperator

open Lib.Bash

def comments (lines : List String) : List Action := lines.map .comment

/-! ## The blocks -/

def refuse (message : List Part) : Prog := .acts [.complain message, .exit 1] .done

def podNameBlock (script : Script) : Prog :=
  .acts
    (comments ["!/usr/bin/env bash",
      " Generated by kahuna-operator for " ++ script.ns ++ "/" ++ script.name ++
        ". Do not edit — the next reconcile overwrites it."] ++
      [.strict, .blank]) <|
  .when (.holds (.isEmpty [.orEmpty "POD_NAME"]))
    (refuse
      [.text "kahuna-operator: POD_NAME is unset; the downward API env var is missing"]) <|
  .acts [.blank] .done

def ordinalBlock : Prog :=
  .acts
    (comments [" The StatefulSet ordinal is the node's durable identity: pod names are stable " ++
        "across restarts,",
      " so the Raft node id derived from it is too."] ++
      [.assign "ORDINAL" (.double [.afterLast "POD_NAME" '-'])]) <|
  .when (.fails (.isNumber [.value "ORDINAL"]))
    (refuse
      [.text "kahuna-operator: cannot derive an ordinal from POD_NAME=", .value "POD_NAME"]) <|
  .acts [.blank] .done

def settingsBlock (script : Script) : Prog :=
  .acts
    [.assign "STS_NAME" (.single script.stsName),
      .assign "PEER_DOMAIN" (.single script.peerDomain),
      .assign "RAFT_PORT" (.bare (toString script.raftPort)),
      .blank] .done

def topologyBlock : Prog :=
  .acts
    (comments [" Topology lives in a separate file rather than in this script so that scaling " ++
        "the cluster does",
      " not change the pod template and therefore does not restart every existing node."] ++
      [.assign "TOPOLOGY" (.single topologyPath)]) <|
  .when (.holds (.negated (.isFile (.double [.value "TOPOLOGY"]))))
    (refuse [.text "kahuna-operator: ", .value "TOPOLOGY", .text " is missing"]) <|
  .acts (comments [" shellcheck source=/dev/null"] ++ [.source "TOPOLOGY", .blank]) .done

def identityBlock : Prog :=
  .acts
    (comments [" +1 because --raft-nodeid defaults to 0, making a node given 0 " ++
        "indistinguishable from one that",
      " was never configured."] ++
      [.assign "NODE_ID" (.sum "ORDINAL" 1),
        .assign "RAFT_HOST" (.double [.braced "POD_NAME", .text ".", .braced "PEER_DOMAIN"]),
        .blank]) .done

/-- One turn of the loop over the ordinals. -/
def peerTurn : Prog :=
  .acts
    [.skipIf (.holds (.compare (.double [.value "i"]) .eq (.double [.value "ORDINAL"]))),
      .extendArray "PEERS"
        [.double [.braced "STS_NAME", .text "-", .braced "i", .text ".", .braced "PEER_DOMAIN",
          .text ":", .braced "RAFT_PORT"]]] .done

def peersBlock : Prog :=
  .acts
    (comments [" --initial-cluster lists this node's PEERS and must exclude the node itself. " ++
        "Before the roster",
      " is seeded, Kommander assigns the discovery list straight to its peer set without " ++
        "filtering",
      " self, so a self-entry would inflate quorum math during bootstrap."] ++
      [.assignArray "PEERS" []]) <|
  .count "i" "REPLICAS" peerTurn <|
  .acts [.blank] .done

def clusterArgsBlock : Prog :=
  .acts
    (comments [" An empty peer list is not an error: it is how a single-node cluster asks the " ++
        "server for its",
      " standalone mode. It is, however, the wrong thing to hand a multi-node member, so a " ++
        "node that",
      " expects peers and has none fails rather than silently starting a second one-node " ++
        "cluster."] ++
      [.assignArray "CLUSTER_ARGS" []]) <|
  .whenElse (.holds (.compare (.count "PEERS") .gt (.bare "0")))
    (.acts [.extendArray "CLUSTER_ARGS" [.bare "--initial-cluster", .each "PEERS"]] .done)
    (.holds (.compare (.double [.value "REPLICAS"]) .ne (.bare "1")))
    (refuse
      [.text "kahuna-operator: empty --initial-cluster with REPLICAS=", .value "REPLICAS",
        .text " would start a standalone node"]) <|
  .acts [.blank] .done

def joinArgsBlock : Prog :=
  .acts
    (comments [" Join mode. BOOTSTRAP_SIZE is the size the cluster was first created at and " ++
        "never changes, so",
      " an ordinal at or above it is by definition a node added after the cluster was already " ++
        "running.",
      "",
      "   * Ordinal below BOOTSTRAP_SIZE -> one of the founding nodes. Static discovery seeds the",
      "                      roster; --join-existing here could fork it into a second roster.",
      "   * At or above, with data on disk -> already a member. It replays its WAL and rejoins its",
      "                      partitions; asking it to re-admit itself is wrong.",
      "   * At or above, empty -> a new node arriving at a running cluster (scale-up, or a " ++
        "node whose",
      "                      volume was lost). It must enter as a Learner via the seeds."] ++
      [.assignArray "JOIN_ARGS" []]) <|
  .when
    (.holds
      (.both (.compare (.double [.value "ORDINAL"]) .ge (.double [.value "BOOTSTRAP_SIZE"]))
        (.isEmpty [.listing dataPath])))
    (.acts [.extendArray "JOIN_ARGS" [.bare "--join-existing"]] .done) <|
  .acts [.blank, .mkdir [dataPath, walPath], .blank] .done

def passwordPath : String := tlsPasswordMountPath ++ "/password"

def tlsArgsBlock : Prog :=
  .acts
    (comments [" The keystore password would be visible in this container's argv. Kahuna reads " ++
        "it only from the",
      " command line, so there is no way to avoid that; it is not exposed outside the pod."] ++
      [.assignArray "TLS_ARGS" []]) <|
  .when (.holds (.isFile (.single passwordPath)))
    (.acts
      [.extendArray "TLS_ARGS"
        [.bare "--https-certificate-password", .double [.content passwordPath]]] .done) <|
  .acts [.blank] .done

def launchBlock (script : Script) : Prog :=
  .acts
    ([.assignArray "STATIC_ARGS" (script.staticArgs.map .single), .blank] ++
      comments [" $\x7bARR[@]+\"$\x7bARR[@]\x7d\"\x7d rather than \"$\x7bARR[@]\x7d\": under " ++
          "\"set -u\" an empty array is an unbound",
        " variable in bash before 4.4, and a single-node cluster leaves CLUSTER_ARGS empty."] ++
      [.trace,
        .exec
          [[.bare "dotnet", .bare serverDLLPath],
            [.bare "--raft-nodename", .double [.value "POD_NAME"]],
            [.bare "--raft-nodeid", .double [.value "NODE_ID"]],
            [.bare "--raft-host", .double [.value "RAFT_HOST"]],
            [.bare "--raft-port", .double [.value "RAFT_PORT"]],
            [.eachIfSet "CLUSTER_ARGS"],
            [.eachIfSet "JOIN_ARGS"],
            [.eachIfSet "TLS_ARGS"],
            [.eachIfSet "STATIC_ARGS"]]]) .done

def startProgram (script : Script) : Prog :=
  (podNameBlock script).append <| ordinalBlock.append <| (settingsBlock script).append <|
    topologyBlock.append <| identityBlock.append <| peersBlock.append <|
    clusterArgsBlock.append <| joinArgsBlock.append <| tlsArgsBlock.append (launchBlock script)

/-! ## Its text -/

theorem print_single (args : List String) :
    List.map (Word.print shellQuote ∘ Word.single) args = args.map shellQuote :=
  List.map_congr_left fun _ _ => rfl

theorem lines_startProgram (script : Script) :
    (startProgram script).lines shellQuote =
      scriptHead script ++ staticArgsText script.staticArgs :: scriptTail := by
  have hone : Nat.repr 1 = "1" := rfl
  simp only [startProgram, Prog.lines_append]
  simp [podNameBlock, ordinalBlock, settingsBlock, topologyBlock, identityBlock, peersBlock,
    peerTurn, clusterArgsBlock, joinArgsBlock, passwordPath, tlsArgsBlock, launchBlock, refuse,
    comments, scriptHead, scriptTail, staticArgsText, Prog.acts, Prog.lines, Action.lines,
    Cond.print, Test.print, Comparison.print, Word.print, Part.print, quotedParts, printWords,
    print_single, continued, indented, hone, ← String.append_assoc]
  simp [String.append_assoc]

/-- The file is the print of the program. -/
theorem print_startProgram (script : Script) :
    scriptLines ((startProgram script).lines shellQuote) = script.text := by
  rw [lines_startProgram]
  simp [scriptLines, Script.text, String.append_assoc]

end KahunaOperator
