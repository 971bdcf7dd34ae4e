/-
# `KahunaOperator.Quoting` — the script's text, and the words bash reads from it

`entrypointScript` of `internal/controller/entrypoint.go` prints the server's
arguments into a bash array,

    STATIC_ARGS=('--flag' 'value' …)

each through `shellQuote`.  `spec.extraArgs` and the storage revision are free
text, so this line is where a spec could reach the shell.

    the words of STATIC_ARGS are the arguments, and no character of them is left
    for the shell to interpret                          (`static_args_read_back`)

`Script.text` is the whole file.  The rest of the development works on `Script`,
the data printed into it, and the hash of the pod template is taken over the text.
-/
import KahunaOperator.Lib.ShellWords
import KahunaOperator.Trace

namespace KahunaOperator

open Lib

/-! ## The script's text -/

def scriptHead (script : Script) : List String :=
  [ "#!/usr/bin/env bash",
    "# Generated by kahuna-operator for " ++ script.ns ++ "/" ++ script.name ++
      ". Do not edit — the next reconcile overwrites it.",
    "set -euo pipefail",
    "",
    "if [[ -z \"$\x7bPOD_NAME:-\x7d\" ]]; then",
    "  echo \"kahuna-operator: POD_NAME is unset; the downward API env var is missing\" >&2",
    "  exit 1",
    "fi",
    "",
    "# The StatefulSet ordinal is the node's durable identity: pod names are stable across " ++
      "restarts,",
    "# so the Raft node id derived from it is too.",
    "ORDINAL=\"$\x7bPOD_NAME##*-\x7d\"",
    "if ! [[ \"$ORDINAL\" =~ ^[0-9]+$ ]]; then",
    "  echo \"kahuna-operator: cannot derive an ordinal from POD_NAME=$POD_NAME\" >&2",
    "  exit 1",
    "fi",
    "",
    "STS_NAME=" ++ shellQuote script.stsName,
    "PEER_DOMAIN=" ++ shellQuote script.peerDomain,
    "RAFT_PORT=" ++ toString script.raftPort,
    "",
    "# Topology lives in a separate file rather than in this script so that scaling the " ++
      "cluster does",
    "# not change the pod template and therefore does not restart every existing node.",
    "TOPOLOGY=" ++ shellQuote topologyPath,
    "if [[ ! -f \"$TOPOLOGY\" ]]; then",
    "  echo \"kahuna-operator: $TOPOLOGY is missing\" >&2",
    "  exit 1",
    "fi",
    "# shellcheck source=/dev/null",
    "source \"$TOPOLOGY\"",
    "",
    "# +1 because --raft-nodeid defaults to 0, making a node given 0 indistinguishable from " ++
      "one that",
    "# was never configured.",
    "NODE_ID=$((ORDINAL + 1))",
    "RAFT_HOST=\"$\x7bPOD_NAME\x7d.$\x7bPEER_DOMAIN\x7d\"",
    "",
    "# --initial-cluster lists this node's PEERS and must exclude the node itself. Before " ++
      "the roster",
    "# is seeded, Kommander assigns the discovery list straight to its peer set without filtering",
    "# self, so a self-entry would inflate quorum math during bootstrap.",
    "PEERS=()",
    "for ((i = 0; i < REPLICAS; i++)); do",
    "  if [[ \"$i\" -eq \"$ORDINAL\" ]]; then continue; fi",
    "  PEERS+=(\"$\x7bSTS_NAME\x7d-$\x7bi\x7d.$\x7bPEER_DOMAIN\x7d:$\x7bRAFT_PORT\x7d\")",
    "done",
    "",
    "# An empty peer list is not an error: it is how a single-node cluster asks the server for its",
    "# standalone mode. It is, however, the wrong thing to hand a multi-node member, so a " ++
      "node that",
    "# expects peers and has none fails rather than silently starting a second one-node cluster.",
    "CLUSTER_ARGS=()",
    "if [[ $\x7b#PEERS[@]\x7d -gt 0 ]]; then",
    "  CLUSTER_ARGS+=(--initial-cluster \"$\x7bPEERS[@]\x7d\")",
    "elif [[ \"$REPLICAS\" -ne 1 ]]; then",
    "  echo \"kahuna-operator: empty --initial-cluster with REPLICAS=$REPLICAS would start " ++
      "a standalone node\" >&2",
    "  exit 1",
    "fi",
    "",
    "# Join mode. BOOTSTRAP_SIZE is the size the cluster was first created at and never " ++
      "changes, so",
    "# an ordinal at or above it is by definition a node added after the cluster was " ++
      "already running.",
    "#",
    "#   * Ordinal below BOOTSTRAP_SIZE -> one of the founding nodes. Static discovery seeds the",
    "#                      roster; --join-existing here could fork it into a second roster.",
    "#   * At or above, with data on disk -> already a member. It replays its WAL and rejoins its",
    "#                      partitions; asking it to re-admit itself is wrong.",
    "#   * At or above, empty -> a new node arriving at a running cluster (scale-up, or a " ++
      "node whose",
    "#                      volume was lost). It must enter as a Learner via the seeds.",
    "JOIN_ARGS=()",
    "if [[ \"$ORDINAL\" -ge \"$BOOTSTRAP_SIZE\" && -z \"$(ls -A " ++ shellQuote dataPath ++
      " 2>/dev/null)\" ]]; then",
    "  JOIN_ARGS+=(--join-existing)",
    "fi",
    "",
    "mkdir -p " ++ shellQuote dataPath ++ " " ++ shellQuote walPath,
    "",
    "# The keystore password would be visible in this container's argv. Kahuna reads it " ++
      "only from the",
    "# command line, so there is no way to avoid that; it is not exposed outside the pod.",
    "TLS_ARGS=()",
    "if [[ -f " ++ shellQuote (tlsPasswordMountPath ++ "/password") ++ " ]]; then",
    "  TLS_ARGS+=(--https-certificate-password \"$(cat " ++ shellQuote (tlsPasswordMountPath ++
      "/password") ++ ")\")",
    "fi",
    ""]

def scriptTail : List String :=
  [ "",
    "# $\x7bARR[@]+\"$\x7bARR[@]\x7d\"\x7d rather than \"$\x7bARR[@]\x7d\": under \"set " ++
      "-u\" an empty array is an unbound",
    "# variable in bash before 4.4, and a single-node cluster leaves CLUSTER_ARGS empty.",
    "set -x",
    "exec dotnet " ++ serverDLLPath ++ " \\",
    "  --raft-nodename \"$POD_NAME\" \\",
    "  --raft-nodeid \"$NODE_ID\" \\",
    "  --raft-host \"$RAFT_HOST\" \\",
    "  --raft-port \"$RAFT_PORT\" \\",
    "  $\x7bCLUSTER_ARGS[@]+\"$\x7bCLUSTER_ARGS[@]\x7d\"\x7d \\",
    "  $\x7bJOIN_ARGS[@]+\"$\x7bJOIN_ARGS[@]\x7d\"\x7d \\",
    "  $\x7bTLS_ARGS[@]+\"$\x7bTLS_ARGS[@]\x7d\"\x7d \\",
    "  $\x7bSTATIC_ARGS[@]+\"$\x7bSTATIC_ARGS[@]\x7d\"\x7d"]

def scriptLines (lines : List String) : String := String.join (lines.map (· ++ "\n"))

/-- The assignment of the server's static arguments. -/
def staticArgsText (args : List String) : String :=
  "STATIC_ARGS" ++ "=(" ++ " ".intercalate (args.map shellQuote) ++ ")"

/-- The file mounted into every pod. -/
def Script.text (script : Script) : String :=
  scriptLines (scriptHead script) ++ staticArgsText script.staticArgs ++ "\n" ++
    scriptLines scriptTail

/-! ## One argument -/

theorem readWords_quoteBody {s : List Char} (hnul : nul ∉ s) (w : ShellWord) (rest : List Char) :
    readWords .quoted (some w) (quoteBody s ++ '\'' :: rest) =
      readWords .plain (some (w ++ ShellWord.quoted s)) rest := by
  induction s generalizing w with
  | nil =>
      simp only [quoteBody, List.nil_append, ShellWord.quoted, List.map_nil, List.append_nil]
      exact readWords_shut w rest
  | cons c s ih =>
      obtain ⟨hc, hs⟩ := List.ne_and_not_mem_of_not_mem_cons hnul
      have hword : w ++ ShellWord.quoted (c :: s) = w ++ [(c, true)] ++ ShellWord.quoted s := by
        simp [ShellWord.quoted]
      rw [hword, ← ih hs]
      -- a quote is the only character that does not stand for itself
      by_cases hquote : c = '\''
      · subst hquote
        rw [quoteBody, if_pos rfl, List.append_assoc]
        exact readWords_escapedQuote w _
      · rw [quoteBody, if_neg hquote, List.append_assoc]
        exact readWords_quoted w _ hc.symm hquote

theorem toList_shellQuote (s : String) :
    (shellQuote s).toList = '\'' :: (quoteBody s.toList ++ ['\'']) := by
  simp [shellQuote]

theorem readsAs_shellQuote {a : String} (hnul : nul ∉ a.toList) :
    ReadsAs (shellQuote a).toList (ShellWord.quoted a.toList) := by
  intro rest
  rw [toList_shellQuote, List.cons_append, List.append_assoc, readWords_open]
  exact readWords_quoteBody hnul [] rest

/-! ## The array -/

theorem toList_staticArgsText (args : List String) (rest : List Char) :
    (staticArgsText args).toList ++ rest =
      ("STATIC_ARGS" ++ "=(").toList ++
        ([' '].intercalate (args.map fun a => (shellQuote a).toList) ++ ')' :: rest) := by
  simp [staticArgsText, String.toList_intercalate, Function.comp_def]

theorem readArray_staticArgsText {args : List String} (hnul : ∀ a ∈ args, nul ∉ a.toList)
    (rest : List Char) :
    readArray "STATIC_ARGS" ((staticArgsText args).toList ++ rest) =
      some (args.map fun a => ShellWord.quoted a.toList, rest) := by
  rw [toList_staticArgsText, readArray_append]
  apply readWords_intercalate
  rw [List.forall₂_map_left_iff, List.forall₂_map_right_iff]
  exact List.forall₂_same.mpr fun a ha => readsAs_shellQuote (hnul a ha)

theorem text_quoted_words (args : List String) :
    (args.map fun a => ShellWord.quoted a.toList).map ShellWord.text = args := by
  rw [List.map_map]
  conv_rhs => rw [← List.map_id args]
  exact List.map_congr_left fun a _ => ShellWord.text_quoted a

/-- Where the script's text assigns `STATIC_ARGS`, bash reads exactly the arguments,
every character of them quoted, and goes on with the lines that follow. -/
theorem static_args_read_back (script : Script) (hnul : ∀ a ∈ script.staticArgs, nul ∉ a.toList) :
    ∃ assignment words,
      script.text.toList = (scriptLines (scriptHead script)).toList ++ assignment ∧
      readArray "STATIC_ARGS" assignment =
        some (words, ("\n" ++ scriptLines scriptTail).toList) ∧
      words.map ShellWord.text = script.staticArgs ∧
      ∀ w ∈ words, w.Literal := by
  refine ⟨(staticArgsText script.staticArgs).toList ++ ("\n" ++ scriptLines scriptTail).toList,
    script.staticArgs.map fun a => ShellWord.quoted a.toList, ?_,
    readArray_staticArgsText hnul _, text_quoted_words script.staticArgs, ?_⟩
  · simp only [Script.text, String.toList_append, List.append_assoc]
  · intro w hw
    obtain ⟨a, _, rfl⟩ := List.mem_map.mp hw
    exact ShellWord.quoted_literal a.toList

/-- Arguments that try to leave the quotes, to expand and to be nothing. -/
def hostileScript : Script :=
  { ns := "default", name := "kv", stsName := "kv", peerDomain := "kv-peer.default"
    raftPort := 8082
    staticArgs := ["--x", "'; rm -rf / #", "$(id) `id`", "\\", "a\nb", "*", "", "''"] }

theorem hostile_args_read_back :
    ∃ assignment words,
      hostileScript.text.toList =
        (scriptLines (scriptHead hostileScript)).toList ++ assignment ∧
      readArray "STATIC_ARGS" assignment =
        some (words, ("\n" ++ scriptLines scriptTail).toList) ∧
      words.map ShellWord.text =
        ["--x", "'; rm -rf / #", "$(id) `id`", "\\", "a\nb", "*", "", "''"] ∧
      ∀ w ∈ words, w.Literal :=
  static_args_read_back hostileScript (by decide)

/-! ## Two scripts -/

theorem staticArgsText_inj {a b : List String} (ha : ∀ x ∈ a, nul ∉ x.toList)
    (hb : ∀ x ∈ b, nul ∉ x.toList) (h : staticArgsText a = staticArgsText b) : a = b := by
  have hread := readArray_staticArgsText ha []
  rw [h, readArray_staticArgsText hb, Option.some_inj, Prod.mk.injEq] at hread
  rw [← text_quoted_words a, ← hread.1, text_quoted_words]

/-- Other arguments make another text. -/
theorem Script.text_ne {script : Script} {args : List String}
    (hnul : ∀ a ∈ script.staticArgs, nul ∉ a.toList) (hnul' : ∀ a ∈ args, nul ∉ a.toList)
    (hargs : script.staticArgs ≠ args) :
    script.text ≠ Script.text { script with staticArgs := args } := by
  intro h
  have hhead : scriptHead { script with staticArgs := args } = scriptHead script := rfl
  unfold Script.text at h
  rw [hhead] at h
  have hlines := (String.append_left_inj _).mp ((String.append_left_inj _).mp h)
  exact hargs (staticArgsText_inj hnul hnul' ((String.append_right_inj _).mp hlines))

end KahunaOperator
