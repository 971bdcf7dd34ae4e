/-
# `KahunaOperator.Trace` — what the startup script writes before the server runs

The last lines of the script of `internal/controller/entrypoint.go` are

    set -x
    exec dotnet … ${TLS_ARGS[@]+"${TLS_ARGS[@]}"} …

so bash traces the `exec`, with every array expanded, on standard error.  Nothing
else is written on the way there: `ls` and `cat` are captured, `mkdir -p` is
silent and the trace is switched on only then.  The keystore password is one of
the expanded words, under a comment that says it "is not exposed outside the
pod".

`WordQuote` leaves open how the shell prints a traced word, as long as it keeps
words apart; `traceWord` is one such form.

    two passwords give the same output  ⟺  no password is mounted
                                                     (`output_hides_password_iff`)
-/
import KahunaOperator.Agreed
import KahunaOperator.Entrypoint
import KahunaOperator.Lib.Bash
import KahunaOperator.Objects

namespace KahunaOperator

open Lib.Bash (captured)

/-! ## The script's output -/

/-- How the shell prints a traced word: different words look different. -/
structure WordQuote where
  quote : String → String
  injective : Function.Injective quote

def xtrace (q : WordQuote) (words : List String) : String :=
  "+" ++ String.join (words.map fun w => " " ++ q.quote w) ++ "\n"

/-- What the script reads of the password file, mounted when the spec refers to a
password. -/
def passwordFile (cluster : KahunaCluster) (content : String) : Option String :=
  (tlsPasswordRef cluster).map fun _ => captured content

/-- A pod of the cluster whose keystore password is `content` runs the script. -/
def startPod (cluster : KahunaCluster) (topology : Option Topology) (pod : String)
    (dataEmpty : Bool) (content : String) : Except ScriptError Launch :=
  entrypoint (entrypointScript cluster) topology pod dataEmpty (passwordFile cluster content)

/-- Standard output and standard error until the server replaces the script. -/
def podOutput (q : WordQuote) (cluster : KahunaCluster) (topology : Option Topology)
    (pod : String) (dataEmpty : Bool) (content : String) : String :=
  match startPod cluster topology pod dataEmpty content with
  | .error e => e.message ++ "\n"
  | .ok l => xtrace q ("exec" :: l.argv)

/-! ## A printed word -/

/-- The body of a single-quoted word: a quote closes the text, stands escaped and
opens it again. -/
def quoteBody : List Char → List Char
  | [] => []
  | c :: rest =>
      (if c = '\'' then ['\'', '\\', '\'', '\''] else [c]) ++ quoteBody rest

def shellQuote (s : String) : String := "'" ++ String.ofList (quoteBody s.toList) ++ "'"

def shellMeta (c : Char) : Bool :=
  " \t\n'\"\\|&;()<>!*[]?^$`\x7b\x7d".toList.contains c

/-- A word as bash traces it: quoted when it is empty or has a character special to
the shell, and as it stands otherwise. -/
def traceWord (w : String) : String :=
  if w = "" ∨ w.toList.any shellMeta then shellQuote w else w

theorem quoteBody_injective : Function.Injective quoteBody := by
  intro a
  induction a with
  | nil =>
      intro b h
      cases b with
      | nil => rfl
      | cons d rest =>
          exfalso
          simp only [quoteBody] at h
          split at h <;> cases h
  | cons c rest ih =>
      intro b h
      cases b with
      | nil =>
          exfalso
          simp only [quoteBody] at h
          split at h <;> cases h
      | cons d tail =>
          by_cases hc : c = '\'' <;> by_cases hd : d = '\''
          · subst hc hd
            simp only [quoteBody, if_true, List.append_cancel_left_eq] at h
            rw [ih h]
          · simp only [quoteBody, if_pos hc, if_neg hd] at h
            exact absurd (List.cons.inj h).1.symm hd
          · simp only [quoteBody, if_neg hc, if_pos hd] at h
            exact absurd (List.cons.inj h).1 hc
          · simp only [quoteBody, if_neg hc, if_neg hd] at h
            obtain ⟨rfl, hrest⟩ := List.cons.inj h
            rw [ih hrest]

theorem shellQuote_injective : Function.Injective shellQuote := by
  intro a b h
  have hbody := (String.append_right_inj _).mp ((String.append_left_inj _).mp h)
  have hlists := quoteBody_injective (String.ofList_injective hbody)
  exact String.toList_injective hlists

theorem shellQuote_ne_plain {a b : String} (hb : ¬b.toList.any shellMeta) : shellQuote a ≠ b := by
  rintro rfl
  refine hb ?_
  simp [shellQuote, shellMeta]

theorem traceWord_injective : Function.Injective traceWord := by
  intro a b h
  unfold traceWord at h
  split at h <;> split at h
  · exact shellQuote_injective h
  · next hb => exact absurd h (shellQuote_ne_plain fun hm => hb (Or.inr hm))
  · next ha _ => exact absurd h.symm (shellQuote_ne_plain fun hm => ha (Or.inr hm))
  · exact h

def bashQuote : WordQuote := { quote := traceWord, injective := traceWord_injective }

/-! ## Two passwords -/

theorem tlsPasswordRef_eq_none (cluster : KahunaCluster) :
    tlsPasswordRef cluster = none ↔
      cluster.spec.tls.passwordSecretRef = none ∧ cluster.spec.tls.certManager = false := by
  unfold tlsPasswordRef
  cases cluster.spec.tls.passwordSecretRef with
  | some ref => simp
  | none => simp

theorem entrypoint_password {script : Script} {topology : Option Topology} {pod : String}
    {dataEmpty : Bool} {password : Option String} {l : Launch}
    (h : entrypoint script topology pod dataEmpty password = .ok l) (other : Option String) :
    entrypoint script topology pod dataEmpty other = .ok { l with password := other } := by
  unfold entrypoint at h ⊢
  split at h
  · cases h
  · next hpod =>
      rw [if_neg hpod]
      cases hordinal : scriptOrdinal pod with
      | none =>
          rw [hordinal] at h
          cases h
      | some ordinal =>
          rw [hordinal] at h
          cases topology with
          | none => cases h
          | some topo =>
              simp only at h ⊢
              split at h
              · cases h
              · next hpeers =>
                  rw [if_neg hpeers]
                  cases h
                  rfl

theorem xtrace_word (q : WordQuote) (before after : List String) (w : String) :
    xtrace q (before ++ w :: after) =
      "+" ++ String.join (before.map fun v => " " ++ q.quote v) ++ " " ++ q.quote w ++
        (String.join (after.map fun v => " " ++ q.quote v) ++ "\n") := by
  simp only [xtrace, List.map_append, List.map_cons, String.join_append, String.join_cons,
    String.append_assoc]

theorem xtrace_injective (q : WordQuote) {before after : List String} {w v : String}
    (h : xtrace q (before ++ w :: after) = xtrace q (before ++ v :: after)) : w = v := by
  rw [xtrace_word, xtrace_word] at h
  have hright := String.append_left_inj _ |>.mp h
  exact q.injective (String.append_right_inj _ |>.mp hright)

def Launch.beforePassword (l : Launch) : List String :=
  ["dotnet", serverDLLPath, "--raft-nodename", l.nodeName, "--raft-nodeid", toString l.nodeID,
    "--raft-host", l.host, "--raft-port", toString l.port] ++
  (if l.initialCluster = [] then [] else "--initial-cluster" :: l.initialCluster) ++
  (if l.joinExisting then ["--join-existing"] else []) ++ ["--https-certificate-password"]

theorem argv_password {l : Launch} {p : String} (h : l.password = some p) :
    l.argv = l.beforePassword ++ p :: l.staticArgs := by
  unfold Launch.argv Launch.beforePassword
  rw [h]
  simp only [List.append_assoc, List.cons_append, List.nil_append]

theorem output_tells_password (q : WordQuote) {cluster : KahunaCluster}
    {topology : Option Topology} {pod content : String} {dataEmpty : Bool} {l : Launch}
    {ref : SecretKeySelector} (href : tlsPasswordRef cluster = some ref)
    (hlaunch : startPod cluster topology pod dataEmpty content = .ok l) {p p' : String}
    (hsame : podOutput q cluster topology pod dataEmpty p =
      podOutput q cluster topology pod dataEmpty p') : captured p = captured p' := by
  have hrun : ∀ p, startPod cluster topology pod dataEmpty p =
      .ok { l with password := some (captured p) } := by
    intro p
    have hfile : passwordFile cluster p = some (captured p) := by
      rw [passwordFile, href]
      rfl
    rw [startPod, hfile]
    exact entrypoint_password hlaunch _
  have hout : ∀ p, podOutput q cluster topology pod dataEmpty p =
      xtrace q (("exec" :: l.beforePassword) ++ captured p :: l.staticArgs) := by
    intro p
    simp only [podOutput, hrun]
    rw [argv_password rfl]
    rfl
  rw [hout, hout] at hsame
  exact xtrace_injective q hsame

/-- When the script reaches its `exec`, its output is the same for any two
passwords exactly when the pod mounts none. -/
theorem output_hides_password_iff (q : WordQuote) {cluster : KahunaCluster}
    {topology : Option Topology} {pod : String} {dataEmpty : Bool}
    (hexec : ∃ content l, startPod cluster topology pod dataEmpty content = .ok l) :
    (∀ p p', podOutput q cluster topology pod dataEmpty p =
        podOutput q cluster topology pod dataEmpty p') ↔
      cluster.spec.tls.passwordSecretRef = none ∧ cluster.spec.tls.certManager = false := by
  rw [← tlsPasswordRef_eq_none]
  constructor
  · intro hsame
    obtain ⟨content, l, hlaunch⟩ := hexec
    rw [Option.eq_none_iff_forall_ne_some]
    intro ref href
    have hab := output_tells_password q href hlaunch (hsame "a" "b")
    exact absurd hab (by decide)
  · intro hnone p p'
    have hfile : ∀ c, passwordFile cluster c = none := by
      intro c
      rw [passwordFile, hnone]
      rfl
    simp only [podOutput, startPod, hfile]

/-- A pod of a cluster without a keystore password prints the same twice. -/
theorem plain_keystore_same_output :
    podOutput bashQuote (foundedCluster 3 3) (some { replicas := 3, bootstrapSize := 3 })
        "kahuna-0" true "a" =
      podOutput bashQuote (foundedCluster 3 3) (some { replicas := 3, bootstrapSize := 3 })
        "kahuna-0" true "b" :=
  (output_hides_password_iff bashQuote ⟨"a", _, rfl⟩).mpr ⟨rfl, rfl⟩ "a" "b"

def lockedCluster : KahunaCluster :=
  let cluster := foundedCluster 3 3
  { cluster with
    spec :=
      { cluster.spec with
        tls := { passwordSecretRef := some { name := "keystore", key := "password" } } } }

/-- The password is in the traced command. -/
theorem password_traced :
    podOutput bashQuote lockedCluster (some { replicas := 3, bootstrapSize := 3 }) "kahuna-0"
        true "a" ≠
      podOutput bashQuote lockedCluster (some { replicas := 3, bootstrapSize := 3 }) "kahuna-0"
        true "b" ∧
    (∃ l, startPod lockedCluster (some { replicas := 3, bootstrapSize := 3 }) "kahuna-0" true
      "a" = .ok l) := by
  refine ⟨?_, _, rfl⟩
  intro hsame
  have hab := output_tells_password bashQuote rfl (rfl : startPod lockedCluster _ _ _ "a" = _) hsame
  exact absurd hab (by decide)

end KahunaOperator
