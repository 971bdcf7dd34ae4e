/-
# `KahunaOperator.Lib.Bash` — a fragment of bash: its text and its runs

Programs are trees.  `Prog.lines` prints one as the lines of a script and
`Prog.run` runs one, so that a script that is the print of a program can be
reasoned about as the program.

    "$x"  "${x}"  "${x:-}"  "${x##*c}"  "$(ls -A 'd' 2>/dev/null)"  "$(cat 'f')"
    $((x + n))   ${#x[@]}   "${x[@]}"   ${x[@]+"${x[@]}"}
    [[ -z … ]]   [[ … =~ ^[0-9]+$ ]]   [[ -f … ]]   [[ a -ge b ]]   ! …   … && …
    X=…   X=(…)   X+=(…)   if/elif   for ((i = 0; i < B; i++))   continue
    source "$x"   echo "…" >&2   exit n   mkdir -p …   set -euo pipefail   exec …

What the shell refuses, or what the fragment does not say, is a `Fault`: an unset
variable under `set -u`, an operand that is no numeral, an array read as a text.
`"${x[@]}"` of an empty array counts as unset, as it does before bash 4.4.

Numbers are those of the shell's arithmetic, 64 bits wide, and a numeral with a
leading zero is octal.  The counting loop runs on fuel; `iterate_count` is its
total rule.
-/
import KahunaOperator.Lib.Cut
import Mathlib.Algebra.Group.Nat.Defs
import Mathlib.Data.List.Basic

namespace Lib.Bash

/-! ## Programs -/

/-- What stands inside double quotes. -/
inductive Part where
  | text (s : String)
  | value (x : String)
  | braced (x : String)
  | orEmpty (x : String)
  | afterLast (x : String) (c : Char)
  | listing (dir : String)
  | content (file : String)
deriving DecidableEq, Repr

inductive Word where
  | bare (s : String)
  | single (s : String)
  | double (ps : List Part)
  | sum (x : String) (n : Nat)
  | count (x : String)
  | each (x : String)
  | eachIfSet (x : String)
deriving DecidableEq, Repr

inductive Comparison where
  | eq
  | ne
  | ge
  | gt
deriving DecidableEq, Repr

inductive Test where
  | isEmpty (ps : List Part)
  | isNumber (ps : List Part)
  | isFile (w : Word)
  | compare (a : Word) (c : Comparison) (b : Word)
  | negated (t : Test)
  | both (t u : Test)
deriving DecidableEq, Repr

/-- `[[ t ]]` and `! [[ t ]]`. -/
inductive Cond where
  | holds (t : Test)
  | fails (t : Test)
deriving DecidableEq, Repr

/-- The simple commands.  `skipIf` is `if …; then continue; fi` on one line. -/
inductive Action where
  | blank
  | comment (s : String)
  | strict
  | trace
  | assign (x : String) (w : Word)
  | assignArray (x : String) (ws : List Word)
  | extendArray (x : String) (ws : List Word)
  | source (x : String)
  | complain (ps : List Part)
  | exit (status : Nat)
  | skipIf (c : Cond)
  | mkdir (dirs : List String)
  | exec (lines : List (List Word))
deriving DecidableEq, Repr

/-- A list of commands.  The compound ones carry what follows them, which keeps the
type free of nested lists. -/
inductive Prog where
  | done
  | act (a : Action) (next : Prog)
  | when (c : Cond) (body next : Prog)
  | whenElse (c : Cond) (body : Prog) (c' : Cond) (body' next : Prog)
  | count (i bound : String) (body next : Prog)
deriving DecidableEq, Repr

@[simp] def Prog.acts : List Action → Prog → Prog
  | [], p => p
  | a :: as, p => .act a (acts as p)

def Prog.append : Prog → Prog → Prog
  | .done, p => p
  | .act a next, p => .act a (next.append p)
  | .when c body next, p => .when c body (next.append p)
  | .whenElse c body c' body' next, p => .whenElse c body c' body' (next.append p)
  | .count i bound body next, p => .count i bound body (next.append p)

/-! ## Their text -/

section Text

-- `q` is how a single-quoted word is written
variable (q : String → String)

def Part.print : Part → String
  | .text s => s
  | .value x => "$" ++ x
  | .braced x => "$\x7b" ++ x ++ "\x7d"
  | .orEmpty x => "$\x7b" ++ x ++ ":-\x7d"
  | .afterLast x c => "$\x7b" ++ x ++ "##*" ++ String.singleton c ++ "\x7d"
  | .listing dir => "$(ls -A " ++ q dir ++ " 2>/dev/null)"
  | .content file => "$(cat " ++ q file ++ ")"

def quotedParts (ps : List Part) : String := "\"" ++ String.join (ps.map (Part.print q)) ++ "\""

def Word.print : Word → String
  | .bare s => s
  | .single s => q s
  | .double ps => quotedParts q ps
  | .sum x n => "$((" ++ x ++ " + " ++ toString n ++ "))"
  | .count x => "$\x7b#" ++ x ++ "[@]\x7d"
  | .each x => "\"$\x7b" ++ x ++ "[@]\x7d\""
  | .eachIfSet x => "$\x7b" ++ x ++ "[@]+\"$\x7b" ++ x ++ "[@]\x7d\"\x7d"

def printWords (ws : List Word) : String := " ".intercalate (ws.map (Word.print q))

def Comparison.print : Comparison → String
  | .eq => "-eq"
  | .ne => "-ne"
  | .ge => "-ge"
  | .gt => "-gt"

def Test.print : Test → String
  | .isEmpty ps => "-z " ++ quotedParts q ps
  | .isNumber ps => quotedParts q ps ++ " =~ ^[0-9]+$"
  | .isFile w => "-f " ++ w.print q
  | .compare a c b => a.print q ++ " " ++ c.print ++ " " ++ b.print q
  | .negated t => "! " ++ t.print
  | .both t u => t.print ++ " && " ++ u.print

def Cond.print : Cond → String
  | .holds t => "[[ " ++ t.print q ++ " ]]"
  | .fails t => "! [[ " ++ t.print q ++ " ]]"

/-- Lines joined by a backslash at the end of each but the last. -/
def continued : List String → List String
  | [] => []
  | [l] => [l]
  | l :: rest => (l ++ " \\") :: continued rest

def indented (lines : List String) : List String := lines.map ("  " ++ ·)

def Action.lines : Action → List String
  | .blank => [""]
  | .comment s => ["#" ++ s]
  | .strict => ["set -euo pipefail"]
  | .trace => ["set -x"]
  | .assign x w => [x ++ "=" ++ w.print q]
  | .assignArray x ws => [x ++ "=(" ++ printWords q ws ++ ")"]
  | .extendArray x ws => [x ++ "+=(" ++ printWords q ws ++ ")"]
  | .source x => ["source \"$" ++ x ++ "\""]
  | .complain ps => ["echo " ++ quotedParts q ps ++ " >&2"]
  | .exit status => ["exit " ++ toString status]
  | .skipIf c => ["if " ++ c.print q ++ "; then continue; fi"]
  | .mkdir dirs => ["mkdir -p " ++ " ".intercalate (dirs.map q)]
  | .exec [] => ["exec"]
  | .exec (ws :: rest) =>
      continued (("exec " ++ printWords q ws) :: indented (rest.map (printWords q)))

def Prog.lines : Prog → List String
  | .done => []
  | .act a next => a.lines q ++ next.lines
  | .when c body next =>
      ("if " ++ c.print q ++ "; then") :: indented body.lines ++ "fi" :: next.lines
  | .whenElse c body c' body' next =>
      ("if " ++ c.print q ++ "; then") :: indented body.lines ++
        ("elif " ++ c'.print q ++ "; then") :: indented body'.lines ++ "fi" :: next.lines
  | .count i bound body next =>
      ("for ((" ++ i ++ " = 0; " ++ i ++ " < " ++ bound ++ "; " ++ i ++ "++)); do") ::
        indented body.lines ++ "done" :: next.lines

end Text

/-! ## Runs -/

/-- What the shell finds around it: the regular files, the entries of the
directories, the directories it may make, and how it prints a traced word. -/
structure Host where
  file : String → Option String
  listing : String → Option (List String)
  makes : String → Bool
  quote : String → String

inductive Value where
  | text (s : String)
  | list (xs : List String)
deriving DecidableEq, Repr

structure State where
  vars : String → Option Value
  strict : Bool := false
  traced : Bool := false
  made : List String := []
  stderr : String := ""

inductive Fault where
  | unbound (x : String)
  | notText (x : String)
  | notOneField
  | notNumber (s : String)
  | notAssignments (file : String)
  | noFile (file : String)
  | notMade
  | listedAfterMkdir (dir : String)
  | traced
deriving DecidableEq, Repr

/-- How a command ends: with a state, at the next turn of the loop, with the shell
itself, or with another program in its place. -/
inductive Flow where
  | next (s : State)
  | again (s : State)
  | exited (status : Nat) (s : State)
  | replaced (argv : List String) (s : State)
  | faulted (f : Fault)
  | spent

@[simp] def Flow.andThen : Flow → (State → Flow) → Flow
  | .next s, k => k s
  | .again s, _ => .again s
  | .exited status s, _ => .exited status s
  | .replaced argv s, _ => .replaced argv s
  | .faulted f, _ => .faulted f
  | .spent, _ => .spent

@[simp] def Flow.after {α : Type} : Except Fault α → (α → Flow) → Flow
  | .ok a, k => k a
  | .error f, _ => .faulted f

namespace State

def set (s : State) (x : String) (v : Value) : State :=
  { s with vars := fun y => if y = x then some v else s.vars y }

def textOf (s : State) (x : String) : Except Fault String :=
  match s.vars x with
  | some (.text v) => .ok v
  | some (.list _) => .error (.notText x)
  | none => if s.strict then .error (.unbound x) else .ok ""

/-- A text counts as a list of one. -/
def listOf (s : State) (x : String) : Except Fault (List String) :=
  match s.vars x with
  | some (.list xs) => .ok xs
  | some (.text v) => .ok [v]
  | none => if s.strict then .error (.unbound x) else .ok []

def complain (s : State) (message : String) : State :=
  { s with stderr := s.stderr ++ message }

def harden (s : State) : State := { s with strict := true }

def makeDirs (s : State) (dirs : List String) : State := { s with made := s.made ++ dirs }

end State

/-- `$(…)` drops NUL bytes and the newlines at the end. -/
def captured (output : String) : String :=
  String.ofList
    ((output.toList.filter (· ≠ Char.ofNat 0)).reverse.dropWhile (· = '\n')).reverse

/-- What follows the last `c`, the whole text where there is none. -/
def pastLast (s : String) (c : Char) : String :=
  String.ofList (s.toList.reverse.takeWhile (· ≠ c)).reverse

/-- `ls -A`, one entry a line; nothing for a directory that is not there. -/
def listed (entries : Option (List String)) : String :=
  String.join ((entries.getD []).map (· ++ "\n"))

def wrap (n : Int) : Int := n.bmod (2 ^ 64)

/-- The number a text stands for in the shell's arithmetic, when it is a numeral. -/
def numeral (s : String) : Option Int :=
  match s.toList with
  | [] => some 0
  | '0' :: c :: ds =>
      if (c :: ds).all (fun d => d.isDigit && d ≠ '8' && d ≠ '9') then
        some (wrap (Nat.ofDigitChars 8 (c :: ds) 0))
      else none
  | ds => if ds.all Char.isDigit then some (wrap (Nat.ofDigitChars 10 ds 0)) else none

def number (s : String) : Except Fault Int :=
  match numeral s with
  | some n => .ok n
  | none => .error (.notNumber s)

def State.numberOf (s : State) (x : String) : Except Fault Int := s.textOf x >>= number

@[simp] def Comparison.eval : Comparison → Int → Int → Bool
  | .eq, a, b => a = b
  | .ne, a, b => a ≠ b
  | .ge, a, b => b ≤ a
  | .gt, a, b => b < a

/-- A name on the left of an assignment. -/
def isName (cs : List Char) : Bool :=
  match cs with
  | [] => false
  | c :: rest => (c.isAlpha || c = '_') && rest.all fun d => d.isAlphanum || d = '_'

/-- One line of a file of assignments: nothing, a comment, or `NAME=value` with a
value that needs no quoting. -/
def readLine (cs : List Char) : Option (Option (String × String)) :=
  match cs with
  | [] => some none
  | '#' :: _ => some none
  | cs =>
      let name := cs.takeWhile (· ≠ '=')
      match cs.dropWhile (· ≠ '=') with
      | '=' :: value =>
          if isName name && value.all Char.isAlphanum then
            some (some (String.ofList name, String.ofList value))
          else none
      | _ => none

def readAssignments (content : String) : Option (List (String × String)) :=
  ((content.toList.splitOn '\n').mapM readLine).map fun lines => lines.filterMap id

@[simp] theorem ok_bind {α β : Type} (a : α) (f : α → Except Fault β) :
    (Except.ok a >>= f) = f a := rfl

@[simp] theorem pure_ok {α : Type} (a : α) : (pure a : Except Fault α) = .ok a := rfl

@[simp] theorem map_ok {α β : Type} (f : α → β) (a : α) :
    (Except.ok a : Except Fault α).map f = .ok (f a) := rfl

section Runs

variable (host : Host)

@[simp] def Part.expand (s : State) : Part → Except Fault String
  | .text t => .ok t
  | .value x => s.textOf x
  | .braced x => s.textOf x
  | .orEmpty x =>
      match s.vars x with
      | none => .ok ""
      | some _ => s.textOf x
  | .afterLast x c => (s.textOf x).map (pastLast · c)
  | .listing dir =>
      -- what `mkdir` adds to a listing is not modelled
      if s.made = [] then .ok (captured (listed (host.listing dir)))
      else .error (.listedAfterMkdir dir)
  | .content file =>
      match host.file file with
      | some c => .ok (captured c)
      | none => .error (.noFile file)

@[simp] def expandParts (s : State) : List Part → Except Fault String
  | [] => .ok ""
  | p :: ps => do
      let first ← p.expand host s
      let rest ← expandParts s ps
      return first ++ rest

@[simp] def Word.fields (s : State) : Word → Except Fault (List String)
  | .bare t => .ok [t]
  | .single t => .ok [t]
  | .double ps => (expandParts host s ps).map fun t => [t]
  | .sum x n => (s.numberOf x).map fun a => [(wrap (a + n)).repr]
  | .count x => (s.listOf x).map fun xs => [xs.length.repr]
  | .each x => do
      let xs ← s.listOf x
      if xs = [] ∧ s.strict then .error (.unbound x) else return xs
  | .eachIfSet x =>
      match s.vars x with
      | none => .ok []
      | some _ => s.listOf x

@[simp] def fieldsOf (s : State) : List Word → Except Fault (List String)
  | [] => .ok []
  | w :: ws => do
      let first ← w.fields host s
      let rest ← fieldsOf s ws
      return first ++ rest

/-- The one text of a word that is not split. -/
@[simp] def Word.oneField (s : State) (w : Word) : Except Fault String := do
  match ← w.fields host s with
  | [t] => return t
  | _ => .error .notOneField

@[simp] def Test.eval (s : State) : Test → Except Fault Bool
  | .isEmpty ps => (expandParts host s ps).map fun t => decide (t = "")
  | .isNumber ps =>
      (expandParts host s ps).map fun t => !t.toList.isEmpty && t.toList.all Char.isDigit
  | .isFile w => (w.oneField host s).map fun f => (host.file f).isSome
  | .compare a c b => do
      let m ← number (← a.oneField host s)
      let n ← number (← b.oneField host s)
      return c.eval m n
  | .negated t => (t.eval s).map not
  | .both t u => do
      if ← t.eval s then u.eval s else return false

@[simp] def Cond.eval (s : State) : Cond → Except Fault Bool
  | .holds t => t.eval host s
  | .fails t => (t.eval host s).map not

def traceLine (words : List String) : String :=
  "+" ++ String.join (words.map fun w => " " ++ host.quote w) ++ "\n"

/-- `set -x` prints every command it runs; the fragment says so of `exec` alone. -/
@[simp] def Action.printed : Action → Bool
  | .blank => false
  | .comment _ => false
  | .exec _ => false
  | _ => true

@[simp] def Action.run (s : State) (a : Action) : Flow :=
  if s.traced && a.printed then .faulted .traced
  else
    match a with
    | .blank => .next s
    | .comment _ => .next s
    | .strict => .next s.harden
    | .trace => .next { s with traced := true }
    | .assign x w => .after (w.oneField host s) fun t => .next (s.set x (.text t))
    | .assignArray x ws => .after (fieldsOf host s ws) fun ts => .next (s.set x (.list ts))
    | .extendArray x ws =>
        .after (s.listOf x) fun xs =>
          .after (fieldsOf host s ws) fun ts => .next (s.set x (.list (xs ++ ts)))
    | .source x =>
        .after (s.textOf x) fun f =>
          match host.file f with
          | none => .faulted (.noFile f)
          | some content =>
              match readAssignments content with
              | none => .faulted (.notAssignments f)
              | some assignments =>
                  .next (assignments.foldl (fun s a => s.set a.1 (.text a.2)) s)
    | .complain ps => .after (expandParts host s ps) fun t => .next (s.complain (t ++ "\n"))
    | .exit status => .exited status s
    | .skipIf c => .after (c.eval host s) fun b => if b then .again s else .next s
    | .mkdir dirs =>
        if dirs.all host.makes then .next (s.makeDirs dirs)
        else .faulted .notMade
    | .exec lines =>
        .after (fieldsOf host s lines.flatten) fun argv =>
          .replaced argv
            (if s.traced then s.complain (traceLine host ("exec" :: argv)) else s)

/-- The turns of `for ((i = …; i < bound; i++))`. -/
def iterate (i bound : String) (body : State → Flow) : Nat → State → Flow
  | 0, _ => .spent
  | fuel + 1, s =>
      let turn (s : State) : Flow :=
        .after (s.numberOf i) fun a =>
          iterate i bound body fuel (s.set i (.text (wrap (a + 1)).repr))
      .after (s.numberOf i) fun a =>
        .after (s.numberOf bound) fun b =>
          if a < b then
            match body s with
            | .next t => turn t
            | .again t => turn t
            | flow => flow
          else .next s

@[simp] def Prog.run (fuel : Nat) : Prog → State → Flow
  | .done, s => .next s
  | .act a next, s => (a.run host s).andThen (next.run fuel)
  | .when c body next, s =>
      .after (c.eval host s) fun b =>
        if b then (body.run fuel s).andThen (next.run fuel) else next.run fuel s
  | .whenElse c body c' body' next, s =>
      .after (c.eval host s) fun b =>
        if b then (body.run fuel s).andThen (next.run fuel)
        else
          .after (c'.eval host s) fun b' =>
            if b' then (body'.run fuel s).andThen (next.run fuel) else next.run fuel s
  | .count i bound body next, s =>
      (iterate i bound (body.run fuel) fuel (s.set i (.text "0"))).andThen (next.run fuel)

end Runs

/-! ## Variables -/

namespace State

variable (s : State) (x : String) (v : Value)

@[simp] theorem vars_set (y : String) :
    (s.set x v).vars y = if y = x then some v else s.vars y := rfl

@[simp] theorem strict_set : (s.set x v).strict = s.strict := rfl

@[simp] theorem traced_set : (s.set x v).traced = s.traced := rfl

@[simp] theorem made_set : (s.set x v).made = s.made := rfl

@[simp] theorem stderr_set : (s.set x v).stderr = s.stderr := rfl

@[simp] theorem vars_harden (y : String) : s.harden.vars y = s.vars y := rfl

@[simp] theorem traced_harden : s.harden.traced = s.traced := rfl

@[simp] theorem made_harden : s.harden.made = s.made := rfl

@[simp] theorem stderr_harden : s.harden.stderr = s.stderr := rfl

@[simp] theorem vars_makeDirs (dirs : List String) (y : String) :
    (s.makeDirs dirs).vars y = s.vars y := rfl

@[simp] theorem traced_makeDirs (dirs : List String) : (s.makeDirs dirs).traced = s.traced := rfl

@[simp] theorem stderr_makeDirs (dirs : List String) : (s.makeDirs dirs).stderr = s.stderr := rfl

@[simp] theorem traced_complain (message : String) : (s.complain message).traced = s.traced := rfl

@[simp] theorem stderr_complain (message : String) :
    (s.complain message).stderr = s.stderr ++ message := rfl

/-- Only the last assignment of a variable counts. -/
theorem set_set (w : Value) : (s.set x v).set x w = s.set x w := by
  simp only [set, State.mk.injEq, and_true]
  funext y
  split <;> rfl

theorem set_comm {x y : String} (h : x ≠ y) (w : Value) :
    (s.set x v).set y w = (s.set y w).set x v := by
  simp only [set, State.mk.injEq, and_true]
  funext z
  by_cases hx : z = x
  · subst hx
    rw [if_neg h, if_pos rfl, if_pos rfl]
  · rw [if_neg hx, if_neg hx]

variable {s x}

theorem textOf_text {t : String} (h : s.vars x = some (.text t)) : s.textOf x = .ok t := by
  rw [textOf, h]

theorem numberOf_text {t : String} (h : s.vars x = some (.text t)) : s.numberOf x = number t := by
  rw [numberOf, textOf_text h]
  rfl

end State

/-! ## Numbers -/

theorem wrap_of_lt {n : Nat} (h : n < 2 ^ 63) : wrap n = n := by
  unfold wrap
  exact Int.bmod_eq_of_le (by omega) (by omega)

theorem digitChar_ne_zero : ∀ n < 10, 0 < n → Nat.digitChar n ≠ '0' := by decide

theorem head_toDigits_ne_zero {n : Nat} (h : 0 < n) : (Nat.toDigits 10 n).head? ≠ some '0' := by
  induction n using Nat.strong_induction_on with
  | _ n ih =>
    rw [Nat.toDigits_eq_if (by decide)]
    split
    · next hlt =>
        intro hhead
        exact digitChar_ne_zero n hlt h (Option.some_inj.mp hhead)
    · next hge =>
        -- the first digit is that of the number without its last one
        rw [List.head?_append_of_ne_nil _ Nat.toDigits_ne_nil]
        exact ih (n / 10) (by omega) (by omega)

/-- A printed number has no leading zero, so it reads back in base ten. -/
theorem numeral_repr {n : Nat} (h : n < 2 ^ 63) : numeral n.repr = some (n : Int) := by
  have hdigits : (Nat.toDigits 10 n).all Char.isDigit = true := by
    rw [List.all_eq_true]
    exact fun c hc => Nat.isDigit_of_mem_toDigits (by decide) (by decide) hc
  have hvalue : Nat.ofDigitChars 10 (Nat.toDigits 10 n) 0 = n :=
    Nat.ofDigitChars_toDigits (by decide) (by decide)
  unfold numeral
  rw [Nat.toList_repr]
  split
  · next hnil => exact absurd hnil Nat.toDigits_ne_nil
  · next c ds hzero =>
      -- two digits with a zero in front are no printed number
      rcases Nat.eq_zero_or_pos n with rfl | hpos
      · rw [Nat.toDigits_zero] at hzero
        cases hzero
      · exact absurd (by rw [hzero]; rfl) (head_toDigits_ne_zero hpos)
  · rw [if_pos hdigits, hvalue, wrap_of_lt h]

theorem number_repr {n : Nat} (h : n < 2 ^ 63) : number n.repr = .ok (n : Int) := by
  rw [number, numeral_repr h]

/-! ## A file of assignments -/

theorem splitOn_lines {lines : List String} (h : ∀ l ∈ lines, '\n' ∉ l.toList) :
    (String.join (lines.map (· ++ "\n"))).toList.splitOn '\n' =
      lines.map String.toList ++ [[]] := by
  induction lines with
  | nil => simp
  | cons l lines ih =>
      have hl : '\n' ∉ l.toList := h l List.mem_cons_self
      have hlist : (String.join ((l :: lines).map (· ++ "\n"))).toList =
          l.toList ++ '\n' :: (String.join (lines.map (· ++ "\n"))).toList := by
        simp
      rw [hlist, List.splitOn_append_cons_self_of_not_mem hl,
        ih fun l' hl' => h l' (List.mem_cons_of_mem _ hl')]
      rfl

theorem readLine_assignment {name value : List Char} (hname : isName name = true)
    (hvalue : value.all Char.isAlphanum = true) :
    readLine (name ++ '=' :: value) = some (some (String.ofList name, String.ofList value)) := by
  obtain ⟨c, rest, rfl⟩ : ∃ c rest, name = c :: rest := by
    cases name with
    | nil => cases hname
    | cons c rest => exact ⟨c, rest, rfl⟩
  have hne : '=' ∉ c :: rest := by
    intro hmem
    simp only [isName, Bool.and_eq_true, Bool.or_eq_true, decide_eq_true_eq,
      List.all_eq_true] at hname
    rcases List.mem_cons.mp hmem with rfl | hmem
    · exact absurd hname.1 (by decide)
    · exact absurd (hname.2 '=' hmem) (by decide)
  have hhash : c ≠ '#' := by
    rintro rfl
    simp [isName] at hname
  obtain ⟨htake, hdrop⟩ := @span_cut _ (· ≠ '=') (c :: rest) ('=' :: value)
    (by
      intro d hd
      rw [decide_eq_true_iff]
      rintro rfl
      exact hne hd)
    (by simp)
  unfold readLine
  split
  · next hnil => cases hnil
  · next heq => exact absurd (List.cons.inj heq).1 hhash
  · simp only [htake, hdrop, hname, hvalue, Bool.and_self, if_true]

/-- A file of lines that are comments or assignments. -/
theorem readAssignments_lines {lines : List String} {read : List (Option (String × String))}
    (hline : ∀ l ∈ lines, '\n' ∉ l.toList)
    (hread : lines.mapM (fun l => readLine l.toList) = some read) :
    readAssignments (String.join (lines.map (· ++ "\n"))) = some (read.filterMap id) := by
  have hread' : (lines.map String.toList).mapM readLine = some read := by
    rw [List.mapM_map]
    exact hread
  rw [readAssignments, splitOn_lines hline, List.mapM_append, hread']
  simp [readLine]

/-! ## Sequences -/

theorem Flow.andThen_assoc (flow : Flow) (f g : State → Flow) :
    (flow.andThen f).andThen g = flow.andThen fun s => (f s).andThen g := by
  cases flow <;> rfl

theorem Flow.after_andThen {α : Type} (r : Except Fault α) (k : α → Flow) (g : State → Flow) :
    (Flow.after r k).andThen g = Flow.after r fun a => (k a).andThen g := by
  cases r <;> rfl

theorem Flow.ite_andThen (b : Prop) [Decidable b] (f g : Flow) (k : State → Flow) :
    (if b then f else g).andThen k = if b then f.andThen k else g.andThen k := by
  split <;> rfl

variable (host : Host) (fuel : Nat)

theorem Prog.run_append (p r : Prog) :
    (p.append r).run host fuel = fun s => (p.run host fuel s).andThen (r.run host fuel) := by
  induction p with
  | done => rfl
  | act a next ih =>
      funext s
      simp only [append, run, Flow.andThen_assoc, ih]
  | when c body next _ ih =>
      funext s
      simp only [append, run, Flow.after_andThen, Flow.ite_andThen, Flow.andThen_assoc, ih]
  | whenElse c body c' body' next _ _ ih =>
      funext s
      simp only [append, run, Flow.after_andThen, Flow.ite_andThen, Flow.andThen_assoc, ih]
  | count i bound body next _ ih =>
      funext s
      simp only [append, run, Flow.andThen_assoc, ih]

variable {host fuel} in
theorem Prog.run_append_next {p : Prog} {s t : State} (h : p.run host fuel s = .next t)
    (r : Prog) : (p.append r).run host fuel s = r.run host fuel t := by
  simp only [run_append, h, Flow.andThen]

variable {host fuel} in
theorem Prog.run_append_exited {p : Prog} {s t : State} {status : Nat}
    (h : p.run host fuel s = .exited status t) (r : Prog) :
    (p.append r).run host fuel s = .exited status t := by
  simp only [run_append, h, Flow.andThen]

theorem Prog.lines_append (q : String → String) (p r : Prog) :
    (p.append r).lines q = p.lines q ++ r.lines q := by
  induction p with
  | done => rfl
  | act a next ih => simp only [append, lines, ih, List.append_assoc]
  | when c body next _ ih =>
      simp only [append, lines, ih, List.append_assoc, List.cons_append]
  | whenElse c body c' body' next _ _ ih =>
      simp only [append, lines, ih, List.append_assoc, List.cons_append]
  | count i bound body next _ ih =>
      simp only [append, lines, ih, List.append_assoc, List.cons_append]

/-! ## The counting loop -/

theorem State.numberOf_repr {s : State} {x : String} {n : Nat}
    (h : s.vars x = some (.text n.repr)) (hn : n < 2 ^ 63) : s.numberOf x = .ok (n : Int) := by
  rw [numberOf_text h]
  exact number_repr hn

/-- One more, printed again. -/
theorem repr_wrap_succ {n : Nat} (h : n + 1 < 2 ^ 63) :
    (wrap ((n : Int) + 1)).repr = (n + 1).repr := by
  have hwrap : wrap ((n : Int) + 1) = ((n + 1 : Nat) : Int) := wrap_of_lt h
  rw [hwrap]
  rfl

section Loop

variable {i bound : String} {body : State → Flow} {fuel : Nat} {s t : State} {a b : Int}

theorem iterate_stop (hi : s.numberOf i = .ok a) (hbound : s.numberOf bound = .ok b)
    (h : ¬a < b) : iterate i bound body (fuel + 1) s = .next s := by
  simp only [iterate, hi, hbound, Flow.after, if_neg h]

theorem iterate_turn (hi : s.numberOf i = .ok a) (hbound : s.numberOf bound = .ok b) (h : a < b)
    (hrun : body s = .next t ∨ body s = .again t) (ht : t.numberOf i = .ok a) :
    iterate i bound body (fuel + 1) s =
      iterate i bound body fuel (t.set i (.text (wrap (a + 1)).repr)) := by
  rcases hrun with hrun | hrun <;>
  simp only [iterate, hi, hbound, hrun, ht, Flow.after, if_pos h]

/-- The loop makes one turn for each number below the bound.  `I j` holds before turn
`j`, with the two variables read as `j` and as the bound. -/
theorem iterate_count {n : Nat} (I : Nat → State → Prop) (hn : n < 2 ^ 63)
    (hvars : ∀ j s, I j s → s.vars i = some (.text j.repr) ∧
      s.vars bound = some (.text n.repr))
    (hbody : ∀ j < n, ∀ s, I j s → ∃ t, (body s = .next t ∨ body s = .again t) ∧
      t.vars i = some (.text j.repr) ∧ I (j + 1) (t.set i (.text (j + 1).repr)))
    (hs : I 0 s) (hfuel : n < fuel) :
    ∃ t, iterate i bound body fuel s = .next t ∧ I n t := by
  -- by induction on the turns left
  suffices hturns : ∀ k j s fuel, j + k = n → I j s → k < fuel →
      ∃ t, iterate i bound body fuel s = .next t ∧ I n t from
    hturns n 0 s fuel (by omega) hs hfuel
  intro k
  induction k with
  | zero =>
      intro j s fuel hj hs hfuel
      obtain ⟨fuel, rfl⟩ := Nat.exists_eq_succ_of_ne_zero (by omega : fuel ≠ 0)
      obtain ⟨hi, hbound⟩ := hvars j s hs
      obtain rfl : j = n := by omega
      exact ⟨s, iterate_stop (State.numberOf_repr hi hn) (State.numberOf_repr hbound hn)
        (Int.lt_irrefl _), hs⟩
  | succ k ih =>
      intro j s fuel hj hs hfuel
      obtain ⟨fuel, rfl⟩ := Nat.exists_eq_succ_of_ne_zero (by omega : fuel ≠ 0)
      obtain ⟨hi, hbound⟩ := hvars j s hs
      obtain ⟨t, hrun, hti, ht⟩ := hbody j (by omega) s hs
      obtain ⟨u, hloop, hu⟩ := ih (j + 1) _ fuel (by omega) ht (by omega)
      refine ⟨u, ?_, hu⟩
      rw [iterate_turn (State.numberOf_repr hi (by omega))
        (State.numberOf_repr hbound hn) (by omega) hrun
        (State.numberOf_repr hti (by omega)), repr_wrap_succ (by omega)]
      exact hloop

end Loop

end Lib.Bash
