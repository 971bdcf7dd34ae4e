/-
# `KahunaOperator.Lib.ShellWords` — the words of a shell array assignment

`NAME=(…)` in bash is a list of words.  The reader below knows single quotes,
backslashes and blanks, and refuses the rest: a character that the shell would
expand, match or take for an operator when it stands unquoted has no reading
here.  Every character of a word keeps whether it stood quoted, since that is
what decides if the shell looks at it again.

    plain    '        ⟶ quoted          \        ⟶ escaped
    plain    blank    ⟶ the word ends   )        ⟶ the list ends
    quoted   '        ⟶ plain           other    ⟶ a quoted character
    escaped  newline  ⟶ plain, dropped  other    ⟶ a quoted character

A text *reads as* a word when it adds that word whatever follows it
(`ReadsAs`); such texts, with blanks between them, are the list of their words
(`readWords_intercalate`).
-/
import Mathlib.Data.List.Basic

namespace Lib

/-- The characters of a word, each with whether it stood quoted. -/
abbrev ShellWord := List (Char × Bool)

namespace ShellWord

/-- The word after quote removal. -/
def text (w : ShellWord) : String := String.ofList (w.map Prod.fst)

/-- The shell expands and matches nothing in the word. -/
def Literal (w : ShellWord) : Prop := ∀ c ∈ w, c.2 = true

instance (w : ShellWord) : Decidable w.Literal :=
  inferInstanceAs (Decidable (∀ c ∈ w, c.2 = true))

/-- The word of a text all of which stood quoted. -/
def quoted (s : List Char) : ShellWord := s.map fun c => (c, true)

theorem quoted_literal (s : List Char) : (quoted s).Literal := by
  intro c hc
  obtain ⟨_, _, rfl⟩ := List.mem_map.mp hc
  rfl

theorem text_quoted (s : String) : (quoted s.toList).text = s := by
  simp [text, quoted, Function.comp_def]

end ShellWord

def isBlank (c : Char) : Bool := c = ' ' || c = '\t' || c = '\n'

/-- A shell has no NUL in its text. -/
def nul : Char := Char.ofNat 0

/-- Unquoted, these are operators, expansions, patterns, comments or quotes of
another kind. -/
def isActive (c : Char) : Bool :=
  "\"$`|&;()<>*?[]#~=%!^\x7b\x7d".toList.contains c

inductive ShellMode where
  | plain
  | quoted
  | escaped
deriving DecidableEq, Repr

/-- The words up to the closing parenthesis, and the text after it.  `word` is the
word being read, if one has begun. -/
def readWords : ShellMode → Option ShellWord → List Char → Option (List ShellWord × List Char)
  | _, _, [] => none
  | mode, word, c :: rest =>
      if c = nul then none
      else
        match mode with
        | .plain =>
            if c = '\'' then readWords .quoted (some (word.getD [])) rest
            else if c = '\\' then readWords .escaped word rest
            else if c = ')' then some (word.toList, rest)
            else if isBlank c then
              (readWords .plain none rest).map fun r => (word.toList ++ r.1, r.2)
            else if isActive c then none
            else readWords .plain (some (word.getD [] ++ [(c, false)])) rest
        | .quoted =>
            if c = '\'' then readWords .plain word rest
            else readWords .quoted (some (word.getD [] ++ [(c, true)])) rest
        | .escaped =>
            if c = '\n' then readWords .plain word rest
            else readWords .plain (some (word.getD [] ++ [(c, true)])) rest

/-- The words of `NAME=(…)`, and the text after it. -/
def readArray (name : String) (text : List Char) : Option (List ShellWord × List Char) :=
  if (name ++ "=(").toList <+: text then
    readWords .plain none (text.drop (name ++ "=(").toList.length)
  else none

theorem readArray_append (name : String) (rest : List Char) :
    readArray name ((name ++ "=(").toList ++ rest) = readWords .plain none rest := by
  unfold readArray
  rw [if_pos (List.prefix_append _ _), List.drop_left]

/-! ## One character -/

section Steps

variable (word : Option ShellWord) (w : ShellWord) (rest : List Char)

theorem readWords_open :
    readWords .plain word ('\'' :: rest) = readWords .quoted (some (word.getD [])) rest := rfl

theorem readWords_shut :
    readWords .quoted (some w) ('\'' :: rest) = readWords .plain (some w) rest := rfl

theorem readWords_quoted {c : Char} (hnul : c ≠ nul) (hquote : c ≠ '\'') :
    readWords .quoted (some w) (c :: rest) = readWords .quoted (some (w ++ [(c, true)])) rest := by
  simp only [readWords, if_neg hnul, if_neg hquote, Option.getD_some]

/-- A quote inside a quoted text: shut, escaped, opened again. -/
theorem readWords_escapedQuote :
    readWords .quoted (some w) (['\'', '\\', '\'', '\''] ++ rest) =
      readWords .quoted (some (w ++ [('\'', true)])) rest := rfl

theorem readWords_space :
    readWords .plain word (' ' :: rest) =
      (readWords .plain none rest).map fun r => (word.toList ++ r.1, r.2) := rfl

theorem readWords_close : readWords .plain word (')' :: rest) = some (word.toList, rest) := rfl

end Steps

/-! ## A list of words -/

/-- Where a word may begin, `text` adds the word `w`, whatever follows. -/
def ReadsAs (text : List Char) (w : ShellWord) : Prop :=
  ∀ rest, readWords .plain none (text ++ rest) = readWords .plain (some w) rest

theorem readWords_intercalate {texts : List (List Char)} {words : List ShellWord}
    (h : List.Forall₂ ReadsAs texts words) (rest : List Char) :
    readWords .plain none ([' '].intercalate texts ++ ')' :: rest) = some (words, rest) := by
  induction h with
  | nil => exact readWords_close none rest
  | @cons t w ts ws hread hreads ih =>
      -- the last word ends with the list, every other one with a blank
      cases hreads with
      | nil => rw [List.intercalate_singleton, hread, readWords_close, Option.toList_some]
      | @cons t' w' ts' ws' hread' hreads' =>
          rw [List.intercalate_cons_cons, List.append_assoc, List.append_assoc, hread,
            List.singleton_append, readWords_space, ih]
          rfl

end Lib
