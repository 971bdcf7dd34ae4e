/-
# `KahunaOperator.Lib.Cut` — cutting a list where a kind of element ends

A text is read up to the first character that does not belong, and the rest is read
on from there; or it is cut at the last separator, which is the first one of the
reversed text.  Where the cut is, follows from what stands before and right after
it.

    body ++ rest         ⟶  body and rest    body all of the kind, rest starts with
                                             another or is empty      (`span_cut`)
    pre ++ rest          ⟶  pre              no separator in pre, rest starts with
                                             one or is empty  (`takeWhile_ne_cut`)
    pre ++ sep :: post   ⟶  post             no separator in post  (`afterLast_cut`)
-/
import Mathlib.Data.List.TakeWhile

namespace Lib

universe u
variable {α : Type u}

theorem span_cut {p : α → Bool} {body rest : List α} (hbody : ∀ c ∈ body, p c = true)
    (hstop : ∀ c ∈ rest.head?, p c = false) :
    (body ++ rest).takeWhile p = body ∧ (body ++ rest).dropWhile p = rest := by
  rw [List.takeWhile_append_of_pos hbody, List.dropWhile_append_of_pos hbody]
  cases rest with
  | nil => simp
  | cons c rest =>
      have hc : p c = false := hstop c rfl
      simp [hc]

variable [DecidableEq α] {sep : α}

theorem takeWhile_ne_cut {pre rest : List α} (h : sep ∉ pre) (hstop : ∀ c ∈ rest.head?, c = sep) :
    (pre ++ rest).takeWhile (· ≠ sep) = pre := by
  refine (span_cut ?_ ?_).1
  · intro c hc
    rw [decide_eq_true_iff]
    rintro rfl
    exact h hc
  · intro c hc
    simpa using hstop c hc

theorem afterLast_cut (pre : List α) {post : List α} (h : sep ∉ post) :
    ((pre ++ sep :: post).reverse.takeWhile (· ≠ sep)).reverse = post := by
  have hback : sep ∉ post.reverse := fun hmem => h (List.mem_reverse.mp hmem)
  rw [List.reverse_append, List.reverse_cons, List.append_assoc,
    takeWhile_ne_cut hback (by simp), List.reverse_reverse]

end Lib
