/-
# `KahunaOperator.Lib.Mount` — which mount a path is on

Mount points may be nested, and a path is on the deepest one above it.  Points and
paths are lists of names, so that a point is above a path when it is a first part of
it, and not when the two names only begin alike.

    a point above the path, deeper than every other one above it, is the one
                                                                     (`deepest_eq`)
    the volume behind a mount is found by its name                     (`find_key`)
-/
import Mathlib.Data.List.Basic

namespace Lib

universe u v
variable {α : Type u} {β : Type v}

def components (path : String) : List (List Char) := path.toList.splitOn '/'

theorem components_append (point name : String) :
    components (point ++ "/" ++ name) = components point ++ components name := by
  simp only [components, String.toList_append]
  rw [List.append_assoc]
  exact List.splitOn_append_cons_self _ _

theorem components_name {name : String} (h : '/' ∉ name.toList) :
    components name = [name.toList] :=
  List.splitOn_eq_singleton h

variable [DecidableEq α]

/-- With distinct keys, an element is found by its key. -/
theorem find_key {key : β → α} {l : List β} (h : (l.map key).Nodup) {x : β} (hx : x ∈ l) :
    l.find? (fun y => key y == key x) = some x := by
  induction l with
  | nil => cases hx
  | cons y rest ih =>
      rw [List.map_cons, List.nodup_cons] at h
      by_cases hkey : key y = key x
      · have hsame : y = x := by
          rcases List.mem_cons.mp hx with rfl | hrest
          · rfl
          · exact absurd (hkey ▸ List.mem_map_of_mem hrest) h.1
        rw [List.find?_cons_of_pos (by simpa using hkey), hsame]
      · have hne : x ≠ y := fun heq => hkey (heq ▸ rfl)
        rw [List.find?_cons_of_neg (by simpa using hkey)]
        exact ih h.2 ((List.mem_cons.mp hx).resolve_left hne)

/-- The deeper of the mount found so far and the next one, if that is above the path. -/
def deeper (path : List α) (best : Option (List α × β)) (next : List α × β) :
    Option (List α × β) :=
  if next.1 <+: path ∧ ∀ b ∈ best, b.1.length < next.1.length then some next else best

/-- The deepest mount above a path. -/
def deepest (mounts : List (List α × β)) (path : List α) : Option (List α × β) :=
  mounts.foldl (deeper path) none

theorem deepest_eq {mounts : List (List α × β)} {path : List α} {m : List α × β}
    (hmem : m ∈ mounts) (habove : m.1 <+: path)
    (honly : ∀ q ∈ mounts, q.1 <+: path → q.1.length < m.1.length ∨ q = m) :
    deepest mounts path = some m := by
  -- along the list: what was found is less deep than `m`, or is `m`
  suffices hfold : ∀ best : Option (List α × β),
      (∀ b ∈ best, b.1.length < m.1.length ∨ b = m) → (m ∈ mounts ∨ best = some m) →
      mounts.foldl (deeper path) best = some m from hfold none (by simp) (Or.inl hmem)
  clear hmem
  induction mounts with
  | nil =>
      intro best _ hfound
      exact hfound.resolve_left List.not_mem_nil
  | cons q rest ih =>
      intro best hbest hfound
      have hq := honly q List.mem_cons_self
      rw [List.foldl_cons]
      refine ih (fun x hx => honly x (List.mem_cons_of_mem _ hx)) _ ?_ ?_
      · intro b hb
        unfold deeper at hb
        split at hb
        · next hcond =>
            cases hb
            exact hq hcond.1
        · exact hbest b hb
      · by_cases hgone : m ∈ rest
        · exact Or.inl hgone
        · refine Or.inr ?_
          unfold deeper
          rcases hfound with hin | hin
          · obtain rfl : m = q := (List.mem_cons.mp hin).resolve_right hgone
            split
            · rfl
            · next hcond =>
                -- `m` is above the path, so it was there before
                rw [not_and] at hcond
                have hno := hcond habove
                push Not at hno
                obtain ⟨b, hb, hdeep⟩ := hno
                rcases hbest b hb with hless | rfl
                · omega
                · exact hb
          · split
            · next hcond =>
                have hdeep := hcond.2 m hin
                rcases hq hcond.1 with hless | rfl
                · exact absurd hdeep (Nat.lt_asymm hless)
                · exact absurd hdeep (Nat.lt_irrefl _)
            · exact hin

end Lib
