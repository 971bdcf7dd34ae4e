/-
# `KahunaOperator.Overrides` — what `extraArgs` take out of the command line

`withoutOverridden` of `internal/controller/entrypoint.go` walks over the
generated tokens with one flag, `skipping`, that each `--name` token sets anew and
the values after it leave alone.  A command line is a list of groups, an option
with its values:

    --http-ports 2070 8081    --allow-plaintext-listener    --storage rocksdb

and the walk stays in step with them: it passes a whole group or drops a whole
group, by the name of the group and nothing before it (`dropOverridden_group`).

    withoutOverridden  =  the groups no token of `extraArgs` names, in order
    twice              =  once
    an option that is not named keeps the values it is read with
                                                         (`overridden_groups_dropped`)
-/
import KahunaOperator.Entrypoint
import KahunaOperator.Lib.Cut

namespace KahunaOperator

/-! ## Options and their spellings -/

/-- The token sets the option of that name: it is `--name`, or `--name=` and a
value. -/
structure SetsOption (token name : String) : Prop where
  dashes : token.toList.take 2 = ['-', '-']
  plain : '=' ∉ name.toList
  spelled : token = name ∨ ∃ value, token = name ++ "=" ++ value

theorem flagName_eq_none_iff {token : String} :
    flagName token = none ↔ token.toList.take 2 ≠ ['-', '-'] := by
  unfold flagName
  split
  · next h => simp [h]
  · next h => simp [h]

theorem takeWhile_name {token name : String} (hplain : '=' ∉ name.toList)
    (hspelled : token = name ∨ ∃ value, token = name ++ "=" ++ value) :
    token.toList.takeWhile (· ≠ '=') = name.toList := by
  rcases hspelled with rfl | ⟨value, rfl⟩
  · have hend : ∀ c ∈ ([] : List Char).head?, c = '=' := by simp
    simpa using Lib.takeWhile_ne_cut hplain hend
  · rw [String.toList_append, String.toList_append, List.append_assoc]
    exact Lib.takeWhile_ne_cut hplain (by simp)

theorem flagName_iff {token name : String} :
    flagName token = some name ↔ SetsOption token name := by
  unfold flagName
  constructor
  · intro h
    split at h
    · next hdashes =>
        cases h
        refine ⟨hdashes, ?_, ?_⟩
        · intro hmem
          rw [String.toList_ofList] at hmem
          simpa using List.mem_takeWhile_imp hmem
        · have hsplit := List.takeWhile_append_dropWhile (p := (· ≠ '=')) (l := token.toList)
          cases hrest : token.toList.dropWhile (· ≠ '=') with
          | nil =>
              left
              rw [hrest, List.append_nil] at hsplit
              rw [hsplit, String.ofList_toList]
          | cons c rest =>
              right
              have hc : c = '=' := by
                have hhead := List.head?_dropWhile_not (· ≠ '=') token.toList
                rw [hrest] at hhead
                simpa using hhead
              refine ⟨String.ofList rest, ?_⟩
              rw [hrest, hc] at hsplit
              apply String.toList_injective
              simp only [String.toList_append, String.toList_ofList, List.append_assoc]
              exact hsplit.symm
    · cases h
  · rintro ⟨hdashes, hplain, hspelled⟩
    rw [if_pos hdashes, takeWhile_name hplain hspelled, String.ofList_toList]

def Overridden (extra : List String) (name : String) : Prop :=
  ∃ token ∈ extra, SetsOption token name

theorem overridden_iff {extra : List String} {name : String} :
    Overridden extra name ↔ (extra.filterMap flagName).contains name = true := by
  simp only [Overridden, List.contains_iff_mem, List.mem_filterMap, flagName_iff]

instance (extra : List String) (name : String) : Decidable (Overridden extra name) :=
  decidable_of_iff _ overridden_iff.symm

/-! ## Groups -/

/-- An option as it stands on a command line, with the values that follow it. -/
structure OptionGroup where
  name : String
  values : List String
  dashes : name.toList.take 2 = ['-', '-']
  plain : '=' ∉ name.toList
  bare : ∀ v ∈ values, v.toList.take 2 ≠ ['-', '-']

namespace OptionGroup

def tokens (g : OptionGroup) : List String := g.name :: g.values

theorem flagName_name (g : OptionGroup) : flagName g.name = some g.name :=
  flagName_iff.mpr ⟨g.dashes, g.plain, Or.inl rfl⟩

theorem flagName_value {g : OptionGroup} {v : String} (hv : v ∈ g.values) : flagName v = none :=
  flagName_eq_none_iff.mpr (g.bare v hv)

end OptionGroup

def keptGroups (extra : List String) (groups : List OptionGroup) : List OptionGroup :=
  groups.filter fun g => decide (¬ Overridden extra g.name)

/-- A command line as the server reads it: the values before the first option, and
each option with the values up to the next. -/
def readOptions : List String → List String × List (String × List String)
  | [] => ([], [])
  | token :: rest =>
      let (values, options) := readOptions rest
      match flagName token with
      | some name => ([], (name, values) :: options)
      | none => (token :: values, options)

def optionValues (args : List String) (name : String) : List (List String) :=
  ((readOptions args).2.filter (·.1 == name)).map (·.2)

/-! ## The walk -/

/-- Values go the way of the option before them. -/
theorem dropOverridden_values {overridden : List String} {values : List String}
    (hbare : ∀ v ∈ values, flagName v = none) (skipping : Bool) (rest : List String) :
    dropOverridden overridden skipping (values ++ rest) =
      (if skipping then [] else values) ++ dropOverridden overridden skipping rest := by
  induction values with
  | nil => simp
  | cons v values ih =>
      have hv : flagName v = none := hbare v List.mem_cons_self
      have hvalues := ih fun w hw => hbare w (List.mem_cons_of_mem v hw)
      simp only [List.cons_append, dropOverridden, hv]
      cases skipping with
      | true => simpa using hvalues
      | false => simpa using hvalues

/-- A group is passed or dropped as a whole, whatever the walk did before it. -/
theorem dropOverridden_group (overridden : List String) (skipping : Bool) (g : OptionGroup)
    (rest : List String) :
    dropOverridden overridden skipping (g.tokens ++ rest) =
      (if overridden.contains g.name then [] else g.tokens) ++
        dropOverridden overridden (overridden.contains g.name) rest := by
  have hbare : ∀ v ∈ g.values, flagName v = none := fun v hv => OptionGroup.flagName_value hv
  simp only [OptionGroup.tokens, List.cons_append, dropOverridden, g.flagName_name,
    dropOverridden_values hbare]
  cases overridden.contains g.name with
  | true => rfl
  | false => rfl

theorem dropOverridden_groups (extra : List String) (skipping : Bool) (groups : List OptionGroup) :
    dropOverridden (extra.filterMap flagName) skipping (groups.flatMap OptionGroup.tokens) =
      (keptGroups extra groups).flatMap OptionGroup.tokens := by
  induction groups generalizing skipping with
  | nil => rfl
  | cons g groups ih =>
      rw [List.flatMap_cons, dropOverridden_group, ih]
      simp only [keptGroups, List.filter_cons]
      by_cases hover : Overridden extra g.name
      · simp only [overridden_iff.mp hover, hover, if_true, not_true, decide_false,
          Bool.false_eq_true, if_false, List.nil_append]
      · have hkept : (extra.filterMap flagName).contains g.name = false := by
          rw [← Bool.not_eq_true, ← overridden_iff]
          exact hover
        simp only [hkept, hover, Bool.false_eq_true, if_false, not_false_eq_true, decide_true,
          if_true, List.flatMap_cons]

theorem withoutOverridden_groups (extra : List String) (groups : List OptionGroup) :
    withoutOverridden (groups.flatMap OptionGroup.tokens) extra =
      (keptGroups extra groups).flatMap OptionGroup.tokens :=
  dropOverridden_groups extra false groups

/-! ## Reading the line back -/

theorem readOptions_values {values : List String} (hbare : ∀ v ∈ values, flagName v = none)
    (rest : List String) :
    readOptions (values ++ rest) =
      (values ++ (readOptions rest).1, (readOptions rest).2) := by
  induction values with
  | nil => rfl
  | cons v values ih =>
      have hvalues := ih fun w hw => hbare w (List.mem_cons_of_mem v hw)
      simp only [List.cons_append, readOptions, hbare v List.mem_cons_self, hvalues]

/-- The groups of a line are the options it is read as. -/
theorem readOptions_groups (groups : List OptionGroup) :
    readOptions (groups.flatMap OptionGroup.tokens) =
      ([], groups.map fun g => (g.name, g.values)) := by
  induction groups with
  | nil => rfl
  | cons g groups ih =>
      have hbare : ∀ v ∈ g.values, flagName v = none := fun v hv => OptionGroup.flagName_value hv
      simp only [List.flatMap_cons, OptionGroup.tokens, List.cons_append, readOptions,
        readOptions_values hbare, ih, g.flagName_name, List.append_nil, List.map_cons]

theorem optionValues_groups (groups : List OptionGroup) (name : String) :
    optionValues (groups.flatMap OptionGroup.tokens) name =
      (groups.filter (·.name == name)).map OptionGroup.values := by
  rw [optionValues, readOptions_groups, List.filter_map, List.map_map]
  rfl

/-- An option that stays, stays with every group it has. -/
theorem keptGroups_named {extra : List String} {name : String} (h : ¬ Overridden extra name)
    (groups : List OptionGroup) :
    (keptGroups extra groups).filter (·.name == name) = groups.filter (·.name == name) := by
  rw [keptGroups, List.filter_filter]
  refine List.filter_congr ?_
  intro g _
  by_cases hname : g.name = name
  · simp [hname, h]
  · simp [hname]

/-- For every command line in groups and every `extraArgs`: what is left is the
groups whose name no token of `extraArgs` has, in order; leaving them out again
changes nothing; and an option that is not named is read with the values it had. -/
theorem overridden_groups_dropped (groups : List OptionGroup) (extra : List String) :
    withoutOverridden (groups.flatMap OptionGroup.tokens) extra =
        (groups.filter fun g => decide (¬ Overridden extra g.name)).flatMap OptionGroup.tokens ∧
      withoutOverridden (withoutOverridden (groups.flatMap OptionGroup.tokens) extra) extra =
        withoutOverridden (groups.flatMap OptionGroup.tokens) extra ∧
      ∀ name, ¬ Overridden extra name →
        optionValues (withoutOverridden (groups.flatMap OptionGroup.tokens) extra) name =
          optionValues (groups.flatMap OptionGroup.tokens) name := by
  refine ⟨withoutOverridden_groups extra groups, ?_, ?_⟩
  · rw [withoutOverridden_groups, withoutOverridden_groups]
    congr 1
    simp only [keptGroups, List.filter_filter, Bool.and_self]
  · intro name hname
    rw [withoutOverridden_groups, optionValues_groups, optionValues_groups,
      keptGroups_named hname]

end KahunaOperator
