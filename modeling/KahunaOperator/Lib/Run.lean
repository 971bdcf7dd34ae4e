/-
# `KahunaOperator.Lib.Run` — runs of a labelled transition system

A system is a relation `Step s e s'` over states and events.  A *run* is a
finite chain of steps, kept as the list of its transitions, so that a law can
speak of any transition of the run, of two of them, or of what lies between.

    invariant rule     I s₀,  Step keeps I            ⟹  I at the end              (`Run.inv`)
    transition rule    the same, and I lets Step do P ⟹ every transition is P     (`Run.forall_mem`)
    splitting          the part after a transition is a run from its target state  (`Run.split`)
    permanence         I before a transition, Step keeps I ⟹ I from there on       (`Run.after_mem`)
    monotonicity       Step never lowers f  ⟹  f after a transition ≤ f at the end (`Run.mono_of`)
    descent rule       Step never raises μ, some steps lower it  ⟹  μ at the end is
                       lower by the number of those steps                          (`Run.descend`)
    history rule       a law of the past and the state, kept by Step               (`Run.history`)
    since              P happened and Q has not happened after it                  (`Since`)
    timestamp rule     a time that is set, kept or cleared by Step dates a stretch
                       of transitions that all did what keeps it                   (`Run.stretch`)
    once rule          armed until C happens, over for good after it  ⟹  C once    (`Run.once`)
    window rule        J after one transition, kept in between ⟹ J before another  (`Run.window`)
    simulation rule    each step is some steps of another system ⟹ so is a run     (`Run.simulate`)

Nothing here mentions a particular system.
-/
import Mathlib.Data.List.Basic
import Mathlib.Order.Basic

namespace Lib

universe u v
variable {σ : Type u} {ε : Type v}

/-- One transition of a run: the state it leaves, its event, the state it
reaches. -/
structure Transition (σ : Type u) (ε : Type v) where
  before : σ
  event : ε
  after : σ

/-- `Run Step s ts s'`: the transitions `ts`, each a `Step`, lead from `s`
to `s'`. -/
inductive Run (Step : σ → ε → σ → Prop) : σ → List (Transition σ ε) → σ → Prop
  | nil (s : σ) : Run Step s [] s
  | cons {s s' s'' : σ} {e : ε} {ts : List (Transition σ ε)} :
      Step s e s' → Run Step s' ts s'' → Run Step s (⟨s, e, s'⟩ :: ts) s''

/-- `P` happened in the past, and `Q` has not happened after it. -/
def Since {α : Type*} (P Q : α → Prop) (past : List α) : Prop :=
  ∃ old x rest, past = old ++ x :: rest ∧ P x ∧ ∀ y ∈ rest, ¬ Q y

namespace Since

variable {α : Type*} {P Q : α → Prop} {past : List α} {x : α}

theorem now (h : P x) : Since P Q (past ++ [x]) :=
  ⟨past, x, [], rfl, h, fun _ hy => absurd hy List.not_mem_nil⟩

theorem snoc (h : Since P Q past) (hx : ¬ Q x) : Since P Q (past ++ [x]) := by
  obtain ⟨old, y, rest, rfl, hy, hrest⟩ := h
  refine ⟨old, y, rest ++ [x], by simp, hy, ?_⟩
  intro z hz
  rcases List.mem_append.mp hz with hz | hz
  · exact hrest z hz
  · rw [List.mem_singleton.mp hz]
    exact hx

end Since

namespace Run

variable {Step : σ → ε → σ → Prop} {s s' s'' : σ} {ts ts' : List (Transition σ ε)}

theorem single {e : ε} (h : Step s e s') : Run Step s [⟨s, e, s'⟩] s' :=
  .cons h (.nil _)

theorem append (h : Run Step s ts s') (h' : Run Step s' ts' s'') : Run Step s (ts ++ ts') s'' := by
  induction h with
  | nil => exact h'
  | cons hstep _ ih => exact .cons hstep (ih h')

theorem mono {Step' : σ → ε → σ → Prop} (himp : ∀ {a e b}, Step a e b → Step' a e b)
    (h : Run Step s ts s') : Run Step' s ts s' := by
  induction h with
  | nil s => exact .nil s
  | cons hstep _ ih => exact .cons (himp hstep) ih

theorem of_append : ∀ {ts ts' : List (Transition σ ε)} {s s'' : σ},
    Run Step s (ts ++ ts') s'' → ∃ s', Run Step s ts s' ∧ Run Step s' ts' s''
  | [], _, _, _, h => ⟨_, .nil _, h⟩
  | _ :: _, _, _, _, h => by
      cases h with
      | cons hstep hrest =>
          obtain ⟨m, h₁, h₂⟩ := of_append hrest
          exact ⟨m, .cons hstep h₁, h₂⟩

/-- The two ends of a transition of a run are joined by a step, the prefix
reaches its source and the rest starts from its target. -/
theorem split {t : Transition σ ε} (h : Run Step s (ts ++ t :: ts') s') :
    Run Step s ts t.before ∧ Step t.before t.event t.after ∧
      Run Step t.after ts' s' := by
  obtain ⟨m, hpre, hrest⟩ := of_append h
  cases hrest with
  | cons hstep hpost => exact ⟨hpre, hstep, hpost⟩

/-! ## Invariants -/

/-- The invariant rule, for invariants that need a condition `C` on the
transitions taken. -/
theorem inv_of {I : σ → Prop} {C : Transition σ ε → Prop}
    (hkeep : ∀ {a e b}, I a → C ⟨a, e, b⟩ → Step a e b → I b)
    (h : Run Step s ts s') (h₀ : I s) (hC : ∀ t ∈ ts, C t) : I s' := by
  induction h with
  | nil => exact h₀
  | cons hstep _ ih =>
      refine ih (hkeep h₀ (hC _ List.mem_cons_self) hstep) ?_
      exact fun t ht => hC t (List.mem_cons_of_mem _ ht)

/-- The invariant rule. -/
theorem inv {I : σ → Prop} (hkeep : ∀ {a e b}, I a → Step a e b → I b)
    (h : Run Step s ts s') (h₀ : I s) : I s' :=
  inv_of (C := fun _ => True) (fun ha _ hs => hkeep ha hs) h h₀ (fun _ _ => trivial)

/-- The permanence rule: what every step keeps holds from any transition on. -/
theorem after_mem {I : σ → Prop} {t : Transition σ ε}
    (hkeep : ∀ {a e b}, I a → Step a e b → I b) (h : Run Step s ts s') (ht : t ∈ ts)
    (hbefore : I t.before) : I t.after ∧ I s' := by
  obtain ⟨pre, post, rfl⟩ := List.append_of_mem ht
  obtain ⟨_, hstep, hrest⟩ := split h
  have hafter := hkeep hbefore hstep
  exact ⟨hafter, inv hkeep hrest hafter⟩

/-- The transition rule: what a step does from a state of the invariant holds
of every transition of a run, when each transition meets the condition. -/
theorem forall_mem_of {I : σ → Prop} {C P : Transition σ ε → Prop}
    (hkeep : ∀ {a e b}, I a → C ⟨a, e, b⟩ → Step a e b → I b)
    (hP : ∀ {a e b}, I a → C ⟨a, e, b⟩ → Step a e b → P ⟨a, e, b⟩)
    (h : Run Step s ts s') (h₀ : I s) (hC : ∀ t ∈ ts, C t) : ∀ t ∈ ts, P t := by
  induction h with
  | nil => exact fun t ht => absurd ht List.not_mem_nil
  | cons hstep _ ih =>
      have hhead := hC _ List.mem_cons_self
      have htail : ∀ t ∈ _, C t := fun t ht => hC t (List.mem_cons_of_mem _ ht)
      intro t ht
      rcases List.mem_cons.mp ht with rfl | ht
      · exact hP h₀ hhead hstep
      · exact ih (hkeep h₀ hhead hstep) htail t ht

theorem forall_mem {I : σ → Prop} {P : Transition σ ε → Prop}
    (hkeep : ∀ {a e b}, I a → Step a e b → I b)
    (hP : ∀ {a e b}, I a → Step a e b → P ⟨a, e, b⟩)
    (h : Run Step s ts s') (h₀ : I s) : ∀ t ∈ ts, P t :=
  forall_mem_of (C := fun _ => True) (fun ha _ hs => hkeep ha hs)
    (fun ha _ hs => hP ha hs) h h₀ (fun _ _ => trivial)

theorem forall_step {P : Transition σ ε → Prop}
    (hP : ∀ {a e b}, Step a e b → P ⟨a, e, b⟩) (h : Run Step s ts s') :
    ∀ t ∈ ts, P t :=
  forall_mem (I := fun _ => True) (fun _ _ => trivial) (fun _ hs => hP hs) h trivial

/-! ## Quantities and histories -/

/-- The monotonicity rule: a quantity no step lowers is at the end at least what
it was at the start and after every transition. -/
theorem mono_of {α : Type*} [Preorder α] {f : σ → α} {C : Transition σ ε → Prop}
    (hmono : ∀ {a e b}, C ⟨a, e, b⟩ → Step a e b → f a ≤ f b)
    (h : Run Step s ts s') (hC : ∀ t ∈ ts, C t) : f s ≤ f s' ∧ ∀ t ∈ ts, f t.after ≤ f s' := by
  induction h with
  | nil => exact ⟨le_refl _, fun t ht => absurd ht List.not_mem_nil⟩
  | cons hstep _ ih =>
      obtain ⟨hstart, hafter⟩ := ih fun t ht => hC t (List.mem_cons_of_mem _ ht)
      refine ⟨(hmono (hC _ List.mem_cons_self) hstep).trans hstart, ?_⟩
      intro t ht
      rcases List.mem_cons.mp ht with rfl | ht
      · exact hstart
      · exact hafter t ht

/-- The descent rule: a measure that no step raises and that steps of a kind lower,
as long as it is not 0, is at the end lower by the number of such steps. -/
theorem descend {μ : σ → Nat} {I : σ → Prop} {C A : Transition σ ε → Prop}
    (hkeep : ∀ {a e b}, I a → C ⟨a, e, b⟩ → Step a e b → I b ∧ μ b ≤ μ a)
    (hlower : ∀ {a e b}, I a → C ⟨a, e, b⟩ → A ⟨a, e, b⟩ → Step a e b → μ b ≤ μ a - 1)
    (h : Run Step s ts s') (h₀ : I s) (hC : ∀ t ∈ ts, C t) {us : List (Transition σ ε)}
    (hus : us.Sublist ts) (hA : ∀ t ∈ us, A t) : μ s' ≤ μ s - us.length := by
  induction h generalizing us with
  | nil =>
      cases List.sublist_nil.mp hus
      exact Nat.le_refl _
  | cons hstep _ ih =>
      have hhead := hC _ List.mem_cons_self
      obtain ⟨hnext, hle⟩ := hkeep h₀ hhead hstep
      have htail : ∀ t ∈ _, C t := fun t ht => hC t (List.mem_cons_of_mem _ ht)
      -- the first transition is one of the lowering ones, or it is not
      cases hus with
      | cons _ hsub => exact Nat.le_trans (ih hnext htail hsub hA) (Nat.sub_le_sub_right hle _)
      | cons_cons _ hsub =>
          have hone := hlower h₀ hhead (hA _ List.mem_cons_self) hstep
          have hrest := ih hnext htail hsub fun t ht => hA t (List.mem_cons_of_mem _ ht)
          rw [List.length_cons]
          omega

/-- The history rule: a law that ties the state to the transitions so far. -/
theorem history {I : List (Transition σ ε) → σ → Prop}
    (hkeep : ∀ {past a e b}, I past a → Step a e b → I (past ++ [⟨a, e, b⟩]) b)
    (h : Run Step s ts s') (past : List (Transition σ ε)) (h₀ : I past s) : I (past ++ ts) s' := by
  induction h generalizing past with
  | nil => simpa using h₀
  | cons hstep _ ih =>
      have hnext := ih _ (hkeep h₀ hstep)
      rwa [List.append_assoc] at hnext

/-- The timestamp rule.  A step that leaves a time `x` set did `Q`, kept `f`, and
either found `x` set or set it to its own time.  Then a time that is set at the
end is the one of the first of a stretch of transitions that all did `Q`, with
`f` the same throughout. -/
theorem stretch {τ α : Type*} (since : σ → Option τ) (now : ε → τ) {f : σ → α} {I : σ → Prop}
    {Q : Transition σ ε → Prop} (hinv : ∀ {a e b}, I a → Step a e b → I b)
    (hkeep : ∀ {a e b x}, I a → Step a e b → since b = some x →
      Q ⟨a, e, b⟩ ∧ f b = f a ∧ (since a = some x ∨ now e = x))
    (h : Run Step s ts s') (hs : I s) (h₀ : since s = none) {x : τ} (hx : since s' = some x) :
    ∃ old u rest, ts = old ++ u :: rest ∧ now u.event = x ∧
      ∀ v ∈ u :: rest, Q v ∧ f v.before = f s' := by
  have hlaw := history (I := fun past a => I a ∧ ∀ x, since a = some x →
    ∃ old u rest, past = old ++ u :: rest ∧ now u.event = x ∧
      ∀ v ∈ u :: rest, Q v ∧ f v.before = f a) ?_ h [] ⟨hs, ?_⟩
  · obtain ⟨old, u, rest, hts, hu⟩ := hlaw.2 x hx
    exact ⟨old, u, rest, hts, hu⟩
  · rintro past a e b ⟨ha, hpast⟩ hstep
    refine ⟨hinv ha hstep, ?_⟩
    intro x hx
    obtain ⟨hQ, hf, hfound | hset⟩ := hkeep ha hstep hx
    · -- The time was found: the stretch so far goes on.
      obtain ⟨old, u, rest, rfl, hu, hall⟩ := hpast x hfound
      refine ⟨old, u, rest ++ [⟨a, e, b⟩], by simp, hu, ?_⟩
      intro v hv
      rcases List.mem_append.mp (show v ∈ (u :: rest) ++ [⟨a, e, b⟩] from hv) with hv | hv
      · exact ⟨(hall v hv).1, (hall v hv).2.trans hf.symm⟩
      · cases List.mem_singleton.mp hv
        exact ⟨hQ, hf.symm⟩
    · refine ⟨past, ⟨a, e, b⟩, [], rfl, hset, ?_⟩
      intro v hv
      cases List.mem_singleton.mp hv
      exact ⟨hQ, hf.symm⟩
  · intro x hx
    rw [h₀] at hx
    cases hx

/-- The once rule.  From an armed state a step stays armed, or does `C` and it is
over; once it is over no step does `C`.  Then `C` happens at most once in a run
from an armed state, and a run in which it does not happen ends armed. -/
theorem once {A O : σ → Prop} {C K : Transition σ ε → Prop}
    (harmed : ∀ {a e b}, A a → K ⟨a, e, b⟩ → Step a e b →
      (A b ∧ ¬ C ⟨a, e, b⟩) ∨ (O b ∧ C ⟨a, e, b⟩))
    (hover : ∀ {a e b}, O a → K ⟨a, e, b⟩ → Step a e b → O b ∧ ¬ C ⟨a, e, b⟩)
    (h : Run Step s ts s') (hs : A s) (hK : ∀ t ∈ ts, K t) :
    (A s' ∧ ∀ t ∈ ts, ¬ C t) ∨
      ∃ pre t post, ts = pre ++ t :: post ∧ C t ∧ ∀ u ∈ pre ++ post, ¬ C u := by
  induction h with
  | nil => exact Or.inl ⟨hs, fun t ht => absurd ht List.not_mem_nil⟩
  | @cons a b _ e ts hstep hrest ih =>
      rcases harmed hs (hK _ List.mem_cons_self) hstep with ⟨hb, hno⟩ | ⟨hb, hC⟩
      · rcases ih hb fun t ht => hK t (List.mem_cons_of_mem _ ht) with
          ⟨hend, hnone⟩ | ⟨pre, t, post, rfl, ht, hothers⟩
        · refine Or.inl ⟨hend, ?_⟩
          intro t ht
          rcases List.mem_cons.mp ht with rfl | ht
          · exact hno
          · exact hnone t ht
        · refine Or.inr ⟨⟨a, e, b⟩ :: pre, t, post, rfl, ht, ?_⟩
          intro u hu
          rcases List.mem_cons.mp hu with rfl | hu
          · exact hno
          · exact hothers u hu
      · refine Or.inr ⟨[], _, ts, rfl, hC, ?_⟩
        exact forall_mem_of (I := O) (P := fun u => ¬ C u) (fun ho hk hs => (hover ho hk hs).1)
          (fun ho hk hs => (hover ho hk hs).2) hrest hb
          fun t ht => hK t (List.mem_cons_of_mem _ ht)

/-! ## Windows -/

/-- The window rule: if `J` holds after the transition `t` and every
transition strictly between `t` and `t'` keeps it, `J` holds before `t'`. -/
theorem window {J : σ → Prop} {C : Transition σ ε → Prop} {pre mid post : List (Transition σ ε)}
    {t t' : Transition σ ε}
    (hkeep : ∀ {a e b}, J a → C ⟨a, e, b⟩ → Step a e b → J b)
    (h : Run Step s (pre ++ t :: (mid ++ t' :: post)) s')
    (ht : J t.after) (hmid : ∀ x ∈ mid, C x) : J t'.before := by
  obtain ⟨_, _, hrest⟩ := split h
  obtain ⟨hm, _, _⟩ := split hrest
  exact inv_of hkeep hm ht hmid

/-! ## Simulation -/

/-- The simulation rule.  When every step that meets the condition, from related
states, is matched by a run of another system, so is every run; and each
transition of the other system comes from one of this system's. -/
theorem simulate {σ' : Type*} {ε' : Type*} {Step' : σ' → ε' → σ' → Prop} {R : σ → σ' → Prop}
    {C : Transition σ ε → Prop} {M : Transition σ ε → Transition σ' ε' → Prop}
    (hmatch : ∀ {a e b q}, R a q → C ⟨a, e, b⟩ → Step a e b →
      ∃ us q', Run Step' q us q' ∧ R b q' ∧ ∀ u ∈ us, M ⟨a, e, b⟩ u)
    (h : Run Step s ts s') {q : σ'} (h₀ : R s q) (hC : ∀ t ∈ ts, C t) :
    ∃ us q', Run Step' q us q' ∧ R s' q' ∧ ∀ u ∈ us, ∃ t ∈ ts, M t u := by
  induction h generalizing q with
  | nil => exact ⟨[], q, .nil q, h₀, fun u hu => absurd hu List.not_mem_nil⟩
  | cons hstep _ ih =>
      obtain ⟨us₁, q₁, hrun₁, hrel, hM₁⟩ := hmatch h₀ (hC _ List.mem_cons_self) hstep
      obtain ⟨us₂, q₂, hrun₂, hend, hM₂⟩ := ih hrel fun t ht => hC t (List.mem_cons_of_mem _ ht)
      refine ⟨us₁ ++ us₂, q₂, hrun₁.append hrun₂, hend, ?_⟩
      intro u hu
      rcases List.mem_append.mp hu with hu | hu
      · exact ⟨_, List.mem_cons_self, hM₁ u hu⟩
      · obtain ⟨t, ht, hM⟩ := hM₂ u hu
        exact ⟨t, List.mem_cons_of_mem _ ht, hM⟩

end Run

end Lib
