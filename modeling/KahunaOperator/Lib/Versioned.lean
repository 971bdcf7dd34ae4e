/-
# `Lib.Versioned` — optimistic concurrency behind a lagging cache

An object is stored as a sequence of versions.  A client reads it through a
cache that may lag and may catch up at any moment.  In each round it reads
twice: it makes a plan from a view of the first read, applies the plan to the
second, and sends the result under the second read's version.  The store
accepts an update only under its current version.  Others may write too, and
a round may be given up at any point.

The version check ties a write to the *second* read.  It says nothing of the
first, so a write is made from the version it overwrites only when the two
reads of its round show the same view:

    every round's reads agree  ⟹  every write is planned from what it overwrites
                                                              (`planned_on_overwritten`)
-/
import KahunaOperator.Lib.Run

namespace Lib.Versioned

universe u v w x
variable {α : Type u} {β : Type v} {ε : Type w} {π : Type x}

/-- How the client works: what it plans from, the plan, its application. -/
structure Protocol (α : Type u) (β : Type v) (ε : Type w) (π : Type x) where
  view : α → β
  plan : ε → β → π
  apply : ε → π → α → α

/-- Where a round stands.  `planned` keeps the view of the first read, `fetched`
also the object and the version of the second. -/
inductive Phase (α : Type u) (β : Type v) (ε : Type w) where
  | idle
  | planned (env : ε) (seen : β)
  | fetched (env : ε) (seen : β) (obj : α) (version : Nat)

structure State (α : Type u) (β : Type v) (ε : Type w) where
  /-- The object at each version; only those up to `top` have been written. -/
  versions : Nat → α
  top : Nat
  cache : Nat
  phase : Phase α β ε

def State.current (s : State α β ε) : α := s.versions s.top

def State.write (s : State α β ε) (a : α) : State α β ε :=
  { s with
    versions := fun v => if v = s.top + 1 then a else s.versions v
    top := s.top + 1 }

inductive Event (α : Type u) (ε : Type w) where
  | refresh (version : Nat)
  | foreign (obj : α)
  | plan (env : ε)
  | fetch
  | update
  | abandon

variable (P : Protocol α β ε π)

inductive Step : State α β ε → Event α ε → State α β ε → Prop
  | refresh {s : State α β ε} {v : Nat} : s.cache ≤ v → v ≤ s.top →
      Step s (.refresh v) { s with cache := v }
  | foreign {s : State α β ε} (a : α) : Step s (.foreign a) (s.write a)
  | plan {s : State α β ε} (env : ε) : s.phase = .idle →
      Step s (.plan env) { s with phase := .planned env (P.view (s.versions s.cache)) }
  | fetch {s : State α β ε} {env : ε} {seen : β} : s.phase = .planned env seen →
      Step s .fetch
        { s with phase := .fetched env seen (s.versions s.cache) s.cache }
  | update {s : State α β ε} {env : ε} {seen : β} {obj : α} :
      s.phase = .fetched env seen obj s.top →
      Step s .update
        { s.write (P.apply env (P.plan env seen) obj) with phase := .idle }
  | abandon {s : State α β ε} : Step s .abandon { s with phase := .idle }

/-- What the second read of a round returns looks like what the first one did. -/
def ReadsAgree (t : Transition (State α β ε) (Event α ε)) : Prop :=
  ∀ env seen, t.event = .fetch → t.before.phase = .planned env seen →
    P.view (t.before.versions t.before.cache) = seen

/-- The write is what the plan of its own round, made for the overwritten
version, asks for. -/
def PlannedOnOverwritten (t : Transition (State α β ε) (Event α ε)) : Prop :=
  ∀ env seen obj v, t.event = .update → t.before.phase = .fetched env seen obj v →
    t.after.current = P.apply env (P.plan env (P.view t.before.current)) t.before.current

/-- The cache holds a written version, and so does a round that has fetched;
what it fetched looks like what it planned on. -/
structure Consistent (s : State α β ε) : Prop where
  cache_le : s.cache ≤ s.top
  fetched : ∀ env seen obj v, s.phase = .fetched env seen obj v →
    v ≤ s.top ∧ obj = s.versions v ∧ P.view obj = seen

theorem State.write_versions_of_le {s : State α β ε} {a : α} {v : Nat} (h : v ≤ s.top) :
    (s.write a).versions v = s.versions v := by
  show (if v = s.top + 1 then a else s.versions v) = s.versions v
  exact if_neg (by omega)

@[simp] theorem State.write_current (s : State α β ε) (a : α) : (s.write a).current = a :=
  if_pos rfl

variable {P}

/-- A new version leaves the old ones, so what was fetched still is what it was. -/
theorem Consistent.write {s : State α β ε} (h : Consistent P s) (a : α) :
    Consistent P (s.write a) where
  cache_le := Nat.le_succ_of_le h.cache_le
  fetched := by
    intro env seen obj v hphase
    obtain ⟨hv, hobj, hview⟩ := h.fetched env seen obj v hphase
    refine ⟨Nat.le_succ_of_le hv, ?_, hview⟩
    rw [State.write_versions_of_le hv]
    exact hobj

theorem Consistent.of_cache {s : State α β ε} (h : s.cache ≤ s.top)
    (hphase : ∀ env seen obj v, s.phase ≠ .fetched env seen obj v) : Consistent P s where
  cache_le := h
  fetched := fun env seen obj v hf => absurd hf (hphase env seen obj v)

theorem Consistent.step {s s' : State α β ε} {e : Event α ε} (h : Consistent P s)
    (hagree : ReadsAgree P ⟨s, e, s'⟩) (hstep : Step P s e s') : Consistent P s' := by
  cases hstep with
  | refresh _ htop => exact ⟨htop, h.fetched⟩
  | foreign a => exact h.write a
  | plan env _ =>
      refine .of_cache h.cache_le ?_
      intro _ _ _ _ hphase
      cases hphase
  | fetch hphase =>
      refine ⟨h.cache_le, ?_⟩
      intro env seen obj v hf
      cases hf
      exact ⟨h.cache_le, rfl, hagree _ _ rfl hphase⟩
  | update _ =>
      refine .of_cache (Nat.le_succ_of_le h.cache_le) ?_
      intro _ _ _ _ hphase
      cases hphase
  | abandon =>
      refine .of_cache h.cache_le ?_
      intro _ _ _ _ hphase
      cases hphase

/-- The step lemma: an accepted update overwrites the version it fetched. -/
theorem Consistent.planned {s s' : State α β ε} {e : Event α ε} (h : Consistent P s)
    (hstep : Step P s e s') : PlannedOnOverwritten P ⟨s, e, s'⟩ := by
  intro env seen obj v hevent hphase
  cases hstep with
  | @update env' seen' obj' hphase' =>
      cases hphase.symm.trans hphase'
      obtain ⟨_, hobj, hview⟩ := h.fetched _ _ _ _ hphase'
      have hcur : obj = s.current := hobj
      show (s.write (P.apply env (P.plan env seen) obj)).current = _
      rw [State.write_current, ← hview, hcur]
  | refresh _ _ => cases hevent
  | foreign _ => cases hevent
  | plan _ _ => cases hevent
  | fetch _ => cases hevent
  | abandon => cases hevent

/-- Over a run: when the two reads of every round agree, every write was planned
from the version it overwrites. -/
theorem planned_on_overwritten {s s' : State α β ε}
    {ts : List (Transition (State α β ε) (Event α ε))} (hrun : Run (Step P) s ts s')
    (h₀ : Consistent P s) (hagree : ∀ t ∈ ts, ReadsAgree P t) :
    ∀ t ∈ ts, PlannedOnOverwritten P t :=
  Run.forall_mem_of (fun h hC hs => h.step hC hs) (fun h _ hs => h.planned hs) hrun h₀ hagree

end Lib.Versioned
