/-
# `Lib.Api` — programs that call an object server, many at a time

A server keeps typed objects by key, each with the history of its revisions
(`Lib.Guarded`).  It answers four calls:

    get      from a cache that may lag, or live
    create   only where nothing is stored
    update   only of the version named
    delete   only of the uid and version named, if any are

A call may also fail, without effect or after it.  A program (`Calls`) is a tree: it
makes a call and goes on by the reply.  Any number of them run at once, next to other
clients, and any of them may be dropped at any call (`Step`).

Two rules are proved for the steps of such runs:

    what a program may ask for can depend on what the replies have shown it, because
    what was shown stays in the history                              (`Legal`, `legal_step`)
    a program proved on its own, against everything the others may do, is right next
    to them: one condition at every moment, another at its end       (`wp`, `Running.call`)
-/
import KahunaOperator.Lib.Guarded
import Mathlib.Data.Set.Insert
import Mathlib.Logic.Function.Basic

namespace Lib.Api

open Lib.Guarded (Obj History Write)

variable {K : Type} {V : K → Type}

/-! ## The server -/

inductive ApiError where
  | notFound
  | alreadyExists
  | conflict
  /-- The call failed on its way, or its reply did. -/
  | unavailable
deriving DecidableEq, Repr

abbrev Server (V : K → Type) := (key : K) → History (Option (Obj (V key)))

inductive Call (V : K → Type) where
  | get (key : K) (live : Bool)
  | create (key : K) (value : V key)
  | update (key : K) (version : Nat) (value : V key)
  | delete (key : K) (pin : Option (Nat × Nat))

namespace Call

def key : Call V → K
  | .get key _ => key
  | .create key _ => key
  | .update key _ _ => key
  | .delete key _ => key

abbrev Reply (c : Call V) : Type := Except ApiError (Obj (V c.key))

def IsGet : Call V → Prop
  | .get _ _ => True
  | _ => False

/-- A write that succeeds shows what it was asked to write. -/
def Honest : (c : Call V) → c.Reply → Prop
  | .create _ value, .ok o => o.value = value
  | .update _ _ value, .ok o => o.value = value
  | _, _ => True

end Call

namespace Server

def current (s : Server V) (key : K) : Option (Obj (V key)) := (s key).current

def put [DecidableEq K] (s : Server V) (key : K) (o : Option (Obj (V key))) : Server V :=
  Function.update s key ((s key).push o)

def created (s : Server V) (key : K) (value : V key) : Obj (V key) :=
  ⟨(s key).top + 1, (s key).top + 1, value⟩

def updated (s : Server V) (key : K) (o : Obj (V key)) (value : V key) : Obj (V key) :=
  { o with version := (s key).top + 1, value := value }

/-- The answer to a call; a cached read finds the revision given. -/
def serve [DecidableEq K] (s : Server V) (revision : Nat) : (c : Call V) → Server V × c.Reply
  | .get key live =>
      match (if live then (s key).current else (s key).rev revision) with
      | none => (s, .error .notFound)
      | some o => (s, .ok o)
  | .create key value =>
      match s.current key with
      | none => (s.put key (some (s.created key value)), .ok (s.created key value))
      | some _ => (s, .error .alreadyExists)
  | .update key version value =>
      match s.current key with
      | none => (s, .error .notFound)
      | some o =>
          if o.version = version then
            (s.put key (some (s.updated key o value)), .ok (s.updated key o value))
          else (s, .error .conflict)
  | .delete key pin =>
      match s.current key with
      | none => (s, .error .notFound)
      | some o =>
          if ∀ p ∈ pin, o.uid = p.1 ∧ o.version = p.2 then (s.put key none, .ok o)
          else (s, .error .conflict)

end Server

section Answers
variable [DecidableEq K] {s s' : Server V} {revision : Nat} {c : Call V} {r : c.Reply}

/-- What may come of a call: the server's answer; an update to what was read, which is not
sent, or makes no revision; or a failure, before the call had its effect or after. -/
inductive Answer (s : Server V) (revision : Nat) : (c : Call V) → Server V → c.Reply → Prop
  | served (c : Call V) : Answer s revision c (s.serve revision c).1 (s.serve revision c).2
  | unchanged {key : K} {o : Obj (V key)} {i : Nat} : i ≤ (s key).top → (s key).rev i = some o →
      Answer s revision (.update key o.version o.value) s (.ok o)
  | refused (c : Call V) : Answer s revision c s (.error .unavailable)
  | lost (c : Call V) : Answer s revision c (s.serve revision c).1 (.error .unavailable)

/-- What a call does to the server. -/
inductive Change (s : Server V) : Call V → Server V → Prop
  | same (c : Call V) : Change s c s
  | created {key : K} (value : V key) : s.current key = none →
      Change s (.create key value) (s.put key (some (s.created key value)))
  | updated {key : K} {o : Obj (V key)} (value : V key) : s.current key = some o →
      Change s (.update key o.version value) (s.put key (some (s.updated key o value)))
  | deleted {key : K} {o : Obj (V key)} (pin : Option (Nat × Nat)) : s.current key = some o →
      (∀ p ∈ pin, o.uid = p.1 ∧ o.version = p.2) →
      Change s (.delete key pin) (s.put key none)

theorem serve_change (s : Server V) (revision : Nat) (c : Call V) :
    Change s c (s.serve revision c).1 := by
  cases c with
  | get key live =>
      simp only [Server.serve]
      split <;> exact .same _
  | create key value =>
      simp only [Server.serve]
      split
      · next hnone => exact .created value hnone
      · exact .same _
  | update key version value =>
      simp only [Server.serve]
      split
      · exact .same _
      · next o ho =>
          split
          · next hversion =>
              subst hversion
              exact .updated value ho
          · exact .same _
  | delete key pin =>
      simp only [Server.serve]
      split
      · exact .same _
      · next o ho =>
          split
          · next hpin => exact .deleted pin ho hpin
          · exact .same _

theorem Answer.change (h : Answer s revision c s' r) : Change s c s' := by
  cases h with
  | served => exact serve_change s revision c
  | unchanged _ _ => exact .same _
  | refused => exact .same _
  | lost => exact serve_change s revision c

/-- The revision matters to a read only. -/
theorem Answer.revision_eq (h : Answer s revision c s' r) {revision' : Nat}
    (hget : c.IsGet → revision = revision') : Answer s revision' c s' r := by
  have hserve : s.serve revision c = s.serve revision' c := by
    cases c with
    | get key live => rw [hget trivial]
    | create key value => rfl
    | update key version value => rfl
    | delete key pin => rfl
  cases h with
  | served =>
      rw [hserve]
      exact .served c
  | unchanged hi ho => exact .unchanged hi ho
  | refused => exact .refused c
  | lost =>
      rw [hserve]
      exact .lost c

theorem Answer.honest (h : Answer s revision c s' r) : c.Honest r := by
  cases h with
  | served =>
      cases c with
      | get key live => trivial
      | create key value =>
          simp only [Server.serve]
          split
          · rfl
          · trivial
      | update key version value =>
          simp only [Server.serve]
          split
          · trivial
          · split
            · rfl
            · trivial
      | delete key pin => trivial
  | unchanged _ _ => rfl
  | refused => cases c <;> trivial
  | lost => cases c <;> trivial

/-- A call changes the object it names, if any. -/
theorem Change.frame (h : Change s c s') {key : K} (hkey : key ≠ c.key) : s' key = s key := by
  cases h with
  | same => rfl
  | created _ _ => exact Function.update_of_ne hkey _ _
  | updated _ _ => exact Function.update_of_ne hkey _ _
  | deleted _ _ _ => exact Function.update_of_ne hkey _ _

theorem Change.create_inv {key : K} {value : V key} (h : Change s (.create key value) s') :
    s' = s ∨ (s.current key = none ∧ s' = s.put key (some (s.created key value))) := by
  cases h with
  | same => exact Or.inl rfl
  | created _ hnone => exact Or.inr ⟨hnone, rfl⟩

theorem Change.update_inv {key : K} {version : Nat} {value : V key}
    (h : Change s (.update key version value) s') :
    s' = s ∨ ∃ o, s.current key = some o ∧ o.version = version ∧
      s' = s.put key (some (s.updated key o value)) := by
  cases h with
  | same => exact Or.inl rfl
  | updated _ ho => exact Or.inr ⟨_, ho, rfl, rfl⟩

theorem Change.delete_inv {key : K} {pin : Option (Nat × Nat)}
    (h : Change s (.delete key pin) s') :
    s' = s ∨ ∃ o, s.current key = some o ∧ (∀ p ∈ pin, o.uid = p.1 ∧ o.version = p.2) ∧
      s' = s.put key none := by
  cases h with
  | same => exact Or.inl rfl
  | deleted _ ho hpin => exact Or.inr ⟨_, ho, hpin, rfl⟩

theorem Change.of_get (h : Change s c s') (hget : c.IsGet) : s' = s := by
  cases h with
  | same => rfl
  | created _ _ => exact hget.elim
  | updated _ _ => exact hget.elim
  | deleted _ _ _ => exact hget.elim

/-- An up to date read shows what is stored. -/
theorem Answer.get_inv {key : K} {live : Bool} {r : Call.Reply (.get (V := V) key live)}
    (h : Answer s (s key).top (.get key live) s' r) :
    s' = s ∧ (∀ o, r = .ok o → s.current key = some o) ∧
      (r = .error .notFound → s.current key = none) := by
  cases h with
  | served =>
      have hread : (if live then (s key).current else (s key).rev (s key).top) = s.current key := by
        cases live <;> rfl
      simp only [Server.serve, hread]
      split
      · next hnone => exact ⟨rfl, nofun, fun _ => hnone⟩
      · next o ho =>
          refine ⟨rfl, ?_, nofun⟩
          rintro o' ⟨⟩
          exact ho
  | refused => exact ⟨rfl, nofun, nofun⟩
  | lost =>
      refine ⟨?_, nofun, nofun⟩
      simp only [Server.serve]
      split <;> rfl

theorem Answer.create_inv {key : K} {value : V key}
    {r : Call.Reply (.create (V := V) key value)}
    (h : Answer s revision (.create key value) s' r) :
    (s' = s ∧ ∃ e, r = .error e) ∨
      (s.current key = none ∧ s' = s.put key (some (s.created key value)) ∧
        ∀ o, r = .ok o → o = s.created key value) := by
  cases h with
  | served =>
      simp only [Server.serve]
      split
      · next hnone =>
          refine Or.inr ⟨hnone, rfl, ?_⟩
          rintro o ⟨⟩
          rfl
      · exact Or.inl ⟨rfl, _, rfl⟩
  | refused => exact Or.inl ⟨rfl, _, rfl⟩
  | lost =>
      rcases (serve_change s revision (.create key value)).create_inv with heq | ⟨hnone, heq⟩
      · exact Or.inl ⟨heq, _, rfl⟩
      · exact Or.inr ⟨hnone, heq, nofun⟩

/-- An update fails, finds nothing to change, or is made of the version named. -/
theorem Answer.update_inv {key : K} {version : Nat} {value : V key}
    {r : Call.Reply (.update (V := V) key version value)}
    (h : Answer s revision (.update key version value) s' r) :
    (s' = s ∧ ∃ e, r = .error e) ∨
      (s' = s ∧ ∃ i ≤ (s key).top, ∃ o, (s key).rev i = some o ∧ o.version = version ∧
        o.value = value ∧ r = .ok o) ∨
      ∃ o, s.current key = some o ∧ o.version = version ∧
        s' = s.put key (some (s.updated key o value)) ∧
        ∀ o', r = .ok o' → o' = s.updated key o value := by
  cases h with
  | served =>
      simp only [Server.serve]
      split
      · exact Or.inl ⟨rfl, _, rfl⟩
      · next o ho =>
          split
          · next hversion =>
              refine Or.inr (Or.inr ⟨o, ho, hversion, rfl, ?_⟩)
              rintro o' ⟨⟩
              rfl
          · exact Or.inl ⟨rfl, _, rfl⟩
  | unchanged hi ho => exact Or.inr (Or.inl ⟨rfl, _, hi, _, ho, rfl, rfl, rfl⟩)
  | refused => exact Or.inl ⟨rfl, _, rfl⟩
  | lost =>
      rcases (serve_change s revision (.update key version value)).update_inv with
        heq | ⟨o, ho, hversion, heq⟩
      · exact Or.inl ⟨heq, _, rfl⟩
      · exact Or.inr (Or.inr ⟨o, ho, hversion, heq, nofun⟩)

end Answers

/-! ## Histories -/

namespace Server

/-- Every history is one of guarded writes. -/
def Sound (s : Server V) : Prop :=
  ∀ key, Lib.Guarded.Sound (α := V key) id (fun _ _ => True) (s key)

/-- A server on which nothing was ever stored. -/
def Empty (s : Server V) : Prop := ∀ key, (s key).rev 0 = none ∧ (s key).top = 0

/-- The objects that some revision shows. -/
def seen (s : Server V) : Set (Σ key, Obj (V key)) :=
  { x | ∃ i ≤ (s x.1).top, (s x.1).rev i = some x.2 }

section Shown
variable {s : Server V} {key : K} {o o' : Obj (V key)}

theorem Empty.sound (h : s.Empty) : s.Sound :=
  fun key => .empty (h key).1 (h key).2

theorem seen_of_current (h : s.current key = some o) :
    (⟨key, o⟩ : Σ key, Obj (V key)) ∈ s.seen :=
  ⟨(s key).top, Nat.le_refl _, h⟩

/-- An object seen whose version is still the one stored is the object stored. -/
theorem Sound.current_eq (h : s.Sound) (hseen : (⟨key, o⟩ : Σ key, Obj (V key)) ∈ s.seen)
    (hcurrent : s.current key = some o') (hversion : o'.version = o.version) : o' = o := by
  obtain ⟨i, hi, hrev⟩ := hseen
  exact ((h key).pinned hi hrev hcurrent hversion).1

end Shown

section Put
variable [DecidableEq K] {s s' : Server V} {c : Call V}

theorem put_same (s : Server V) (key : K) (o : Option (Obj (V key))) :
    s.put key o key = (s key).push o :=
  Function.update_self _ _ _

theorem put_other (s : Server V) {key key' : K} (o : Option (Obj (V key))) (h : key' ≠ key) :
    s.put key o key' = s key' :=
  Function.update_of_ne h _ _

@[simp] theorem current_put (s : Server V) (key : K) (o : Option (Obj (V key))) :
    (s.put key o).current key = o := by
  rw [current, put_same]
  exact History.push_current _ _

theorem Sound.put (h : s.Sound) {key : K} {o : Option (Obj (V key))}
    (hw : Write id (fun _ _ => True) (s key) o) : (s.put key o).Sound := by
  intro key'
  by_cases hkey : key' = key
  · subst hkey
    rw [put_same]
    exact (h key').push (fun _ => trivial) (fun _ _ => trivial) hw
  · rw [put_other s o hkey]
    exact h key'

theorem Sound.change (h : s.Sound) (hc : Change s c s') : s'.Sound := by
  cases hc with
  | same => exact h
  | created value _ => exact h.put (.create value rfl)
  | updated value ho => exact h.put (.update value ho trivial rfl)
  | deleted _ _ _ => exact h.put (.remove rfl)

theorem seen_put (s : Server V) (key : K) (o : Option (Obj (V key))) :
    s.seen ⊆ (s.put key o).seen := by
  rintro ⟨key', o'⟩ ⟨i, hi, hrev⟩
  by_cases hkey : key' = key
  · subst hkey
    refine ⟨i, ?_, ?_⟩
    · rw [put_same]
      exact Nat.le_succ_of_le hi
    · rw [put_same, History.push_rev_of_le hi]
      exact hrev
  · exact ⟨i, by rw [put_other s o hkey]; exact hi, by rw [put_other s o hkey]; exact hrev⟩

theorem seen_change (hc : Change s c s') : s.seen ⊆ s'.seen := by
  cases hc with
  | same => exact Set.Subset.rfl
  | created _ _ => exact seen_put _ _ _
  | updated _ _ => exact seen_put _ _ _
  | deleted _ _ _ => exact seen_put _ _ _

end Put

end Server

/-- A reply shows an object that is in the history. -/
theorem Answer.seen [DecidableEq K] {s s' : Server V} {revision : Nat} {c : Call V}
    {r : c.Reply} (h : Answer s revision c s' r) (hrev : revision ≤ (s c.key).top)
    {o : Obj (V c.key)} (hr : r = .ok o) : (⟨c.key, o⟩ : Σ key, Obj (V key)) ∈ s'.seen := by
  cases h with
  | served =>
      cases c with
      | get key live =>
          simp only [Server.serve] at hr ⊢
          split at hr
          · cases hr
          · next o' ho' =>
              cases hr
              cases live with
              | true => exact ⟨_, Nat.le_refl _, ho'⟩
              | false => exact ⟨revision, hrev, ho'⟩
      | create key value =>
          simp only [Server.serve] at hr ⊢
          split at hr
          · cases hr
            exact Server.seen_of_current (Server.current_put _ _ _)
          · cases hr
      | update key version value =>
          simp only [Server.serve] at hr ⊢
          split at hr
          · cases hr
          · split at hr
            · next hversion =>
                cases hr
                rw [if_pos hversion]
                exact Server.seen_of_current (Server.current_put _ _ _)
            · cases hr
      | delete key pin =>
          simp only [Server.serve] at hr ⊢
          split at hr
          · cases hr
          · next o' ho' =>
              split at hr
              · next hpin =>
                  cases hr
                  rw [if_pos hpin]
                  exact Server.seen_put _ _ _ (Server.seen_of_current ho')
              · cases hr
  | unchanged hi ho =>
      cases hr
      exact ⟨_, hi, ho⟩
  | refused => cases hr
  | lost => cases hr

/-! ## Programs -/

/-- A program: it is done, has failed, or makes a call and goes on by the reply. -/
inductive Calls (V : K → Type) (ε α : Type) where
  | done (a : α)
  | failed (e : ε)
  | call (c : Call V) (next : c.Reply → Calls V ε α)

namespace Calls

variable {ε α β : Type}

def bind : Calls V ε α → (α → Calls V ε β) → Calls V ε β
  | .done a, f => f a
  | .failed e, _ => .failed e
  | .call c next, f => .call c fun r => (next r).bind f

instance : Monad (Calls V ε) where
  pure := .done
  bind := .bind

@[simp] theorem pure_eq (a : α) : (pure a : Calls V ε α) = .done a := rfl

@[simp] theorem done_bind (a : α) (f : α → Calls V ε β) : (.done a >>= f) = f a := rfl

@[simp] theorem failed_bind (e : ε) (f : α → Calls V ε β) : (.failed e >>= f) = .failed e := rfl

@[simp] theorem call_bind (c : Call V) (next : c.Reply → Calls V ε α) (f : α → Calls V ε β) :
    (.call c next >>= f) = .call c fun r => next r >>= f := rfl

/-- The object, with its value read in another way. -/
def mapValue {A B : Type} (f : A → B) (o : Obj A) : Obj B :=
  { uid := o.uid, version := o.version, value := f o.value }

def ask (e : ε) (c : Call V) : Calls V ε (Obj (V c.key)) :=
  .call c fun
    | .ok o => .done o
    | .error _ => .failed e

/-! ### What a program may ask for -/

/-- What a reply shows is added to what was seen. -/
def learn (seen : Set (Σ key, Obj (V key))) (c : Call V) : c.Reply → Set (Σ key, Obj (V key))
  | .ok o => insert ⟨c.key, o⟩ seen
  | .error _ => seen

/-- Every call of the program is permitted by what was seen until then, and `Q` holds of
its result and of what was seen when it is done. -/
def Legal (permit : Set (Σ key, Obj (V key)) → Call V → Prop)
    (Q : α → Set (Σ key, Obj (V key)) → Prop) : Calls V ε α → Set (Σ key, Obj (V key)) → Prop
  | .done a, seen => Q a seen
  | .failed _, _ => True
  | .call c next, seen =>
      permit seen c ∧ ∀ r, c.Honest r → (next r).Legal permit Q (learn seen c r)

section Legal
variable {permit : Set (Σ key, Obj (V key)) → Call V → Prop}
  {seen seen' : Set (Σ key, Obj (V key))}

theorem subset_learn (seen : Set (Σ key, Obj (V key))) (c : Call V) (r : c.Reply) :
    seen ⊆ learn seen c r := by
  cases r with
  | ok o => exact Set.subset_insert _ _
  | error _ => exact Set.Subset.rfl

theorem learn_subset (h : seen ⊆ seen') (c : Call V) (r : c.Reply) :
    learn seen c r ⊆ learn seen' c r := by
  cases r with
  | ok o => exact Set.insert_subset_insert h
  | error _ => exact h

def Within (keys : K → Prop) (permit : Set (Σ key, Obj (V key)) → Call V → Prop)
    (seen : Set (Σ key, Obj (V key))) (c : Call V) : Prop :=
  keys c.key ∧ permit seen c

def Monotone (permit : Set (Σ key, Obj (V key)) → Call V → Prop) : Prop :=
  ∀ (seen seen' : Set (Σ key, Obj (V key))) (c : Call V), seen ⊆ seen' →
    permit seen c → permit seen' c

theorem Legal.mono (hmono : Monotone permit) {Q : α → Set (Σ key, Obj (V key)) → Prop}
    (hQ : ∀ a seen seen', seen ⊆ seen' → Q a seen → Q a seen') {p : Calls V ε α}
    (h : p.Legal permit Q seen) (hsub : seen ⊆ seen') : p.Legal permit Q seen' := by
  induction p generalizing seen seen' with
  | done a => exact hQ a _ _ hsub h
  | failed _ => trivial
  | call c next ih =>
      refine ⟨hmono _ _ _ hsub h.1, ?_⟩
      intro r hr
      exact ih r (h.2 r hr) (learn_subset hsub c r)

/-- The rule of sequence. -/
theorem Legal.bind {Q : β → Set (Σ key, Obj (V key)) → Prop} {p : Calls V ε α}
    {f : α → Calls V ε β} (h : p.Legal permit (fun a seen' => (f a).Legal permit Q seen') seen) :
    (p >>= f).Legal permit Q seen := by
  induction p generalizing seen with
  | done _ => exact h
  | failed _ => trivial
  | call c next ih => exact ⟨h.1, fun r hr => ih r (h.2 r hr)⟩

/-- The rule of consequence; what was seen at the start is still seen at the end. -/
theorem Legal.conseq {Q Q' : α → Set (Σ key, Obj (V key)) → Prop} {p : Calls V ε α}
    (h : p.Legal permit Q seen) (hQ : ∀ a seen', seen ⊆ seen' → Q a seen' → Q' a seen') :
    p.Legal permit Q' seen := by
  induction p generalizing seen with
  | done a => exact hQ a seen Set.Subset.rfl h
  | failed _ => trivial
  | call c next ih =>
      refine ⟨h.1, ?_⟩
      intro r hr
      refine ih r (h.2 r hr) ?_
      intro a seen' hsub
      exact hQ a seen' ((subset_learn seen c r).trans hsub)

theorem Legal.weaken {permit' : Set (Σ key, Obj (V key)) → Call V → Prop}
    {Q : α → Set (Σ key, Obj (V key)) → Prop} {p : Calls V ε α} (h : p.Legal permit Q seen)
    (hpermit : ∀ seen c, permit seen c → permit' seen c) : p.Legal permit' Q seen := by
  induction p generalizing seen with
  | done _ => exact h
  | failed _ => trivial
  | call c next ih => exact ⟨hpermit _ _ h.1, fun r hr => ih r (h.2 r hr)⟩

theorem Legal.ite {Q : α → Set (Σ key, Obj (V key)) → Prop} {c : Prop} [Decidable c]
    {p q : Calls V ε α} (hp : c → p.Legal permit Q seen) (hq : ¬c → q.Legal permit Q seen) :
    (if c then p else q).Legal permit Q seen := by
  split
  · next h => exact hp h
  · next h => exact hq h

end Legal

/-! ### What a program does among others -/

/-- What the others may do, at any time and any number of times, keeps the condition. -/
structure Rely (R : Server V → Server V → Prop) (C : Server V → Prop) : Prop where
  refl : ∀ s, R s s
  trans : ∀ {s t u}, R s t → R t u → R s u
  stable : ∀ {s t}, C s → R s t → C t

section Wp
variable [DecidableEq K]

/-- From `s` the program is right against the others, who may do `R`.  `F` are the objects
it knows about, and reads up to date; its calls on any other object are no more to it than
what the others do.  `C` holds at every moment, and `Q` when it is done. -/
def wp (F : K → Prop) (R : Server V → Server V → Prop) (C : Server V → Prop)
    (Q : α → Server V → Prop) : Calls V ε α → Server V → Prop
  | .done a, s => C s ∧ Q a s
  | .failed _, s => C s
  | .call c next, s =>
      C s ∧ ∀ t, R s t → ∀ s' r, c.Honest r → (F c.key → Answer t (t c.key).top c s' r) →
        (¬F c.key → R t s') → (next r).wp F R C Q s'

variable {F : K → Prop} {R : Server V → Server V → Prop} {C : Server V → Prop} {s : Server V}

theorem wp_holds {Q : α → Server V → Prop} {p : Calls V ε α} (h : p.wp F R C Q s) : C s := by
  cases p with
  | done _ => exact h.1
  | failed _ => exact h
  | call _ _ => exact h.1

/-- A call on an object that the program knows about. -/
theorem wp_call {Q : α → Server V → Prop} {c : Call V} {next : c.Reply → Calls V ε α}
    (hF : F c.key) (hC : C s)
    (h : ∀ t s' r, R s t → Answer t (t c.key).top c s' r → (next r).wp F R C Q s') :
    (Calls.call c next).wp F R C Q s :=
  ⟨hC, fun t ht s' r _ hanswer _ => h t s' r ht (hanswer hF)⟩

/-- The rule of sequence. -/
theorem wp_bind {Q : β → Server V → Prop} {p : Calls V ε α} {f : α → Calls V ε β}
    (h : p.wp F R C (fun a s' => (f a).wp F R C Q s') s) : (p >>= f).wp F R C Q s := by
  induction p generalizing s with
  | done _ => exact h.2
  | failed _ => exact h
  | call c next ih =>
      obtain ⟨hC, hnext⟩ := h
      refine ⟨hC, ?_⟩
      intro t ht s' r hr hF hR
      exact ih r (hnext t ht s' r hr hF hR)

/-- The rule of consequence. -/
theorem wp_mono {Q Q' : α → Server V → Prop} {p : Calls V ε α} (h : p.wp F R C Q s)
    (hQ : ∀ a s', Q a s' → Q' a s') : p.wp F R C Q' s := by
  induction p generalizing s with
  | done _ => exact ⟨h.1, hQ _ _ h.2⟩
  | failed _ => exact h
  | call c next ih =>
      obtain ⟨hC, hnext⟩ := h
      refine ⟨hC, ?_⟩
      intro t ht s' r hr hF hR
      exact ih r (hnext t ht s' r hr hF hR)

theorem wp_ite {Q : α → Server V → Prop} {c : Prop} [Decidable c] {p q : Calls V ε α}
    (hp : c → p.wp F R C Q s) (hq : ¬c → q.wp F R C Q s) :
    (if c then p else q).wp F R C Q s := by
  split
  · next h => exact hp h
  · next h => exact hq h

/-- The frame rule: a program that calls on no object known does what the others may do. -/
theorem wp_frame (hR : Rely R C) {permit : Set (Σ key, Obj (V key)) → Call V → Prop}
    (hpermit : ∀ seen c, permit seen c → ¬F c.key)
    {Q : α → Set (Σ key, Obj (V key)) → Prop} {p : Calls V ε α}
    {seen : Set (Σ key, Obj (V key))} (h : p.Legal permit Q seen) (hC : C s) :
    p.wp F R C (fun _ s' => R s s') s := by
  suffices hfrom : ∀ s', R s s' → p.wp F R C (fun _ s' => R s s') s' from hfrom s (hR.refl s)
  induction p generalizing seen with
  | done _ => exact fun s' hs' => ⟨hR.stable hC hs', hs'⟩
  | failed _ => exact fun s' hs' => hR.stable hC hs'
  | call c next ih =>
      intro s' hs'
      refine ⟨hR.stable hC hs', ?_⟩
      intro t ht s'' r hr _ hother
      exact ih r (h.2 r hr) s'' (hR.trans hs' (hR.trans ht (hother (hpermit seen c h.1))))

end Wp

end Calls

/-! ## Many programs at once -/

section System
variable {ι ε α : Type}

/-- The server, and what is left of the program each agent runs. -/
structure System (V : K → Type) (ι ε α : Type) where
  server : Server V
  program : ι → Option (Calls V ε α) := fun _ => none

inductive Event (V : K → Type) (ι ε α : Type) where
  /-- An agent begins a program; what it ran before is dropped. -/
  | start (i : ι) (p : Calls V ε α)
  | call (i : ι) (c : Call V) (revision : Nat)
  /-- A call of another client. -/
  | other (c : Call V)

variable [DecidableEq K] [DecidableEq ι]

/-- `Starts` are the programs an agent may begin, and `Others` the calls that other
clients may make. -/
inductive Step (Starts : System V ι ε α → ι → Calls V ε α → Prop)
    (Others : System V ι ε α → Call V → Prop) :
    System V ι ε α → Event V ι ε α → System V ι ε α → Prop
  | start {y : System V ι ε α} {i : ι} {p : Calls V ε α} : Starts y i p →
      Step Starts Others y (.start i p)
        { y with program := Function.update y.program i (some p) }
  | call {y : System V ι ε α} {i : ι} {c : Call V} {next : c.Reply → Calls V ε α}
      {revision : Nat} {s' : Server V} {r : c.Reply} :
      y.program i = some (.call c next) → revision ≤ (y.server c.key).top →
      Answer y.server revision c s' r →
      Step Starts Others y (.call i c revision)
        { server := s', program := Function.update y.program i (some (next r)) }
  | other {y : System V ι ε α} {c : Call V} {s' : Server V} : Others y c →
      Change y.server c s' → Step Starts Others y (.other c) { y with server := s' }

variable {Starts : System V ι ε α → ι → Calls V ε α → Prop}
  {Others : System V ι ε α → Call V → Prop} {a b y : System V ι ε α} {e : Event V ι ε α}

/-- Whoever makes it, a step is a call or leaves the server as it is. -/
theorem Step.change (h : Step Starts Others a e b) :
    b.server = a.server ∨ ∃ c, Change a.server c b.server := by
  cases h with
  | start _ => exact Or.inl rfl
  | call _ _ hanswer => exact Or.inr ⟨_, hanswer.change⟩
  | other _ hchange => exact Or.inr ⟨_, hchange⟩

theorem Step.sound (h : Step Starts Others a e b) (ha : a.server.Sound) : b.server.Sound := by
  rcases h.change with heq | ⟨c, hc⟩
  · rw [heq]
    exact ha
  · exact ha.change hc

theorem Step.seen (h : Step Starts Others a e b) : a.server.seen ⊆ b.server.seen := by
  rcases h.change with heq | ⟨c, hc⟩
  · rw [heq]
  · exact Server.seen_change hc

omit [DecidableEq K] in
theorem program_update {f : ι → Option (Calls V ε α)} {i j : ι} {p q : Calls V ε α}
    (h : Function.update f j (some q) i = some p) : (i = j ∧ p = q) ∨ (i ≠ j ∧ f i = some p) := by
  by_cases hi : i = j
  · subst hi
    rw [Function.update_self] at h
    cases h
    exact Or.inl ⟨rfl, rfl⟩
  · rw [Function.update_of_ne hi] at h
    exact Or.inr ⟨hi, h⟩

/-- Every program under way is legal by what the histories show. -/
def System.Legal (permit : ι → Set (Σ key, Obj (V key)) → Call V → Prop)
    (y : System V ι ε α) : Prop :=
  ∀ i p, y.program i = some p → p.Legal (permit i) (fun _ _ => True) y.server.seen

theorem legal_step {permit : ι → Set (Σ key, Obj (V key)) → Call V → Prop}
    (hmono : ∀ i, Calls.Monotone (permit i))
    (hstarts : ∀ y i p, Starts y i p → p.Legal (permit i) (fun _ _ => True) y.server.seen)
    (ha : a.Legal permit) (h : Step Starts Others a e b) : b.Legal permit := by
  intro i p hp
  cases h with
  | start hstart =>
      rcases program_update hp with ⟨rfl, rfl⟩ | ⟨_, hp⟩
      · exact hstarts a _ _ hstart
      · exact ha i p hp
  | @call j c next revision s' r hj hrev hanswer =>
      have hseen : a.server.seen ⊆ s'.seen := Server.seen_change hanswer.change
      rcases program_update hp with ⟨rfl, rfl⟩ | ⟨_, hp⟩
      · refine ((ha i _ hj).2 r hanswer.honest).mono (hmono i) (fun _ _ _ _ h => h) ?_
        -- what the reply shows is in the history by now
        cases r with
        | ok o => exact Set.insert_subset (hanswer.seen hrev rfl) hseen
        | error _ => exact hseen
      · exact (ha i p hp).mono (hmono i) (fun _ _ _ _ h => h) hseen
  | other _ hchange =>
      exact (ha i p hp).mono (hmono i) (fun _ _ _ _ h => h) (Server.seen_change hchange)

/-! ### A program among the others -/

/-- The program is right from here on, after whatever the others have done. -/
def Running (F : K → Prop) (R : Server V → Server V → Prop) (C : Server V → Prop)
    (Q : α → Server V → Prop) (p : Calls V ε α) (s : Server V) : Prop :=
  ∃ s₀, p.wp F R C Q s₀ ∧ R s₀ s

namespace Running

variable {F : K → Prop} {R : Server V → Server V → Prop} {C : Server V → Prop}
  {Q : α → Server V → Prop} {p : Calls V ε α} {s s' : Server V}

theorem holds (hR : Calls.Rely R C) (h : Running F R C Q p s) : C s := by
  obtain ⟨s₀, hwp, hs⟩ := h
  exact hR.stable (Calls.wp_holds hwp) hs

theorem rely (hR : Calls.Rely R C) (h : Running F R C Q p s) (hs : R s s') :
    Running F R C Q p s' := by
  obtain ⟨s₀, hwp, hs₀⟩ := h
  exact ⟨s₀, hwp, hR.trans hs₀ hs⟩

theorem call (hR : Calls.Rely R C) {c : Call V} {next : c.Reply → Calls V ε α}
    {revision : Nat} {r : c.Reply} (h : Running F R C Q (.call c next) s)
    (hanswer : Answer s revision c s' r)
    (hfresh : F c.key → c.IsGet → revision = (s c.key).top) (hframe : ¬F c.key → R s s') :
    Running F R C Q (next r) s' := by
  obtain ⟨s₀, hwp, hs⟩ := h
  refine ⟨s', hwp.2 s hs s' r hanswer.honest ?_ hframe, hR.refl s'⟩
  intro hF
  exact hanswer.revision_eq (hfresh hF)

end Running

end System

end Lib.Api
