/-
# `KahunaOperator.Windows` — a step of the autoscaler and the window behind it

`decideAutoscale` remembers a stabilization window in two optional timestamps,
`AboveTargetSince` and `BelowTargetSince`, that it sets, keeps or clears on every
call.  Here the calls are a run, each fed the status of the one before it, under
one spec.  What the timestamps stand for is then a law about the past:

    the size stays inside the bounds                              (`Decides.inBounds`)
    and moves by at most one                                      (`Decides.single`)
    it is raised   ⟹  every call of a whole scale-up window asked for more,
                        was converged and not stopped by the ceiling
    it is lowered  ⟹  every call of a whole scale-down window asked for less,
                        was converged and knew every signal       (`whole_windows`)

The law is read off the timestamps alone: `Decided.above` and `Decided.below` say
what a call that leaves one set has done, and the timestamp rule of `Lib.Run`
adds up those calls.
-/
import KahunaOperator.Agreed
import KahunaOperator.Lib.Run

namespace KahunaOperator

open Lib (Rounding Run Transition)

/-! ## Runs of decisions -/

structure Call where
  signal : TrafficSignal
  converged : Bool
  growthCeiling : Nat := 0
  ceilingReason : String := ""
  now : Time

/-- The status the last call left, and its time; nothing before the first. -/
structure Autoscaler where
  status : Option AutoscalingStatus := none
  clock : Option Time := none

def Call.input (spec : AutoscalingSpec) (initial : Nat) (s : Autoscaler) (call : Call) :
    AutoscaleInput :=
  { spec := spec
    prev := s.status
    initial := initial
    signal := call.signal
    converged := call.converged
    growthCeiling := call.growthCeiling
    ceilingReason := call.ceilingReason
    now := call.now }

namespace Autoscaler

/-- The size in force: the recorded one, or the one the first call starts from. -/
def desired (initial : Nat) (s : Autoscaler) : Nat :=
  (s.status.map AutoscalingStatus.desiredReplicas).getD initial

def recommended (s : Autoscaler) : Nat :=
  (s.status.map AutoscalingStatus.recommendedReplicas).getD 0

def above (s : Autoscaler) : Option Time := s.status.bind AutoscalingStatus.aboveTargetSince

def below (s : Autoscaler) : Option Time := s.status.bind AutoscalingStatus.belowTargetSince

def next (c : Float64) (spec : AutoscalingSpec) (initial : Nat) (s : Autoscaler) (call : Call) :
    Autoscaler :=
  { status := some (decideAutoscale c (call.input spec initial s)).status
    clock := some call.now }

def InBounds (spec : AutoscalingSpec) (initial : Nat) (s : Autoscaler) : Prop :=
  spec.minReplicas ≤ s.desired initial ∧ s.desired initial ≤ spec.maxReplicas

end Autoscaler

/-- One call, later than the one before. -/
inductive Decides (c : Float64) (spec : AutoscalingSpec) (initial : Nat) :
    Autoscaler → Call → Autoscaler → Prop
  | call {s : Autoscaler} {call : Call} : (∀ t ∈ s.clock, t < call.now) →
      Decides c spec initial s call (s.next c spec initial call)

/-! ## What one call says about a window -/

/-- The call asked for more than the size it found, and could have it. -/
def AutoscaleInput.Grows (f : Rounding) (i : AutoscaleInput) (st : AutoscalingStatus) : Prop :=
  i.converged = true ∧ i.ratios f ≠ [] ∧ i.start.desiredReplicas < st.recommendedReplicas ∧
    ¬ i.Capped

/-- The call asked for less than the size it found, with every signal known. -/
def AutoscaleInput.Shrinks (i : AutoscaleInput) (st : AutoscalingStatus) : Prop :=
  i.converged = true ∧ i.allKnown = true ∧ st.recommendedReplicas < i.start.desiredReplicas

theorem AutoscaleInput.Measured.ne_nil {f : Rounding} {i : AutoscaleInput} {ratio : Rat}
    (h : i.Measured f ratio) : i.ratios f ≠ [] := by
  obtain ⟨_, r, rs, hr, _⟩ := h
  rw [hr]
  exact List.cons_ne_nil r rs

theorem AutoscaleInput.allKnown_of_recommended_lt {c : Float64} {i : AutoscaleInput}
    {ratio : Rat} (hbounds : i.spec.minReplicas ≤ i.spec.maxReplicas)
    (h : i.recommended c i.start.desiredReplicas ratio < i.start.desiredReplicas) :
    i.allKnown = true := by
  by_contra hmissing
  have hstart := start_bounds hbounds
  simp only [AutoscaleInput.recommended, Bool.not_eq_true] at h hmissing
  rw [hmissing] at h
  simp only [and_true] at h
  split at h <;> omega

section Ends
variable {c : Float64} {i : AutoscaleInput} {st : AutoscalingStatus}

/-- `AboveTargetSince` is left set only by a call that asked for more and kept the
size; it is the time found, or the call's own. -/
theorem Decided.above (h : Decided c i st) {x : Time} (hx : st.aboveTargetSince = some x) :
    i.Grows c.toRounding st ∧ st.desiredReplicas = i.start.desiredReplicas ∧
      i.start.aboveTargetSince.getD i.now = x := by
  cases h with
  | held _ => cases hx
  | capped _ _ _ => cases hx
  | level _ _ => cases hx
  | up hratio hup hcap =>
      simp only [stepUp] at hx ⊢
      split at hx
      · cases hx
      · next hwait =>
          rw [if_neg hwait]
          cases hx
          refine ⟨⟨hratio.1, hratio.ne_nil, hup, hcap⟩, ?_, rfl⟩
          simp only [AutoscaleInput.recommending_desired]
  | down _ _ =>
      simp only [stepDown] at hx
      split at hx <;> cases hx

/-- The same for `BelowTargetSince` and less. -/
theorem Decided.below (h : Decided c i st) (hbounds : i.spec.minReplicas ≤ i.spec.maxReplicas)
    {x : Time} (hx : st.belowTargetSince = some x) :
    i.Shrinks st ∧ st.desiredReplicas = i.start.desiredReplicas ∧
      i.start.belowTargetSince.getD i.now = x := by
  cases h with
  | held _ => cases hx
  | capped _ _ _ => cases hx
  | level _ _ => cases hx
  | up _ _ _ =>
      simp only [stepUp] at hx
      split at hx <;> cases hx
  | down hratio hdown =>
      simp only [stepDown] at hx ⊢
      split at hx
      · cases hx
      · next hwait =>
          rw [if_neg hwait]
          cases hx
          have hknown := AutoscaleInput.allKnown_of_recommended_lt hbounds hdown
          refine ⟨⟨hratio.1, hknown, hdown⟩, ?_, rfl⟩
          simp only [AutoscaleInput.recommending_desired]

theorem Decided.raised (h : Decided c i st)
    (hraised : i.start.desiredReplicas < st.desiredReplicas) :
    i.Grows c.toRounding st ∧ i.upWindow ≤ i.now - i.start.aboveTargetSince.getD i.now := by
  cases h with
  | held _ => simp at hraised
  | capped _ _ _ => simp at hraised
  | level _ _ => simp at hraised
  | up hratio hup hcap =>
      simp only [stepUp] at hraised ⊢
      split at hraised
      · next hpassed =>
          rw [if_pos hpassed]
          exact ⟨⟨hratio.1, hratio.ne_nil, hup, hcap⟩, hpassed⟩
      · rw [i.recommending_desired] at hraised
        exact absurd hraised (Nat.lt_irrefl _)
  | down _ _ =>
      rcases stepDown_desired i _ with hd | hd
      · rw [hd, i.recommending_desired] at hraised
        exact absurd hraised (Nat.lt_irrefl _)
      · rw [hd, i.recommending_desired] at hraised
        exact absurd hraised (Nat.not_lt.mpr (Nat.sub_le _ _))

theorem Decided.lowered (h : Decided c i st)
    (hbounds : i.spec.minReplicas ≤ i.spec.maxReplicas)
    (hlowered : st.desiredReplicas < i.start.desiredReplicas) :
    i.Shrinks st ∧ i.downWindow ≤ i.now - i.start.belowTargetSince.getD i.now := by
  cases h with
  | held _ => simp at hlowered
  | capped _ _ _ => simp at hlowered
  | level _ _ => simp at hlowered
  | up _ _ _ =>
      rcases stepUp_desired i _ with hd | hd
      · rw [hd, i.recommending_desired] at hlowered
        exact absurd hlowered (Nat.lt_irrefl _)
      · rw [hd, i.recommending_desired] at hlowered
        exact absurd hlowered (Nat.not_lt.mpr (Nat.le_succ _))
  | down hratio hdown =>
      simp only [stepDown] at hlowered ⊢
      split at hlowered
      · next hpassed =>
          rw [if_pos hpassed]
          have hknown := AutoscaleInput.allKnown_of_recommended_lt hbounds hdown
          exact ⟨⟨hratio.1, hknown, hdown⟩, hpassed⟩
      · rw [i.recommending_desired] at hlowered
        exact absurd hlowered (Nat.lt_irrefl _)

end Ends

/-! ## Windows over a run -/

/-- The call was converged, knew a configured signal, recommended more than the
size in force and was not stopped by the growth ceiling. -/
structure AsksMore (spec : AutoscalingSpec) (initial : Nat) (t : Transition Autoscaler Call) :
    Prop where
  converged : t.event.converged = true
  known : ∃ x ∈ (t.event.input spec initial t.before).configured, x.2.isSome = true
  recommended : t.before.desired initial < t.after.recommended
  free : ¬ (0 < t.event.growthCeiling ∧ t.event.growthCeiling ≤ t.before.desired initial)

/-- The call was converged, knew every configured signal and recommended less
than the size in force. -/
structure AsksLess (spec : AutoscalingSpec) (initial : Nat) (t : Transition Autoscaler Call) :
    Prop where
  converged : t.event.converged = true
  known : ∀ x ∈ (t.event.input spec initial t.before).configured, x.2.isSome = true
  recommended : t.after.recommended < t.before.desired initial

section Runs
variable {c : Float64} {spec : AutoscalingSpec} {initial : Nat}

theorem Call.input_start {s : Autoscaler} (hmin : 0 < spec.minReplicas)
    (h : s.InBounds spec initial) (call : Call) :
    (call.input spec initial s).start.desiredReplicas = s.desired initial := by
  obtain ⟨hlo, hhi⟩ := h
  have hcurrent : (if ((call.input spec initial s).prev.getD {}).desiredReplicas = 0 then
      (call.input spec initial s).initial
      else ((call.input spec initial s).prev.getD {}).desiredReplicas) = s.desired initial := by
    obtain ⟨status, clock⟩ := s
    cases status with
    | none => exact if_pos rfl
    | some st => exact if_neg (Nat.ne_of_gt (Nat.lt_of_lt_of_le hmin hlo))
  rw [start_desired, hcurrent]
  show min (max (s.desired initial) spec.minReplicas) spec.maxReplicas = s.desired initial
  omega

theorem Call.input_above (s : Autoscaler) (call : Call) :
    (call.input spec initial s).start.aboveTargetSince = s.above := by
  obtain ⟨status, clock⟩ := s
  rw [start_above]
  cases status <;> rfl

theorem Call.input_below (s : Autoscaler) (call : Call) :
    (call.input spec initial s).start.belowTargetSince = s.below := by
  obtain ⟨status, clock⟩ := s
  rw [start_below]
  cases status <;> rfl

theorem AutoscaleInput.exists_known {f : Rounding} {i : AutoscaleInput} (h : i.ratios f ≠ []) :
    ∃ x ∈ i.configured, x.2.isSome = true := by
  obtain ⟨r, hr⟩ := List.exists_mem_of_ne_nil _ h
  obtain ⟨x, hx, hval⟩ := List.mem_filterMap.mp hr
  refine ⟨x, hx, ?_⟩
  cases hv : x.2 with
  | none =>
      rw [hv] at hval
      cases hval
  | some v => rfl

theorem Decides.inBounds {a b : Autoscaler} {call : Call}
    (horder : spec.minReplicas ≤ spec.maxReplicas) (h : Decides c spec initial a call b) :
    b.InBounds spec initial := by
  cases h with
  | call _ =>
      have hbounds : (call.input spec initial a).spec.minReplicas ≤
          (call.input spec initial a).spec.maxReplicas := horder
      exact decideAutoscale_bounds hbounds

section Steps
variable (hmin : 0 < spec.minReplicas)
include hmin

theorem AutoscaleInput.Grows.asksMore {a : Autoscaler} {call : Call}
    (ha : a.InBounds spec initial)
    (h : (call.input spec initial a).Grows c.toRounding
      (decideAutoscale c (call.input spec initial a)).status) :
    AsksMore spec initial ⟨a, call, a.next c spec initial call⟩ := by
  obtain ⟨hconv, hratios, hrec, hcap⟩ := h
  have hstart := Call.input_start hmin ha call
  unfold AutoscaleInput.Capped at hcap
  rw [hstart] at hrec hcap
  exact ⟨hconv, AutoscaleInput.exists_known hratios, hrec, hcap⟩

theorem AutoscaleInput.Shrinks.asksLess {a : Autoscaler} {call : Call}
    (ha : a.InBounds spec initial)
    (h : (call.input spec initial a).Shrinks
      (decideAutoscale c (call.input spec initial a)).status) :
    AsksLess spec initial ⟨a, call, a.next c spec initial call⟩ := by
  obtain ⟨hconv, hknown, hrec⟩ := h
  rw [Call.input_start hmin ha call] at hrec
  exact ⟨hconv, List.all_eq_true.mp hknown, hrec⟩

theorem Decides.single {a b : Autoscaler} {call : Call} (ha : a.InBounds spec initial)
    (h : Decides c spec initial a call b) :
    b.desired initial ≤ a.desired initial + 1 ∧ a.desired initial ≤ b.desired initial + 1 := by
  cases h with
  | call _ =>
      have hstart := Call.input_start hmin ha call
      show (decideAutoscale c (call.input spec initial a)).status.desiredReplicas ≤ _ ∧
        _ ≤ (decideAutoscale c (call.input spec initial a)).status.desiredReplicas + 1
      rcases (decideAutoscale_decided c (call.input spec initial a)).desired with
        hd | ⟨_, _, ⟨hd, _⟩ | ⟨hd, _⟩⟩
      · omega
      · omega
      · omega

/-- `AboveTargetSince` after a call dates the calls that asked for more. -/
theorem Decides.above {a b : Autoscaler} {call : Call} {x : Time} (ha : a.InBounds spec initial)
    (h : Decides c spec initial a call b) (hx : b.above = some x) :
    AsksMore spec initial ⟨a, call, b⟩ ∧ b.desired initial = a.desired initial ∧
      (a.above = some x ∨ call.now = x) := by
  cases h with
  | call _ =>
      obtain ⟨hgrows, hkept, hsince⟩ :=
        (decideAutoscale_decided c (call.input spec initial a)).above hx
      rw [Call.input_start hmin ha call] at hkept
      rw [Call.input_above] at hsince
      refine ⟨hgrows.asksMore hmin ha, hkept, ?_⟩
      cases habove : a.above with
      | none =>
          rw [habove] at hsince
          exact Or.inr hsince
      | some y =>
          rw [habove] at hsince
          exact Or.inl (congrArg some hsince)

theorem Decides.below {a b : Autoscaler} {call : Call} {x : Time}
    (horder : spec.minReplicas ≤ spec.maxReplicas) (ha : a.InBounds spec initial)
    (h : Decides c spec initial a call b) (hx : b.below = some x) :
    AsksLess spec initial ⟨a, call, b⟩ ∧ b.desired initial = a.desired initial ∧
      (a.below = some x ∨ call.now = x) := by
  cases h with
  | call _ =>
      obtain ⟨hshrinks, hkept, hsince⟩ :=
        (decideAutoscale_decided c (call.input spec initial a)).below horder hx
      rw [Call.input_start hmin ha call] at hkept
      rw [Call.input_below] at hsince
      refine ⟨hshrinks.asksLess hmin ha, hkept, ?_⟩
      cases hbelow : a.below with
      | none =>
          rw [hbelow] at hsince
          exact Or.inr hsince
      | some y =>
          rw [hbelow] at hsince
          exact Or.inl (congrArg some hsince)

/-- A raise: the call asked for more, and the window since `AboveTargetSince`, or
since the call itself, has passed. -/
theorem Decides.raised {a b : Autoscaler} {call : Call} (ha : a.InBounds spec initial)
    (h : Decides c spec initial a call b) (hraised : a.desired initial < b.desired initial) :
    AsksMore spec initial ⟨a, call, b⟩ ∧
      secondsOr spec.scaleUpStabilizationSeconds defaultScaleUpStabilization ≤
        call.now - a.above.getD call.now := by
  cases h with
  | call _ =>
      rw [← Call.input_start hmin ha call] at hraised
      obtain ⟨hgrows, hwindow⟩ :=
        (decideAutoscale_decided c (call.input spec initial a)).raised hraised
      rw [Call.input_above] at hwindow
      exact ⟨hgrows.asksMore hmin ha, hwindow⟩

theorem Decides.lowered {a b : Autoscaler} {call : Call}
    (horder : spec.minReplicas ≤ spec.maxReplicas) (ha : a.InBounds spec initial)
    (h : Decides c spec initial a call b) (hlowered : b.desired initial < a.desired initial) :
    AsksLess spec initial ⟨a, call, b⟩ ∧
      secondsOr spec.scaleDownStabilizationSeconds defaultScaleDownStabilization ≤
        call.now - a.below.getD call.now := by
  cases h with
  | call _ =>
      rw [← Call.input_start hmin ha call] at hlowered
      obtain ⟨hshrinks, hwindow⟩ :=
        (decideAutoscale_decided c (call.input spec initial a)).lowered horder hlowered
      rw [Call.input_below] at hwindow
      exact ⟨hshrinks.asksLess hmin ha, hwindow⟩

end Steps

/-- The call `t` after the calls `pre` closes a window of at least `window`: some
call not after it is that much earlier, and from there on every call did `Q` and
found the size that `t` found. -/
def WholeWindow (initial : Nat) (Q : Transition Autoscaler Call → Prop) (window : Time)
    (pre : List (Transition Autoscaler Call)) (t : Transition Autoscaler Call) : Prop :=
  ∃ old u rest, pre ++ [t] = old ++ u :: rest ∧ window ≤ t.event.now - u.event.now ∧
    ∀ v ∈ u :: rest, Q v ∧ v.before.desired initial = t.before.desired initial

/-- A timestamp that dates a stretch of `Q`, and a call that does `Q` once the
window since then has passed, make a whole window. -/
theorem wholeWindow_of_stretch {pre : List (Transition Autoscaler Call)}
    {t : Transition Autoscaler Call} {Q : Transition Autoscaler Call → Prop} {window : Time}
    {since : Option Time}
    (hpre : ∀ x, since = some x → ∃ old u rest, pre = old ++ u :: rest ∧ u.event.now = x ∧
      ∀ v ∈ u :: rest, Q v ∧ v.before.desired initial = t.before.desired initial)
    (ht : Q t) (hwindow : window ≤ t.event.now - since.getD t.event.now) :
    WholeWindow initial Q window pre t := by
  cases since with
  | none =>
      refine ⟨pre, t, [], rfl, hwindow, ?_⟩
      intro v hv
      cases List.mem_singleton.mp hv
      exact ⟨ht, rfl⟩
  | some x =>
      obtain ⟨old, u, rest, rfl, hu, hall⟩ := hpre x rfl
      refine ⟨old, u, rest ++ [t], by simp, by rw [hu]; exact hwindow, ?_⟩
      intro v hv
      rcases List.mem_append.mp (show v ∈ (u :: rest) ++ [t] from hv) with hv | hv
      · exact hall v hv
      · cases List.mem_singleton.mp hv
        exact ⟨ht, rfl⟩

/-- Over every run of calls at increasing times, from no status and a size inside
the bounds: the size stays inside them and moves by at most one per call; a call
that raises it closes a whole scale-up window of calls that all asked for more,
and one that lowers it a whole scale-down window of calls that all asked for
less. -/
theorem whole_windows {s : Autoscaler} {ts : List (Transition Autoscaler Call)}
    (hmin : 3 ≤ spec.minReplicas) (horder : spec.minReplicas ≤ spec.maxReplicas)
    (hinitial : spec.minReplicas ≤ initial ∧ initial ≤ spec.maxReplicas)
    (hrun : Run (Decides c spec initial) {} ts s) :
    (∀ t ∈ ts, t.after.InBounds spec initial ∧
      t.after.desired initial ≤ t.before.desired initial + 1 ∧
      t.before.desired initial ≤ t.after.desired initial + 1) ∧
    ∀ pre t post, ts = pre ++ t :: post →
      (t.before.desired initial < t.after.desired initial →
        WholeWindow initial (AsksMore spec initial)
          (secondsOr spec.scaleUpStabilizationSeconds defaultScaleUpStabilization) pre t) ∧
      (t.after.desired initial < t.before.desired initial →
        WholeWindow initial (AsksLess spec initial)
          (secondsOr spec.scaleDownStabilizationSeconds defaultScaleDownStabilization) pre t) := by
  have hpos : 0 < spec.minReplicas := by omega
  have hstart : ({} : Autoscaler).InBounds spec initial := hinitial
  have hkeep : ∀ {a : Autoscaler} {e b}, a.InBounds spec initial →
      Decides c spec initial a e b → b.InBounds spec initial := fun _ h => h.inBounds horder
  constructor
  · refine Run.forall_mem (fun ha h => hkeep ha h) ?_ hrun hstart
    intro a e b ha hstep
    exact ⟨hstep.inBounds horder, hstep.single hpos ha⟩
  · rintro pre t post rfl
    obtain ⟨hpre, hstep, _⟩ := Run.split hrun
    have hbefore : t.before.InBounds spec initial :=
      Run.inv (fun ha h => hkeep ha h) hpre hstart
    constructor
    · intro hraised
      obtain ⟨hasks, hwindow⟩ := hstep.raised hpos hbefore hraised
      refine wholeWindow_of_stretch ?_ hasks hwindow
      intro x hx
      exact Run.stretch Autoscaler.above Call.now (fun ha h => hkeep ha h)
        (fun ha h hx => h.above hpos ha hx) hpre hstart rfl hx
    · intro hlowered
      obtain ⟨hasks, hwindow⟩ := hstep.lowered hpos horder hbefore hlowered
      refine wholeWindow_of_stretch ?_ hasks hwindow
      intro x hx
      exact Run.stretch Autoscaler.below Call.now (fun ha h => hkeep ha h)
        (fun ha h hx => h.below hpos horder ha hx) hpre hstart rfl hx

end Runs

/-! ### A window of one minute -/

/-- Ten queued proposals for each node, with the default windows. -/
def queueSpec : AutoscalingSpec :=
  { minReplicas := 3, maxReplicas := 6, targetQueueDepth := some 10 }

def queuedCall (now : Time) : Call :=
  { signal := { queuePerNode := some 20 }, converged := true, now := now }

def queuedOnce : Autoscaler := ({} : Autoscaler).next wrappingDouble queueSpec 3 (queuedCall 0)

def queuedTwice : Autoscaler :=
  queuedOnce.next wrappingDouble queueSpec 3 (queuedCall (seconds 60))

/-- The second call raises the size, on the strength of both. -/
theorem queued_for_a_minute :
    queuedOnce.desired 3 = 3 ∧ queuedTwice.desired 3 = 4 ∧
      WholeWindow 3 (AsksMore queueSpec 3) (seconds 60)
        [⟨{}, queuedCall 0, queuedOnce⟩]
        ⟨queuedOnce, queuedCall (seconds 60), queuedTwice⟩ := by
  have hrun : Run (Decides wrappingDouble queueSpec 3) {}
      ([⟨{}, queuedCall 0, queuedOnce⟩] ++
        ⟨queuedOnce, queuedCall (seconds 60), queuedTwice⟩ :: []) queuedTwice := by
    refine .cons (.call ?_) (.cons (.call ?_) (.nil _))
    · rintro t ⟨⟩
    · rintro t ⟨⟩
      decide
  have hthree : queuedOnce.desired 3 = 3 := by decide +kernel
  have hfour : queuedTwice.desired 3 = 4 := by decide +kernel
  have hraised : queuedOnce.desired 3 < queuedTwice.desired 3 := by
    rw [hthree, hfour]
    decide
  exact ⟨hthree, hfour,
    ((whole_windows (by decide) (by decide) (by decide) hrun).2 _ _ _ rfl).1 hraised⟩

end KahunaOperator
