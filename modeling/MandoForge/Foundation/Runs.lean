/-
Module: MandoForge.Foundation.Runs
Purpose: Runs of a machine that takes one event after another, and the rule that
  turns what one step does into what every state of a run satisfies.
Trusted boundary: none
Main exports: runEvents, MetAlong
-/
import Mathlib.Data.List.Basic

namespace MandoForge.Foundation

variable {Event State : Type} (step : Event → State → State)

/-- The state after a list of events. -/
def runEvents (events : List Event) (start : State) : State :=
  events.foldl (fun state event => step event state) start

@[simp] theorem runEvents_nil (start : State) : runEvents step [] start = start := rfl

@[simp] theorem runEvents_cons (event : Event) (events : List Event) (start : State) :
    runEvents step (event :: events) start = runEvents step events (step event start) := rfl

@[simp] theorem runEvents_append (front events : List Event) (start : State) :
    runEvents step (front ++ events) start =
      runEvents step events (runEvents step front start) := by
  simp [runEvents]

/-- The property holds in every state of the run, the first one included. -/
def HeldAlong (held : State → Prop) (events : List Event) (start : State) : Prop :=
  ∀ front, front <+: events → held (runEvents step front start)

/-- Every event of the run meets the condition in the state before it. -/
def MetAlong (met : Event → State → Prop) (events : List Event) (start : State) : Prop :=
  ∀ front event, front ++ [event] <+: events → met event (runEvents step front start)

variable {step} {held shaped : State → Prop} {met : Event → State → Prop}
  {admissible : Event → Prop} {start : State}

theorem heldAlong_cons {event : Event} {events : List Event} :
    HeldAlong step held (event :: events) start ↔
      held start ∧ HeldAlong step held events (step event start) := by
  constructor
  · intro along
    refine ⟨along [] List.nil_prefix, fun front isPrefix => ?_⟩
    exact along (event :: front) (List.prefix_cons_inj _ |>.mpr isPrefix)
  · rintro ⟨atStart, along⟩ front isPrefix
    cases front with
    | nil => exact atStart
    | cons head front =>
        obtain ⟨rfl, rest⟩ := List.cons_prefix_cons.mp isPrefix
        exact along front rest

theorem forall_prefixes_nil {meets : List Event → Event → Prop} :
    ∀ front event, front ++ [event] <+: [] → meets front event := by
  intro front event isPrefix
  simp at isPrefix

/-- What holds of every event of a list and what came before it. -/
theorem forall_prefixes_cons {meets : List Event → Event → Prop} {event : Event}
    {events : List Event} :
    (∀ front next, front ++ [next] <+: event :: events → meets front next) ↔
      meets [] event ∧
        ∀ front next, front ++ [next] <+: events → meets (event :: front) next := by
  constructor
  · intro along
    refine ⟨along [] event (by simp), fun front next isPrefix => ?_⟩
    exact along (event :: front) next (List.prefix_cons_inj _ |>.mpr isPrefix)
  · rintro ⟨atStart, along⟩ front next isPrefix
    cases front with
    | nil =>
        obtain ⟨rfl, -⟩ := List.cons_prefix_cons.mp isPrefix
        exact atStart
    | cons head front =>
        obtain ⟨rfl, rest⟩ := List.cons_prefix_cons.mp isPrefix
        exact along front next rest

@[simp] theorem metAlong_nil : MetAlong step met [] start := forall_prefixes_nil

theorem metAlong_cons {event : Event} {events : List Event} :
    MetAlong step met (event :: events) start ↔
      met event start ∧ MetAlong step met events (step event start) :=
  forall_prefixes_cons

theorem metAlong_append {front events : List Event} :
    MetAlong step met (front ++ events) start ↔
      MetAlong step met front start ∧ MetAlong step met events (runEvents step front start) := by
  induction front generalizing start with
  | nil => exact ⟨fun along => ⟨metAlong_nil, along⟩, fun along => along.2⟩
  | cons event front inductionHypothesis =>
      rw [List.cons_append, metAlong_cons, inductionHypothesis, metAlong_cons, and_assoc,
        runEvents_cons]

instance MetAlong.decidable [∀ event state, Decidable (met event state)] :
    (events : List Event) → (start : State) → Decidable (MetAlong step met events start)
  | [], _ => isTrue metAlong_nil
  | event :: events, start =>
      have := MetAlong.decidable events (step event start)
      decidable_of_iff (met event start ∧ MetAlong step met events (step event start))
        metAlong_cons.symm

theorem MetAlong.of_prefix {front events : List Event} (along : MetAlong step met events start)
    (isPrefix : front <+: events) : MetAlong step met front start :=
  fun before event within => along before event (within.trans isPrefix)

theorem metAlong_congr {other : Event → State → Prop} {invariant : State → Prop}
    (keeps : ∀ event state, invariant state → invariant (step event state))
    (same : ∀ event state, invariant state → (met event state ↔ other event state))
    {events : List Event} (startInvariant : invariant start) :
    MetAlong step met events start ↔ MetAlong step other events start := by
  induction events generalizing start with
  | nil => exact ⟨fun _ => metAlong_nil, fun _ => metAlong_nil⟩
  | cons event events inductionHypothesis =>
      rw [metAlong_cons, metAlong_cons, same event start startInvariant,
        inductionHypothesis (keeps event start startInvariant)]

theorem heldAlong_iff_steps {events : List Event} (startHeld : held start) :
    HeldAlong step held events start ↔
      MetAlong step (fun event state => held (step event state)) events start := by
  constructor
  · intro along front event isPrefix
    have after := along (front ++ [event]) isPrefix
    rwa [runEvents_append] at after
  · intro along front isPrefix
    rcases List.eq_nil_or_concat front with rfl | ⟨before, event, rfl⟩
    · exact startHeld
    · rw [List.concat_eq_append] at isPrefix ⊢
      rw [runEvents_append]
      exact along before event isPrefix

/-- Two conditions agree along a run when they agree wherever the invariant holds, and a
step that meets the first one keeps it. -/
theorem metAlong_iff_of_keeps {other : Event → State → Prop} {invariant : State → Prop}
    (same : ∀ event state, invariant state → (met event state ↔ other event state))
    (keeps : ∀ event state, invariant state → met event state → invariant (step event state))
    {events : List Event} (startInvariant : invariant start) :
    MetAlong step met events start ↔ MetAlong step other events start := by
  induction events generalizing start with
  | nil => exact ⟨fun _ => metAlong_nil, fun _ => metAlong_nil⟩
  | cons event events inductionHypothesis =>
      rw [metAlong_cons, metAlong_cons, same event start startInvariant]
      constructor
      · rintro ⟨meets, along⟩
        have kept := keeps event start startInvariant ((same event start startInvariant).mpr meets)
        exact ⟨meets, (inductionHypothesis kept).mp along⟩
      · rintro ⟨meets, along⟩
        have kept := keeps event start startInvariant ((same event start startInvariant).mpr meets)
        exact ⟨meets, (inductionHypothesis kept).mpr along⟩

theorem heldAlong_of_step {events : List Event}
    (keeps : ∀ event state, met event state → held state → held (step event state))
    (startHeld : held start) (along : MetAlong step met events start) :
    HeldAlong step held events start := by
  induction events generalizing start with
  | nil =>
      intro front isPrefix
      rw [List.prefix_nil.mp isPrefix]
      exact startHeld
  | cons event events inductionHypothesis =>
      rw [metAlong_cons] at along
      rw [heldAlong_cons]
      exact ⟨startHeld, inductionHypothesis (keeps event start along.1 startHeld) along.2⟩

theorem HeldAlong.mono {weaker : State → Prop} {events : List Event}
    (along : HeldAlong step held events start)
    (weaken : ∀ state, held state → weaker state) :
    HeldAlong step weaker events start :=
  fun front isPrefix => weaken _ (along front isPrefix)

theorem metAlong_trivial {events : List Event} :
    MetAlong step (fun _ _ => True) events start := fun _ _ _ => trivial

/-- A property that every step keeps, or leaves by way of another one, holds at the end
unless the other one did on the way. -/
theorem holds_or_passes {invariant stays passes : State → Prop}
    (keeps : ∀ event state, invariant state → invariant (step event state))
    (moves : ∀ event state, invariant state → stays state →
      stays (step event state) ∨ passes (step event state))
    {events : List Event} (startInvariant : invariant start) (startStays : stays start) :
    stays (runEvents step events start) ∨
      ∃ front, front <+: events ∧ passes (runEvents step front start) := by
  induction events generalizing start with
  | nil => exact .inl startStays
  | cons event events inductionHypothesis =>
      rcases moves event start startInvariant startStays with still | passed
      · rcases inductionHypothesis (keeps event start startInvariant) still with
          holds | ⟨front, isPrefix, passed⟩
        · exact .inl holds
        · exact .inr ⟨event :: front, (List.prefix_cons_inj _).mpr isPrefix, passed⟩
      · exact .inr ⟨[event], by simp, passed⟩

/-- When one step keeps the property exactly under a condition, and always keeps
the shape that this needs, the property holds along a run exactly when every
event of the run meets the condition. -/
theorem heldAlong_iff_metAlong
    (keepsShape : ∀ event state, admissible event → shaped state → held state →
      shaped (step event state))
    (stepHeld : ∀ event state, admissible event → shaped state → held state →
      (held (step event state) ↔ met event state))
    {events : List Event} (allAdmissible : ∀ event ∈ events, admissible event)
    (startShaped : shaped start) (startHeld : held start) :
    HeldAlong step held events start ↔ MetAlong step met events start := by
  induction events generalizing start with
  | nil =>
      refine ⟨fun _ => metAlong_nil, fun _ front isPrefix => ?_⟩
      rw [List.prefix_nil.mp isPrefix]
      exact startHeld
  | cons event events inductionHypothesis =>
      have isAdmissible := allAdmissible event (List.mem_cons_self ..)
      have restAdmissible : ∀ next ∈ events, admissible next := fun next member =>
        allAdmissible next (List.mem_cons_of_mem _ member)
      have nextShaped := keepsShape event start isAdmissible startShaped startHeld
      have heldIff := stepHeld event start isAdmissible startShaped startHeld
      rw [heldAlong_cons, metAlong_cons, and_iff_right startHeld]
      constructor
      · intro along
        have nextHeld := along [] List.nil_prefix
        exact ⟨heldIff.mp nextHeld,
          (inductionHypothesis restAdmissible nextShaped nextHeld).mp along⟩
      · rintro ⟨meets, along⟩
        exact (inductionHypothesis restAdmissible nextShaped (heldIff.mpr meets)).mpr along

end MandoForge.Foundation
