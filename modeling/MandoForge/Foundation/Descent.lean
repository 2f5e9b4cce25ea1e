/-
Module: MandoForge.Foundation.Descent
Purpose: Loops that end: a step that lowers a measure while it stays inside leaves it at
  last, and a budget bounds how many marked states it passes.
Trusted boundary: none
Main exports: Loop, Loop.ends
-/
import Mathlib.Logic.Function.Iterate

namespace MandoForge.Foundation

/-- A loop: its step, the states inside it, and the states that count. -/
structure Loop (State : Type) where
  step : State → State
  inside : State → Bool
  marked : State → Bool

namespace Loop

variable {State : Type} (loop : Loop State)

/-- The state after some steps. -/
def after (steps : Nat) (state : State) : State := loop.step^[steps] state

/-- The marked states among the first ones. -/
def markedIn (steps : Nat) (state : State) : Nat :=
  (List.range steps).countP fun index => loop.marked (loop.after index state)

theorem after_succ (steps : Nat) (state : State) :
    loop.after (steps + 1) state = loop.after steps (loop.step state) :=
  Function.iterate_succ_apply ..

theorem after_succ_last (steps : Nat) (state : State) :
    loop.after (steps + 1) state = loop.step (loop.after steps state) :=
  Function.iterate_succ_apply' ..

theorem markedIn_succ (steps : Nat) (state : State) :
    loop.markedIn (steps + 1) state =
      loop.markedIn steps (loop.step state) + if loop.marked state then 1 else 0 := by
  unfold markedIn
  rw [List.range_succ_eq_map, List.countP_cons, List.countP_map]
  rfl

/-- What carries a loop to its end: an invariant, a measure that each step inside lowers, and
a budget that pays for the marked states. -/
structure Descends (Invariant : State → Prop) (measure budget : State → Nat) : Prop where
  keeps : ∀ state, Invariant state → loop.inside state = true →
    loop.inside (loop.step state) = true → Invariant (loop.step state)
  lowers : ∀ state, Invariant state → loop.inside state = true →
    loop.inside (loop.step state) = true → measure (loop.step state) < measure state
  pays : ∀ state, Invariant state → loop.inside state = true →
    (if loop.inside (loop.step state) then budget (loop.step state) else 0) +
      (if loop.marked state then 1 else 0) ≤ budget state

/-- The loop ends, with the invariant up to its end and no more marked states than the budget
of its first state. -/
theorem ends {loop : Loop State} {Invariant : State → Prop} {measure budget : State → Nat}
    (descends : loop.Descends Invariant measure budget) (state : State)
    (holds : Invariant state) (isInside : loop.inside state = true) :
    ∃ steps, loop.inside (loop.after steps state) = false ∧
      (∀ index < steps, loop.inside (loop.after index state) = true ∧
        Invariant (loop.after index state)) ∧
      loop.markedIn steps state ≤ budget state := by
  induction remaining : measure state using Nat.strongRecOn generalizing state with
  | _ remaining inductionHypothesis =>
      subst remaining
      have pays := descends.pays state holds isInside
      cases next : loop.inside (loop.step state) with
      | false =>
          rw [next] at pays
          refine ⟨1, next, fun index isFirst => ?_, ?_⟩
          · obtain rfl : index = 0 := by omega
            exact ⟨isInside, holds⟩
          · rw [markedIn_succ]
            simpa [markedIn] using pays
      | true =>
          rw [next] at pays
          obtain ⟨steps, isOutside, along, counted⟩ := inductionHypothesis _
            (descends.lowers state holds isInside next) (loop.step state)
            (descends.keeps state holds isInside next) next rfl
          refine ⟨steps + 1, ?_, fun index isEarlier => ?_, ?_⟩
          · rw [after_succ]
            exact isOutside
          · cases index with
            | zero => exact ⟨isInside, holds⟩
            | succ index =>
                rw [after_succ]
                exact along index (by omega)
          · rw [markedIn_succ]
            simp only [if_true] at pays
            omega

end Loop

end MandoForge.Foundation
