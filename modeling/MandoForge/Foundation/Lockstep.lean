/-
Module: MandoForge.Foundation.Lockstep
Purpose: Two machines that are given the same events.  When related states answer
  an event alike and stay related, they answer every list of events alike.
Trusted boundary: none
Main exports: answers, lockstep_along
-/
import MandoForge.Foundation.Runs

namespace MandoForge.Foundation

variable {Event First Second FirstAnswer SecondAnswer : Type}

/-- The answers to a list of events, and the state after it. -/
def answers {State Answer : Type} (respond : Event → State → Answer × State) :
    List Event → State → List Answer × State
  | [], state => ([], state)
  | event :: events, state =>
      let (answer, state) := respond event state
      let (rest, state) := answers respond events state
      (answer :: rest, state)

/-- A relation that is kept over one event, with answers that are alike, is kept
over all of them. -/
theorem lockstep (related : First → Second → Prop)
    (alike : FirstAnswer → SecondAnswer → Prop)
    {first : Event → First → FirstAnswer × First}
    {second : Event → Second → SecondAnswer × Second} {admissible : Event → Prop}
    (keeps : ∀ event a b, admissible event → related a b →
      alike (first event a).1 (second event b).1 ∧ related (first event a).2 (second event b).2)
    {events : List Event} (allAdmissible : ∀ event ∈ events, admissible event) {a : First}
    {b : Second} (start : related a b) :
    List.Forall₂ alike (answers first events a).1 (answers second events b).1 ∧
      related (answers first events a).2 (answers second events b).2 := by
  induction events generalizing a b with
  | nil => exact ⟨.nil, start⟩
  | cons event events inductionHypothesis =>
      rw [List.forall_mem_cons] at allAdmissible
      have next := keeps event a b allAdmissible.1 start
      have rest := inductionHypothesis allAdmissible.2 next.2
      exact ⟨.cons next.1 rest.1, rest.2⟩

/-- A relation that one event keeps under a condition on the first machine is kept, with
answers that are alike, over a run of it whose events meet the condition. -/
theorem lockstep_along (related : First → Second → Prop)
    (alike : FirstAnswer → SecondAnswer → Prop)
    {first : Event → First → FirstAnswer × First}
    {second : Event → Second → SecondAnswer × Second} {met : Event → First → Prop}
    (keeps : ∀ event a b, met event a → related a b →
      alike (first event a).1 (second event b).1 ∧ related (first event a).2 (second event b).2)
    {events : List Event} {a : First} {b : Second}
    (along : MetAlong (fun event state => (first event state).2) met events a)
    (start : related a b) :
    List.Forall₂ alike (answers first events a).1 (answers second events b).1 ∧
      related (answers first events a).2 (answers second events b).2 := by
  induction events generalizing a b with
  | nil => exact ⟨.nil, start⟩
  | cons event events inductionHypothesis =>
      rw [metAlong_cons] at along
      have next := keeps event a b along.1 start
      have rest := inductionHypothesis along.2 next.2
      exact ⟨.cons next.1 rest.1, rest.2⟩

end MandoForge.Foundation
