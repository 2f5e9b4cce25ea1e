/-
Module: MandoForge.Foundation.StoreProgram
Purpose: Programs over a store that is reached only through atomic operations.
  A program is a tree of operations and answers, so the same program has a
  sequential meaning (`run`) and can be interleaved with others one operation at
  a time (`MandoForge.Foundation.Interleaving`).
Trusted boundary: none
Main exports: StoreInterface, Program.run
-/
import Mathlib.Logic.Basic

namespace MandoForge.Foundation

universe u

/-- The atomic operations of a store: what can be asked, what is answered, and
what an operation does to the state. -/
structure StoreInterface (State : Type u) where
  Operation : Type
  Answer : Operation → Type
  perform : (operation : Operation) → State → Answer operation × State

/-- A program that may fail with an error: it ends, or it performs one operation
and continues with the answer. -/
inductive Program {State : Type u} (I : StoreInterface State) (Error Result : Type) where
  | done (result : Result)
  | failed (error : Error)
  | call (operation : I.Operation)
      (next : I.Answer operation → Program I Error Result)

namespace Program

variable {State : Type u} {I : StoreInterface State} {Error : Type}
variable {Result Next : Type}

/-- Sequencing: an error ends the whole program. -/
def bind (program : Program I Error Result) (next : Result → Program I Error Next) :
    Program I Error Next :=
  match program with
  | .done result => next result
  | .failed error => .failed error
  | .call operation rest => .call operation fun answer => (rest answer).bind next

instance : Monad (Program I Error) where
  pure := .done
  bind := bind

instance : MonadExceptOf Error (Program I Error) where
  throw := .failed
  tryCatch program handler :=
    let rec go : Program I Error _ → Program I Error _
      | .done result => .done result
      | .failed error => handler error
      | .call operation rest => .call operation fun answer => go (rest answer)
    go program

/-- One operation of the store. -/
def perform (operation : I.Operation) : Program I Error (I.Answer operation) :=
  .call operation .done

/-- The result of a program that has ended with one. -/
def result? : Program I Error Result → Option Result
  | .done result => some result
  | _ => none

/-- A computation that does not touch the store. -/
def ofExcept : Except Error Result → Program I Error Result
  | .ok result => .done result
  | .error error => .failed error

/-- An operation of the store that can be refused. -/
def attempt (operation : I.Operation) (answer : I.Answer operation → Except Error Result) :
    Program I Error Result :=
  .call operation fun given => ofExcept (answer given)

/-- The outcome of a program as a value: whoever runs it decides what an error means. -/
def caught : Program I Error Result → Program I Error (Except Error Result)
  | .done result => .done (.ok result)
  | .failed error => .done (.error error)
  | .call operation next => .call operation fun answer => (next answer).caught

theorem caught_bind (program : Program I Error Result) (next : Result → Program I Error Next) :
    (program >>= next).caught = program.caught >>= fun outcome =>
      match outcome with
      | .ok result => (next result).caught
      | .error error => pure (.error error) := by
  change (program.bind next).caught = program.caught.bind _
  induction program with
  | done result => rfl
  | failed error => rfl
  | call operation rest inductionHypothesis =>
      simp only [bind, caught, inductionHypothesis]

/-- Sequential meaning: every operation acts on the state the one before left. -/
def run : Program I Error Result → State → Except Error Result × State
  | .done result, state => (.ok result, state)
  | .failed error, state => (.error error, state)
  | .call operation next, state =>
      let (answer, state) := I.perform operation state
      (next answer).run state

@[simp] theorem run_pure (result : Result) (state : State) :
    (pure result : Program I Error Result).run state = (.ok result, state) := rfl

@[simp] theorem run_throw (error : Error) (state : State) :
    (throw error : Program I Error Result).run state = (.error error, state) := rfl

@[simp] theorem run_perform (operation : I.Operation) (state : State) :
    (perform operation : Program I Error _).run state =
      (.ok (I.perform operation state).1, (I.perform operation state).2) := rfl

@[simp] theorem run_ofExcept (outcome : Except Error Result) (state : State) :
    (ofExcept outcome : Program I Error Result).run state = (outcome, state) := by
  cases outcome <;> rfl

@[simp] theorem run_attempt (operation : I.Operation)
    (answer : I.Answer operation → Except Error Result) (state : State) :
    (attempt operation answer : Program I Error Result).run state =
      (answer (I.perform operation state).1, (I.perform operation state).2) := by
  simp [attempt, run]

theorem run_bind (program : Program I Error Result) (next : Result → Program I Error Next)
    (state : State) :
    (program >>= next).run state =
      match program.run state with
      | (.ok result, after) => (next result).run after
      | (.error error, after) => (.error error, after) := by
  change (program.bind next).run state = _
  induction program generalizing state with
  | done result => rfl
  | failed error => rfl
  | call operation rest inductionHypothesis =>
      exact inductionHypothesis _ _

/-! ### Postconditions of the sequential meaning -/

/-- From `state`, the program ends with an outcome and a state that satisfy
`post`. -/
def Ensures (program : Program I Error Result) (state : State)
    (post : Except Error Result → State → Prop) : Prop :=
  post (program.run state).1 (program.run state).2

theorem Ensures.mono {program : Program I Error Result} {state : State}
    {post weaker : Except Error Result → State → Prop}
    (ensures : program.Ensures state post)
    (weaken : ∀ outcome after, post outcome after → weaker outcome after) :
    program.Ensures state weaker :=
  weaken _ _ ensures

/-! ### The values a program returns -/

section Returns

/-- From every state, a value that the program returns is an allowed one. -/
def Returns (allowed : Result → Prop) (program : Program I Error Result) : Prop :=
  ∀ state value, (program.run state).1 = .ok value → allowed value

namespace Returns

theorem pure {allowed : Result → Prop} {result : Result} (isAllowed : allowed result) :
    Returns allowed (Pure.pure result : Program I Error Result) := by
  intro state value returned
  cases returned
  exact isAllowed

theorem bind {allowed : Next → Prop} {program : Program I Error Result}
    {next : Result → Program I Error Next} (rest : ∀ result, Returns allowed (next result)) :
    Returns allowed (program >>= next) := by
  intro state value returned
  rw [run_bind] at returned
  generalize program.run state = ran at returned
  obtain ⟨outcome, after⟩ := ran
  cases outcome with
  | error error => cases returned
  | ok result => exact rest result after value returned

end Returns

end Returns

/-! ### How a program moves the state -/

section Moves

/-- Whatever happens, the state before and the state after are related. -/
def Moves (relation : State → State → Prop) (program : Program I Error Result) : Prop :=
  ∀ state, relation state (program.run state).2

namespace Moves

variable {relation : State → State → Prop} (refl : ∀ state, relation state state)

include refl

theorem pure (result : Result) : Moves relation (Pure.pure result : Program I Error Result) :=
  refl

theorem throw (error : Error) :
    Moves relation (MonadExcept.throw error : Program I Error Result) := refl

theorem ofExcept (outcome : Except Error Result) :
    Moves relation (Program.ofExcept outcome : Program I Error Result) := by
  intro state
  rw [run_ofExcept]
  exact refl state

omit refl

theorem perform {operation : I.Operation}
    (moves : ∀ state, relation state (I.perform operation state).2) :
    Moves relation (Program.perform operation : Program I Error _) := moves

theorem attempt {operation : I.Operation} {answer : I.Answer operation → Except Error Result}
    (moves : ∀ state, relation state (I.perform operation state).2) :
    Moves relation (Program.attempt operation answer : Program I Error Result) := by
  intro state
  rw [run_attempt]
  exact moves state

theorem bind {program : Program I Error Result} {next : Result → Program I Error Next}
    (trans : ∀ {first second third}, relation first second → relation second third →
      relation first third) (moves : Moves relation program)
    (rest : ∀ result, Moves relation (next result)) : Moves relation (program >>= next) := by
  intro state
  have before := moves state
  rw [run_bind]
  generalize program.run state = ran at before ⊢
  obtain ⟨outcome, after⟩ := ran
  cases outcome with
  | error error => exact before
  | ok result => exact trans before (rest result after)

end Moves

end Moves

/-! ### What a program leaves of the state -/

section Keeps

variable {Observed Seen : Type*}

/-- Whatever happens, the program leaves what `observe` sees of the state. -/
def Keeps (observe : State → Observed) (program : Program I Error Result) : Prop :=
  Moves (fun before after => observe after = observe before) program

namespace Keeps

variable {observe : State → Observed}

theorem pure (result : Result) : Keeps observe (Pure.pure result : Program I Error Result) :=
  fun _ => rfl

theorem bind {program : Program I Error Result} {next : Result → Program I Error Next}
    (keeps : Keeps observe program) (rest : ∀ result, Keeps observe (next result)) :
    Keeps observe (program >>= next) :=
  Moves.bind (fun before after => after.trans before) keeps rest

theorem part {program : Program I Error Result} (keeps : Keeps observe program)
    (see : Observed → Seen) : Keeps (fun state => see (observe state)) program :=
  fun state => congrArg see (keeps state)

end Keeps

end Keeps

/-! ### Conditions on the operations a program may perform

`Respects` follows a program through every answer it could be given, so it says
something about the program under any interleaving.  A ghost value records what
the program has been told so far. -/

section Respects

variable {Ghost : Type} (observe : (operation : I.Operation) → I.Answer operation →
  Ghost → Ghost) (allowed : Ghost → I.Operation → Prop)

/-- Whatever is answered, every operation of the program is allowed by what the
program has observed before it, and a result leaves a ghost that satisfies
`post`. -/
def Respects : Program I Error Result → Ghost → (Result → Ghost → Prop) → Prop
  | .done result, ghost, post => post result ghost
  | .failed _, _, _ => True
  | .call operation next, ghost, post =>
      allowed ghost operation ∧
        ∀ answer, (next answer).Respects (observe operation answer ghost) post

variable {observe allowed}

theorem Respects.mono {program : Program I Error Result} {ghost : Ghost}
    {post weaker : Result → Ghost → Prop}
    (respects : program.Respects observe allowed ghost post)
    (weaken : ∀ result after, post result after → weaker result after) :
    program.Respects observe allowed ghost weaker := by
  induction program generalizing ghost with
  | done result => exact weaken _ _ respects
  | failed error => trivial
  | call operation next inductionHypothesis =>
      exact ⟨respects.1, fun answer => inductionHypothesis answer (respects.2 answer)⟩

theorem Respects.bind {program : Program I Error Result}
    {next : Result → Program I Error Next} {ghost : Ghost}
    {post : Next → Ghost → Prop}
    (respects : program.Respects observe allowed ghost fun result after =>
      (next result).Respects observe allowed after post) :
    (program >>= next).Respects observe allowed ghost post := by
  change (program.bind next).Respects observe allowed ghost post
  induction program generalizing ghost with
  | done result => exact respects
  | failed error => trivial
  | call operation rest inductionHypothesis =>
      exact ⟨respects.1, fun answer => inductionHypothesis answer (respects.2 answer)⟩

@[simp] theorem respects_perform {operation : I.Operation} {ghost : Ghost}
    {post : I.Answer operation → Ghost → Prop} :
    (perform operation : Program I Error _).Respects observe allowed ghost post ↔
      allowed ghost operation ∧
        ∀ answer, post answer (observe operation answer ghost) := Iff.rfl

theorem respects_ofExcept {outcome : Except Error Result} {ghost : Ghost}
    {post : Result → Ghost → Prop} :
    (ofExcept outcome : Program I Error Result).Respects observe allowed ghost post ↔
      ∀ result, outcome = .ok result → post result ghost := by
  cases outcome with
  | ok result => exact ⟨fun holds _ same => by cases same; exact holds, fun all => all _ rfl⟩
  | error error => exact ⟨fun _ _ same => (nomatch same), fun _ => trivial⟩

theorem respects_attempt {operation : I.Operation}
    {answer : I.Answer operation → Except Error Result} {ghost : Ghost}
    {post : Result → Ghost → Prop} :
    (attempt operation answer : Program I Error Result).Respects observe allowed ghost post ↔
      allowed ghost operation ∧ ∀ given result, answer given = .ok result →
        post result (observe operation given ghost) := by
  simp only [attempt, Respects, respects_ofExcept]

/-! ### Caught outcomes -/

@[simp] theorem respects_caught_perform {operation : I.Operation} {ghost : Ghost}
    {post : Except Error (I.Answer operation) → Ghost → Prop} :
    (perform operation : Program I Error _).caught.Respects observe allowed ghost post ↔
      allowed ghost operation ∧
        ∀ answer, post (.ok answer) (observe operation answer ghost) := Iff.rfl

theorem respects_caught_attempt {operation : I.Operation}
    {answer : I.Answer operation → Except Error Result} {ghost : Ghost}
    {post : Except Error Result → Ghost → Prop} :
    (attempt operation answer : Program I Error Result).caught.Respects observe allowed ghost
        post ↔
      allowed ghost operation ∧
        ∀ given, post (answer given) (observe operation given ghost) := by
  have outcomes : ∀ (outcome : Except Error Result) (after : Ghost),
      (ofExcept outcome : Program I Error Result).caught.Respects observe allowed after post ↔
        post outcome after := fun outcome after => by cases outcome <;> exact Iff.rfl
  simp only [attempt, caught, Respects, outcomes]

theorem Respects.caught_bind {program : Program I Error Result}
    {next : Result → Program I Error Next} {ghost : Ghost}
    {post : Except Error Next → Ghost → Prop}
    (respects : program.caught.Respects observe allowed ghost fun outcome after =>
      match outcome with
      | .ok result => (next result).caught.Respects observe allowed after post
      | .error error => post (.error error) after) :
    (program >>= next).caught.Respects observe allowed ghost post := by
  rw [Program.caught_bind]
  apply Respects.bind
  apply respects.mono
  intro outcome after holds
  cases outcome with
  | ok result => exact holds
  | error error => exact holds

theorem Respects.caught_caught {program : Program I Error Result} {ghost : Ghost}
    {post : Except Error (Except Error Result) → Ghost → Prop}
    (respects : program.caught.Respects observe allowed ghost fun outcome after =>
      post (.ok outcome) after) :
    program.caught.caught.Respects observe allowed ghost post := by
  induction program generalizing ghost with
  | done result => exact respects
  | failed error => exact respects
  | call operation next inductionHypothesis =>
      exact ⟨respects.1, fun answer => inductionHypothesis answer (respects.2 answer)⟩

theorem Respects.of_caught {program : Program I Error Result} {ghost : Ghost}
    {post : Result → Ghost → Prop}
    (respects : program.caught.Respects observe allowed ghost fun outcome after =>
      ∀ result, outcome = .ok result → post result after) :
    program.Respects observe allowed ghost post := by
  induction program generalizing ghost with
  | done result => exact respects result rfl
  | failed error => trivial
  | call operation next inductionHypothesis =>
      exact ⟨respects.1, fun answer => inductionHypothesis answer (respects.2 answer)⟩

end Respects

end Program

/-! ### Programs over a part of the store -/

/-- The operations of one store as operations of another one. -/
structure StorePart {State : Type u} {Whole : Type u} (I : StoreInterface State)
    (J : StoreInterface Whole) where
  operation : I.Operation → J.Operation
  answer : (asked : I.Operation) → J.Answer (operation asked) → I.Answer asked

namespace Program

variable {State : Type u} {Whole : Type u} {I : StoreInterface State} {J : StoreInterface Whole}
  {Error Result Ghost : Type} {observe : (operation : J.Operation) → J.Answer operation →
    Ghost → Ghost} {allowed : Ghost → J.Operation → Prop}

/-- A program over a part of the store as a program over the store. -/
def within (part : StorePart I J) : Program I Error Result → Program J Error Result
  | .done result => .done result
  | .failed error => .failed error
  | .call operation next =>
      .call (part.operation operation) fun answer => (next (part.answer operation answer)).within part

theorem caught_within_respects {part : StorePart I J} {program : Program I Error Result}
    {ghost : Ghost} {post : Except Error Result → Ghost → Prop}
    (isAllowed : ∀ operation, allowed ghost (part.operation operation))
    (unseen : ∀ operation answer, observe (part.operation operation) answer ghost = ghost)
    (holds : ∀ outcome, post outcome ghost) :
    (program.within part).caught.Respects observe allowed ghost post := by
  induction program with
  | done result => exact holds (.ok result)
  | failed error => exact holds (.error error)
  | call operation next inductionHypothesis =>
      refine ⟨isAllowed operation, fun answer => ?_⟩
      rw [unseen]
      exact inductionHypothesis (part.answer operation answer)

end Program

end MandoForge.Foundation
