/-
Module: MandoForge.Foundation.Interleaving
Purpose: Programs over one store that run at the same time, one operation at a time.
  Of every program it is remembered what the store told it, and what happened beside
  it.  What each operation keeps under a protocol holds however the programs are
  interleaved.
Trusted boundary: none
Main exports: Pool, Pool.next
-/
import MandoForge.Foundation.StoreProgram
import Mathlib.Data.List.Basic

namespace MandoForge.Foundation

variable {State : Type} {I : StoreInterface State} {Error Result Told Heard : Type}

/-- A program under way, what it was told, and what happened beside it. -/
structure PoolCall (I : StoreInterface State) (Error Result Told Heard : Type) where
  program : Program I Error Result
  told : Told
  heard : Heard

structure Pool (I : StoreInterface State) (Error Result Told Heard : Type) where
  state : State
  calls : List (PoolCall I Error Result Told Heard)

/-- What is remembered of an operation, by the call that performs it and by the others. -/
structure Observer (I : StoreInterface State) (Told Heard : Type) where
  tells : (operation : I.Operation) → I.Answer operation → Told → Told
  acts : (operation : I.Operation) → I.Answer operation → Heard → Heard
  overhears : (operation : I.Operation) → I.Answer operation → Heard → Heard

namespace PoolCall

/-- The call after an operation of another one. -/
def overhear (observer : Observer I Told Heard) (operation : I.Operation)
    (answer : I.Answer operation) (call : PoolCall I Error Result Told Heard) :
    PoolCall I Error Result Told Heard :=
  { call with heard := observer.overhears operation answer call.heard }

/-- The call has ended with a result. -/
def succeeded (call : PoolCall I Error Result Told Heard) : Bool :=
  match call.program with
  | .done _ => true
  | _ => false

end PoolCall

namespace Pool

/-- A program joins the others. -/
def enter (program : Program I Error Result) (told : Told) (heard : Heard)
    (pool : Pool I Error Result Told Heard) : Pool I Error Result Told Heard :=
  { pool with calls := pool.calls ++ [⟨program, told, heard⟩] }

/-- One call performs its next operation; a call that has ended does nothing. -/
def operate (observer : Observer I Told Heard) (index : Nat)
    (pool : Pool I Error Result Told Heard) : Pool I Error Result Told Heard :=
  match pool.calls[index]? with
  | some ⟨.call operation next, told, heard⟩ =>
      let (answer, state) := I.perform operation pool.state
      { state
        calls := (pool.calls.map (PoolCall.overhear observer operation answer)).set index
          ⟨next answer, observer.tells operation answer told,
            observer.acts operation answer heard⟩ }
  | _ => pool

/-- What a call was told, and the operation that it performs next. -/
def next (index : Nat) (pool : Pool I Error Result Told Heard) : Option (Told × I.Operation) :=
  match pool.calls[index]? with
  | some ⟨.call operation _, told, _⟩ => some (told, operation)
  | _ => none

/-- The result that a call ends with when its next operation is its last one. -/
def returning (index : Nat) (pool : Pool I Error Result Told Heard) : Option Result :=
  match pool.calls[index]? with
  | some ⟨.call operation rest, _, _⟩ => (rest (I.perform operation pool.state).1).result?
  | _ => none

theorem operate_of_next_eq_none {observer : Observer I Told Heard} {index : Nat}
    {pool : Pool I Error Result Told Heard} (ended : pool.next index = none) :
    pool.operate observer index = pool := by
  cases found : pool.calls[index]? with
  | none => rw [operate, found]
  | some call =>
      obtain ⟨program, told, heard⟩ := call
      cases program with
      | done result => rw [operate, found]
      | failed error => rw [operate, found]
      | call operation rest =>
          rw [next, found] at ended
          cases ended

theorem returning_of_next_eq_none {index : Nat} {pool : Pool I Error Result Told Heard}
    (ended : pool.next index = none) : pool.returning index = none := by
  unfold returning
  split
  · rename_i operation rest told heard found
    rw [next, found] at ended
    cases ended
  · rfl

theorem exists_of_next {index : Nat} {pool : Pool I Error Result Told Heard} {told : Told}
    {operation : I.Operation} (pending : pool.next index = some (told, operation)) :
    ∃ rest heard, pool.calls[index]? = some ⟨.call operation rest, told, heard⟩ := by
  unfold next at pending
  split at pending
  · rename_i rest _ heard found
    cases pending
    exact ⟨rest, heard, found⟩
  · cases pending

theorem state_operate {observer : Observer I Told Heard} {index : Nat}
    {pool : Pool I Error Result Told Heard} {told : Told} {operation : I.Operation}
    (pending : pool.next index = some (told, operation)) :
    (pool.operate observer index).state = (I.perform operation pool.state).2 := by
  obtain ⟨rest, heard, found⟩ := exists_of_next pending
  rw [operate, found]

/-- What a call was told. -/
def told (pool : Pool I Error Result Told Heard) (index : Nat) : Option Told :=
  pool.calls[index]?.map PoolCall.told

theorem told_of_next {index : Nat} {pool : Pool I Error Result Told Heard} {told : Told}
    {operation : I.Operation} (pending : pool.next index = some (told, operation)) :
    pool.told index = some told := by
  obtain ⟨rest, heard, found⟩ := exists_of_next pending
  rw [Pool.told, found]
  rfl

theorem told_operate {observer : Observer I Told Heard} {index : Nat}
    {pool : Pool I Error Result Told Heard} {told : Told} {operation : I.Operation}
    (pending : pool.next index = some (told, operation)) :
    (pool.operate observer index).told index =
      some (observer.tells operation (I.perform operation pool.state).1 told) := by
  obtain ⟨rest, heard, found⟩ := exists_of_next pending
  obtain ⟨inside, -⟩ := List.getElem?_eq_some_iff.mp found
  rw [Pool.told, operate, found]
  dsimp only
  rw [List.getElem?_set_self (by rw [List.length_map]; exact inside), Option.map_some]

theorem told_operate_of_ne {observer : Observer I Told Heard} {index other : Nat}
    {pool : Pool I Error Result Told Heard} (differs : other ≠ index) :
    (pool.operate observer index).told other = pool.told other := by
  unfold operate
  split
  · dsimp only [Pool.told]
    rw [List.getElem?_set_ne differs.symm, List.getElem?_map, Option.map_map]
    rfl
  · rfl

theorem told_enter {program : Program I Error Result} {told : Told} {heard : Heard}
    {pool : Pool I Error Result Told Heard} {index : Nat} {found : Told}
    (isTold : (pool.enter program told heard).told index = some found) :
    pool.told index = some found ∨ found = told := by
  obtain ⟨call, isCall, rfl⟩ := Option.map_eq_some_iff.mp isTold
  rw [enter, List.getElem?_append] at isCall
  split at isCall
  · exact .inl (by rw [Pool.told, isCall]; rfl)
  · rw [List.getElem?_singleton] at isCall
    split at isCall
    · cases isCall
      exact .inr rfl
    · cases isCall

/-- A call is given up; what it was told is forgotten. -/
def abandon (error : Error) (told : Told) (heard : Heard) (index : Nat)
    (pool : Pool I Error Result Told Heard) : Pool I Error Result Told Heard :=
  { pool with calls := pool.calls.set index ⟨.failed error, told, heard⟩ }

theorem told_abandon {error : Error} {told : Told} {heard : Heard} {index other : Nat}
    {pool : Pool I Error Result Told Heard} {found : Told}
    (isTold : (pool.abandon error told heard index).told other = some found) :
    pool.told other = some found ∨ found = told := by
  obtain ⟨call, isCall, rfl⟩ := Option.map_eq_some_iff.mp isTold
  rw [abandon, List.getElem?_set] at isCall
  split at isCall
  · split at isCall
    · cases isCall
      exact .inr rfl
    · cases isCall
  · exact .inl (by rw [Pool.told, isCall]; rfl)

end Pool

/-! ### What every interleaving keeps -/

section protocol

variable (observer : Observer I Told Heard) (allowed : Told → I.Operation → Prop)
  (keeps : State → Prop) (owns : State → Told → Heard → Prop)

/-- An allowed operation keeps what holds of the state, what its call may rely on, and
what the other calls may rely on. -/
structure Protocol : Prop where
  state : ∀ operation state told heard, keeps state → owns state told heard →
    allowed told operation → keeps (I.perform operation state).2
  acting : ∀ operation state told heard, keeps state → owns state told heard →
    allowed told operation →
    owns (I.perform operation state).2
      (observer.tells operation (I.perform operation state).1 told)
      (observer.acts operation (I.perform operation state).1 heard)
  others : ∀ operation state told heard otherTold otherHeard, keeps state →
    owns state told heard → allowed told operation → owns state otherTold otherHeard →
    owns (I.perform operation state).2 otherTold
      (observer.overhears operation (I.perform operation state).1 otherHeard)

variable (finishes : Result → Told → Prop)

/-- Every call of the pool goes by the protocol. -/
structure Pool.Follows (pool : Pool I Error Result Told Heard) : Prop where
  state : keeps pool.state
  owned : ∀ call ∈ pool.calls, owns pool.state call.told call.heard
  programs : ∀ call ∈ pool.calls,
    call.program.Respects observer.tells allowed call.told finishes

namespace Pool.Follows

variable {observer allowed keeps owns finishes} {pool : Pool I Error Result Told Heard}

theorem enter (follows : pool.Follows observer allowed keeps owns finishes)
    {program : Program I Error Result} {told : Told} {heard : Heard}
    (isOwned : owns pool.state told heard)
    (respects : program.Respects observer.tells allowed told finishes) :
    (pool.enter program told heard).Follows observer allowed keeps owns finishes := by
  constructor
  case state => exact follows.state
  case owned =>
    intro call member
    rcases List.mem_append.mp member with old | isNew
    · exact follows.owned call old
    · obtain rfl := List.mem_singleton.mp isNew
      exact isOwned
  case programs =>
    intro call member
    rcases List.mem_append.mp member with old | isNew
    · exact follows.programs call old
    · obtain rfl := List.mem_singleton.mp isNew
      exact respects

theorem abandon (follows : pool.Follows observer allowed keeps owns finishes) {error : Error}
    {told : Told} {heard : Heard} (isOwned : owns pool.state told heard) (index : Nat) :
    (pool.abandon error told heard index).Follows observer allowed keeps owns finishes := by
  constructor
  case state => exact follows.state
  case owned =>
    intro call member
    rcases List.mem_or_eq_of_mem_set member with isOld | rfl
    · exact follows.owned call isOld
    · exact isOwned
  case programs =>
    intro call member
    rcases List.mem_or_eq_of_mem_set member with isOld | rfl
    · exact follows.programs call isOld
    · trivial

theorem elsewhere (follows : pool.Follows observer allowed keeps owns finishes) {state : State}
    (kept : keeps state)
    (stays : ∀ told heard, owns pool.state told heard → owns state told heard) :
    Pool.Follows observer allowed keeps owns finishes { pool with state } where
  state := kept
  owned call member := stays call.told call.heard (follows.owned call member)
  programs := follows.programs

theorem allowed_next (follows : pool.Follows observer allowed keeps owns finishes) {index : Nat}
    {operation : I.Operation} {next : I.Answer operation → Program I Error Result} {told : Told}
    {heard : Heard} (found : pool.calls[index]? = some ⟨.call operation next, told, heard⟩) :
    owns pool.state told heard ∧ allowed told operation :=
  have member := List.mem_of_getElem? found
  ⟨follows.owned _ member, (follows.programs _ member).1⟩

theorem of_next (follows : pool.Follows observer allowed keeps owns finishes) {index : Nat}
    {told : Told} {operation : I.Operation} (pending : pool.next index = some (told, operation)) :
    (∃ heard, owns pool.state told heard) ∧ allowed told operation := by
  obtain ⟨rest, heard, found⟩ := Pool.exists_of_next pending
  obtain ⟨isOwned, isAllowed⟩ := follows.allowed_next found
  exact ⟨⟨heard, isOwned⟩, isAllowed⟩

theorem operate (protocol : Protocol observer allowed keeps owns)
    (follows : pool.Follows observer allowed keeps owns finishes) (index : Nat) :
    (pool.operate observer index).Follows observer allowed keeps owns finishes := by
  unfold Pool.operate
  split
  · rename_i operation next told heard found
    obtain ⟨isOwned, isAllowed⟩ := follows.allowed_next found
    have member := List.mem_of_getElem? found
    constructor
    case state =>
      exact protocol.state operation pool.state told heard follows.state isOwned isAllowed
    case owned =>
      intro call isCall
      rcases List.mem_or_eq_of_mem_set isCall with isOther | rfl
      · obtain ⟨other, otherMember, rfl⟩ := List.mem_map.mp isOther
        exact protocol.others operation pool.state told heard other.told other.heard follows.state
          isOwned isAllowed (follows.owned other otherMember)
      · exact protocol.acting operation pool.state told heard follows.state isOwned isAllowed
    case programs =>
      intro call isCall
      rcases List.mem_or_eq_of_mem_set isCall with isOther | rfl
      · obtain ⟨other, otherMember, rfl⟩ := List.mem_map.mp isOther
        exact follows.programs other otherMember
      · exact (follows.programs _ member).2 _
  · exact follows

theorem of_succeeded (follows : pool.Follows observer allowed keeps owns finishes)
    {call : PoolCall I Error Result Told Heard} (member : call ∈ pool.calls)
    (succeeded : call.succeeded = true) : ∃ result, finishes result call.told := by
  obtain ⟨program, told, heard⟩ := call
  have respects := follows.programs _ member
  cases program with
  | done result => exact ⟨result, respects⟩
  | failed error => cases succeeded
  | call operation next => cases succeeded

end Pool.Follows

/-- How many calls were told something, after an operation of one of them. -/
theorem countP_operate {observer : Observer I Told Heard} {test : Told → Bool} {index : Nat}
    {pool : Pool I Error Result Told Heard} {operation : I.Operation}
    {next : I.Answer operation → Program I Error Result} {told : Told} {heard : Heard}
    (found : pool.calls[index]? = some ⟨.call operation next, told, heard⟩) :
    (pool.operate observer index).calls.countP (fun call => test call.told) +
        (if test told then 1 else 0) =
      pool.calls.countP (fun call => test call.told) +
        (if test (observer.tells operation (I.perform operation pool.state).1 told) then 1
          else 0) := by
  obtain ⟨inside, isCall⟩ := List.getElem?_eq_some_iff.mp found
  have counted : (if test told then 1 else 0) ≤
      pool.calls.countP (fun call => test call.told) := by
    split
    · rename_i passes
      apply List.countP_pos_iff.mpr
      exact ⟨_, List.mem_of_getElem? found, passes⟩
    · exact Nat.zero_le _
  have same : (pool.calls.map (PoolCall.overhear observer operation
      (I.perform operation pool.state).1)).countP (fun call => test call.told) =
        pool.calls.countP (fun call => test call.told) := by
    rw [List.countP_map]
    rfl
  have after : (pool.operate observer index).calls =
      (pool.calls.map (PoolCall.overhear observer operation
        (I.perform operation pool.state).1)).set index
          ⟨next (I.perform operation pool.state).1,
            observer.tells operation (I.perform operation pool.state).1 told,
            observer.acts operation (I.perform operation pool.state).1 heard⟩ := by
    rw [Pool.operate, found]
  rw [after, List.countP_set (by rw [List.length_map]; exact inside), same]
  simp only [List.getElem_map, isCall, PoolCall.overhear]
  omega

end protocol

end MandoForge.Foundation
