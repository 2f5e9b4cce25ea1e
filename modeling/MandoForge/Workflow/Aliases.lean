/-
Module: MandoForge.Workflow.Aliases
Purpose: The aliases of the graph language: spelling a field of a step by its alias
  changes what the graph means only when the count of a quorum moves from `fan_in` to
  `join`, where no reader looks for it.
Trusted boundary: none beyond the graph readers
Main exports: StepAlias, spelling_kept_iff
-/
import MandoForge.Workflow.ValidatedGraphs

namespace MandoForge

open Foundation

/-! ### Moving a field -/

namespace Json

/-- Move the value of a field to another name, changed on the way. -/
def moveField (old new : String) (change : Json → Json) : Json → Json
  | .object fields =>
      match getField old fields with
      | none => .object fields
      | some value =>
          .object (insertField new (change value)
            (fields.filter fun field => !decide (field.1 = old)))
  | value => value

theorem getField_filter_ne {old key : String} (fields : List (String × Json)) :
    getField key (fields.filter fun field => !decide (field.1 = old)) =
      if key = old then none else getField key fields := by
  induction fields with
  | nil => simp [getField]
  | cons field rest inductionHypothesis =>
      obtain ⟨name, value⟩ := field
      by_cases isOld : name = old
      · rw [List.filter_cons_of_neg (by simpa using isOld), inductionHypothesis, getField]
        by_cases wanted : key = old
        · rw [if_pos wanted, if_pos wanted]
        · rw [if_neg wanted, if_neg wanted, if_neg (by grind)]
      · rw [List.filter_cons_of_pos (by simpa using isOld), getField, getField,
          inductionHypothesis]
        by_cases wanted : name = key
        · rw [if_pos wanted, if_pos wanted, if_neg (by grind)]
        · rw [if_neg wanted, if_neg wanted]

theorem get_moveField {old new : String} {change : Json → Json} {value : Json} (key : String) :
    (value.moveField old new change).get key =
      if (value.get old).isSome then
        if key = new then (value.get old).map change
        else if key = old then none else value.get key
      else value.get key := by
  cases value with
  | object fields =>
      cases isHeld : getField old fields with
      | none => simp [moveField, get, isHeld]
      | some held =>
          simp only [moveField, get, isHeld, getField_insertField, getField_filter_ne,
            Option.isSome_some, if_true, Option.map_some]
          by_cases isNew : new = key
          · rw [if_pos isNew, if_pos isNew.symm]
          · rw [if_neg isNew, if_neg (Ne.symm isNew)]
  | _ => rfl

@[simp] theorem isObject_moveField {old new : String} {change : Json → Json} {value : Json} :
    (value.moveField old new change).isObject = value.isObject := by
  cases value with
  | object fields =>
      simp only [moveField]
      cases getField old fields <;> rfl
  | _ => rfl

theorem getFirst_congr {value other : Json} {keys : List String}
    (same : ∀ key ∈ keys, other.get key = value.get key) :
    other.getFirst keys = value.getFirst keys := by
  unfold getFirst
  induction keys with
  | nil => rfl
  | cons key rest inductionHypothesis =>
      obtain ⟨first, others⟩ := List.forall_mem_cons.mp same
      rw [List.findSome?_cons, List.findSome?_cons, first, inductionHypothesis others]

/-- Of several keys of which only one can be there, that one is read. -/
theorem getFirst_of_only {value : Json} {keys : List String} {only : String}
    (listed : only ∈ keys) (others : ∀ key ∈ keys, key ≠ only → value.get key = none) :
    value.getFirst keys = value.get only := by
  unfold getFirst
  induction keys with
  | nil => exact absurd listed List.not_mem_nil
  | cons key rest inductionHypothesis =>
      obtain ⟨first, later⟩ := List.forall_mem_cons.mp others
      rw [List.findSome?_cons]
      by_cases isOnly : key = only
      · subst isOnly
        cases held : value.get key with
        | some found => rfl
        | none =>
            by_cases again : key ∈ rest
            · exact (inductionHypothesis again later).trans held
            · apply List.findSome?_eq_none_iff.mpr
              intro other isLater
              exact later other isLater fun same => again (same ▸ isLater)
      · rw [first isOnly]
        exact inductionHypothesis ((List.mem_cons.mp listed).resolve_left (Ne.symm isOnly)) later

end Json

/-! ### The aliases -/

/-- The aliases of the fields of a step; a join can also spell its mode `strategy`. -/
inductive StepAlias where
  | join
  | joinStrategy
  | after
  | needs
  | when
  | retryPolicy
  | compensates
  | compensationFor
deriving DecidableEq, Repr

namespace StepAlias

def text : StepAlias → String
  | .join | .joinStrategy => "join"
  | .after => "after"
  | .needs => "needs"
  | .when => "when"
  | .retryPolicy => "retry_policy"
  | .compensates => "compensates"
  | .compensationFor => "compensation_for"

/-- The spellings of the aliased field, in the order they are read. -/
def spellings : StepAlias → List String
  | .join | .joinStrategy => ["fan_in", "join"]
  | .after | .needs => ["depends_on", "after", "needs"]
  | .when => ["condition", "when"]
  | .retryPolicy => ["retry", "retry_policy"]
  | .compensates | .compensationFor => ["on_failure_of", "compensates", "compensation_for"]

/-- The field that the alias stands for. -/
def canonical : StepAlias → String
  | .join | .joinStrategy => "fan_in"
  | .after | .needs => "depends_on"
  | .when => "condition"
  | .retryPolicy => "retry"
  | .compensates | .compensationFor => "on_failure_of"

/-- Spell the mode of a join policy `strategy`, if it is the only spelling there. -/
def respellMode (policy : Json) : Json :=
  if (policy.get "strategy").isNone then policy.moveField "mode" "strategy" id else policy

/-- What becomes of the value of the field. -/
def change : StepAlias → Json → Json
  | .joinStrategy => respellMode
  | _ => id

def isJoin : StepAlias → Bool
  | .join | .joinStrategy => true
  | _ => false

/-- Replace the field by its alias, if it is the only spelling there. -/
def respell (stepAlias : StepAlias) (step : Json) : Json :=
  if stepAlias.spellings.all fun spelling =>
      decide (spelling = stepAlias.canonical) || (step.get spelling).isNone then
    step.moveField stepAlias.canonical stepAlias.text stepAlias.change
  else step

/-- Replace several fields of a step, one after the other. -/
def respellAll (aliases : List StepAlias) (step : Json) : Json :=
  aliases.foldl (fun step stepAlias => stepAlias.respell step) step

end StepAlias

/-- Replace fields in the steps of a graph, each step by its own choice of aliases. -/
def respellSteps (choices : Nat → List StepAlias) : Json → Json
  | .object fields =>
      match Json.getField "steps" fields with
      | some (.array steps) =>
          .object (Json.insertField "steps"
            (.array (steps.mapIdx fun index => StepAlias.respellAll (choices index))) fields)
      | _ => .object fields
  | stepGraph => stepGraph

/-- Replace fields in the steps of a graph, and `fan_out` by `fanout` if it is the only
spelling there. -/
def respellGraph (choices : Nat → List StepAlias) (fanout : Bool) (stepGraph : Json) : Json :=
  let respelled := respellSteps choices stepGraph
  if fanout && (respelled.get "fanout").isNone then
    respelled.moveField "fan_out" "fanout" id
  else respelled

/-! ### What a respelled step reads -/

namespace StepAlias

variable {stepAlias : StepAlias} {step : Json}

/-- The field is the only spelling there. -/
def Only (stepAlias : StepAlias) (step : Json) : Prop :=
  ∀ spelling ∈ stepAlias.spellings, spelling ≠ stepAlias.canonical → step.get spelling = none

theorem respell_of_only (only : stepAlias.Only step) : stepAlias.respell step =
    step.moveField stepAlias.canonical stepAlias.text stepAlias.change := by
  unfold respell
  rw [if_pos]
  rw [List.all_eq_true]
  intro spelling isSpelling
  by_cases same : spelling = stepAlias.canonical
  · simp [same]
  · simp [only spelling isSpelling same]

theorem respell_of_not_only (twice : ¬stepAlias.Only step) : stepAlias.respell step = step := by
  unfold respell
  rw [if_neg]
  intro only
  refine twice fun spelling isSpelling different => ?_
  simpa [different] using List.all_eq_true.mp only spelling isSpelling

theorem canonical_mem (stepAlias : StepAlias) :
    stepAlias.canonical ∈ stepAlias.spellings := by
  cases stepAlias <;> decide

theorem text_mem (stepAlias : StepAlias) : stepAlias.text ∈ stepAlias.spellings := by
  cases stepAlias <;> decide

theorem text_ne_canonical (stepAlias : StepAlias) : stepAlias.text ≠ stepAlias.canonical := by
  cases stepAlias <;> decide

@[simp] theorem isObject_respell : (stepAlias.respell step).isObject = step.isObject := by
  unfold respell
  split
  · exact Json.isObject_moveField
  · rfl

theorem get_respell_of_apart {key : String} (notCanonical : key ≠ stepAlias.canonical)
    (notText : key ≠ stepAlias.text) : (stepAlias.respell step).get key = step.get key := by
  unfold respell
  split
  · rw [Json.get_moveField, if_neg notText, if_neg notCanonical, ite_self]
  · rfl

theorem getFirst_respell_of_apart {keys : List String}
    (apart : stepAlias.canonical ∉ keys ∧ stepAlias.text ∉ keys) :
    (stepAlias.respell step).getFirst keys = step.getFirst keys :=
  Json.getFirst_congr fun _ isKey => get_respell_of_apart
    (fun same => apart.1 (same ▸ isKey)) (fun same => apart.2 (same ▸ isKey))

/-- The aliased field reads as before, up to what becomes of its value. -/
theorem getFirst_respell_spellings (only : stepAlias.Only step) :
    (stepAlias.respell step).getFirst stepAlias.spellings =
      (step.getFirst stepAlias.spellings).map stepAlias.change := by
  rw [respell_of_only only, Json.getFirst_of_only stepAlias.canonical_mem only]
  have others : ∀ key ∈ stepAlias.spellings, key ≠ stepAlias.text →
      (step.moveField stepAlias.canonical stepAlias.text stepAlias.change).get key = none := by
    intro key isSpelling notText
    rw [Json.get_moveField, if_neg notText]
    by_cases isCanonical : key = stepAlias.canonical
    · subst isCanonical
      cases held : step.get stepAlias.canonical <;> simp
    · rw [if_neg isCanonical, only key isSpelling isCanonical, ite_self]
  rw [Json.getFirst_of_only stepAlias.text_mem others, Json.get_moveField, if_pos rfl]
  cases held : step.get stepAlias.canonical with
  | some value => rfl
  | none =>
      simpa using only stepAlias.text stepAlias.text_mem stepAlias.text_ne_canonical

end StepAlias

/-- The fields that the readers of a step look up, but for its join. -/
def readFields : List (List String) :=
  [["key"], ["start", "entrypoint"], ["depends_on", "after", "needs"],
    ["on_failure_of", "compensates", "compensation_for"], ["retry", "retry_policy"],
    ["condition", "when"]]

/-- The count of a quorum, which is read from `fan_in`. -/
def quorumCount (step : Json) : Option Nat :=
  ((step.get "fan_in").bind fun policy => policy.getFirst ["min_success", "quorum"]).bind
    Json.asU64

/-- Two steps read alike, but for the count of a quorum. -/
structure ReadsAlike (step other : Json) : Prop where
  isObject : other.isObject = step.isObject
  fields : ∀ keys ∈ readFields, other.getFirst keys = step.getFirst keys
  fanInMode : workflowGraphFanInMode other = workflowGraphFanInMode step

namespace ReadsAlike

theorem refl (step : Json) : ReadsAlike step step := ⟨rfl, fun _ _ => rfl, rfl⟩

theorem symm {step other : Json} (alike : ReadsAlike step other) : ReadsAlike other step :=
  ⟨alike.isObject.symm, fun keys isRead => (alike.fields keys isRead).symm,
    alike.fanInMode.symm⟩

theorem trans {step other third : Json} (first : ReadsAlike step other)
    (second : ReadsAlike other third) : ReadsAlike step third :=
  ⟨second.isObject.trans first.isObject,
    fun keys isRead => (second.fields keys isRead).trans (first.fields keys isRead),
    second.fanInMode.trans first.fanInMode⟩

end ReadsAlike

theorem fanInMode_congr {step other : Json}
    (same : other.getFirst ["fan_in", "join"] = step.getFirst ["fan_in", "join"]) :
    workflowGraphFanInMode other = workflowGraphFanInMode step := by
  unfold workflowGraphFanInMode
  rw [same]

theorem getFirst_respellMode (policy : Json) :
    (StepAlias.respellMode policy).getFirst ["mode", "strategy"] =
      policy.getFirst ["mode", "strategy"] := by
  unfold StepAlias.respellMode
  split
  next noStrategy =>
    rw [Option.isNone_iff_eq_none] at noStrategy
    simp only [Json.getFirst, List.findSome?_cons, List.findSome?_nil, Json.get_moveField,
      noStrategy, String.reduceEq, if_false, if_true]
    cases policy.get "mode" <;> rfl
  next => rfl

/-- A join policy reads as the same mode when its mode is spelled `strategy`. -/
theorem fanInMode_respellMode {step other : Json}
    (same : other.getFirst ["fan_in", "join"] =
      (step.getFirst ["fan_in", "join"]).map StepAlias.respellMode) :
    workflowGraphFanInMode other = workflowGraphFanInMode step := by
  unfold workflowGraphFanInMode
  rw [same]
  cases step.getFirst ["fan_in", "join"] with
  | none => rfl
  | some policy =>
      cases policy with
      | object fields =>
          obtain ⟨moved, isObject⟩ : ∃ moved,
              StepAlias.respellMode (.object fields) = .object moved := by
            have kept : (StepAlias.respellMode (.object fields)).isObject := by
              unfold StepAlias.respellMode
              split
              · rw [Json.isObject_moveField]
                rfl
              · rfl
            cases respelled : StepAlias.respellMode (.object fields) with
            | object moved => exact ⟨moved, rfl⟩
            | _ => simp [respelled, Json.isObject] at kept
          have mode := getFirst_respellMode (.object fields)
          rw [isObject] at mode
          rw [Option.map_some, isObject]
          dsimp only
          rw [mode]
      | _ => rfl

namespace StepAlias

variable {step : Json}

theorem readFields_apart (stepAlias : StepAlias) : ∀ keys ∈ readFields,
    (stepAlias.canonical ∉ keys ∧ stepAlias.text ∉ keys) ∨
      (keys = stepAlias.spellings ∧ stepAlias.isJoin = false) := by
  cases stepAlias <;> decide

theorem change_of_not_join {stepAlias : StepAlias} (notJoin : stepAlias.isJoin = false) :
    stepAlias.change = id := by
  cases stepAlias <;> first | rfl | cases notJoin

theorem fanInMode_respell (stepAlias : StepAlias) :
    workflowGraphFanInMode (stepAlias.respell step) = workflowGraphFanInMode step := by
  by_cases only : stepAlias.Only step
  · have spelled := getFirst_respell_spellings only
    cases stepAlias with
    | join => exact fanInMode_congr (spelled.trans (Option.map_id_apply))
    | joinStrategy => exact fanInMode_respellMode spelled
    | _ => exact fanInMode_congr (getFirst_respell_of_apart (by decide))
  · rw [respell_of_not_only only]

theorem readsAlike_respell (stepAlias : StepAlias) :
    ReadsAlike step (stepAlias.respell step) := by
  constructor
  case isObject => exact isObject_respell
  case fields =>
    intro keys isRead
    by_cases only : stepAlias.Only step
    · rcases stepAlias.readFields_apart keys isRead with apart | ⟨rfl, notJoin⟩
      · exact getFirst_respell_of_apart apart
      · rw [getFirst_respell_spellings only, change_of_not_join notJoin, Option.map_id_apply]
    · rw [respell_of_not_only only]
  case fanInMode => exact stepAlias.fanInMode_respell

theorem readsAlike_respellAll (aliases : List StepAlias) (step : Json) :
    ReadsAlike step (respellAll aliases step) := by
  induction aliases generalizing step with
  | nil => exact .refl step
  | cons stepAlias rest inductionHypothesis =>
      exact stepAlias.readsAlike_respell.trans (inductionHypothesis _)

theorem quorumCount_respell_of_not_join {stepAlias : StepAlias}
    (notJoin : stepAlias.isJoin = false) :
    quorumCount (stepAlias.respell step) = quorumCount step ∧
      (stepAlias.respell step).get "join" = step.get "join" := by
  have apart : ("fan_in" ≠ stepAlias.canonical ∧ "fan_in" ≠ stepAlias.text) ∧
      ("join" ≠ stepAlias.canonical ∧ "join" ≠ stepAlias.text) := by
    cases stepAlias <;> first | decide | cases notJoin
  unfold quorumCount
  rw [get_respell_of_apart apart.1.1 apart.1.2, get_respell_of_apart apart.2.1 apart.2.2]
  exact ⟨rfl, rfl⟩

theorem names_of_join {stepAlias : StepAlias} (isJoin : stepAlias.isJoin = true) :
    stepAlias.spellings = ["fan_in", "join"] ∧ stepAlias.canonical = "fan_in" ∧
      stepAlias.text = "join" := by
  cases stepAlias <;> first | decide | cases isJoin

theorem quorumCount_respell_of_join {stepAlias : StepAlias} (isJoin : stepAlias.isJoin = true)
    (noJoin : step.get "join" = none) : quorumCount (stepAlias.respell step) = none := by
  obtain ⟨spellings, canonical, text⟩ := names_of_join isJoin
  have only : stepAlias.Only step := by
    intro spelling isSpelling different
    rw [spellings, List.mem_pair] at isSpelling
    rw [canonical] at different
    rw [isSpelling.resolve_left different]
    exact noJoin
  unfold quorumCount
  rw [respell_of_only only, Json.get_moveField, canonical, text]
  cases held : step.get "fan_in" <;> simp

theorem respell_of_joined {stepAlias : StepAlias} (isJoin : stepAlias.isJoin = true)
    (joined : step.get "join" ≠ none) : stepAlias.respell step = step := by
  obtain ⟨spellings, canonical, -⟩ := names_of_join isJoin
  exact respell_of_not_only fun only =>
    joined (only "join" (by rw [spellings]; decide) (by rw [canonical]; decide))

theorem quorumCount_respellAll (aliases : List StepAlias) (step : Json) :
    quorumCount (respellAll aliases step) =
      if aliases.any isJoin ∧ (step.get "join").isNone then none else quorumCount step := by
  induction aliases generalizing step with
  | nil => rfl
  | cons stepAlias rest inductionHypothesis =>
      rw [respellAll, List.foldl_cons]
      refine (inductionHypothesis _).trans ?_
      cases isJoin : stepAlias.isJoin with
      | false =>
          obtain ⟨count, join⟩ := @quorumCount_respell_of_not_join step stepAlias isJoin
          rw [count, join, List.any_cons, isJoin, Bool.false_or]
      | true =>
          rw [List.any_cons, isJoin, Bool.true_or]
          cases joined : step.get "join" with
          | none =>
              rw [quorumCount_respell_of_join isJoin joined, ite_self]
              rfl
          | some policy =>
              rw [respell_of_joined isJoin (by rw [joined]; nofun), joined]
              simp

end StepAlias

/-! ### Turns of the ready loop -/

/-- What is said of a ready step, however it is spelled: its key and its readiness. -/
def readyAnswer (ready : WorkflowGraphReadyStep) :
    Except AppError String × WorkflowGraphFanInReadiness :=
  (workflowGraphStepKey ready.graphStep, ready.fanIn)

/-- What a turn of the ready loop says. -/
def turnAnswer (existingSteps : List WorkflowStepRun) (step : Json) :
    Except AppError (Option (Except AppError String × WorkflowGraphFanInReadiness)) :=
  (workflowGraphReadyStep existingSteps step).map (Option.map readyAnswer)

def missingQuorum : AppError :=
  .badRequest "workflow graph step fan_in quorum requires min_success"

/-- The ready loop comes to the join of the step, and it is a quorum. -/
def QuorumAsked (existingSteps : List WorkflowStepRun) (step : Json) : Prop :=
  ∃ key dependencies, workflowGraphStepKey step = .ok key ∧
    workflowGraphLatestStep existingSteps key = none ∧
    workflowGraphStepDependencies step = .ok dependencies ∧ dependencies ≠ [] ∧
    workflowGraphFanInMode step = .ok .quorum

/-- The ready loop reads what it needs of the step. -/
def TurnReads (existingSteps : List WorkflowStepRun) (step : Json) : Prop :=
  ∃ key, workflowGraphStepKey step = .ok key ∧
    ((workflowGraphLatestStep existingSteps key).isSome ∨
      ∃ dependencies, workflowGraphStepDependencies step = .ok dependencies ∧
        (dependencies = [] ∨ ∃ mode minSuccess, workflowGraphFanInMode step = .ok mode ∧
          workflowGraphFanInMinSuccess step mode dependencies.length = .ok minSuccess))

section

variable {step other : Json} {existingSteps : List WorkflowStepRun}

theorem Json.getFirst_singleton (value : Json) (key : String) :
    value.getFirst [key] = value.get key := by
  unfold Json.getFirst
  rw [List.findSome?_cons, List.findSome?_nil]
  cases value.get key <;> rfl

theorem ReadsAlike.key (alike : ReadsAlike step other) :
    workflowGraphStepKey other = workflowGraphStepKey step := by
  have same := alike.fields ["key"] (by decide)
  rw [Json.getFirst_singleton, Json.getFirst_singleton] at same
  unfold workflowGraphStepKey
  rw [same]

theorem ReadsAlike.dependencies (alike : ReadsAlike step other) :
    workflowGraphStepDependencies other = workflowGraphStepDependencies step := by
  unfold workflowGraphStepDependencies
  rw [alike.fields ["depends_on", "after", "needs"] (by decide)]

theorem ReadsAlike.quorumAsked (alike : ReadsAlike step other) :
    QuorumAsked existingSteps other ↔ QuorumAsked existingSteps step := by
  unfold QuorumAsked
  rw [alike.key, alike.dependencies, alike.fanInMode]

theorem fanInMinSuccess_quorum (step : Json) (dependencyCount : Nat) :
    workflowGraphFanInMinSuccess step .quorum dependencyCount = (do
      let minSuccess ← okOr (quorumCount step) missingQuorum
      if minSuccess = 0 ∨ dependencyCount < minSuccess then
        throw (.badRequest
          "workflow graph step fan_in min_success must be between 1 and dependency count")
      return minSuccess) := rfl

theorem fanInMinSuccess_congr {mode : WorkflowGraphFanInMode}
    (sameCount : mode = .quorum → quorumCount other = quorumCount step) (dependencyCount : Nat) :
    workflowGraphFanInMinSuccess other mode dependencyCount =
      workflowGraphFanInMinSuccess step mode dependencyCount := by
  cases mode with
  | quorum => rw [fanInMinSuccess_quorum, fanInMinSuccess_quorum, sameCount rfl]
  | all => rfl
  | any => rfl

theorem fanInReadiness_congr (alike : ReadsAlike step other)
    (sameCount : workflowGraphFanInMode step = .ok .quorum → quorumCount other = quorumCount step)
    (dependencies : List String) (existingByKey : String → Option WorkflowStatus) :
    workflowGraphFanInReadiness other dependencies existingByKey =
      workflowGraphFanInReadiness step dependencies existingByKey := by
  unfold workflowGraphFanInReadiness
  rw [alike.fanInMode]
  cases modeRead : workflowGraphFanInMode step with
  | error error => rfl
  | ok mode =>
      simp only [bind, Except.bind]
      rw [fanInMinSuccess_congr fun isQuorum => sameCount (isQuorum ▸ modeRead)]

/-- A turn says the same, unless it comes to a quorum whose count differs. -/
theorem turnAnswer_congr (alike : ReadsAlike step other)
    (sameCount : QuorumAsked existingSteps step → quorumCount other = quorumCount step) :
    turnAnswer existingSteps other = turnAnswer existingSteps step := by
  unfold turnAnswer workflowGraphReadyStep
  rw [alike.key]
  cases keyRead : workflowGraphStepKey step with
  | error error => rfl
  | ok key =>
      simp only [bind, Except.bind]
      split
      · rfl
      next absent =>
        rw [alike.dependencies]
        cases dependenciesRead : workflowGraphStepDependencies step with
        | error error => rfl
        | ok dependencies =>
            dsimp only
            split
            · rfl
            next some_dependency =>
              rw [fanInReadiness_congr alike fun isQuorum => sameCount ⟨key, dependencies,
                keyRead, by simpa using absent, dependenciesRead, by simpa using some_dependency,
                isQuorum⟩]
              cases workflowGraphFanInReadiness step dependencies
                (statusByKey existingSteps) with
              | error error => rfl
              | ok fanIn =>
                  dsimp only [pure, Except.pure]
                  split
                  · simp [Except.map, readyAnswer, alike.key]
                  · rfl

/-- A turn that comes to a quorum without a count fails. -/
theorem turnAnswer_of_missing (asked : QuorumAsked existingSteps step)
    (missing : quorumCount step = none) :
    turnAnswer existingSteps step = .error missingQuorum := by
  obtain ⟨key, dependencies, keyRead, absent, dependenciesRead, some_dependency, isQuorum⟩ := asked
  unfold turnAnswer workflowGraphReadyStep
  rw [keyRead]
  simp only [bind, Except.bind]
  rw [absent, if_neg (by simp), dependenciesRead]
  dsimp only
  rw [if_neg (by simpa using some_dependency)]
  unfold workflowGraphFanInReadiness
  rw [isQuorum]
  simp only [bind, Except.bind]
  rw [fanInMinSuccess_quorum, missing]
  rfl

theorem turnReads_iff : (∃ answer, turnAnswer existingSteps step = .ok answer) ↔
    TurnReads existingSteps step := by
  unfold turnAnswer workflowGraphReadyStep TurnReads
  cases workflowGraphStepKey step with
  | error error => simp [bind, Except.bind, Except.map]
  | ok key =>
      simp only [bind, Except.bind, Except.ok.injEq, exists_eq_left']
      by_cases there : (workflowGraphLatestStep existingSteps key).isSome = true
      · rw [if_pos there]
        exact iff_of_true ⟨_, rfl⟩ (.inl there)
      · rw [if_neg there, or_iff_right there]
        cases workflowGraphStepDependencies step with
        | error error => simp [Except.map]
        | ok dependencies =>
            simp only [Except.ok.injEq, exists_eq_left']
            by_cases isEmpty : dependencies = []
            · subst isEmpty
              exact iff_of_true ⟨_, rfl⟩ (.inl rfl)
            · rw [if_neg (by simpa using isEmpty), or_iff_right isEmpty]
              unfold workflowGraphFanInReadiness
              cases workflowGraphFanInMode step with
              | error error => simp [bind, Except.bind, Except.map]
              | ok mode =>
                  simp only [bind, Except.bind, Except.ok.injEq, exists_eq_left', exists_and_left]
                  cases workflowGraphFanInMinSuccess step mode dependencies.length with
                  | error error => simp [Except.map]
                  | ok minSuccess =>
                      exact iff_of_true ⟨_, rfl⟩ ⟨minSuccess, rfl⟩

theorem okOr_eq_error {Value : Type} {value : Option Value} {error found : AppError} :
    okOr value error = .error found ↔ value = none ∧ error = found := by
  cases value <;> simp [okOr]

theorem bind_eq_error {Value Next : Type} {first : Except AppError Value}
    {next : Value → Except AppError Next} {error : AppError} :
    (first >>= next) = .error error ↔
      (∃ value, first = .ok value ∧ next value = .error error) ∨ first = .error error := by
  cases first with
  | error found => simp [bind, Except.bind]
  | ok value => simp [bind, Except.bind]

theorem stepKey_ne_missing : workflowGraphStepKey step ≠ .error missingQuorum := by
  intro failed
  exact absurd (okOr_eq_error.mp failed).2 (by decide)

theorem dependencies_ne_missing : workflowGraphStepDependencies step ≠ .error missingQuorum := by
  unfold workflowGraphStepDependencies
  cases step.getFirst ["depends_on", "after", "needs"] with
  | none => nofun
  | some value =>
      intro failed
      cases value with
      | array items =>
          obtain ⟨_, _, _, -, -, refused⟩ := mapM_eq_error.mp failed
          exact absurd (okOr_eq_error.mp refused).2 (by decide)
      | string item => cases failed
      | _ => exact absurd (Except.error.inj failed) (by decide)

theorem fanInMode_ne_missing : workflowGraphFanInMode step ≠ .error missingQuorum := by
  unfold workflowGraphFanInMode
  intro failed
  split at failed
  · cases failed
  next policy _ =>
    cases policy with
    | string mode =>
        simp only [bind, Except.bind, pure, Except.pure] at failed
        split_ifs at failed
        exact absurd (Except.error.inj failed) (by decide)
    | object fields =>
        simp only [bind, Except.bind, pure, Except.pure] at failed
        split_ifs at failed
        exact absurd (Except.error.inj failed) (by decide)
    | _ => exact absurd (Except.error.inj failed) (by decide)

theorem fanInMinSuccess_eq_missing {mode : WorkflowGraphFanInMode} {dependencyCount : Nat} :
    workflowGraphFanInMinSuccess step mode dependencyCount = .error missingQuorum ↔
      mode = .quorum ∧ quorumCount step = none := by
  cases mode with
  | quorum =>
      rw [fanInMinSuccess_quorum]
      cases quorumCount step with
      | none => exact iff_of_true rfl ⟨rfl, rfl⟩
      | some minSuccess =>
          refine iff_of_false ?_ (by simp)
          simp only [okOr, bind, Except.bind]
          split
          · exact fun failed => absurd (Except.error.inj failed) (by decide)
          · rintro ⟨⟩
  | all => simp [workflowGraphFanInMinSuccess]
  | any => simp [workflowGraphFanInMinSuccess]

/-- A turn fails for want of a count exactly at a quorum without one. -/
theorem turnAnswer_eq_missing : turnAnswer existingSteps step = .error missingQuorum ↔
    QuorumAsked existingSteps step ∧ quorumCount step = none := by
  constructor
  · intro failed
    have turnFailed : workflowGraphReadyStep existingSteps step = .error missingQuorum := by
      unfold turnAnswer at failed
      cases turn : workflowGraphReadyStep existingSteps step with
      | error error =>
          rw [turn] at failed
          exact congrArg _ (Except.error.inj failed)
      | ok found =>
          rw [turn] at failed
          cases failed
    unfold workflowGraphReadyStep at turnFailed
    obtain ⟨key, keyRead, turnFailed⟩ :=
      (bind_eq_error.mp turnFailed).resolve_right stepKey_ne_missing
    split at turnFailed
    · cases turnFailed
    next absent =>
      obtain ⟨dependencies, dependenciesRead, turnFailed⟩ :=
        (bind_eq_error.mp turnFailed).resolve_right dependencies_ne_missing
      split at turnFailed
      · cases turnFailed
      next some_dependency =>
        obtain ⟨_, _, done⟩ | readinessFailed := bind_eq_error.mp turnFailed
        · cases done
        · obtain ⟨mode, modeRead, joinFailed⟩ :=
            (bind_eq_error.mp readinessFailed).resolve_right fanInMode_ne_missing
          obtain ⟨_, _, done⟩ | countFailed := bind_eq_error.mp joinFailed
          · cases done
          · obtain ⟨rfl, missing⟩ := fanInMinSuccess_eq_missing.mp countFailed
            exact ⟨⟨key, dependencies, keyRead, by simpa using absent, dependenciesRead,
              by simpa using some_dependency, modeRead⟩, missing⟩
  · exact fun ⟨asked, missing⟩ => turnAnswer_of_missing asked missing

end

/-! ### Respelled graphs -/

/-- What a respelling leaves as it was: acceptance, and what the ready loop says of any step
runs, its errors included. -/
structure SpellingKept (host : Host) (stepGraph respelled : Json) : Prop where
  accepted : validateWorkflowGraphDefinition host respelled = .ok () ↔
    validateWorkflowGraphDefinition host stepGraph = .ok ()
  ready : ∀ existingSteps : List WorkflowStepRun,
    (workflowGraphReadySteps respelled existingSteps).map (List.map readyAnswer) =
      (workflowGraphReadySteps stepGraph existingSteps).map (List.map readyAnswer)

/-- The aliases take a count of the step from `fan_in` to `join`. -/
def MovesCount (aliases : List StepAlias) (step : Json) : Prop :=
  aliases.any StepAlias.isJoin ∧ (step.get "join").isNone ∧ (quorumCount step).isSome

/-- For some step runs the ready loop comes to a quorum whose count moves, and would not have
failed for want of a count anyway, there or later. -/
def LosesQuorum (choices : Nat → List StepAlias) (stepGraph : Json) : Prop :=
  ∃ existingSteps before step after,
    workflowGraphSteps stepGraph = before ++ step :: after ∧
      MovesCount (choices before.length) step ∧ QuorumAsked existingSteps step ∧
      (∀ earlier ∈ before, TurnReads existingSteps earlier) ∧
      ¬∃ between later rest, step :: after = between ++ later :: rest ∧
        (∀ passed ∈ between, TurnReads existingSteps passed) ∧
        QuorumAsked existingSteps later ∧ quorumCount later = none

section

variable {host : Host} {stepGraph : Json} {choices : Nat → List StepAlias} {fanout : Bool}

theorem ready_eq_mapM (existingSteps : List WorkflowStepRun) :
    (workflowGraphReadySteps stepGraph existingSteps).map (List.map readyAnswer) =
      ((workflowGraphSteps stepGraph).mapM (turnAnswer existingSteps)).map
        (List.filterMap id) := by
  have turns : ∀ steps : List Json, steps.mapM (turnAnswer existingSteps) =
      (steps.mapM (workflowGraphReadyStep existingSteps)).map
        (List.map (Option.map readyAnswer)) := by
    intro steps
    induction steps with
    | nil => rfl
    | cons step rest inductionHypothesis =>
        rw [List.mapM_cons, List.mapM_cons, inductionHypothesis, turnAnswer]
        cases workflowGraphReadyStep existingSteps step with
        | error error => rfl
        | ok found => cases rest.mapM (workflowGraphReadyStep existingSteps) <;> rfl
  unfold workflowGraphReadySteps
  rw [turns]
  cases (workflowGraphSteps stepGraph).mapM (workflowGraphReadyStep existingSteps) with
  | error error => rfl
  | ok found =>
      simp [bind, Except.bind, pure, Except.pure, Except.map, List.filterMap_map,
        List.map_filterMap]

theorem get_respellSteps_ne {key : String} (different : key ≠ "steps") :
    (respellSteps choices stepGraph).get key = stepGraph.get key := by
  cases stepGraph with
  | object fields =>
      dsimp only [respellSteps]
      split
      · simp only [Json.get, Json.getField_insertField, if_neg (Ne.symm different)]
      · rfl
  | _ => rfl

/-- The steps of the graph, respelled. -/
def respelledSteps (choices : Nat → List StepAlias) (steps : List Json) : List Json :=
  steps.mapIdx fun index => StepAlias.respellAll (choices index)

theorem get_respellGraph_steps : (respellGraph choices fanout stepGraph).get "steps" =
    (stepGraph.get "steps").map fun steps => match steps with
      | .array steps => .array (respelledSteps choices steps)
      | steps => steps := by
  have kept : (respellGraph choices fanout stepGraph).get "steps" =
      (respellSteps choices stepGraph).get "steps" := by
    unfold respellGraph
    dsimp only
    split
    · simp only [Json.get_moveField, String.reduceEq, if_false, ite_self]
    · rfl
  rw [kept]
  cases stepGraph with
  | object fields =>
      dsimp only [respellSteps]
      split
      next steps isArray =>
        simp only [Json.get, Json.getField_insertField, isArray, if_true, Option.map_some]
        rfl
      next notArray =>
        simp only [Json.get]
        cases held : Json.getField "steps" fields with
        | none => rfl
        | some steps =>
            cases steps with
            | array items => exact absurd held (notArray items)
            | _ => rfl
  | _ => rfl

theorem workflowGraphSteps_respellGraph :
    workflowGraphSteps (respellGraph choices fanout stepGraph) =
      respelledSteps choices (workflowGraphSteps stepGraph) := by
  unfold workflowGraphSteps
  rw [get_respellGraph_steps]
  cases stepGraph.get "steps" with
  | none => rfl
  | some steps => cases steps <;> rfl

theorem fanOut_respellGraph :
    workflowGraphFanOutMaxParallel (respellGraph choices fanout stepGraph) =
      workflowGraphFanOutMaxParallel stepGraph := by
  have same : (respellGraph choices fanout stepGraph).getFirst ["fan_out", "fanout"] =
      stepGraph.getFirst ["fan_out", "fanout"] := by
    have steps : (respellSteps choices stepGraph).getFirst ["fan_out", "fanout"] =
        stepGraph.getFirst ["fan_out", "fanout"] := by
      refine Json.getFirst_congr fun key isKey => get_respellSteps_ne ?_
      rcases List.mem_pair.mp isKey with rfl | rfl <;> decide
    rw [← steps]
    unfold respellGraph
    dsimp only
    split
    next only =>
      have noAlias := Option.isNone_iff_eq_none.mp (Bool.and_eq_true_iff.mp only).2
      simp only [Json.getFirst, List.findSome?_cons, List.findSome?_nil, Json.get_moveField,
        noAlias, String.reduceEq, if_false, if_true]
      cases (respellSteps choices stepGraph).get "fan_out" <;> rfl
    next => rfl
  unfold workflowGraphFanOutMaxParallel
  rw [same]

/-! ### The ready loop on a respelled graph -/

/-- The steps beside what they become. -/
def besideRespelled (choices : Nat → List StepAlias) (steps : List Json) : List (Json × Json) :=
  steps.mapIdx fun index step => (step, StepAlias.respellAll (choices index) step)

theorem map_fst_besideRespelled (steps : List Json) :
    (besideRespelled choices steps).map Prod.fst = steps := by
  apply List.ext_getElem <;> simp [besideRespelled]

theorem map_snd_besideRespelled (steps : List Json) :
    (besideRespelled choices steps).map Prod.snd = respelledSteps choices steps := by
  apply List.ext_getElem <;> simp [besideRespelled, respelledSteps]

theorem mem_besideRespelled {steps : List Json} {pair : Json × Json}
    (member : pair ∈ besideRespelled choices steps) :
    ∃ aliases, pair.2 = StepAlias.respellAll aliases pair.1 := by
  obtain ⟨index, inside, rfl⟩ := List.mem_mapIdx.mp member
  exact ⟨choices index, rfl⟩

theorem besideRespelled_split (before : List Json) (step : Json) (after : List Json) :
    ∃ rest, rest.map Prod.fst = after ∧
      besideRespelled choices (before ++ step :: after) =
        besideRespelled choices before ++
          (step, StepAlias.respellAll (choices before.length) step) :: rest := by
  refine ⟨after.mapIdx fun index step =>
    (step, StepAlias.respellAll (choices (index + 1 + before.length)) step), ?_, ?_⟩
  · apply List.ext_getElem <;> simp
  · simp [besideRespelled, List.mapIdx_append, List.mapIdx_cons]

/-- The pair is a step whose count is gone, at a quorum. -/
def CountGone (existingSteps : List WorkflowStepRun) (pair : Json × Json) : Prop :=
  QuorumAsked existingSteps pair.1 ∧ (quorumCount pair.1).isSome ∧ quorumCount pair.2 = none

theorem countGone_respelled {existingSteps : List WorkflowStepRun} {aliases : List StepAlias}
    {step : Json} : CountGone existingSteps (step, StepAlias.respellAll aliases step) ↔
      MovesCount aliases step ∧ QuorumAsked existingSteps step := by
  unfold CountGone MovesCount
  rw [StepAlias.quorumCount_respellAll]
  by_cases moves : aliases.any StepAlias.isJoin = true ∧ (step.get "join").isNone = true
  · rw [if_pos moves]
    exact ⟨fun ⟨asked, held, _⟩ => ⟨⟨moves.1, moves.2, held⟩, asked⟩,
      fun ⟨⟨_, _, held⟩, asked⟩ => ⟨asked, held, rfl⟩⟩
  · rw [if_neg moves]
    constructor
    · rintro ⟨-, held, gone⟩
      rw [gone] at held
      cases held
    · rintro ⟨⟨isJoin, noJoin, -⟩, -⟩
      exact absurd ⟨isJoin, noJoin⟩ moves

/-- The ready loop says the same of the respelled steps, unless it comes to a count that is
gone before it fails for want of a count itself. -/
theorem ready_respelled_iff (existingSteps : List WorkflowStepRun) :
    (workflowGraphReadySteps (respellGraph choices fanout stepGraph) existingSteps).map
        (List.map readyAnswer) =
      (workflowGraphReadySteps stepGraph existingSteps).map (List.map readyAnswer) ↔
    ∀ before pair after,
      besideRespelled choices (workflowGraphSteps stepGraph) = before ++ pair :: after →
      CountGone existingSteps pair →
      (∀ earlier ∈ before, ∃ answer, turnAnswer existingSteps earlier.1 = .ok answer) →
      (pair :: after).mapM (fun pair => turnAnswer existingSteps pair.1) =
        .error missingQuorum := by
  rw [ready_eq_mapM, ready_eq_mapM, workflowGraphSteps_respellGraph,
    ← @map_snd_besideRespelled choices]
  nth_rewrite 2 [← @map_fst_besideRespelled choices (workflowGraphSteps stepGraph)]
  rw [List.mapM_map, List.mapM_map]
  refine mapM_eq_iff_of_refused _ ?_ ?_
  · intro pair member notGone
    obtain ⟨aliases, respelled⟩ := mem_besideRespelled member
    have alike := StepAlias.readsAlike_respellAll aliases pair.1
    rw [← respelled] at alike
    refine turnAnswer_congr alike fun asked => ?_
    have count := StepAlias.quorumCount_respellAll aliases pair.1
    rw [← respelled] at count
    split at count
    next moves =>
      cases held : quorumCount pair.1 with
      | none => exact count
      | some value => exact absurd ⟨asked, by rw [held]; rfl, count⟩ notGone
    next => exact count
  · intro pair member gone
    obtain ⟨aliases, respelled⟩ := mem_besideRespelled member
    have alike := StepAlias.readsAlike_respellAll aliases pair.1
    rw [← respelled] at alike
    exact turnAnswer_of_missing (alike.quorumAsked.mpr gone.1) gone.2.2

theorem turns_eq_missing {existingSteps : List WorkflowStepRun} {steps : List Json} :
    steps.mapM (turnAnswer existingSteps) = .error missingQuorum ↔
      ∃ between later rest, steps = between ++ later :: rest ∧
        (∀ passed ∈ between, TurnReads existingSteps passed) ∧
        QuorumAsked existingSteps later ∧ quorumCount later = none := by
  rw [mapM_eq_error]
  simp only [turnReads_iff, turnAnswer_eq_missing]

theorem turns_beside (existingSteps : List WorkflowStepRun) (pairs : List (Json × Json)) :
    pairs.mapM (fun pair => turnAnswer existingSteps pair.1) =
      (pairs.map Prod.fst).mapM (turnAnswer existingSteps) := by
  rw [List.mapM_map]
  rfl

theorem ready_kept_iff :
    (∀ existingSteps : List WorkflowStepRun,
      (workflowGraphReadySteps (respellGraph choices fanout stepGraph) existingSteps).map
          (List.map readyAnswer) =
        (workflowGraphReadySteps stepGraph existingSteps).map (List.map readyAnswer)) ↔
      ¬LosesQuorum choices stepGraph := by
  simp only [ready_respelled_iff]
  constructor
  · rintro each ⟨existingSteps, before, step, after, split, moves, asked, reads, noOther⟩
    obtain ⟨rest, rfl, pairs⟩ := @besideRespelled_split choices before step after
    have fails := each existingSteps _ _ _ (split ▸ pairs)
      (countGone_respelled.mpr ⟨moves, asked⟩) fun earlier member => by
        rw [turnReads_iff]
        apply reads
        rw [← @map_fst_besideRespelled choices before]
        exact List.mem_map_of_mem member
    rw [turns_beside, List.map_cons] at fails
    exact noOther (turns_eq_missing.mp fails)
  · intro kept existingSteps before pair after pairs gone fine
    by_contra differs
    have isRespelled : pair.2 = StepAlias.respellAll (choices before.length) pair.1 := by
      have found := congrArg (fun pairs => pairs[before.length]?) pairs
      simp only [besideRespelled, List.getElem?_mapIdx, List.getElem?_append_right (Nat.le_refl _),
        Nat.sub_self, List.getElem?_cons_zero, Option.map_eq_some_iff] at found
      obtain ⟨step, -, rfl⟩ := found
      rfl
    have split := congrArg (List.map Prod.fst) pairs
    rw [map_fst_besideRespelled, List.map_append, List.map_cons] at split
    obtain ⟨step, respelled⟩ := pair
    dsimp only at isRespelled
    subst isRespelled
    obtain ⟨moves, asked⟩ := countGone_respelled.mp gone
    refine kept ⟨existingSteps, before.map Prod.fst, step, after.map Prod.fst, split, ?_, asked,
      ?_, fun other => differs ?_⟩
    · rw [List.length_map]
      exact moves
    · intro earlier member
      obtain ⟨earlierPair, inBefore, rfl⟩ := List.mem_map.mp member
      exact turnReads_iff.mp (fine earlierPair inBefore)
    · rw [turns_beside, List.map_cons]
      exact turns_eq_missing.mpr other

/-! ### Acceptance of a respelled graph -/

/-- Two steps read alike, the count of a quorum included. -/
def StepsAlike (step other : Json) : Prop :=
  ReadsAlike step other ∧
    (workflowGraphFanInMode step = .ok .quorum → quorumCount other = quorumCount step)

theorem StepsAlike.symm {step other : Json} (alike : StepsAlike step other) :
    StepsAlike other step :=
  ⟨alike.1.symm, fun isQuorum => (alike.2 (alike.1.fanInMode ▸ isQuorum)).symm⟩

theorem validateStep_congr {step other : Json} (alike : StepsAlike step other)
    (keys : List String) : validateStep host keys other = validateStep host keys step := by
  have fields := alike.1.fields
  unfold validateStep
  rw [alike.1.key, alike.1.dependencies]
  simp only [fanInReadiness_congr alike.1 alike.2]
  unfold workflowGraphStepFailureSources workflowGraphStepRetryPolicy workflowGraphStepCondition
  rw [fields ["on_failure_of", "compensates", "compensation_for"] (by decide),
    fields ["retry", "retry_policy"] (by decide), fields ["condition", "when"] (by decide)]

theorem validateStepKeys_congr {steps others : List Json}
    (alike : List.Forall₂ StepsAlike steps others) (seen : List String) :
    validateStepKeys seen others = validateStepKeys seen steps := by
  induction alike generalizing seen with
  | nil => rfl
  | cons first _ inductionHypothesis =>
      unfold validateStepKeys
      rw [first.1.isObject, first.1.key]
      simp only [inductionHypothesis]

theorem exists_alike {steps others : List Json} (alike : List.Forall₂ StepsAlike steps others)
    {other : Json} (member : other ∈ others) : ∃ step ∈ steps, StepsAlike step other := by
  induction alike with
  | nil => exact absurd member List.not_mem_nil
  | cons first _ inductionHypothesis =>
      rcases List.mem_cons.mp member with rfl | inRest
      · exact ⟨_, List.mem_cons_self, first⟩
      · obtain ⟨step, inSteps, same⟩ := inductionHypothesis inRest
        exact ⟨step, List.mem_cons_of_mem _ inSteps, same⟩

theorem accepted_of_alike {other : Json} {steps others : List Json}
    (hasSteps : stepGraph.get "steps" = some (.array steps))
    (hasOthers : other.get "steps" = some (.array others))
    (alike : List.Forall₂ StepsAlike steps others)
    (fanOut : workflowGraphFanOutMaxParallel other = workflowGraphFanOutMaxParallel stepGraph)
    (accepted : validateWorkflowGraphDefinition host stepGraph = .ok ()) :
    validateWorkflowGraphDefinition host other = .ok () := by
  unfold validateWorkflowGraphDefinition at accepted ⊢
  rw [hasSteps] at accepted
  rw [hasOthers]
  obtain ⟨_, isArray, accepted⟩ := bind_eq_ok.mp accepted
  cases isArray
  obtain ⟨some_step, accepted⟩ := guardThen_eq_ok.mp accepted
  obtain ⟨keys, keysRead, accepted⟩ := bind_eq_ok.mp accepted
  obtain ⟨⟨⟩, stepsValid, accepted⟩ := bind_eq_ok.mp accepted
  obtain ⟨⟨⟩, -, accepted⟩ := bind_eq_ok.mp accepted
  have othersValid : ∀ step ∈ others, validateStep host keys step = .ok () := by
    intro step member
    obtain ⟨original, inSteps, same⟩ := exists_alike alike member
    rw [validateStep_congr same]
    exact forM_eq_ok.mp stepsValid original inSteps
  have startsRead : ∀ start ∈ workflowGraphStartSteps other,
      (do let _ ← workflowGraphStepKey start : Except AppError Unit) = .ok () := by
    intro start isStart
    have inside := (Plan.startSteps_sublist other).subset isStart
    have listed : workflowGraphSteps other = others := by
      simp [workflowGraphSteps, hasOthers, Json.asArray]
    obtain ⟨planStep, rfl, -⟩ := exists_planStep_of_validateStep
      (othersValid start (listed ▸ inside))
    exact bind_eq_ok.mpr ⟨planStep.key, planStep.key_read, rfl⟩
  refine bind_eq_ok.mpr ⟨others, rfl, guardThen_eq_ok.mpr ⟨?_, bind_eq_ok.mpr ⟨keys, ?_,
    bind_eq_ok.mpr ⟨(), forM_eq_ok.mpr ?_, bind_eq_ok.mpr ⟨(), forM_eq_ok.mpr startsRead, ?_⟩⟩⟩⟩⟩
  · cases alike with
    | nil => exact some_step
    | cons _ _ => simp
  · rw [validateStepKeys_congr alike]
    exact keysRead
  · exact othersValid
  · rw [fanOut]
    exact accepted

/-- A valid step with a quorum has its count, and dependencies to count. -/
theorem quorum_of_valid {step : Json} {keys : List String}
    (valid : validateStep host keys step = .ok ())
    (isQuorum : workflowGraphFanInMode step = .ok .quorum) :
    quorumCount step ≠ none ∧
      ∃ dependencies, workflowGraphStepDependencies step = .ok dependencies ∧
        dependencies ≠ [] := by
  obtain ⟨planStep, rfl, -⟩ := exists_planStep_of_validateStep valid
  have joinRead := planStep.minSuccess_read
  rw [Except.ok.inj (planStep.fanInMode_read.symm.trans isQuorum), fanInMinSuccess_quorum]
    at joinRead
  obtain ⟨count, counted, joinRead⟩ := bind_eq_ok.mp joinRead
  obtain ⟨inBounds, -⟩ := guardThen_eq_ok.mp joinRead
  refine ⟨by rw [okOr_eq_ok.mp counted]; nofun, planStep.dependencies,
    planStep.dependencies_read, ?_⟩
  intro isEmpty
  rw [isEmpty, List.length_nil] at inBounds
  omega

/-- An accepted graph whose quorum count moves loses it: no turn of the ready loop fails. -/
theorem losesQuorum_of_accepted
    (accepted : validateWorkflowGraphDefinition host stepGraph = .ok ())
    {before : List Json} {step : Json} {after : List Json}
    (split : workflowGraphSteps stepGraph = before ++ step :: after)
    (moves : MovesCount (choices before.length) step)
    (isQuorum : workflowGraphFanInMode step = .ok .quorum) :
    LosesQuorum choices stepGraph := by
  obtain ⟨keys, stepsValid⟩ := validateStep_of_accepted accepted
  rw [split] at stepsValid
  refine ⟨[], before, step, after, split, moves, ?_, ?_, ?_⟩
  · have valid := stepsValid step (by simp)
    obtain ⟨planStep, rfl, -⟩ := exists_planStep_of_validateStep valid
    obtain ⟨-, dependencies, dependenciesRead, some_dependency⟩ := quorum_of_valid valid isQuorum
    exact ⟨planStep.key, dependencies, planStep.key_read, rfl, dependenciesRead,
      some_dependency, isQuorum⟩
  · intro earlier member
    obtain ⟨planStep, rfl, -⟩ := exists_planStep_of_validateStep
      (stepsValid earlier (List.mem_append_left _ member))
    exact ⟨planStep.key, planStep.key_read, .inr ⟨planStep.dependencies,
      planStep.dependencies_read, .inr ⟨planStep.fanInMode, planStep.minSuccess,
        planStep.fanInMode_read, planStep.minSuccess_read⟩⟩⟩
  · rintro ⟨between, later, rest, again, -, ⟨_, _, -, -, -, -, laterQuorum⟩, missing⟩
    have inside : later ∈ before ++ step :: after := by
      rw [again]
      simp
    exact (quorum_of_valid (stepsValid later inside) laterQuorum).1 missing

/-- When no count of a quorum moves, the respelled steps read alike. -/
theorem stepsAlike_respelled {steps : List Json}
    (noMove : ∀ before step after, steps = before ++ step :: after →
      MovesCount (choices before.length) step →
        workflowGraphFanInMode step ≠ .ok .quorum) :
    List.Forall₂ StepsAlike steps (respelledSteps choices steps) := by
  rw [List.forall₂_iff_get]
  refine ⟨by simp [respelledSteps], fun index inside respelledInside => ?_⟩
  have respelled : (respelledSteps choices steps).get ⟨index, respelledInside⟩ =
      StepAlias.respellAll (choices index) (steps.get ⟨index, inside⟩) := by
    simp [respelledSteps]
  rw [respelled]
  refine ⟨StepAlias.readsAlike_respellAll _ _, fun isQuorum => ?_⟩
  rw [StepAlias.quorumCount_respellAll]
  split
  next moves =>
    cases held : quorumCount (steps.get ⟨index, inside⟩) with
    | none => rfl
    | some count =>
        refine absurd isQuorum (noMove (steps.take index) _ (steps.drop (index + 1)) ?_ ?_)
        · simp
        · rw [List.length_take, Nat.min_eq_left inside.le]
          exact ⟨moves.1, moves.2, by rw [held]; rfl⟩
  next => rfl

/-- A graph is rejected once a quorum's count is gone. -/
theorem respelled_rejected {before : List Json} {step : Json} {after : List Json}
    (split : workflowGraphSteps stepGraph = before ++ step :: after)
    (moves : MovesCount (choices before.length) step)
    (isQuorum : workflowGraphFanInMode step = .ok .quorum) :
    validateWorkflowGraphDefinition host (respellGraph choices fanout stepGraph) ≠ .ok () := by
  intro accepted
  obtain ⟨keys, stepsValid⟩ := validateStep_of_accepted accepted
  have inside : StepAlias.respellAll (choices before.length) step ∈
      workflowGraphSteps (respellGraph choices fanout stepGraph) := by
    rw [workflowGraphSteps_respellGraph, split, respelledSteps, List.mapIdx_append,
      List.mapIdx_cons]
    simp
  have alike := StepAlias.readsAlike_respellAll (choices before.length) step
  refine (quorum_of_valid (stepsValid _ inside) (alike.fanInMode.trans isQuorum)).1 ?_
  rw [StepAlias.quorumCount_respellAll, if_pos ⟨moves.1, moves.2.1⟩]

theorem accepted_kept (kept : ¬LosesQuorum choices stepGraph) :
    validateWorkflowGraphDefinition host (respellGraph choices fanout stepGraph) = .ok () ↔
      validateWorkflowGraphDefinition host stepGraph = .ok () := by
  have stepsRead := @get_respellGraph_steps stepGraph choices fanout
  have fanOut := @fanOut_respellGraph stepGraph choices fanout
  cases held : stepGraph.get "steps" with
  | none =>
      rw [held, Option.map_none] at stepsRead
      unfold validateWorkflowGraphDefinition
      rw [held, stepsRead, fanOut]
  | some steps =>
      rw [held, Option.map_some] at stepsRead
      cases steps with
      | array steps =>
          have listed : workflowGraphSteps stepGraph = steps := by
            simp [workflowGraphSteps, held, Json.asArray]
          by_cases noMove : ∀ before step after, steps = before ++ step :: after →
              MovesCount (choices before.length) step →
                workflowGraphFanInMode step ≠ .ok .quorum
          · have alike := stepsAlike_respelled noMove
            have back : List.Forall₂ StepsAlike (respelledSteps choices steps) steps :=
              alike.flip.imp fun _ _ same => StepsAlike.symm same
            exact ⟨accepted_of_alike stepsRead held back fanOut.symm,
              accepted_of_alike held stepsRead alike fanOut⟩
          · push Not at noMove
            obtain ⟨before, step, after, split, moves, isQuorum⟩ := noMove
            refine iff_of_false ?_ fun accepted =>
              kept (losesQuorum_of_accepted accepted (listed.trans split) moves isQuorum)
            intro accepted
            exact respelled_rejected (listed.trans split) moves isQuorum accepted
      | _ =>
          unfold validateWorkflowGraphDefinition
          rw [held, stepsRead]
          exact iff_of_false nofun nofun

/-- Spelling fields by their aliases changes nothing of what a graph means exactly when the
ready loop comes to no quorum whose count moves from `fan_in` to `join`. -/
theorem spelling_kept_iff (host : Host) (stepGraph : Json) (choices : Nat → List StepAlias)
    (fanout : Bool) : SpellingKept host stepGraph (respellGraph choices fanout stepGraph) ↔
      ¬LosesQuorum choices stepGraph :=
  ⟨fun spelling => ready_kept_iff.mp spelling.ready,
    fun kept => ⟨accepted_kept kept, ready_kept_iff.mpr kept⟩⟩

end

def quorumOfTwo : Json :=
  .ofFields [("steps", .array [
    .ofFields [("key", .string "left")],
    .ofFields [("key", .string "right"), ("start", .bool true)],
    .ofFields [("key", .string "join"), ("depends_on", .ofStrings ["left", "right"]),
      ("fan_in", .ofFields [("mode", .string "quorum"), ("min_success", .ofNat 1)])]])]

theorem join_loses_quorum :
    ¬∀ (host : Host) (stepGraph : Json) (choices : Nat → List StepAlias) (fanout : Bool),
      SpellingKept host stepGraph (respellGraph choices fanout stepGraph) := by
  intro kept
  have spelling := kept noClock quorumOfTwo (fun _ => [.join]) false
  have accepted : validateWorkflowGraphDefinition noClock quorumOfTwo = .ok () := by
    decide +kernel
  have rejected : validateWorkflowGraphDefinition noClock
      (respellGraph (fun _ => [.join]) false quorumOfTwo) ≠ .ok () := by
    decide +kernel
  exact rejected (spelling.accepted.mpr accepted)

end MandoForge
