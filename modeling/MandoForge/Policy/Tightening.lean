/-
Module: MandoForge.Policy.Tightening
Purpose: What the lists of both policy levels say about a tool decides its fate.
  The policy of an agent version never allows what the global one does not, and
  more entries in a list never allow more; only a tool that no global list names
  can be lifted, by an approval list, to a request for approval.
Trusted boundary: none
Main exports: ToolStanding, approval_entry_loosens
-/
import MandoForge.Policy.Evaluation

namespace MandoForge

namespace PolicyDecision

/-- How much the decision permits. -/
def permits : PolicyDecision → Nat
  | .denied => 0
  | .requiresApproval => 1
  | .allowed => 2

instance : LE PolicyDecision := ⟨fun stricter looser => stricter.permits ≤ looser.permits⟩

instance (stricter looser : PolicyDecision) : Decidable (stricter ≤ looser) :=
  inferInstanceAs (Decidable (stricter.permits ≤ looser.permits))

end PolicyDecision

/-! ### What the lists say about a tool -/

/-- What the lists of both levels say about one tool. -/
structure ToolStanding where
  blocked : Bool
  approval : Bool
  allowed : Bool
  /-- The agent version has not the tool, or its policy turns it down. -/
  refused : Bool
  agentApproval : Bool

namespace ToolStanding

def globalRuling (standing : ToolStanding) : PolicyDecision :=
  if standing.blocked then .denied
  else if standing.approval then .requiresApproval
  else if standing.allowed then .allowed
  else .denied

def agentRuling (standing : ToolStanding) : PolicyDecision :=
  if standing.blocked || standing.refused then .denied
  else if standing.agentApproval then .requiresApproval
  else standing.globalRuling

/-- A global list names the tool. -/
def isListed (standing : ToolStanding) : Bool :=
  standing.blocked || standing.approval || standing.allowed

theorem agentRuling_allowed {standing : ToolStanding}
    (isAllowed : standing.agentRuling = .allowed) : standing.globalRuling = .allowed := by
  unfold agentRuling at isAllowed
  split at isAllowed
  · cases isAllowed
  · split at isAllowed
    · cases isAllowed
    · exact isAllowed

theorem agentRuling_le {standing : ToolStanding} (listed : standing.isListed = true) :
    standing.agentRuling ≤ standing.globalRuling := by
  obtain ⟨blocked, approval, allowed, refused, agentApproval⟩ := standing
  revert blocked approval allowed refused agentApproval
  decide

end ToolStanding

/-- The lists of the policies that an entry may be added to. -/
inductive PolicyList where
  | denied
  | approvalRequired

/-- The tool is in more of the lists of the kind, and otherwise stands as before. -/
def ToolStanding.Grows (list : PolicyList) (before after : ToolStanding) : Prop :=
  before.allowed = after.allowed ∧
    match list with
    | .denied =>
        (before.blocked → after.blocked) ∧ (before.refused → after.refused) ∧
          before.approval = after.approval ∧ before.agentApproval = after.agentApproval
    | .approvalRequired =>
        (before.approval → after.approval) ∧ (before.agentApproval → after.agentApproval) ∧
          before.blocked = after.blocked ∧ before.refused = after.refused

namespace ToolStanding

variable {before after : ToolStanding}

theorem Grows.denied_le (grows : Grows .denied before after) :
    after.globalRuling ≤ before.globalRuling ∧ after.agentRuling ≤ before.agentRuling := by
  obtain ⟨blocked, approval, allowed, refused, agentApproval⟩ := before
  obtain ⟨blockedAfter, approvalAfter, allowedAfter, refusedAfter, agentApprovalAfter⟩ := after
  obtain ⟨rfl, moreBlocked, moreRefused, rfl, rfl⟩ := grows
  revert blocked approval allowed refused agentApproval blockedAfter refusedAfter
  decide

theorem Grows.approvalRequired_le (grows : Grows .approvalRequired before after)
    (listed : before.isListed = true) :
    after.globalRuling ≤ before.globalRuling ∧ after.agentRuling ≤ before.agentRuling := by
  obtain ⟨blocked, approval, allowed, refused, agentApproval⟩ := before
  obtain ⟨blockedAfter, approvalAfter, allowedAfter, refusedAfter, agentApprovalAfter⟩ := after
  obtain ⟨rfl, moreApproval, moreAgentApproval, rfl, rfl⟩ := grows
  revert blocked approval allowed refused agentApproval approvalAfter agentApprovalAfter
  decide

theorem Grows.approvalRequired_allowed (grows : Grows .approvalRequired before after) :
    (after.globalRuling = .allowed → before.globalRuling = .allowed) ∧
      (after.agentRuling = .allowed → before.agentRuling = .allowed) := by
  obtain ⟨blocked, approval, allowed, refused, agentApproval⟩ := before
  obtain ⟨blockedAfter, approvalAfter, allowedAfter, refusedAfter, agentApprovalAfter⟩ := after
  obtain ⟨rfl, moreApproval, moreAgentApproval, rfl, rfl⟩ := grows
  revert blocked approval allowed refused agentApproval approvalAfter agentApprovalAfter
  decide

end ToolStanding

/-! ### The evaluation follows the standing -/

/-- The two levels that decide about the tools of an agent version. -/
structure PolicyLevels where
  config : PolicyConfig
  agentVersion : AgentVersion

/-- The items of a list of an agent's policy; what is no array has none. -/
def policyItems (value : Option Json) : List Json :=
  (value.bind Json.asArray).getD []

theorem policyListContains_eq (value : Option Json) (needle : String) :
    policyListContains value needle =
      (policyItems value).any fun item => decide (item.asStr = some needle) := by
  unfold policyListContains policyItems
  cases value.bind Json.asArray with
  | none => rfl
  | some items => rfl

theorem approvalRequiredRisk_isSome (value : Option Json) (name : String) :
    (approvalRequiredRisk value name).isSome =
      (policyItems value).any fun item => (approvalItemRisk name item).isSome := by
  unfold approvalRequiredRisk policyItems
  cases value.bind Json.asArray with
  | none => rfl
  | some items => exact List.isSome_findSome?

namespace PolicyLevels

def standing (levels : PolicyLevels) (name : String) : ToolStanding :=
  let policy := levels.agentVersion.approvalPolicy
  { blocked := levels.config.blockedTools.any fun tool => decide (tool = name)
    approval := levels.config.approvalRequired.any fun rule => decide (rule.tool = name)
    allowed := levels.config.allowedTools.any fun (_, tools) =>
      tools.any fun tool => decide (tool = name)
    refused := !agentVersionToolEnabled levels.agentVersion name ||
      (policyItems (policy.get "blocked_tools")).any
        (fun item => decide (item.asStr = some name)) ||
      (policy.get "allowed_tools").any fun allowedTools =>
        !policyListContains (some allowedTools) name
    agentApproval := (policyItems (policy.get "approval_required")).any fun item =>
      (approvalItemRisk name item).isSome }

variable (levels : PolicyLevels) (name : String) (args : Json)

def globalDecision : PolicyDecision :=
  (levels.config.evaluateToolWithArgs name args).decision

def agentDecision : PolicyDecision :=
  (levels.config.evaluateToolForAgentVersionWithArgs name args levels.agentVersion).decision

theorem globalDecision_eq :
    levels.globalDecision name args = (levels.standing name).globalRuling := by
  have asks : (levels.config.approvalRequired.any fun rule => decide (rule.tool = name)) =
      (levels.config.approvalRequired.find? fun rule => decide (rule.tool = name)).isSome :=
    List.isSome_find?.symm
  unfold globalDecision PolicyConfig.evaluateToolWithArgs ToolStanding.globalRuling standing
  dsimp only
  rw [asks]
  cases levels.config.blockedTools.any fun tool => decide (tool = name) with
  | true => rfl
  | false =>
      cases levels.config.approvalRequired.find? fun rule => decide (rule.tool = name) with
      | some rule => rfl
      | none =>
          cases levels.config.allowedTools.any fun entry =>
              entry.2.any fun tool => decide (tool = name) with
          | true => rfl
          | false => rfl

/-- What the agent's own policy decides, if it decides. -/
theorem evaluateAgentVersionPolicy_decision (agentVersion : AgentVersion) :
    (evaluateAgentVersionPolicy name agentVersion).map ToolPolicyDecision.decision =
      let policy := agentVersion.approvalPolicy
      if policyListContains (policy.get "blocked_tools") name ||
          (policy.get "allowed_tools").any
            (fun allowedTools => !policyListContains (some allowedTools) name) then
        some .denied
      else if (approvalRequiredRisk (policy.get "approval_required") name).isSome then
        some .requiresApproval
      else none := by
  unfold evaluateAgentVersionPolicy
  dsimp only
  cases policyListContains (agentVersion.approvalPolicy.get "blocked_tools") name with
  | true => rfl
  | false =>
      cases (agentVersion.approvalPolicy.get "allowed_tools").any
          fun allowedTools => !policyListContains (some allowedTools) name with
      | true => rfl
      | false =>
          cases approvalRequiredRisk (agentVersion.approvalPolicy.get "approval_required") name with
          | some risk => rfl
          | none => rfl

theorem agentDecision_eq :
    levels.agentDecision name args = (levels.standing name).agentRuling := by
  have ofGlobal := levels.globalDecision_eq name args
  have ofAgent := evaluateAgentVersionPolicy_decision name levels.agentVersion
  dsimp only at ofAgent
  rw [approvalRequiredRisk_isSome, policyListContains_eq _ name] at ofAgent
  unfold ToolStanding.agentRuling
  rw [← ofGlobal]
  unfold agentDecision globalDecision PolicyConfig.evaluateToolForAgentVersionWithArgs standing
  dsimp only
  cases levels.config.blockedTools.any fun tool => decide (tool = name) with
  | true => rfl
  | false =>
      cases agentVersionToolEnabled levels.agentVersion name with
      | false => rfl
      | true =>
          simp only [Bool.not_true, Bool.false_or, Bool.false_eq_true, if_false]
          cases decided : evaluateAgentVersionPolicy name levels.agentVersion with
          | none =>
              rw [decided, Option.map_none] at ofAgent
              split at ofAgent
              · cases ofAgent
              · rename_i notRefused
                rw [if_neg notRefused]
                split at ofAgent
                · cases ofAgent
                · rename_i noApproval
                  rw [if_neg noApproval]
          | some decision =>
              rw [decided, Option.map_some] at ofAgent
              split at ofAgent
              · rename_i refused
                rw [if_pos refused]
                exact Option.some.inj ofAgent
              · rename_i notRefused
                rw [if_neg notRefused]
                split at ofAgent
                · rename_i asksApproval
                  rw [if_pos asksApproval]
                  exact Option.some.inj ofAgent
                · cases ofAgent

end PolicyLevels

/-! ### More entries -/

/-- The list has one entry more, at any place. -/
def AddsEntry {Entry : Type} (before after : List Entry) : Prop :=
  ∃ front entry back, before = front ++ back ∧ after = front ++ entry :: back

theorem AddsEntry.any {Entry : Type} {before after : List Entry} (adds : AddsEntry before after)
    {names : Entry → Bool} (named : before.any names = true) : after.any names = true := by
  obtain ⟨front, entry, back, rfl, rfl⟩ := adds
  simp only [List.any_append, List.any_cons, Bool.or_eq_true] at named ⊢
  exact named.imp_right .inr

/-- The agent's policy with one entry more in the list of the key. -/
structure AddsToPolicy (key : String) (before after : Json) : Prop where
  adds : AddsEntry (policyItems (before.get key)) (policyItems (after.get key))
  others : ∀ other, other ≠ key → after.get other = before.get other

/-- One entry more in a list of either level. -/
inductive Adds : PolicyList → PolicyLevels → PolicyLevels → Prop
  | globalDenied {config : PolicyConfig} {agentVersion : AgentVersion} {blocked : List String}
      (adds : AddsEntry config.blockedTools blocked) :
      Adds .denied ⟨config, agentVersion⟩ ⟨{ config with blockedTools := blocked }, agentVersion⟩
  | globalApproval {config : PolicyConfig} {agentVersion : AgentVersion}
      {rules : List ApprovalRequiredRule} (adds : AddsEntry config.approvalRequired rules) :
      Adds .approvalRequired ⟨config, agentVersion⟩
        ⟨{ config with approvalRequired := rules }, agentVersion⟩
  | agentDenied {config : PolicyConfig} {agentVersion : AgentVersion} {policy : Json}
      (adds : AddsToPolicy "blocked_tools" agentVersion.approvalPolicy policy) :
      Adds .denied ⟨config, agentVersion⟩ ⟨config, { agentVersion with approvalPolicy := policy }⟩
  | agentApproval {config : PolicyConfig} {agentVersion : AgentVersion} {policy : Json}
      (adds : AddsToPolicy "approval_required" agentVersion.approvalPolicy policy) :
      Adds .approvalRequired ⟨config, agentVersion⟩
        ⟨config, { agentVersion with approvalPolicy := policy }⟩

theorem Adds.grows {list : PolicyList} {before after : PolicyLevels}
    (adds : Adds list before after) (name : String) :
    ToolStanding.Grows list (before.standing name) (after.standing name) := by
  cases adds with
  | globalDenied adds => exact ⟨rfl, adds.any, id, rfl, rfl⟩
  | globalApproval adds => exact ⟨rfl, adds.any, id, rfl, rfl⟩
  | agentDenied adds =>
      refine ⟨rfl, id, ?_, rfl, ?_⟩
      · simp only [PolicyLevels.standing, agentVersionToolEnabled, Bool.or_eq_true,
          adds.others "allowed_tools" (by decide)]
        rintro ((disabled | isBlocked) | notAllowed)
        · exact .inl (.inl disabled)
        · exact .inl (.inr (adds.adds.any isBlocked))
        · exact .inr notAllowed
      · simp only [PolicyLevels.standing, adds.others "approval_required" (by decide)]
  | agentApproval adds =>
      refine ⟨rfl, id, adds.adds.any, rfl, ?_⟩
      simp only [PolicyLevels.standing, agentVersionToolEnabled,
        adds.others "blocked_tools" (by decide), adds.others "allowed_tools" (by decide)]

/-! ### Both levels -/

/-- A global list names the tool. -/
def PolicyConfig.Lists (config : PolicyConfig) (name : String) : Prop :=
  name ∈ config.blockedTools ∨ (∃ rule ∈ config.approvalRequired, rule.tool = name) ∨
    ∃ entry ∈ config.allowedTools, name ∈ entry.2

theorem PolicyConfig.Lists.isListed {levels : PolicyLevels} {name : String}
    (lists : levels.config.Lists name) : (levels.standing name).isListed = true := by
  unfold PolicyConfig.Lists at lists
  simp only [ToolStanding.isListed, PolicyLevels.standing, Bool.or_eq_true, List.any_eq_true,
    decide_eq_true_eq]
  rcases lists with isBlocked | asksApproval | isAllowed
  · exact .inl (.inl ⟨name, isBlocked, rfl⟩)
  · exact .inl (.inr asksApproval)
  · obtain ⟨entry, member, allows⟩ := isAllowed
    exact .inr ⟨entry, member, name, allows, rfl⟩

/-- The agent's level and more entries only tighten what is decided about a tool that
a global list names, and never allow a tool that was not allowed; more entries
in a denied list tighten always. -/
theorem policy_levels_tighten (name : String) (args : Json) :
    (∀ levels : PolicyLevels,
      (levels.config.Lists name → levels.agentDecision name args ≤ levels.globalDecision name args) ∧
      (levels.agentDecision name args = .allowed → levels.globalDecision name args = .allowed)) ∧
    (∀ before after, Adds .denied before after →
      after.globalDecision name args ≤ before.globalDecision name args ∧
      after.agentDecision name args ≤ before.agentDecision name args) ∧
    ∀ before after, Adds .approvalRequired before after →
      (before.config.Lists name →
        after.globalDecision name args ≤ before.globalDecision name args ∧
        after.agentDecision name args ≤ before.agentDecision name args) ∧
      (after.globalDecision name args = .allowed → before.globalDecision name args = .allowed) ∧
      (after.agentDecision name args = .allowed → before.agentDecision name args = .allowed) := by
  simp only [PolicyLevels.globalDecision_eq, PolicyLevels.agentDecision_eq]
  refine ⟨fun levels => ⟨?_, ?_⟩, fun before after adds => ?_, fun before after adds => ⟨?_, ?_⟩⟩
  · exact fun lists => ToolStanding.agentRuling_le lists.isListed
  · exact ToolStanding.agentRuling_allowed
  · exact (adds.grows name).denied_le
  · exact fun lists => (adds.grows name).approvalRequired_le lists.isListed
  · exact (adds.grows name).approvalRequired_allowed

/-- The default configuration without its rule for `http.request`. -/
def withoutHttpRule : PolicyConfig :=
  { PolicyConfig.default with
    approvalRequired :=
      [⟨"shell.exec", "high"⟩, ⟨"codex.exec", "high"⟩, ⟨"agent_cli.exec", "high"⟩,
        ⟨"file.write", "medium"⟩] }

/-- A version that has a tool no global list names, and asks for approval of it. -/
def deployVersion : AgentVersion where
  id := 2
  agentId := 1
  version := 1
  tools := ["deploy.run"]
  toolNames := ["deploy.run"]
  approvalPolicy := .ofFields [("approval_required", .ofStrings ["deploy.run"])]

/-- With the default rule, `http.request` is decided no more freely for the version. -/
theorem deployVersion_tightens :
    PolicyLevels.agentDecision ⟨.default, deployVersion⟩ "http.request" .null ≤
      PolicyLevels.globalDecision ⟨.default, deployVersion⟩ "http.request" .null :=
  ((policy_levels_tighten "http.request" .null).1 ⟨.default, deployVersion⟩).1
    (.inr (.inl ⟨⟨"http.request", "high"⟩, by decide, rfl⟩))

/-- An approval list lifts the denial of a tool that no other global list names: the
one of the agent version, and the global one with a rule of the default. -/
theorem approval_entry_loosens :
    (¬PolicyLevels.agentDecision ⟨.default, deployVersion⟩ "deploy.run" .null ≤
      PolicyLevels.globalDecision ⟨.default, deployVersion⟩ "deploy.run" .null) ∧
    Adds .approvalRequired ⟨withoutHttpRule, deployVersion⟩ ⟨.default, deployVersion⟩ ∧
    ¬PolicyLevels.globalDecision ⟨.default, deployVersion⟩ "http.request" .null ≤
      PolicyLevels.globalDecision ⟨withoutHttpRule, deployVersion⟩ "http.request" .null := by
  refine ⟨by decide, ?_, by decide⟩
  exact .globalApproval ⟨withoutHttpRule.approvalRequired, ⟨"http.request", "high"⟩, [], rfl, rfl⟩

end MandoForge
