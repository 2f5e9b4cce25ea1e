/-
Module: MandoForge.Policy.Evaluation
Purpose: What the policy decides about a tool, by the global configuration alone
  and for one version of an agent, whose own policy is arbitrary JSON.
Trusted boundary: the allowed tools are a hash map in the source; the evaluation
  only asks whether some list of it has the tool, so a list stands for it.
Main exports: PolicyDecision, PolicyConfig
-/
import MandoForge.Core.Records

namespace MandoForge

/-- The three decisions; the source keeps them as strings. -/
inductive PolicyDecision where
  | denied
  | requiresApproval
  | allowed
deriving DecidableEq, Repr

structure ToolPolicyDecision where
  decision : PolicyDecision
  riskLevel : String
  reason : String
deriving DecidableEq, Repr

structure ApprovalRequiredRule where
  tool : String
  risk : String
deriving DecidableEq, Repr

structure PolicyConfig where
  blockedTools : List String
  approvalRequired : List ApprovalRequiredRule
  allowedTools : List (String × List String)
deriving DecidableEq, Repr

/-- `PolicyConfig::default`. -/
def PolicyConfig.default : PolicyConfig where
  blockedTools :=
    ["secret.read", "production_db.write", "system.network.unrestricted",
      "shell.exec.unrestricted"]
  approvalRequired :=
    [⟨"shell.exec", "high"⟩, ⟨"codex.exec", "high"⟩, ⟨"agent_cli.exec", "high"⟩,
      ⟨"file.write", "medium"⟩, ⟨"http.request", "high"⟩]
  allowedTools :=
    [("generic-orchestrator-agent",
      ["file.read", "file.write", "sql.get_schema", "sql.query", "shell.exec", "codex.exec",
        "agent_cli.exec", "approval.request", "artifact.create", "mcp.call",
        "native.connector.call", "semantic_object.fetch", "semantic_object.search",
        "semantic_link.expand", "ontology.action.execute", "ontology_type.lookup"])]

def toolRiskLevel (name : String) : String :=
  if name ∈ ["file.read", "sql.get_schema", "approval.request", "artifact.create",
      "semantic_object.fetch", "semantic_object.search", "semantic_link.expand",
      "ontology_type.lookup"] then "low"
  else if name ∈ ["file.write", "sql.query", "ontology.action.execute"] then "medium"
  else if name ∈ ["shell.exec", "codex.exec", "agent_cli.exec", "http.request", "mcp.call",
      "native.connector.call"] then "high"
  else "unknown"

/-- `evaluate_tool_with_args`; it does not look at the arguments. -/
def PolicyConfig.evaluateToolWithArgs (config : PolicyConfig) (name : String) (_args : Json) :
    ToolPolicyDecision :=
  if config.blockedTools.any fun tool => decide (tool = name) then
    { decision := .denied
      riskLevel := toolRiskLevel name
      reason := name ++ " is blocked by config/policy.stage1.yaml" }
  else
    match config.approvalRequired.find? fun rule => decide (rule.tool = name) with
    | some rule =>
        { decision := .requiresApproval
          riskLevel := rule.risk
          reason := name ++ " requires approval by config/policy.stage1.yaml" }
    | none =>
        if config.allowedTools.any fun (_, tools) => tools.any fun tool => decide (tool = name) then
          { decision := .allowed
            riskLevel := toolRiskLevel name
            reason := name ++ " is allowed by config/policy.stage1.yaml" }
        else
          { decision := .denied
            riskLevel := "unknown"
            reason := name ++ " is not allowed by config/policy.stage1.yaml" }

/-! ### The policy of an agent version -/

def agentVersionToolEnabled (agentVersion : AgentVersion) (name : String) : Bool :=
  agentVersion.toolNames.any (fun tool => decide (tool = name)) ||
    agentVersion.tools.any fun tool => decide (tool = name)

/-- `json_string_array_contains` of the policy: no wildcard. -/
def policyListContains (value : Option Json) (needle : String) : Bool :=
  (value.bind Json.asArray).any fun items =>
    items.any fun item => decide (item.asStr = some needle)

/-- What an item of an approval list says about the tool: the tool's name alone,
or an object that may state a risk. -/
def approvalItemRisk (name : String) (item : Json) : Option String :=
  if item.asStr = some name then some (toolRiskLevel name)
  else
    match (item.get "tool").bind Json.asStr with
    | none => none
    | some tool =>
        if tool = name then
          some (((item.get "risk").bind Json.asStr).getD (toolRiskLevel name))
        else none

def approvalRequiredRisk (value : Option Json) (name : String) : Option String :=
  (value.bind Json.asArray).bind fun items => items.findSome? (approvalItemRisk name)

def evaluateAgentVersionPolicy (name : String) (agentVersion : AgentVersion) :
    Option ToolPolicyDecision :=
  let policy := agentVersion.approvalPolicy
  let version := toString agentVersion.version
  if policyListContains (policy.get "blocked_tools") name then
    some
      { decision := .denied
        riskLevel := toolRiskLevel name
        reason := name ++ " is blocked by agent version " ++ version ++ " policy" }
  else if (policy.get "allowed_tools").any fun allowedTools =>
      !policyListContains (some allowedTools) name then
    some
      { decision := .denied
        riskLevel := toolRiskLevel name
        reason := name ++ " is not allowed by agent version " ++ version ++ " policy" }
  else
    match approvalRequiredRisk (policy.get "approval_required") name with
    | some risk =>
        some
          { decision := .requiresApproval
            riskLevel := risk
            reason := name ++ " requires approval by agent version " ++ version ++ " policy" }
    | none => none

def PolicyConfig.evaluateToolForAgentVersionWithArgs (config : PolicyConfig) (name : String)
    (args : Json) (agentVersion : AgentVersion) : ToolPolicyDecision :=
  if config.blockedTools.any fun tool => decide (tool = name) then
    { decision := .denied
      riskLevel := toolRiskLevel name
      reason := name ++ " is blocked by config/policy.stage1.yaml" }
  else if !agentVersionToolEnabled agentVersion name then
    { decision := .denied
      riskLevel := toolRiskLevel name
      reason := name ++ " is not enabled for agent version " ++ toString agentVersion.version }
  else
    -- A decision of the agent's policy stands, whatever the global lists say.
    match evaluateAgentVersionPolicy name agentVersion with
    | some decision => decision
    | none => config.evaluateToolWithArgs name args

end MandoForge
