/-
Module: MandoForge.Approval.CommitBinding
Purpose: What an approval of a committing call is bound to: the digest of the
  call's arguments and the target they name.
Trusted boundary: hashing and the printing of instants belong to other crates; a
  `RecordCodec` stands for them.
Main exports: RecordCodec, ApprovalCommitBinding
-/
import MandoForge.TaskGrant.Authority

namespace MandoForge

/-- What the records take from other crates. -/
structure RecordCodec where
  /-- `deterministic_record_id`: a digest of the namespace, the kind and the parts. -/
  recordId : Uuid → String → List String → Uuid
  /-- `normalized_json_sha256`: the digest of the printed value. -/
  jsonSha256 : Json → String
  /-- `json!` of an instant. -/
  printTimestamp : Timestamp → String

def nativeConnectorToolName (toolName : String) : Bool :=
  decide (toolName = "native.connector.call") || "native.".toList.isPrefixOf toolName.toList

def taskGrantRequiresApprovalCommitToken (grant : TaskGrant) (toolName : String) : Bool :=
  decide ((grant.connectorScope.get "mode").bind Json.asStr = some "commit_write") &&
    (decide (toolName = "mcp.call") || nativeConnectorToolName toolName ||
      jsonStringArrayContains (grant.toolScope.get "external_write") toolName)

structure ApprovalCommitBinding where
  normalizedArgsHash : String
  targetBinding : Json
deriving DecidableEq, Repr

/-- Copy the listed keys that the object has. -/
def copyFields (keys : List String) (object : Json) (fields : List (String × Json)) :
    List (String × Json) :=
  keys.foldl (fun fields key =>
    match object.get key with
    | some value => Json.insertField key value fields
    | none => fields) fields

/-- The digest of the content: the one the object states, or one of the first text
field that the payload has. -/
def insertContentDigest (jsonSha256 : Json → String) (object payload : Json)
    (fields : List (String × Json)) : List (String × Json) :=
  match object.get "content_digest" with
  | some digest => Json.insertField "content_digest" digest fields
  | none =>
      match ["content", "body", "text", "message", "post", "creative", "caption"].findSome?
          payload.get with
      | some content =>
          Json.insertField "content_digest" (.string (jsonSha256 content)) fields
      | none => fields

def mcpCallTargetBinding (jsonSha256 : Json → String) (args : Json) : Except AppError Json := do
  let request ← mcpCallRequest args
  let named := Json.insertFields
    [("server", .string request.server), ("tool", .string request.tool)] []
  if request.args.isObject then
    let digested :=
      Json.insertField "payload_digest" (.string (jsonSha256 request.args)) named
    let copied := copyFields
      ["side_effect_class", "account", "channel", "recipient", "resource_id", "campaign_id",
        "ad_account_id", "amount", "amount_usd", "currency", "spend_limit", "spend_limit_usd",
        "context_packet_id"] request.args digested
    return .object (insertContentDigest jsonSha256 request.args request.args copied)
  else return .object named

def nativeConnectorTargetBinding (jsonSha256 : Json → String) (toolName : String) (args : Json) :
    Except AppError Json := do
  let target ← nativeConnectorCallTarget args
  let payload := (args.get "payload").getD args
  let named := Json.insertFields
    [("tool", .string toolName), ("connector_id", .string target.connectorId),
      ("operation", .string target.operation),
      ("side_effect_class", .string target.sideEffectClass),
      ("payload_digest", .string (jsonSha256 payload))] []
  let copied := copyFields
    ["account", "resource_id", "campaign_id", "ad_account_id", "amount", "amount_usd", "currency",
      "spend_limit", "spend_limit_usd", "context_packet_id"] args named
  return .object (insertContentDigest jsonSha256 args payload copied)

def connectorTargetBinding (jsonSha256 : Json → String) (toolName : String) (args : Json) :
    Except AppError Json :=
  if toolName = "mcp.call" then mcpCallTargetBinding jsonSha256 args
  else nativeConnectorTargetBinding jsonSha256 toolName args

def approvalCommitBindingForArgs (jsonSha256 : Json → String) (toolName : String) (args : Json) :
    Except AppError ApprovalCommitBinding := do
  let targetBinding ← connectorTargetBinding jsonSha256 toolName args
  return { normalizedArgsHash := jsonSha256 args, targetBinding }

def ontologyActionNameFromArgs (args : Json) : Except AppError String :=
  requiredText (args.get "action" <|> args.get "action_name") "ontology action requires action"

end MandoForge
