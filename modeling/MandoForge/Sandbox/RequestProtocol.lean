/-
Module: MandoForge.Sandbox.RequestProtocol
Purpose: The requests that the control plane sends to the sandbox runtime: what a valid
  request is, how it is written as one line, and how a line is read.
Trusted boundary: the JSON library; a `RequestDecoder` stands for the part that reads.
  The readers follow the documented behaviour of its derived deserializers.  Reading the
  input does not fail.
Main exports: SandboxRuntimeRequest, SandboxRuntimeRequest.toStdinBytes
-/
import MandoForge.Core.Records
import MandoForge.Data.JsonRecord
import MandoForge.Data.JsonText
import MandoForge.Foundation.OrderedMap
import MandoForge.Foundation.Outcome
import MandoForge.Sandbox.WorkspaceFiles
import Mathlib.Data.String.Basic

namespace MandoForge

open Foundation

/-! ### Requests -/

inductive SandboxRuntimeOperation where
  | shell (command : String)
  | fileWrite (path content : String)
  | codex (task sandboxMode : String)
  | agentCli (executable : String) (args : List String) (task profile : String)
deriving DecidableEq, Repr

structure SandboxRuntimeRequest where
  version : String
  sessionId : Uuid
  workspacePath : String
  timeoutSeconds : UInt64
  environment : OrderedMap String String
  operation : SandboxRuntimeOperation

def sandboxRuntimeProtocolVersion : String := "v1"

def maxSandboxRuntimeEnvelopeBytes : Nat := 4 * 1024 * 1024

def maxTextBytes : Nat := 2 * 1024 * 1024

def maxEnvironmentEntries : Nat := 128

def maxArguments : Nat := 256

def maxArgumentBytes : Nat := 16 * 1024

def trustedAgentCliDirectories : List String := ["/usr/bin", "/usr/local/bin"]

/-! ### Validation -/

/-- `value.contains('\0')`. -/
def containsNull (value : String) : Bool := decide (Char.ofNat 0 ∈ value.toList)

def validateText (label value : String) (allowEmpty : Bool) : Except String Unit := do
  if allowEmpty = false ∧ trim value = "" then throw (label ++ " must not be empty")
  if maxTextBytes < value.utf8ByteSize then
    throw (label ++ " exceeds " ++ Nat.repr maxTextBytes ++ " bytes")
  if containsNull value then throw (label ++ " contains a null byte")

def validEnvironmentKey (key : String) : Bool :=
  match key.toList with
  | [] => false
  | first :: rest =>
      (decide (first = '_') || first.isAlpha) &&
        rest.all fun character => decide (character = '_') || character.isAlphanum

def launcherOwnedEnvironmentKey (key : String) : Bool :=
  decide (key ∈ [
    "HOME", "PWD", "PATH", "CARGO_HOME", "CARGO_TARGET_DIR", "MANDOFORGE_SESSION_ID",
    "MANDOFORGE_SHARED_CARGO_CACHE_ROOT", "PNPM_STORE_DIR", "RUSTC_WRAPPER", "SCCACHE_DIR",
    "UV_CACHE_DIR"]) ||
  decide ("LD_".toList <+: key.toList) || decide ("DYLD_".toList <+: key.toList)

def validateEnvironment (environment : OrderedMap String String) : Except String Unit := do
  if maxEnvironmentEntries < environment.entries.length then
    throw ("sandbox runtime environment exceeds " ++ Nat.repr maxEnvironmentEntries ++ " entries")
  environment.entries.forM fun (key, value) => do
    if validEnvironmentKey key = false then
      throw ("invalid sandbox runtime environment key: " ++ key)
    if launcherOwnedEnvironmentKey key then
      throw ("sandbox runtime environment key is launcher-owned: " ++ key)
    if containsNull value then
      throw ("sandbox runtime environment value contains a null byte: " ++ key)
    if maxTextBytes < value.utf8ByteSize then
      throw ("sandbox runtime environment value is too large: " ++ key)

/-- The pieces of a path up to its last component: behind the first piece, blank ones and
dots at the end do not count. -/
def withoutInertEnd (pieces : List String) : List String :=
  (pieces.reverse.dropWhile fun piece => decide (piece ∈ ["", "."])).reverse

/-- `Path::parent`, as text. -/
def pathParent (path : String) : Option String :=
  match (splitChars '/' path.toList).map String.ofList with
  | [] => none
  | first :: pieces =>
      match withoutInertEnd pieces with
      | [] => if first = "" then none else some ""
      | kept =>
          match withoutInertEnd kept.dropLast with
          | [] => some (if first = "" then "/" else first)
          | above => some ("/".intercalate (first :: above))

/-- `Path::file_name`, as text. -/
def pathFileName (path : String) : Option String :=
  match (pathComponents path).getLast? with
  | some (.normal name) => some name
  | _ => none

def safeBasename (value : String) : Bool :=
  decide (value ≠ "") && decide (value.utf8ByteSize ≤ 128) && value.toList.all fun character =>
    character.isAlphanum || decide (character ∈ ['_', '-', '.'])

def validateExecutable (executable : String) : Except String Unit :=
  if safeBasename executable then .ok ()
  else if ((pathParent executable).any fun parent => decide (parent ∈ trustedAgentCliDirectories)) &&
      (pathFileName executable).any safeBasename then .ok ()
  else .error "agent CLI executable must be a safe basename or trusted absolute path"

def validateArguments (arguments : List String) : Except String Unit := do
  if maxArguments < arguments.length then
    throw ("agent CLI arguments exceed " ++ Nat.repr maxArguments ++ " entries")
  if arguments.any containsNull then throw "agent CLI argument contains a null byte"
  if arguments.any fun argument => decide (maxArgumentBytes < argument.utf8ByteSize) then
    throw ("agent CLI argument exceeds " ++ Nat.repr maxArgumentBytes ++ " bytes")

def validSafeName (value : String) : Bool :=
  decide (value ≠ "") && value.toList.all fun character =>
    character.isAlphanum || decide (character ∈ ['_', '-'])

def SandboxRuntimeOperation.validate : SandboxRuntimeOperation → Except String Unit
  | .shell command => validateText "shell command" command false
  | .fileWrite path content => do
      validateRelativeFilePath path
      validateText "file content" content true
  | .codex task sandboxMode => do
      validateText "Codex task" task false
      if sandboxMode ∉ ["read-only", "workspace-write"] then
        throw "Codex sandbox_mode is not supported"
  | .agentCli executable args task profile => do
      validateExecutable executable
      validateArguments args
      validateText "agent CLI task" task false
      if validSafeName profile = false then
        throw "agent CLI profile must be an allowlist-safe name"

def SandboxRuntimeRequest.validate (request : SandboxRuntimeRequest) : Except String Unit := do
  if request.version ≠ sandboxRuntimeProtocolVersion then
    throw "unsupported sandbox runtime protocol version"
  let expectedWorkspace := "/workspace/sessions/" ++ Nat.repr request.sessionId
  if request.workspacePath ≠ expectedWorkspace then
    throw ("workspace_path must equal /workspace/sessions/<session_id>: expected " ++
      expectedWorkspace)
  if ¬(1 ≤ request.timeoutSeconds ∧ request.timeoutSeconds ≤ 900) then
    throw "timeout_seconds must be between 1 and 900"
  validateEnvironment request.environment
  request.operation.validate

/-! ### Writing -/

/-- `text.as_bytes()`. -/
def utf8Bytes (text : String) : List UInt8 := text.toList.flatMap String.utf8EncodeChar

/-- The byte that ends a line. -/
def newline : UInt8 := 10

/-- The operation under its tag. -/
def SandboxRuntimeOperation.write : SandboxRuntimeOperation → Json
  | .shell command => .object [("type", .string "shell"), ("command", .string command)]
  | .fileWrite path content => .object [
      ("type", .string "file_write"), ("path", .string path), ("content", .string content)]
  | .codex task sandboxMode => .object [
      ("type", .string "codex"), ("task", .string task), ("sandbox_mode", .string sandboxMode)]
  | .agentCli executable args task profile => .object [
      ("type", .string "agent_cli"), ("executable", .string executable),
      ("args", .ofStrings args), ("task", .string task), ("profile", .string profile)]

def SandboxRuntimeRequest.write (request : SandboxRuntimeRequest) : Json := .object [
  ("version", .string request.version),
  ("session_id", .ofUuid request.sessionId),
  ("workspace_path", .string request.workspacePath),
  ("timeout_seconds", .number (.posInt request.timeoutSeconds)),
  ("environment", .object (request.environment.entries.map fun entry =>
    (entry.1, .string entry.2))),
  ("operation", request.operation.write)]

/-- The line of a request, which holds no float. -/
def SandboxRuntimeRequest.frame (request : SandboxRuntimeRequest) : List UInt8 :=
  utf8Bytes (compactJson (fun _ => "") request.write) ++ [newline]

def SandboxRuntimeRequest.toStdinBytes (request : SandboxRuntimeRequest) :
    Except String (List UInt8) := do
  request.validate
  if maxSandboxRuntimeEnvelopeBytes < request.frame.length then
    throw ("sandbox runtime request exceeds " ++ Nat.repr maxSandboxRuntimeEnvelopeBytes ++
      " bytes")
  return request.frame

/-! ### Reading -/

/-- The values of a record's fields, where the fields of the layout are the only ones and
no field comes twice. -/
def Json.strictFields (layout : List String) : Json → Option (List (Option Json))
  | .object fields =>
      if (fields.map Prod.fst).Nodup ∧ ∀ field ∈ fields, field.1 ∈ layout then
        some (layout.map (Json.getField · fields))
      else none
  | .array items =>
      if items.length ≤ layout.length then
        some (items.map some ++ List.replicate (layout.length - items.length) none)
      else none
  | _ => none

/-- The tag of a value and the rest of it. -/
def Json.tagged (tag : String) : Json → Option (String × Json)
  | .object fields =>
      match fields.filter fun field => decide (field.1 = tag) with
      | [(_, .string kind)] =>
          some (kind, .object (fields.filter fun field => decide (field.1 ≠ tag)))
      | _ => none
  | .array (.string kind :: rest) => some (kind, .array rest)
  | _ => none

def SandboxRuntimeOperation.read (value : Json) : Option SandboxRuntimeOperation := do
  let (kind, content) ← value.tagged "type"
  match kind with
  | "shell" =>
      match ← content.strictFields ["command"] with
      | [command] => return .shell (← Json.readString command)
      | _ => none
  | "file_write" =>
      match ← content.strictFields ["path", "content"] with
      | [path, content] => return .fileWrite (← Json.readString path) (← Json.readString content)
      | _ => none
  | "codex" =>
      match ← content.strictFields ["task", "sandbox_mode"] with
      | [task, sandboxMode] =>
          return .codex (← Json.readString task) (← Json.readString sandboxMode)
      | _ => none
  | "agent_cli" =>
      match ← content.strictFields ["executable", "args", "task", "profile"] with
      | [executable, args, task, profile] =>
          return .agentCli (← Json.readString executable)
            (← Json.readList Json.asStr (args <|> some (.array []))) (← Json.readString task)
            (← Json.readString profile)
      | _ => none
  | _ => none

/-- A map of texts; the later of two values of one key stays. -/
def Json.readTexts : Json → Option (OrderedMap String String)
  | .object fields => do
      let entries ← fields.mapM fun field => do return (field.1, ← field.2.asStr)
      return .ofEntries entries
  | _ => none

def Json.readUnsigned (field : Option Json) : Option UInt64 :=
  match field with
  | some (.number (.posInt value)) => some value
  | _ => none

def SandboxRuntimeRequest.read (parseUuid : String → Option Uuid) (value : Json) :
    Option SandboxRuntimeRequest := do
  match ← value.strictFields ["version", "session_id", "workspace_path", "timeout_seconds",
      "environment", "operation"] with
  | [version, sessionId, workspacePath, timeoutSeconds, environment, operation] =>
      return {
        version := ← Json.readString version
        sessionId := ← (Json.readString sessionId).bind parseUuid
        workspacePath := ← Json.readString workspacePath
        timeoutSeconds := ← Json.readUnsigned timeoutSeconds
        environment := ← (environment.getD (.object [])).readTexts
        operation := ← operation.bind SandboxRuntimeOperation.read }
  | _ => none

/-- The part of the JSON library that reads: the value of a text, with the fields of an
object as they come; identifiers; and what it says about a text that is no request. -/
structure RequestDecoder where
  parse : List UInt8 → Option Json
  parseUuid : String → Option Uuid
  describe : List UInt8 → String

variable (decoder : RequestDecoder)

def parseSandboxRuntimeRequest (input : List UInt8) : Except String SandboxRuntimeRequest := do
  if input = [] then throw "sandbox runtime request is empty"
  if maxSandboxRuntimeEnvelopeBytes < input.length then
    throw ("sandbox runtime request exceeds " ++ Nat.repr maxSandboxRuntimeEnvelopeBytes ++
      " bytes")
  let request ← okOr ((decoder.parse input).bind (SandboxRuntimeRequest.read decoder.parseUuid))
    ("invalid sandbox runtime request JSON: " ++ decoder.describe input)
  request.validate
  return request

/-- `read_until`: up to the delimiter, which is taken along. -/
def readUntil (delimiter : UInt8) : List UInt8 → List UInt8
  | [] => []
  | byte :: rest => if byte = delimiter then [byte] else byte :: readUntil delimiter rest

def readRequestFromStdin (stdin : List UInt8) : Except String SandboxRuntimeRequest := do
  let input := readUntil newline (stdin.take (maxSandboxRuntimeEnvelopeBytes + 1))
  if input.getLast? ≠ some newline then
    throw "sandbox runtime request must be newline terminated"
  parseSandboxRuntimeRequest decoder input

end MandoForge
