/-
Module: MandoForge.Ontology.ApiNames
Purpose: The names under which a release publishes its objects, properties, relations
  and actions: which names are allowed, how a label becomes one, and how a proposal
  keeps the name that a parent release gave to the same thing.
Trusted boundary: none
Main exports: OntologyOnboardingProposalDraft, validateApiName
-/
import MandoForge.Core.Records
import MandoForge.Data.Text

namespace MandoForge

/-- A proposal of an onboarding run, as far as a release reads it. -/
structure OntologyOnboardingProposalDraft where
  id : Uuid
  runId : Uuid
  proposalType : String
  name : String
  sourceMapping : String
  evidence : Json
  reviewStatus : String
  content : Json
deriving DecidableEq, Repr

inductive ApiNameKind where
  | object
  | property
  | relation
  | action
deriving DecidableEq, Repr

/-! ### Text -/

/-- `str::is_ascii`. -/
def isAsciiText (text : String) : Bool := text.toList.all fun c => decide (c.toNat < 128)

def containsDot (text : String) : Bool := text.toList.contains '.'

/-- `map(str::trim).filter(..)` of an explicit name: a blank one and a qualified one
count as missing. -/
def plainApiName (text : String) : Option String :=
  let trimmed := trim text
  if trimmed = "" ∨ containsDot trimmed then none else some trimmed

/-! ### Allowed names -/

def reservedApiNames : List String := [
  "as", "await", "break", "case", "catch", "class", "const", "continue", "debugger", "default",
  "delete", "do", "else", "enum", "export", "extends", "false", "finally", "for", "function",
  "if", "implements", "import", "in", "instanceof", "interface", "let", "new", "null",
  "package", "private", "protected", "public", "return", "static", "super", "switch", "this",
  "throw", "true", "try", "typeof", "undefined", "var", "void", "while", "with", "yield",
  "any", "boolean", "never", "number", "object", "readonly", "string", "symbol", "unknown",
  "keyof", "declare", "namespace", "module", "type", "satisfies"]

/-- The casing and character rules. -/
def followsApiNameRules (name : String) (kind : ApiNameKind) : Bool :=
  match name.toList with
  | [] => false
  | first :: rest =>
      first.isAlpha && decide ((first :: rest).length ≤ 64) &&
        (first :: rest).all Char.isAlphanum &&
        (if kind = .object then first.isUpper else first.isLower)

def validateApiName (name : String) (kind : ApiNameKind) : Except AppError String :=
  if !followsApiNameRules name kind then
    .error (.badRequest
      "ontology catalog api_name must use the strict ASCII v1 casing and character rules")
  else if toAsciiLowercase name ∈ reservedApiNames then
    .error (.badRequest ("ontology catalog api_name is reserved: " ++ name))
  else .ok name

theorem validateApiName_eq_ok {name valid : String} {kind : ApiNameKind}
    (validates : validateApiName name kind = .ok valid) : valid = name := by
  unfold validateApiName at validates
  split at validates
  · cases validates
  · split at validates
    · cases validates
    · exact (Except.ok.inj validates).symm

/-! ### Derived names -/

/-- One character of a label: the finished tokens and the one in the making. -/
def camelStep : List (List Char) × List Char → Char → List (List Char) × List Char
  | (tokens, token), c =>
      if c.isAlphanum then
        if c.isUpper && token.getLast?.any Char.isLower then (tokens ++ [token], [c.toLower])
        else (tokens, token ++ [c.toLower])
      else if token.isEmpty then (tokens, token)
      else (tokens ++ [token], [])

/-- The tokens of a label, in lower case. -/
def camelTokens (text : String) : List (List Char) :=
  let (tokens, token) := text.toList.foldl camelStep ([], [])
  if token.isEmpty then tokens else tokens ++ [token]

def capitalized : List Char → List Char
  | [] => []
  | first :: rest => first.toUpper :: rest

def camelApiName (value : String) (kind : ApiNameKind) : Except AppError String :=
  match camelTokens value with
  | [] =>
      .error (.badRequest "ontology catalog api_name cannot be derived from an empty label")
  | first :: rest =>
      let first := if kind = .object then capitalized first else first
      .ok (String.ofList (first ++ rest.flatMap capitalized))

/-! ### The name of a proposal -/

/-- `explicit_api_name`: of the content, or else of the evidence. -/
def explicitApiName (proposal : OntologyOnboardingProposalDraft) : Option String :=
  ((proposal.content.get "api_name" <|> proposal.content.get "apiName").bind Json.asStr) <|>
    ((proposal.evidence.get "api_name").bind Json.asStr) <|>
      ((proposal.evidence.get "apiName").bind Json.asStr)

/-- `choose_api_name`: an inherited name stands, an explicit one comes next, and else the
label decides. -/
def chooseApiName (proposal : OntologyOnboardingProposalDraft)
    (explicit inherited : Option String) (fallback : String) (kind : ApiNameKind) :
    Except AppError String :=
  match inherited with
  | some inherited => do
      let inherited ← validateApiName inherited kind
      if (explicit.bind plainApiName).any fun explicit => decide (explicit ≠ inherited) then
        throw (.badRequest
          "ontology catalog api_name cannot change an inherited parent release name")
      else return inherited
  | none =>
      match explicit.bind plainApiName with
      | some explicit => validateApiName explicit kind
      | none =>
          if !isAsciiText fallback then
            .error (.badRequest ("ontology " ++ proposal.proposalType ++
              " requires an explicit ASCII api_name when its label is non-ASCII"))
          else do
            let name ← camelApiName fallback kind
            validateApiName name kind

theorem chooseApiName_inherited {proposal : OntologyOnboardingProposalDraft}
    {explicit : Option String} {inherited fallback name : String} {kind : ApiNameKind}
    (chosen : chooseApiName proposal explicit (some inherited) fallback kind = .ok name) :
    name = inherited := by
  simp only [chooseApiName] at chosen
  cases validates : validateApiName inherited kind with
  | error error => rw [validates] at chosen; cases chosen
  | ok valid =>
      rw [validates] at chosen
      obtain rfl := validateApiName_eq_ok validates
      simp only [bind, Except.bind] at chosen
      split at chosen
      · cases chosen
      · exact (Except.ok.inj chosen).symm

def requiredContentString (proposal : OntologyOnboardingProposalDraft) (key kind : String) :
    Except AppError String :=
  match ((proposal.content.get key).bind Json.asStr).bind nonEmptyTrimmed with
  | some text => .ok text
  | none => .error (.badRequest (kind ++ " proposal missing " ++ key))

end MandoForge
