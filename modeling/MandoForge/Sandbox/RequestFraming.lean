/-
Module: MandoForge.Sandbox.RequestFraming
Purpose: A request that is written as a line is read back as it was, whatever follows the
  line.
Trusted boundary: as in `RequestProtocol`; `ReadsJson` says what is asked of the library.
Main exports: RequestDecoder.ReadsJson, sandbox_requests_round_trip
-/
import MandoForge.Sandbox.RequestProtocol

namespace MandoForge

open Foundation

/-! ### Nesting -/

namespace Json

mutual

/-- How deep arrays and objects are nested in the value. -/
def nesting : Json → Nat
  | .array items => itemsNesting items + 1
  | .object fields => fieldsNesting fields + 1
  | _ => 0

def itemsNesting : List Json → Nat
  | [] => 0
  | item :: rest => max (nesting item) (itemsNesting rest)

def fieldsNesting : List (String × Json) → Nat
  | [] => 0
  | (_, value) :: rest => max (nesting value) (fieldsNesting rest)

end

theorem itemsNesting_ofStrings (values : List String) :
    itemsNesting (values.map .string) = 0 := by
  induction values with
  | nil => rfl
  | cons value rest inductionHypothesis =>
      rw [List.map_cons, itemsNesting, inductionHypothesis]
      rfl

theorem fieldsNesting_texts (entries : List (String × String)) :
    fieldsNesting (entries.map fun entry => (entry.1, .string entry.2)) = 0 := by
  induction entries with
  | nil => rfl
  | cons entry rest inductionHypothesis =>
      rw [List.map_cons, fieldsNesting, inductionHypothesis]
      rfl

end Json

/-- Identifiers are read as they are printed, and so are values of integers that the reader
does not find too deep. -/
structure RequestDecoder.ReadsJson (decoder : RequestDecoder) : Prop where
  uuid : ∀ id : Uuid, decoder.parseUuid (Nat.repr id) = some id
  text : ∀ value : Json, value.integersOnly = true → value.nesting < 128 →
    decoder.parse (utf8Bytes (compactJson (fun _ => "") value) ++ [newline]) = some value

/-! ### Lines -/

/-- A byte below 128 stands for its own character. -/
theorem toNat_of_mem_utf8EncodeChar {c : Char} {byte : UInt8}
    (member : byte ∈ String.utf8EncodeChar c) (ascii : byte.toNat < 128) :
    byte.toNat = c.toNat := by
  have value : c.toNat = c.val.toNat := rfl
  rw [value]
  simp only [String.utf8EncodeChar] at member
  split at member
  next small =>
    obtain rfl := List.mem_singleton.mp member
    rw [UInt8.toNat_ofNat']
    omega
  next =>
    exfalso
    split at member
    · simp only [List.mem_cons, List.not_mem_nil, or_false] at member
      rcases member with rfl | rfl <;> simp only [UInt8.toNat_ofNat'] at ascii <;> omega
    · split at member
      · simp only [List.mem_cons, List.not_mem_nil, or_false] at member
        rcases member with rfl | rfl | rfl <;> simp only [UInt8.toNat_ofNat'] at ascii <;> omega
      · simp only [List.mem_cons, List.not_mem_nil, or_false] at member
        rcases member with rfl | rfl | rfl | rfl <;> simp only [UInt8.toNat_ofNat'] at ascii <;>
          omega

theorem newline_notMem_utf8Bytes {text : String} (printable : Printable text.toList) :
    newline ∉ utf8Bytes text := by
  intro member
  obtain ⟨c, inText, inChar⟩ := List.mem_flatMap.mp member
  have same := toNat_of_mem_utf8EncodeChar inChar (by decide)
  have visible := printable c inText
  rw [← same] at visible
  exact absurd visible (by decide)

theorem readUntil_append {line rest : List UInt8} {delimiter : UInt8} (one : delimiter ∉ line) :
    readUntil delimiter (line ++ [delimiter] ++ rest) = line ++ [delimiter] := by
  induction line with
  | nil => simp [readUntil]
  | cons byte line inductionHypothesis =>
      rw [List.mem_cons, not_or] at one
      obtain ⟨different, one⟩ := one
      rw [List.cons_append, List.cons_append, readUntil, if_neg (Ne.symm different),
        inductionHypothesis one]

/-! ### Reading what is written -/

theorem Json.strictFields_object {fields : List (String × Json)}
    (distinct : (fields.map Prod.fst).Nodup) :
    Json.strictFields (fields.map Prod.fst) (.object fields) =
      some (fields.map fun field => some field.2) := by
  rw [Json.strictFields, if_pos ⟨distinct, fun field member => List.mem_map_of_mem member⟩,
    List.map_map]
  exact congrArg some (List.map_congr_left fun field member =>
    Json.getField_of_mem distinct member)

theorem SandboxRuntimeOperation.read_write (operation : SandboxRuntimeOperation) :
    read operation.write = some operation := by
  cases operation with
  | shell command =>
      simp [read, write, Json.tagged, Json.strictFields, Json.getField, Json.readString, Json.asStr]
  | fileWrite path content =>
      simp [read, write, Json.tagged, Json.strictFields, Json.getField, Json.readString, Json.asStr]
  | codex task sandboxMode =>
      simp [read, write, Json.tagged, Json.strictFields, Json.getField, Json.readString, Json.asStr]
  | agentCli executable args task profile =>
      have readArgs := @Json.readList_map String Json.asStr Json.string (fun _ => rfl) args
      simp [read, write, Json.tagged, Json.strictFields, Json.getField, Json.readString,
        Json.asStr, Json.ofStrings, readArgs]

theorem Json.readTexts_entries (texts : OrderedMap String String) :
    (Json.object (texts.entries.map fun entry => (entry.1, Json.string entry.2))).readTexts =
      some texts := by
  have each (entries : List (String × String)) :
      (entries.map fun entry => (entry.1, Json.string entry.2)).mapM
        (fun field => do return (field.1, ← field.2.asStr)) = some entries := by
    induction entries with
    | nil => rfl
    | cons entry rest inductionHypothesis =>
        rw [List.map_cons, List.mapM_cons, inductionHypothesis]
        rfl
  rw [Json.readTexts, each]
  exact congrArg some texts.ofEntries_entries

theorem SandboxRuntimeRequest.read_write {parseUuid : String → Option Uuid}
    (readsUuids : ∀ id : Uuid, parseUuid (Nat.repr id) = some id)
    (request : SandboxRuntimeRequest) : read parseUuid request.write = some request := by
  obtain ⟨fields, written, layout, values⟩ : ∃ fields, request.write = .object fields ∧
      fields.map Prod.fst = ["version", "session_id", "workspace_path", "timeout_seconds",
        "environment", "operation"] ∧
      (fields.map fun field => some field.2) = [some (.string request.version),
        some (.ofUuid request.sessionId), some (.string request.workspacePath),
        some (.number (.posInt request.timeoutSeconds)),
        some (.object (request.environment.entries.map fun entry => (entry.1, .string entry.2))),
        some request.operation.write] := ⟨_, rfl, rfl, rfl⟩
  have inside := @Json.strictFields_object fields (by rw [layout]; decide)
  rw [layout, values] at inside
  rw [read, written, inside]
  simp only [bind, Option.bind, Json.readString, Json.asStr, Json.ofUuid, readsUuids,
    Json.readUnsigned, Option.getD, Json.readTexts_entries, SandboxRuntimeOperation.read_write]
  rfl

theorem SandboxRuntimeOperation.write_plain (operation : SandboxRuntimeOperation) :
    operation.write.integersOnly = true ∧ operation.write.nesting ≤ 2 := by
  cases operation with
  | agentCli executable args task profile =>
      have argsIntegers : Json.itemsIntegersOnly (args.map Json.string) = true :=
        Json.itemsIntegersOnly_iff.mpr (List.forall_mem_map.mpr fun _ _ => rfl)
      simp [write, Json.integersOnly, Json.fieldsIntegersOnly, Json.ofStrings, argsIntegers,
        Json.nesting, Json.fieldsNesting, Json.itemsNesting_ofStrings]
  | _ =>
      simp [write, Json.integersOnly, Json.fieldsIntegersOnly, Json.nesting, Json.fieldsNesting]

theorem SandboxRuntimeRequest.write_plain (request : SandboxRuntimeRequest) :
    request.write.integersOnly = true ∧ request.write.nesting < 128 := by
  obtain ⟨integers, shallow⟩ := request.operation.write_plain
  have texts : Json.fieldsIntegersOnly
      (request.environment.entries.map fun entry => (entry.1, Json.string entry.2)) = true :=
    Json.fieldsIntegersOnly_iff.mpr (List.forall_mem_map.mpr fun _ _ => rfl)
  constructor
  · simp [write, Json.integersOnly, Json.fieldsIntegersOnly, Json.ofUuid, texts, integers]
  · simp only [write, Json.nesting, Json.fieldsNesting, Json.ofUuid, Json.fieldsNesting_texts]
    omega

/-! ### Frames -/

theorem SandboxRuntimeRequest.newline_notMem (request : SandboxRuntimeRequest) :
    newline ∉ utf8Bytes (compactJson (fun _ => "") request.write) :=
  newline_notMem_utf8Bytes (printable_compactJson _ request.write request.write_plain.1)

theorem SandboxRuntimeRequest.toStdinBytes_eq_ok {request : SandboxRuntimeRequest}
    {bytes : List UInt8} : request.toStdinBytes = .ok bytes ↔
      request.validate = .ok () ∧ request.frame.length ≤ maxSandboxRuntimeEnvelopeBytes ∧
        bytes = request.frame := by
  rw [toStdinBytes, then_eq_ok, guardThen_eq_ok, not_lt]
  exact and_congr_right fun _ => and_congr_right fun _ =>
    ⟨fun same => (Except.ok.inj same).symm, fun same => same ▸ rfl⟩

section frames

variable {decoder : RequestDecoder} (reads : decoder.ReadsJson)

theorem parseSandboxRuntimeRequest_eq_ok {input : List UInt8} {request : SandboxRuntimeRequest} :
    parseSandboxRuntimeRequest decoder input = .ok request ↔
      input ≠ [] ∧ input.length ≤ maxSandboxRuntimeEnvelopeBytes ∧
        (decoder.parse input).bind (SandboxRuntimeRequest.read decoder.parseUuid) = some request ∧
        request.validate = .ok () := by
  rw [parseSandboxRuntimeRequest, guardThen_eq_ok, guardThen_eq_ok, not_lt, bind_eq_ok]
  refine and_congr_right fun _ => and_congr_right fun _ => ?_
  constructor
  · rintro ⟨found, isFound, checked⟩
    obtain ⟨valid, isResult⟩ := then_eq_ok.mp checked
    obtain rfl := Except.ok.inj isResult
    exact ⟨okOr_eq_ok.mp isFound, valid⟩
  · rintro ⟨found, valid⟩
    exact ⟨request, okOr_eq_ok.mpr found, then_eq_ok.mpr ⟨valid, rfl⟩⟩

include reads

theorem parse_frame {request : SandboxRuntimeRequest} (valid : request.validate = .ok ())
    (fits : request.frame.length ≤ maxSandboxRuntimeEnvelopeBytes) :
    parseSandboxRuntimeRequest decoder request.frame = .ok request := by
  have parsed : decoder.parse request.frame = some request.write :=
    reads.text request.write request.write_plain.1 request.write_plain.2
  refine parseSandboxRuntimeRequest_eq_ok.mpr ⟨?_, fits, ?_, valid⟩
  · exact List.append_ne_nil_of_right_ne_nil _ (List.cons_ne_nil _ _)
  · rw [parsed]
    exact request.read_write reads.uuid

theorem readRequestFromStdin_frame {request : SandboxRuntimeRequest}
    (valid : request.validate = .ok ())
    (fits : request.frame.length ≤ maxSandboxRuntimeEnvelopeBytes) (rest : List UInt8) :
    readRequestFromStdin decoder (request.frame ++ rest) = .ok request := by
  have taken : (request.frame ++ rest).take (maxSandboxRuntimeEnvelopeBytes + 1) =
      request.frame ++ rest.take (maxSandboxRuntimeEnvelopeBytes + 1 - request.frame.length) := by
    rw [List.take_append, List.take_of_length_le (Nat.le_succ_of_le fits)]
  have line : readUntil newline (request.frame ++
      rest.take (maxSandboxRuntimeEnvelopeBytes + 1 - request.frame.length)) = request.frame :=
    readUntil_append request.newline_notMem
  rw [readRequestFromStdin, taken, line, guardThen_eq_ok]
  refine ⟨?_, parse_frame reads valid fits⟩
  rw [SandboxRuntimeRequest.frame, List.getLast?_append]
  simp

/-- A request that is written is read back, whatever follows its line.  A request that is
accepted is valid, and unless its own line is too long it is written to one that is parsed
to it. -/
theorem sandbox_requests_round_trip :
    (∀ request bytes rest, request.toStdinBytes = .ok bytes →
      readRequestFromStdin decoder (bytes ++ rest) = .ok request) ∧
    (∀ input request, parseSandboxRuntimeRequest decoder input = .ok request →
      request.validate = .ok () ∧
      (request.frame.length ≤ maxSandboxRuntimeEnvelopeBytes →
        ∃ bytes, request.toStdinBytes = .ok bytes ∧
          parseSandboxRuntimeRequest decoder bytes = .ok request)) := by
  constructor
  · intro request bytes rest written
    obtain ⟨valid, fits, isFrame⟩ := SandboxRuntimeRequest.toStdinBytes_eq_ok.mp written
    rw [isFrame]
    exact readRequestFromStdin_frame reads valid fits rest
  · intro input request accepted
    obtain ⟨-, -, -, valid⟩ := parseSandboxRuntimeRequest_eq_ok.mp accepted
    exact ⟨valid, fun fits => ⟨request.frame,
      SandboxRuntimeRequest.toStdinBytes_eq_ok.mpr ⟨valid, fits, rfl⟩,
      parse_frame reads valid fits⟩⟩

end frames

theorem utf8Bytes_injective : Function.Injective utf8Bytes := by
  intro text other same
  have encoded : text.toList.utf8Encode = other.toList.utf8Encode :=
    congrArg List.toByteArray same
  rw [String.utf8Encode_toList, String.utf8Encode_toList] at encoded
  exact String.toByteArray_inj.mp encoded

open Classical in
/-- A library that reads exactly what is written. -/
noncomputable def mirrorDecoder : RequestDecoder where
  parse := fun bytes =>
    if known : ∃ value : Json, value.integersOnly = true ∧
        utf8Bytes (compactJson (fun _ => "") value) ++ [newline] = bytes then some known.choose
    else none
  parseUuid := fun text =>
    if known : ∃ id : Uuid, Nat.repr id = text then some known.choose else none
  describe := fun _ => "expected value"

theorem readsJson_mirrorDecoder : mirrorDecoder.ReadsJson where
  uuid := by
    intro id
    have known : ∃ other : Uuid, Nat.repr other = Nat.repr id := ⟨id, rfl⟩
    rw [mirrorDecoder]
    simp only [dif_pos known]
    exact congrArg some (repr_injective known.choose_spec)
  text := by
    intro value integers _
    have known : ∃ other : Json, other.integersOnly = true ∧
        utf8Bytes (compactJson (fun _ => "") other) ++ [newline] =
          utf8Bytes (compactJson (fun _ => "") value) ++ [newline] := ⟨value, integers, rfl⟩
    rw [mirrorDecoder]
    simp only [dif_pos known]
    obtain ⟨otherIntegers, same⟩ := known.choose_spec
    exact congrArg some (compactJson_injective _ otherIntegers integers
      (utf8Bytes_injective (List.append_cancel_right same)))

def pwdRequest : SandboxRuntimeRequest where
  version := "v1"
  sessionId := 7
  workspacePath := "/workspace/sessions/7"
  timeoutSeconds := 30
  environment := .empty
  operation := .shell "pwd\n"

theorem pwd_request_read_back :
    ∃ bytes, pwdRequest.toStdinBytes = .ok bytes ∧
      readRequestFromStdin mirrorDecoder (bytes ++ [65]) = .ok pwdRequest := by
  have fits : pwdRequest.frame.length ≤ maxSandboxRuntimeEnvelopeBytes := by decide +kernel
  have written : pwdRequest.toStdinBytes = .ok pwdRequest.frame :=
    SandboxRuntimeRequest.toStdinBytes_eq_ok.mpr ⟨rfl, fits, rfl⟩
  exact ⟨pwdRequest.frame, written,
    (sandbox_requests_round_trip readsJson_mirrorDecoder).1 _ _ _ written⟩

end MandoForge
