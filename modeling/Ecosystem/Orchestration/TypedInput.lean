import Ecosystem.Lib.Base64
import Ecosystem.Lib.Json

/-!
# Typed model input

A role invocation becomes one JSON text (`canonical_role_input_envelope`), which the
adapter turns back into chat messages (`_parse_typed_envelope`).

`dumps` and `loads` are those of `json`, the latter with the hooks that refuse duplicate
keys and non-finite numbers.  `integral` is the integer that a float equals, for
`value["attempt"] not in {1, 2}`.  Strings are Unicode strings.
-/

namespace Ecosystem.Orchestration

open Ecosystem.Lib

/-! ## Invocations -/

section Invocations

variable (Φ : Type)

structure JsonObject where
  members : List (String × Json Φ)
  ordered : (Json.obj members).Ordered

/-- `UntrustedArtifact`; its trust is always `P0`. -/
structure UntrustedArtifact where
  binding : JsonObject Φ
  content : List UInt8
  mediaType : String
  sourceEntryId : Option String := none
  mediaType_ne : mediaType ≠ ""

structure RoleInvocation where
  roleId : String
  attempt : ℕ
  trustedInstruction : String
  trustedOutputSchema : JsonObject Φ
  runtimeState : JsonObject Φ
  untrustedSources : List (UntrustedArtifact Φ)
  untrustedArtifacts : List (UntrustedArtifact Φ)
  roleId_ne : roleId ≠ ""
  attempt_mem : attempt = 1 ∨ attempt = 2
  trustedInstruction_ne : trustedInstruction ≠ ""

end Invocations

variable {Φ : Type}

def typedInputEnvelopeFormat : String := "eco.openai-typed-messages/v1"

/-- `None` is `null`. -/
def nullable : Option String → Json Φ
  | none => .null
  | some s => .str s

def UntrustedArtifact.payload (item : UntrustedArtifact Φ) : Json Φ :=
  .obj
    [("binding", .obj item.binding.members),
      ("contentBase64", .str (String.ofList (Base64.b64encode item.content))),
      ("mediaType", .str item.mediaType),
      ("sourceEntryId", nullable item.sourceEntryId),
      ("trust", .str "P0")]

namespace RoleInvocation

/-- The value that `canonical_role_input_envelope` writes. -/
def typedInput (invocation : RoleInvocation Φ) : Json Φ :=
  .obj
    [("attempt", .int invocation.attempt), ("format", .str typedInputEnvelopeFormat),
      ("roleId", .str invocation.roleId),
      ("runtimeState", .obj invocation.runtimeState.members),
      ("trustedInstruction", .str invocation.trustedInstruction),
      ("trustedOutputSchema", .obj invocation.trustedOutputSchema.members),
      ("untrustedArtifacts", .arr (invocation.untrustedArtifacts.map (·.payload))),
      ("untrustedSources", .arr (invocation.untrustedSources.map (·.payload)))]

end RoleInvocation

def canonicalRoleInputEnvelope (codec : JsonCodec Φ) (invocation : RoleInvocation Φ) :
    ByteArray :=
  (codec.dumps invocation.typedInput).toUTF8

/-! ## Messages -/

structure RuntimeAdapterError where
  code : String
  message : String

def inputMismatch : RuntimeAdapterError :=
  ⟨"ECO_MODEL_INPUT_MISMATCH", "Typed model input is invalid"⟩

inductive MessageRole
  | system | user
deriving DecidableEq

inductive MessageTrust
  | trusted | p0

inductive Channel
  | trustedInstruction | runtimeState | untrustedSource | untrustedArtifact

def Channel.authority : Channel → MessageRole × MessageTrust
  | .trustedInstruction => (.system, .trusted)
  | .runtimeState => (.user, .trusted)
  | .untrustedSource => (.user, .p0)
  | .untrustedArtifact => (.user, .p0)

/-- `OpenAITypedChatMessage`, which refuses any other authority. -/
structure OpenAITypedChatMessage where
  role : MessageRole
  channel : Channel
  trust : MessageTrust
  content : String
  allowed : channel.authority = (role, trust)

inductive PayloadChannel
  | untrustedSource | untrustedArtifact

namespace PayloadChannel

def channel : PayloadChannel → Channel
  | .untrustedSource => .untrustedSource
  | .untrustedArtifact => .untrustedArtifact

def text : PayloadChannel → String
  | .untrustedSource => "untrusted_source"
  | .untrustedArtifact => "untrusted_artifact"

theorem authority (ch : PayloadChannel) : ch.channel.authority = (.user, .p0) := by
  cases ch <;> rfl

end PayloadChannel

/-! ## The adapter -/

def typedEnvelopeFormat : String := "eco.openai-typed-messages/v1"

def typedEnvelopeKeys : List String :=
  ["attempt", "format", "roleId", "runtimeState", "trustedInstruction",
    "trustedOutputSchema", "untrustedArtifacts", "untrustedSources"]

def typedPayloadKeys : List String :=
  ["binding", "contentBase64", "mediaType", "sourceEntryId", "trust"]

/-- `set(value) == keys`. -/
def hasKeys (members : List (String × Json Φ)) (keys : List String) : Bool :=
  members.all (fun m => m.1 ∈ keys) && keys.all (fun k => members.any (·.1 = k))

/-- The text of a payload: canonical base64 of UTF-8. -/
def decodeContent (encoded : String) : Option String := do
  let raw ← Base64.b64decode encoded.toList
  if String.ofList (Base64.b64encode raw) = encoded then
    String.fromUTF8? ⟨raw.toArray⟩
  else none

/-- The entry id of a payload: a text or `null`. -/
def entryId? : Json Φ → Option (Option String)
  | .null => some none
  | .str s => some (some s)
  | _ => none

section Adapter

variable (codec : JsonCodec Φ)

def payloadMessage (channel : PayloadChannel) (binding : List (String × Json Φ))
    (content mediaType : String) (entryId : Option String) :
    OpenAITypedChatMessage where
  role := .user
  channel := channel.channel
  trust := .p0
  content := codec.dumps (.obj
    [("binding", .obj binding), ("channel", .str channel.text),
      ("content", .str content), ("mediaType", .str mediaType),
      ("sourceEntryId", nullable entryId), ("trust", .str "P0")])
  allowed := channel.authority

def typedPayloadMessage (channel : PayloadChannel) (value : Json Φ) :
    Option OpenAITypedChatMessage :=
  match value with
  | .obj members => do
    guard (hasKeys members typedPayloadKeys)
    match members.lookup "binding", members.lookup "contentBase64",
        members.lookup "mediaType", members.lookup "sourceEntryId",
        members.lookup "trust" with
    | some (.obj binding), some (.str encoded), some (.str mediaType),
        some entryId, some (.str trust) => do
        guard (mediaType ≠ "" && trust = "P0")
        let entryId ← entryId? entryId
        let content ← decodeContent encoded
        return payloadMessage codec channel binding content mediaType entryId
    | _, _, _, _, _ => none
  | _ => none

def instructionMessage (instruction : String) : OpenAITypedChatMessage where
  role := .system
  channel := .trustedInstruction
  trust := .trusted
  content := instruction
  allowed := rfl

def stateMessage (state : List (String × Json Φ)) : OpenAITypedChatMessage where
  role := .user
  channel := .runtimeState
  trust := .trusted
  content := codec.dumps (.obj state)
  allowed := rfl

variable (integral : Φ → Option ℤ)

/-- `value["attempt"] in {1, 2}`; a `bool` is no attempt. -/
def isAttempt : Json Φ → Bool
  | .int n => n = 1 || n = 2
  | .float x => integral x = some 1 || integral x = some 2
  | _ => false

def envelopeMessages (instruction : String)
    (state schema : List (String × Json Φ)) (sources artifacts : List (Json Φ)) :
    Option (List OpenAITypedChatMessage × List (String × Json Φ)) := do
  guard (instruction ≠ "" && sources.length ≤ 256 && artifacts.length ≤ 256)
  let fromSources ← sources.mapM (typedPayloadMessage codec .untrustedSource)
  let fromArtifacts ← artifacts.mapM (typedPayloadMessage codec .untrustedArtifact)
  return (instructionMessage instruction :: stateMessage codec state ::
    (fromSources ++ fromArtifacts), schema)

def readEnvelope (text : String) (members : List (String × Json Φ)) :
    Option (List OpenAITypedChatMessage × List (String × Json Φ)) := do
  guard (hasKeys members typedEnvelopeKeys && codec.dumps (.obj members) = text)
  match members.lookup "format", members.lookup "roleId",
      members.lookup "attempt", members.lookup "trustedInstruction",
      members.lookup "trustedOutputSchema", members.lookup "runtimeState",
      members.lookup "untrustedSources", members.lookup "untrustedArtifacts" with
  | some (.str format), some (.str roleId), some attempt, some (.str instruction),
      some (.obj schema), some (.obj state), some (.arr sources),
      some (.arr artifacts) => do
      guard (format = typedEnvelopeFormat && roleId ≠ "" && isAttempt integral attempt)
      envelopeMessages codec instruction state schema sources artifacts
  | _, _, _, _, _, _, _, _ => none

/-- Whatever goes wrong is reported as the same error. -/
def orMismatch {α : Type} : Option α → Except RuntimeAdapterError α
  | some result => .ok result
  | none => .error inputMismatch

/-- `_parse_typed_envelope`: the messages and the response schema. -/
def parseTypedEnvelope (inputText : String) :
    Except RuntimeAdapterError
      (List OpenAITypedChatMessage × List (String × Json Φ)) :=
  match codec.loads inputText with
  | some (.obj members) => orMismatch (readEnvelope codec integral inputText members)
  | _ => .error inputMismatch

end Adapter

end Ecosystem.Orchestration
