import Ecosystem.Orchestration.TypedInput

/-!
# The channels of typed model input stay apart

The envelope of an invocation is read back as one system message, one of the runtime
state and one for every payload, and nothing in a payload changes what is around it.
-/

namespace Ecosystem.Orchestration

open Ecosystem.Lib

variable {Φ : Type}

/-! ## What is written is an ordered value -/

theorem ordered_nullable (s : Option String) : (nullable s : Json Φ).Ordered := by
  cases s with
  | none => exact .null
  | some s => exact .str s

theorem ordered_payload (item : UntrustedArtifact Φ) : item.payload.Ordered := by
  refine @Json.Ordered.of_keys _ _ typedPayloadKeys (by decide) rfl ?_
  simp only [List.mem_cons, List.not_mem_nil, or_false, forall_eq_or_imp, forall_eq]
  exact ⟨item.binding.ordered, .str _, .str _, ordered_nullable _, .str _⟩

theorem ordered_payloads (items : List (UntrustedArtifact Φ)) :
    (Json.arr (items.map (·.payload))).Ordered := by
  refine .arr _ fun v hv => ?_
  obtain ⟨item, -, rfl⟩ := List.mem_map.mp hv
  exact ordered_payload item

theorem ordered_typedInput (invocation : RoleInvocation Φ) :
    invocation.typedInput.Ordered := by
  refine @Json.Ordered.of_keys _ _ typedEnvelopeKeys (by decide) rfl ?_
  simp only [List.mem_cons, List.not_mem_nil, or_false, forall_eq_or_imp, forall_eq]
  exact ⟨.int _, .str _, .str _, invocation.runtimeState.ordered, .str _,
    invocation.trustedOutputSchema.ordered, ordered_payloads _, ordered_payloads _⟩

theorem ordered_payloadContent {binding : List (String × Json Φ)}
    (h : (Json.obj binding).Ordered) (channel content mediaType : String)
    (entryId : Option String) :
    (Json.obj [("binding", .obj binding), ("channel", .str channel),
      ("content", .str content), ("mediaType", .str mediaType),
      ("sourceEntryId", nullable entryId), ("trust", .str "P0")]).Ordered := by
  refine @Json.Ordered.of_keys _ _
    ["binding", "channel", "content", "mediaType", "sourceEntryId", "trust"]
    (by decide) rfl ?_
  simp only [List.mem_cons, List.not_mem_nil, or_false, forall_eq_or_imp, forall_eq]
  exact ⟨h, .str _, .str _, .str _, ordered_nullable _, .str _⟩

/-! ## Payloads -/

def UntrustedArtifact.text? (item : UntrustedArtifact Φ) : Option String :=
  String.fromUTF8? ⟨item.content.toArray⟩

theorem decodeContent_encoded (item : UntrustedArtifact Φ) :
    decodeContent (String.ofList (Base64.b64encode item.content)) = item.text? := by
  simp only [decodeContent, String.toList_ofList, Base64.b64decode_b64encode,
    Option.bind_eq_bind, Option.bind_some, if_true]
  rfl

theorem entryId?_nullable (s : Option String) :
    entryId? (nullable s : Json Φ) = some s := by
  cases s <;> rfl

variable {item : UntrustedArtifact Φ} {content : String}

theorem typedPayloadMessage_payload (codec : JsonCodec Φ) (channel : PayloadChannel)
    (h : item.text? = some content) :
    typedPayloadMessage codec channel item.payload =
      some (payloadMessage codec channel item.binding.members content item.mediaType
        item.sourceEntryId) := by
  have hkeys : hasKeys (Φ := Φ)
      [("binding", .obj item.binding.members),
        ("contentBase64", .str (String.ofList (Base64.b64encode item.content))),
        ("mediaType", .str item.mediaType),
        ("sourceEntryId", nullable item.sourceEntryId), ("trust", .str "P0")]
      typedPayloadKeys = true := by
    simp [hasKeys, typedPayloadKeys]
  simp [typedPayloadMessage, UntrustedArtifact.payload, hkeys, List.lookup,
    entryId?_nullable, decodeContent_encoded, h, item.mediaType_ne]

/-- What a message of a payload says: its binding, its bytes, its media type and its
entry id. -/
def recoverPayload (codec : JsonCodec Φ) (message : OpenAITypedChatMessage) :
    Option (List (String × Json Φ) × List UInt8 × String × Option String) :=
  match codec.loads message.content with
  | some (.obj members) =>
    match members.lookup "binding", members.lookup "content",
        members.lookup "mediaType", members.lookup "sourceEntryId" with
    | some (.obj binding), some (.str content), some (.str mediaType), some entryId =>
      (entryId? entryId).map fun entryId =>
        (binding, content.toUTF8.data.toList, mediaType, entryId)
    | _, _, _, _ => none
  | _ => none

theorem toUTF8_of_text?
    (h : item.text? = some content) : content.toUTF8.data.toList = item.content := by
  unfold UntrustedArtifact.text? String.fromUTF8? at h
  split at h
  · cases h
    rfl
  · cases h

theorem recoverPayload_payloadMessage (codec : JsonCodec Φ) (channel : PayloadChannel)
    (h : item.text? = some content) :
    recoverPayload codec (payloadMessage codec channel item.binding.members content
      item.mediaType item.sourceEntryId) =
        some (item.binding.members, item.content, item.mediaType, item.sourceEntryId) := by
  have hloads := codec.loads_dumps _ (ordered_payloadContent item.binding.ordered
    channel.text content item.mediaType item.sourceEntryId)
  simp [recoverPayload, payloadMessage, hloads, List.lookup, entryId?_nullable,
    ← toUTF8_of_text? h]

structure Instructs (instruction : String) (message : OpenAITypedChatMessage) : Prop where
  channel : message.channel = .trustedInstruction
  role : message.role = .system
  trust : message.trust = .trusted
  content : message.content = instruction

/-- A message of the runtime state holds its canonical text, which is read back. -/
structure Reports (codec : JsonCodec Φ) (state : List (String × Json Φ))
    (message : OpenAITypedChatMessage) : Prop where
  channel : message.channel = .runtimeState
  role : message.role = .user
  trust : message.trust = .trusted
  content : message.content = codec.dumps (.obj state)
  recovered : codec.loads message.content = some (.obj state)

structure Carries (codec : JsonCodec Φ) (channel : PayloadChannel)
    (item : UntrustedArtifact Φ) (message : OpenAITypedChatMessage) : Prop where
  channel : message.channel = channel.channel
  role : message.role = .user
  trust : message.trust = .p0
  recovered : recoverPayload codec message =
    some (item.binding.members, item.content, item.mediaType, item.sourceEntryId)

theorem mapM_payload (codec : JsonCodec Φ) (channel : PayloadChannel)
    {items : List (UntrustedArtifact Φ)} (h : ∀ item ∈ items, item.text?.isSome = true) :
    ∃ messages, (items.map (·.payload)).mapM (typedPayloadMessage codec channel) =
        some messages ∧ List.Forall₂ (Carries codec channel) items messages := by
  induction items with
  | nil => exact ⟨[], rfl, .nil⟩
  | cons item items ih =>
    obtain ⟨content, hcontent⟩ :=
      Option.isSome_iff_exists.mp (h item List.mem_cons_self)
    obtain ⟨messages, hmessages, hcarries⟩ :=
      ih fun item' hitem' => h item' (List.mem_cons_of_mem item hitem')
    refine ⟨_ :: messages, ?_, .cons ⟨rfl, rfl, rfl,
      recoverPayload_payloadMessage codec channel hcontent⟩ hcarries⟩
    rw [List.map_cons, List.mapM_cons, typedPayloadMessage_payload codec channel
      hcontent, hmessages]
    rfl

/-! ## Envelopes -/

namespace RoleInvocation

/-- What the adapter accepts: at most 256 sources and artifacts, all UTF-8. -/
structure WithinLimits (invocation : RoleInvocation Φ) : Prop where
  sources : invocation.untrustedSources.length ≤ 256
  artifacts : invocation.untrustedArtifacts.length ≤ 256
  sourceTexts : ∀ item ∈ invocation.untrustedSources, item.text?.isSome = true
  artifactTexts : ∀ item ∈ invocation.untrustedArtifacts, item.text?.isSome = true

/-- Two invocations that differ at most in their untrusted payloads. -/
structure SameTrusted (invocation other : RoleInvocation Φ) : Prop where
  roleId : invocation.roleId = other.roleId
  attempt : invocation.attempt = other.attempt
  instruction : invocation.trustedInstruction = other.trustedInstruction
  schema : invocation.trustedOutputSchema = other.trustedOutputSchema
  state : invocation.runtimeState = other.runtimeState

end RoleInvocation

section Envelopes

variable (codec : JsonCodec Φ) (integral : Φ → Option ℤ)

theorem parse_envelope (invocation : RoleInvocation Φ) :
    parseTypedEnvelope codec integral (codec.dumps invocation.typedInput) =
      orMismatch (envelopeMessages codec invocation.trustedInstruction
        invocation.runtimeState.members invocation.trustedOutputSchema.members
        (invocation.untrustedSources.map (·.payload))
        (invocation.untrustedArtifacts.map (·.payload))) := by
  have hloads := codec.loads_dumps _ (ordered_typedInput invocation)
  have hattempt : isAttempt integral (.int invocation.attempt) = true := by
    rcases invocation.attempt_mem with h | h <;> rw [h] <;> rfl
  simp only [RoleInvocation.typedInput, typedInputEnvelopeFormat] at hloads ⊢
  simp [parseTypedEnvelope, hloads, readEnvelope, hasKeys, typedEnvelopeKeys,
    List.lookup, hattempt, invocation.roleId_ne, typedEnvelopeFormat]

/-- **The round trip.** -/
theorem parse_envelope_of_withinLimits {invocation : RoleInvocation Φ}
    (h : invocation.WithinLimits) :
    ∃ sources artifacts,
      parseTypedEnvelope codec integral (codec.dumps invocation.typedInput) =
        .ok (instructionMessage invocation.trustedInstruction ::
          stateMessage codec invocation.runtimeState.members ::
            (sources ++ artifacts), invocation.trustedOutputSchema.members) ∧
      List.Forall₂ (Carries codec .untrustedSource) invocation.untrustedSources sources ∧
      List.Forall₂ (Carries codec .untrustedArtifact) invocation.untrustedArtifacts
        artifacts := by
  obtain ⟨sources, hsources, hcarried⟩ :=
    mapM_payload codec .untrustedSource h.sourceTexts
  obtain ⟨artifacts, hartifacts, hcarried'⟩ :=
    mapM_payload codec .untrustedArtifact h.artifactTexts
  refine ⟨sources, artifacts, ?_, hcarried, hcarried'⟩
  rw [parse_envelope]
  simp [envelopeMessages, invocation.trustedInstruction_ne, h.sources, h.artifacts,
    hsources, hartifacts, orMismatch]

/-! ### Distinct invocations -/

omit codec integral in
theorem payload_injective : Function.Injective (UntrustedArtifact.payload (Φ := Φ)) := by
  rintro ⟨⟨binding, hbinding⟩, content, mediaType, entryId, hmedia⟩
    ⟨⟨binding', hbinding'⟩, content', mediaType', entryId', hmedia'⟩ h
  simp only [UntrustedArtifact.payload, Json.obj.injEq, List.cons.injEq,
    Prod.mk.injEq, Json.str.injEq, true_and, and_true] at h
  obtain ⟨rfl, hcontent, rfl, hentry⟩ := h
  have hcontent := Base64.b64encode_injective (String.ofList_injective hcontent)
  have hentry : entryId = entryId' := by
    have := congrArg entryId? hentry
    rwa [entryId?_nullable, entryId?_nullable, Option.some.injEq] at this
  subst hcontent hentry
  rfl

omit codec integral in
theorem typedInput_injective : Function.Injective (RoleInvocation.typedInput (Φ := Φ)) := by
  rintro ⟨roleId, attempt, instruction, ⟨schema, _⟩, ⟨state, _⟩, sources, artifacts,
      _, _, _⟩ ⟨roleId', attempt', instruction', ⟨schema', _⟩, ⟨state', _⟩, sources',
      artifacts', _, _, _⟩ h
  simp only [RoleInvocation.typedInput, Json.obj.injEq, List.cons.injEq,
    Prod.mk.injEq, Json.str.injEq, Json.int.injEq, Json.arr.injEq, true_and,
    and_true, Int.ofNat_inj] at h
  obtain ⟨rfl, rfl, rfl, rfl, rfl, hartifacts, hsources⟩ := h
  have hartifacts := payload_injective.list_map hartifacts
  have hsources := payload_injective.list_map hsources
  subst hartifacts hsources
  rfl

theorem canonicalRoleInputEnvelope_injective :
    Function.Injective (canonicalRoleInputEnvelope codec) := by
  intro invocation other h
  refine typedInput_injective (codec.dumps_injective (ordered_typedInput invocation)
    (ordered_typedInput other) ?_)
  exact String.toByteArray_inj.mp h

/-! ### Whatever is accepted -/

variable {channel : PayloadChannel} {messages : List OpenAITypedChatMessage}

theorem role_of_typedPayloadMessage {value : Json Φ} {message : OpenAITypedChatMessage}
    (h : typedPayloadMessage codec channel value = some message) :
    message.role = .user := by
  unfold typedPayloadMessage at h
  split at h
  · obtain ⟨-, -, h⟩ := Option.bind_eq_some_iff.mp h
    split at h
    · obtain ⟨-, -, h⟩ := Option.bind_eq_some_iff.mp h
      obtain ⟨entryId, -, h⟩ := Option.bind_eq_some_iff.mp h
      obtain ⟨content, -, h⟩ := Option.bind_eq_some_iff.mp h
      cases h
      rfl
    · cases h
  · cases h

theorem roles_of_mapM {values : List (Json Φ)}
    (h : values.mapM (typedPayloadMessage codec channel) = some messages) :
    ∀ message ∈ messages, message.role = .user := by
  induction values generalizing messages with
  | nil =>
    cases h
    exact fun _ h => nomatch h
  | cons value values ih =>
    rw [List.mapM_cons] at h
    obtain ⟨message, hmessage, h⟩ := Option.bind_eq_some_iff.mp h
    obtain ⟨rest, hrest, h⟩ := Option.bind_eq_some_iff.mp h
    cases h
    intro m hm
    rcases List.mem_cons.mp hm with rfl | hm
    · exact role_of_typedPayloadMessage codec hmessage
    · exact ih hrest m hm

theorem envelopeMessages_eq_some {instruction : String}
    {state schema schema' : List (String × Json Φ)} {sources artifacts : List (Json Φ)}
    (h : envelopeMessages codec instruction state schema sources artifacts =
      some (messages, schema')) :
    schema' = schema ∧ ∃ payloads,
      messages = instructionMessage instruction :: stateMessage codec state ::
        payloads ∧ ∀ message ∈ payloads, message.role = .user := by
  obtain ⟨-, -, h⟩ := Option.bind_eq_some_iff.mp h
  obtain ⟨fromSources, hsources, h⟩ := Option.bind_eq_some_iff.mp h
  obtain ⟨fromArtifacts, hartifacts, h⟩ := Option.bind_eq_some_iff.mp h
  cases h
  refine ⟨rfl, _, rfl, fun message hmessage => ?_⟩
  rcases List.mem_append.mp hmessage with hmessage | hmessage
  · exact roles_of_mapM codec hsources message hmessage
  · exact roles_of_mapM codec hartifacts message hmessage

omit integral in
theorem roles_of_carries {items : List (UntrustedArtifact Φ)}
    (h : List.Forall₂ (Carries codec channel) items messages) :
    ∀ message ∈ messages, message.role = .user := by
  induction h with
  | nil => exact fun _ h => nomatch h
  | cons hcarries _ ih =>
    intro message hmessage
    rcases List.mem_cons.mp hmessage with rfl | hmessage
    · exact hcarries.role
    · exact ih message hmessage

omit codec integral in
theorem system_messages {instruction : String} {first : OpenAITypedChatMessage}
    {payloads : List OpenAITypedChatMessage} (hfirst : first.role = .user)
    (h : ∀ message ∈ payloads, message.role = .user) :
    (instructionMessage instruction :: first :: payloads).filter
      (·.role = .system) = [instructionMessage instruction] := by
  rw [List.filter_cons_of_pos rfl, List.filter_cons_of_neg (by simp [hfirst])]
  have : payloads.filter (·.role = .system) = [] := by
    rw [List.filter_eq_nil_iff]
    intro message hmessage
    simp [h message hmessage]
  rw [this]

theorem parse_of_envelope {invocation : RoleInvocation Φ} {schema : List (String × Json Φ)}
    (h : parseTypedEnvelope codec integral (codec.dumps invocation.typedInput) =
      .ok (messages, schema)) :
    schema = invocation.trustedOutputSchema.members ∧ ∃ payloads,
      messages = instructionMessage invocation.trustedInstruction ::
        stateMessage codec invocation.runtimeState.members :: payloads := by
  rw [parse_envelope] at h
  cases hmessages : envelopeMessages codec invocation.trustedInstruction
      invocation.runtimeState.members invocation.trustedOutputSchema.members
      (invocation.untrustedSources.map (·.payload))
      (invocation.untrustedArtifacts.map (·.payload)) with
  | none =>
    rw [hmessages] at h
    cases h
  | some result =>
    rw [hmessages] at h
    cases h
    obtain ⟨hschema, payloads, hlist, -⟩ := envelopeMessages_eq_some codec hmessages
    exact ⟨hschema, payloads, hlist⟩

theorem parse_eq_ok {text : String} {schema : List (String × Json Φ)}
    (h : parseTypedEnvelope codec integral text = .ok (messages, schema)) :
    ∃ members instruction state sources artifacts,
      codec.loads text = some (.obj members) ∧ codec.dumps (.obj members) = text ∧
      members.lookup "trustedInstruction" = some (.str instruction) ∧
      envelopeMessages codec instruction state schema sources artifacts =
        some (messages, schema) := by
  unfold parseTypedEnvelope at h
  split at h
  · next members hloads =>
      cases hread : readEnvelope codec integral text members with
      | none =>
        rw [hread] at h
        cases h
      | some result =>
        rw [hread] at h
        cases h
        obtain ⟨_, hguard, hfields⟩ := Option.bind_eq_some_iff.mp hread
        split at hfields
        · next hformat hrole hattempt hinstruction hschema hstate hsources hartifacts =>
            obtain ⟨-, -, hmessages⟩ := Option.bind_eq_some_iff.mp hfields
            obtain ⟨rfl, -⟩ := envelopeMessages_eq_some codec hmessages
            refine ⟨members, _, _, _, _, hloads, ?_, hinstruction, hmessages⟩
            by_contra hdiffers
            simp [guard, hdiffers] at hguard
        · cases hfields
  · cases h

omit integral in
theorem fromUTF8?_envelope (invocation : RoleInvocation Φ) :
    String.fromUTF8? (canonicalRoleInputEnvelope codec invocation) =
      some (codec.dumps invocation.typedInput) := by
  have hvalid : (canonicalRoleInputEnvelope codec invocation).IsValidUTF8 :=
    (codec.dumps invocation.typedInput).isValidUTF8
  rw [String.fromUTF8?, dif_pos hvalid]
  rfl

/-- **Authority channels stay apart.**  The text of an invocation's envelope is
accepted; it yields one system message that holds the trusted instruction, one that
holds the runtime state, and one untrusted user message per source and per artifact,
in order, from which the payload is recovered.  Distinct invocations have distinct
envelopes.  Untrusted payloads change none of the first two messages and not the
response schema.  And any accepted text whatsoever is the canonical text of the value
it is read as, with that value's instruction as its one system message. -/
theorem channels_separated : (∀ (invocation : RoleInvocation Φ) (text : String),
      String.fromUTF8? (canonicalRoleInputEnvelope codec invocation) = some text →
      invocation.WithinLimits → ∃ system state sources artifacts,
        parseTypedEnvelope codec integral text =
          .ok (system :: state :: (sources ++ artifacts),
            invocation.trustedOutputSchema.members) ∧
        Instructs invocation.trustedInstruction system ∧
        Reports codec invocation.runtimeState.members state ∧
        (system :: state :: (sources ++ artifacts)).filter (·.role = .system) = [system] ∧
        List.Forall₂ (Carries codec .untrustedSource) invocation.untrustedSources sources ∧
        List.Forall₂ (Carries codec .untrustedArtifact)
          invocation.untrustedArtifacts artifacts) ∧
    Function.Injective (canonicalRoleInputEnvelope codec) ∧
    (∀ (invocation other : RoleInvocation Φ) (text text' : String) messages messages'
      schema schema', invocation.SameTrusted other →
      String.fromUTF8? (canonicalRoleInputEnvelope codec invocation) = some text →
      String.fromUTF8? (canonicalRoleInputEnvelope codec other) = some text' →
      parseTypedEnvelope codec integral text = .ok (messages, schema) →
      parseTypedEnvelope codec integral text' = .ok (messages', schema') →
      messages.take 2 = messages'.take 2 ∧ schema = schema') ∧
    (∀ (text : String) messages schema,
      parseTypedEnvelope codec integral text = .ok (messages, schema) →
      ∃ members instruction system, codec.loads text = some (.obj members) ∧
        codec.dumps (.obj members) = text ∧
        members.lookup "trustedInstruction" = some (.str instruction) ∧
        messages.filter (·.role = .system) = [system] ∧ Instructs instruction system) := by
  refine ⟨?_, canonicalRoleInputEnvelope_injective codec, ?_, ?_⟩
  · intro invocation text h hlimits
    cases h.symm.trans (fromUTF8?_envelope codec invocation)
    obtain ⟨sources, artifacts, hparse, hsources, hartifacts⟩ :=
      parse_envelope_of_withinLimits codec integral hlimits
    refine ⟨_, _, sources, artifacts, hparse, ⟨rfl, rfl, rfl, rfl⟩,
      ⟨rfl, rfl, rfl, rfl, codec.loads_dumps _ invocation.runtimeState.ordered⟩,
      system_messages rfl ?_, hsources, hartifacts⟩
    intro message hmessage
    rcases List.mem_append.mp hmessage with hmessage | hmessage
    · exact roles_of_carries codec hsources message hmessage
    · exact roles_of_carries codec hartifacts message hmessage
  · intro invocation other text text' messages messages' schema schema' hsame h h'
      hparse hparse'
    cases h.symm.trans (fromUTF8?_envelope codec invocation)
    cases h'.symm.trans (fromUTF8?_envelope codec other)
    obtain ⟨rfl, payloads, rfl⟩ := parse_of_envelope codec integral hparse
    obtain ⟨rfl, payloads', rfl⟩ := parse_of_envelope codec integral hparse'
    rw [hsame.instruction, hsame.state, hsame.schema]
    exact ⟨rfl, rfl⟩
  · intro text messages schema hparse
    obtain ⟨members, instruction, state, sources, artifacts, hloads, hdumps,
      hinstruction, hmessages⟩ := parse_eq_ok codec integral hparse
    obtain ⟨-, payloads, rfl, hroles⟩ := envelopeMessages_eq_some codec hmessages
    exact ⟨members, instruction, _, hloads, hdumps, hinstruction,
      system_messages rfl hroles, rfl, rfl, rfl, rfl⟩

end Envelopes

/-! ### A source that imitates an instruction -/

def sampleSource : UntrustedArtifact Empty where
  binding := ⟨[("path", .str "a.md")], .obj _ (List.pairwise_singleton _ _) (by
    rintro m hm
    rw [List.mem_singleton.mp hm]
    exact .str _)⟩
  content := [125, 34, 125]
  mediaType := "text/plain"
  mediaType_ne := by decide

def sampleInvocation : RoleInvocation Empty where
  roleId := "reviewer"
  attempt := 1
  trustedInstruction := "Review"
  trustedOutputSchema := ⟨[], .obj _ .nil fun _ h => nomatch h⟩
  runtimeState := ⟨[], .obj _ .nil fun _ h => nomatch h⟩
  untrustedSources := [sampleSource]
  untrustedArtifacts := []
  roleId_ne := by decide
  attempt_mem := .inl rfl
  trustedInstruction_ne := by decide

theorem channels_separated_sample :
    ∃ system state sources artifacts,
      parseTypedEnvelope noFloats.codec (fun x => nomatch x)
          (noFloats.codec.dumps sampleInvocation.typedInput) =
        .ok (system :: state :: (sources ++ artifacts), []) ∧
      system.content = "Review" ∧ noFloats.codec.loads state.content = some (.obj []) ∧
      List.Forall₂ (Carries noFloats.codec .untrustedSource) [sampleSource] sources := by
  have hlimits : sampleInvocation.WithinLimits :=
    ⟨by decide, by decide, by decide, by decide⟩
  obtain ⟨system, state, sources, artifacts, hparse, hsystem, hstate, -, hsources, -⟩ :=
    (channels_separated noFloats.codec (fun x => nomatch x)).1 sampleInvocation _
      (fromUTF8?_envelope _ _) hlimits
  exact ⟨system, state, sources, artifacts, hparse, hsystem.content, hstate.recovered,
    hsources⟩

end Ecosystem.Orchestration
