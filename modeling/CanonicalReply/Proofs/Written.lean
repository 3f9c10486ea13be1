import CanonicalReply.Dict.Lemmas
import CanonicalReply.Proofs.CanonicalForm
import CanonicalReply.Proofs.Usage

/-!
# Reading what was written

What is written of a canonical choice has the shape of what providers send, only
that nothing is missing.  So the readers of payloads read it, and what they read
says everything that was written.

* `Choice.IsReadable`, `Choice.isReadable_of_build`: what a choice needs in order
  to be read back, and that every choice that is built has it.
* `Provider.Choice.decode_toJson`, `Provider.Message.decode_toJson` and so on:
  what the written forms are decoded as.
* `Choice.build_toJson`: **a canonical choice is built again from what is written
  of it.**
-/

namespace CanonicalReply

open Json (Fields objectOf)

/-! ## What can be read back -/

/-- Content that is read back as what it is.  A text or a list has to be kept as
one, and there is no content that is null. -/
def Content.IsReadable (c : Content) : Prop := Content.ofJson c.toJson = c ∧ c.toJson ≠ .null

theorem Content.toJson_ofJson (v : Json) : (ofJson v).toJson = v := by
  cases v <;> rfl

theorem Content.isReadable_ofJson {v : Json} (h : v ≠ .null) : (ofJson v).IsReadable :=
  ⟨by rw [toJson_ofJson], by rwa [toJson_ofJson]⟩

/-- A message that is read back as what it is. -/
structure Message.IsReadable (m : Message) : Prop where
  content : ∀ c ∈ m.content, c.IsReadable
  audio : m.audio ≠ some .null

/-- A choice that is read back as what it is. -/
structure Choice.IsReadable (c : Choice) : Prop where
  message : c.message.IsReadable
  logprobs : c.logprobs ≠ some .null
  enhancements : c.enhancements ≠ some .null

namespace Provider

/-- What was read of a message can be read again. -/
theorem Message.readable_of_decode {v : Json} {m : Message} (h : decode v = .ok m) :
    (∀ c ∈ m.content, c.IsReadable) ∧ m.audio ≠ some .null := by
  obtain ⟨source, hfields⟩ := Json.Decoder.exists_source_of_record h
  simp only [Fields.seq_eq_ok_iff, Fields.map_eq_ok_iff, Fields.lenient_any_eq_ok_iff] at hfields
  obtain ⟨_, ⟨_, ⟨_, ⟨_, ⟨role, -, rfl⟩, content, hcontent, rfl⟩, function, -, rfl⟩, calls, -, rfl⟩,
    audio, rfl, rfl⟩ := hfields
  refine ⟨?_, Json.bind_nonNull?_ne_some_null _⟩
  rintro c rfl
  rcases Fields.lenient_eq_ok_iff.1 hcontent with ⟨-, hnone⟩ | ⟨w, -, hread⟩
  · cases hnone
  · rcases Json.Decoder.nullable_eq_ok_iff.1 hread with ⟨-, hnone⟩ | ⟨hne, c', hc, hsome⟩
    · cases hnone
    · cases hsome
      cases hc
      exact Content.isReadable_ofJson hne

/-- What was read of a choice can be read again. -/
theorem Choice.readable_of_decode {v : Json} {c : Choice} (h : decode v = .ok c) :
    ((∀ content ∈ c.message.content, content.IsReadable) ∧ c.message.audio ≠ some .null) ∧
      c.logprobs ≠ some .null ∧ c.enhancements ≠ some .null := by
  obtain ⟨source, hfields⟩ := Json.Decoder.exists_source_of_record h
  simp only [Fields.seq_eq_ok_iff, Fields.map_eq_ok_iff, Fields.lenient_any_eq_ok_iff,
    Fields.required_eq_ok_iff] at hfields
  obtain ⟨_, ⟨_, ⟨_, ⟨_, ⟨message, ⟨w, -, hmessage⟩, rfl⟩, reason, -, rfl⟩, details, -, rfl⟩,
    logprobs, rfl, rfl⟩, enhancements, rfl, rfl⟩ := hfields
  exact ⟨Message.readable_of_decode hmessage, Json.bind_nonNull?_ne_some_null _,
    Json.bind_nonNull?_ne_some_null _⟩

end Provider

/-- A choice that is built can be read back. -/
theorem Choice.isReadable_of_build {s : Settings} {supply : Supply} {jsonMode : Bool}
    {position : Nat} {v : Json} {c : Choice} (h : build s supply jsonMode position v = .ok c) :
    c.IsReadable := by
  obtain ⟨raw, whole, calls, expanded, hraw, -, -, rfl⟩ := build_eq_ok_iff.1 h
  obtain ⟨⟨hcontent, haudio⟩, hlogprobs, henhancements⟩ := Provider.Choice.readable_of_decode hraw
  refine ⟨?_, hlogprobs, henhancements⟩
  cases hjson : jsonContent jsonMode raw.message calls expanded with
  | some content =>
    rw [body_of_jsonContent_eq_some hjson]
    refine ⟨?_, by simp [Message.assistant]⟩
    rintro _ ⟨⟩
    exact Content.isReadable_ofJson (v := .str content) (by simp)
  | none =>
    rw [body_of_jsonContent_eq_none hjson]
    exact ⟨hcontent, haudio⟩

/-! ## Reading what was written -/

namespace Provider

/-- A written function call reads as one that says everything. -/
def Function.ofWritten (f : FunctionCall) : Function := ⟨some f.name, some (.str f.arguments)⟩

/-- A function call is written as a provider would send it. -/
theorem Function.decode_toJson (f : FunctionCall) :
    f.toJson ≠ .null ∧ Function.decode f.toJson = .ok (.ofWritten f) := by
  refine ⟨by simp [FunctionCall.toJson, objectOf], ?_⟩
  refine Json.Decoder.record_objectOf_eq_ok (by simp) fun source hvalue => ?_
  refine Fields.seq_eq_ok (Fields.map_eq_ok ?_) ?_
  · exact Fields.lenient_text_of_eq_map (hvalue "name")
  · exact Fields.lenient_any_of_eq (by simp) (hvalue "arguments")

/-- A written tool call reads as one that says everything but an index. -/
def ToolCall.ofWritten (c : CanonicalReply.ToolCall) : ToolCall where
  id := some c.id
  kind := some c.kind
  function := some (.ofWritten c.function)
  index := none

theorem ToolCall.decode_toJson (c : CanonicalReply.ToolCall) :
    ToolCall.decode c.toJson = .ok (.ofWritten c) := by
  refine Json.Decoder.record_objectOf_eq_ok (by simp) fun source hvalue => ?_
  refine Fields.seq_eq_ok (Fields.seq_eq_ok (Fields.seq_eq_ok (Fields.map_eq_ok ?_) ?_) ?_) ?_
  · exact Fields.lenient_text_of_eq_map (hvalue "id")
  · exact Fields.lenient_text_of_eq_map (hvalue "type")
  · exact Fields.lenient_of_eq_map (x := some c.function) (fun f _ => Function.decode_toJson f)
      (hvalue "function")
  · exact Fields.lenient_eq_ok_iff.2 (.inl ⟨hvalue "index", rfl⟩)

/-- A written message reads as one that says everything there is. -/
def Message.ofWritten (m : CanonicalReply.Message) : Message where
  role := some m.role
  content := m.content
  functionCall := m.functionCall.map .ofWritten
  toolCalls := m.toolCalls.map (·.map CanonicalReply.ToolCall.toJson)
  audio := m.audio

theorem Message.decode_toJson {m : CanonicalReply.Message} (hm : m.IsReadable) :
    Message.decode m.toJson = .ok (.ofWritten m) := by
  refine Json.Decoder.record_objectOf_eq_ok (by simp) fun source hvalue => ?_
  refine Fields.seq_eq_ok (Fields.seq_eq_ok (Fields.seq_eq_ok (Fields.seq_eq_ok
    (Fields.map_eq_ok ?_) ?_) ?_) ?_) ?_
  · exact Fields.lenient_text_of_eq_map (hvalue "role")
  · have hread : ∀ c ∈ m.content, c.toJson ≠ .null ∧ Content.decode c.toJson = .ok (id c) :=
      fun c hc => ⟨(hm.content c hc).2, congrArg _ (hm.content c hc).1⟩
    have hcontent := Fields.lenient_of_eq_orNull hread (hvalue "content")
    rwa [Option.map_id] at hcontent
  · exact Fields.lenient_of_eq_map (fun f _ => Function.decode_toJson f) (hvalue "function_call")
  · exact Fields.lenient_of_eq_map (fun calls _ => ⟨by simp, Json.Decoder.list_any _⟩)
      (hvalue "tool_calls")
  · exact Fields.lenient_any_of_eq hm.audio (hvalue "audio")

/-- A written choice reads as one that says everything there is. -/
def Choice.ofWritten (c : CanonicalReply.Choice) : Choice where
  message := .ofWritten c.message
  finishReason := some c.finishReason
  finishDetails := none
  logprobs := c.logprobs
  enhancements := c.enhancements

theorem Choice.decode_toJson {c : CanonicalReply.Choice} (hc : c.IsReadable) :
    Choice.decode c.toJson = .ok (.ofWritten c) := by
  refine Json.Decoder.record_objectOf_eq_ok (by simp) fun source hvalue => ?_
  refine Fields.seq_eq_ok (Fields.seq_eq_ok (Fields.seq_eq_ok (Fields.seq_eq_ok
    (Fields.map_eq_ok ?_) ?_) ?_) ?_) ?_
  · exact Fields.required_eq_ok_iff.2 ⟨_, hvalue "message", Message.decode_toJson hc.message⟩
  · exact Fields.lenient_text_of_eq_map (hvalue "finish_reason")
  · exact Fields.lenient_eq_ok_iff.2 (.inl ⟨hvalue "finish_details", rfl⟩)
  · exact Fields.lenient_any_of_eq hc.logprobs (hvalue "logprobs")
  · exact Fields.lenient_any_of_eq hc.enhancements (hvalue "enhancements")

/-- A call with an id is read as itself. -/
theorem ToolCall.toCall_ofWritten {c : CanonicalReply.ToolCall} (hid : c.id ≠ "")
    (freshId : String) : (ofWritten c).toCall freshId = c := by
  rw [ToolCall.toCall, ofWritten, firstNonEmpty_some hid]
  rfl

/-- The calls of a written message are read as themselves. -/
theorem Message.wholeToolCalls_ofWritten {m : CanonicalReply.Message} {freshId : Nat → String}
    (hids : ∀ calls ∈ m.toolCalls, ∀ call ∈ calls, call.id ≠ "") :
    (ofWritten m).wholeToolCalls freshId = .ok m.toolCalls := by
  rw [wholeToolCalls_eq_ok_iff]
  cases hcalls : m.toolCalls with
  | none => exact .inl ⟨by rw [ofWritten, hcalls]; rfl, rfl⟩
  | some calls =>
    refine .inr ⟨calls.map CanonicalReply.ToolCall.toJson, calls, ?_, rfl, ?_⟩
    · rw [ofWritten, hcalls]
      rfl
    · refine eachAt_eq_ok_iff.2 ⟨by rw [List.length_map], ?_⟩
      intro k v call hv hcall
      rw [List.getElem?_map, hcall] at hv
      cases hv
      have hid := hids calls hcalls call (List.mem_of_getElem? hcall)
      exact Except.map_eq_ok_iff.2 ⟨_, Failure.decoding_eq_ok_iff.2 (ToolCall.decode_toJson call),
        ToolCall.toCall_ofWritten hid _⟩

end Provider

/-- **One choice.**  A choice in canonical form is, when it is written, a payload's
choice from which it is built again. -/
theorem Choice.build_toJson {s : Settings} {supply : Supply} {position : Nat} {c : Choice}
    (hcanonical : c.IsCanonical s position) (hreadable : c.IsReadable) :
    build s supply false position c.toJson = .ok c := by
  have hpacked : s.repair = true → ∀ given ∈ c.message.toolCalls, ∀ call ∈ given,
      call.isPacked = false := by
    intro hs given hgiven call hcall
    rw [← Bool.not_eq_true, ToolCall.isPacked_eq_true_iff]
    exact hcanonical.callName_ne hs given hgiven call hcall
  have hrole : (Provider.Message.ofWritten c.message).roleOrDefault = c.message.role := by
    rw [Provider.Message.roleOrDefault, Provider.Message.ofWritten,
      Provider.firstNonEmpty_some hcanonical.role_ne_empty, Option.getD_some]
  have hfunction : (Provider.Message.ofWritten c.message).functionCall.map
      Provider.Function.toCall = c.message.functionCall := by
    show (c.message.functionCall.map _).map _ = _
    rw [Option.map_map]
    exact Option.map_id' ..
  have hreason : FinishReason.canonical (Provider.Choice.ofWritten c).reasonOrDefault =
      c.finishReason := hcanonical.finishReason_fixed
  refine build_eq_ok_iff.2 ⟨_, c.message.toolCalls, c.message.toolCalls, false,
    Provider.Choice.decode_toJson hreadable,
    Provider.Message.wholeToolCalls_ofWritten hcanonical.callId_ne_empty,
    effectiveCalls_of_not_packed hpacked, ?_⟩
  rw [body_of_jsonContent_eq_none (jsonContent_false _), hreason, ← hcanonical.index_eq]
  show c = ⟨_, _, ⟨(Provider.Message.ofWritten c.message).roleOrDefault, _,
    (Provider.Message.ofWritten c.message).functionCall.map _, _, _⟩, _, _⟩
  rw [hrole, hfunction]
  rfl

end CanonicalReply
