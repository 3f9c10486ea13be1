import CanonicalReply.Assembly.Replay
import CanonicalReply.Proofs.Payloads

/-!
# Building the chunk of a replay

A replay reads a payload with less care than an assembly: tool calls are read
only if the list begins with an object, and usage is read count by count.  What
each step can do is said once here, its failures included.

* `Provider.Message.toolCallDeltas_eq_ok_iff`: the parts of tool calls.
* `ChunkChoice.build_eq_ok_iff`: the part of a choice.
* `Chunk.material`, `Chunk.material_eq_ok_iff`: what a chunk is made of.
* `Chunk.ofPayload_eq_ok_iff`, `Chunk.ofPayload_eq_error`: the whole chunk.
-/

namespace CanonicalReply

/-! ## Tool calls -/

namespace Provider.Message

/-- The parts of tool calls are read if the list begins with an object; else
there are none. -/
theorem toolCallDeltas_eq_ok_iff {m : Message} {deltas : Option (List ToolCallDelta)} :
    m.toolCallDeltas = .ok deltas ↔
      (∀ v rest, m.toolCalls = some (v :: rest) → v.isObject = false) ∧ deltas = none ∨
        ∃ v rest parts, m.toolCalls = some (v :: rest) ∧ v.isObject = true ∧
          eachAt (fun i v => (Failure.decoding .toolCallDelta ToolCall.decode v).map
            (·.toDelta i)) 0 (v :: rest) = .ok parts ∧ deltas = some parts := by
  rw [toolCallDeltas]
  cases m.toolCalls with
  | none => simp [@eq_comm _ deltas]
  | some entries =>
    cases entries with
    | nil => simp [@eq_comm _ deltas]
    | cons v rest =>
      cases hv : v.isObject with
      | false => simp [hv, @eq_comm _ deltas]
      | true =>
        have hhead : ((v :: rest).head?.map Json.isObject).getD false = true := hv
        simp only [hhead, if_true, Except.map_eq_ok_iff]
        constructor
        · rintro ⟨parts, hparts, rfl⟩
          exact .inr ⟨v, rest, parts, rfl, hv, hparts, rfl⟩
        · rintro (⟨hno, -⟩ | ⟨v', rest', parts, heq, -, hparts, rfl⟩)
          · rw [hno v rest rfl] at hv
            cases hv
          · cases heq
            exact ⟨parts, hparts, rfl⟩

theorem exists_of_toolCallDeltas_eq_error {m : Message} {e : Failure}
    (h : m.toolCallDeltas = .error e) : ∃ what fault, e = .undecodable what fault := by
  rw [toolCallDeltas] at h
  split at h
  · cases h
  · split at h
    · obtain ⟨k, v, -, hv⟩ := exists_of_eachAt_eq_error (Except.map_eq_error_iff.1 h)
      obtain ⟨fault, rfl⟩ := Failure.exists_of_decoding_eq_error (Except.map_eq_error_iff.1 hv)
      exact ⟨_, _, rfl⟩
    · cases h

end Provider.Message

/-! ## Choices -/

namespace ChunkChoice

variable {enhanced : Bool} {index : Nat} {v : Json}

theorem build_eq_ok_iff {c : ChunkChoice} :
    build enhanced index v = .ok c ↔
      ∃ raw deltas, Provider.Choice.decode v = .ok raw ∧ raw.message.toolCallDeltas = .ok deltas ∧
        c = { index, finishReason := raw.reasonOrDetails, logprobs := raw.logprobs,
              enhancements := if enhanced then raw.enhancements else none,
              delta :=
                { role := raw.message.role, content := raw.message.content,
                  functionCall := raw.message.functionCall.map Provider.Function.toDelta,
                  toolCalls := deltas } } := by
  rw [build]
  constructor
  · intro h
    split at h
    · cases h
    next raw hraw =>
      obtain ⟨deltas, hdeltas, rfl⟩ := Except.map_eq_ok_iff.1 h
      exact ⟨raw, deltas, Failure.decoding_eq_ok_iff.1 hraw, hdeltas, rfl⟩
  · rintro ⟨raw, deltas, hraw, hdeltas, rfl⟩
    simp only [Failure.decoding_eq_ok_iff.2 hraw, hdeltas, Except.map]

theorem exists_of_build_eq_error {e : Failure} (h : build enhanced index v = .error e) :
    ∃ what fault, e = .undecodable what fault := by
  rw [build] at h
  split at h
  next e' hraw =>
    obtain ⟨fault, rfl⟩ := Failure.exists_of_decoding_eq_error hraw
    exact ⟨_, _, (Except.error.inj h).symm⟩
  · exact Provider.Message.exists_of_toolCallDeltas_eq_error (Except.map_eq_error_iff.1 h)

end ChunkChoice

/-! ## The chunk -/

namespace Chunk

variable {enhanced : Bool} {supply : Supply} {payload : Payload}

/-- The chunk of a decoded payload whose choices are built. -/
def ofRaw (supply : Supply) (raw : Provider.Completion) (choices : List ChunkChoice) : Chunk :=
  { fresh supply with
    choices
    usage := raw.zeroFilledUsage
    id := raw.id.join.getD supply.completionId
    created := (raw.created.join.bind Provider.unixSeconds).getD supply.now
    systemFingerprint := raw.systemFingerprint.join
    model := raw.model.join }

/-- The decoded payload and the parts of its choices, which a chunk is made of.  What
is made up does not come into it. -/
def material (enhanced : Bool) :
    Option Payload → Except Failure (Provider.Completion × List ChunkChoice)
  | none => .error (.malformed .noResponse)
  | some payload =>
    match Failure.decoding .chunkPayload Provider.Completion.decode (.ofDict payload) with
    | .error e => .error e
    | .ok raw =>
      match raw.choiceValues with
      | .error e => .error e
      | .ok values =>
        (Provider.Message.eachAt (ChunkChoice.build enhanced) 0 values).map (raw, ·)

theorem ofPayload_eq_map_material (enhanced : Bool) (supply : Supply) (payload : Option Payload) :
    ofPayload enhanced supply payload =
      (material enhanced payload).map fun m => ofRaw supply m.1 m.2 := by
  cases payload with
  | none => rfl
  | some p =>
    unfold ofPayload material
    simp only
    cases Failure.decoding .chunkPayload Provider.Completion.decode (.ofDict p) with
    | error e => rfl
    | ok raw =>
      simp only
      cases raw.choiceValues with
      | error e => rfl
      | ok values =>
        simp only
        cases Provider.Message.eachAt (ChunkChoice.build enhanced) 0 values <;> rfl

/-- **What a chunk is made of.**  The payload is decoded and every entry of its
choices is built; nothing else can go wrong. -/
theorem material_eq_ok_iff {raw : Provider.Completion} {choices : List ChunkChoice} :
    material enhanced (some payload) = .ok (raw, choices) ↔
      ∃ values, raw.ReadsFrom payload ∧ raw.choices = some (.arr values) ∧
        Provider.Message.eachAt (ChunkChoice.build enhanced) 0 values = .ok choices := by
  constructor
  · intro h
    unfold material at h
    simp only at h
    split at h
    · cases h
    next raw' hraw =>
      split at h
      · cases h
      next values hvalues =>
        obtain ⟨_, hchoices, hpair⟩ := Except.map_eq_ok_iff.1 h
        cases hpair
        exact ⟨values, Provider.Completion.decode_ofDict_eq_ok_iff.1
          (Failure.decoding_eq_ok_iff.1 hraw),
          Provider.Completion.choiceValues_eq_ok_iff.1 hvalues, hchoices⟩
  · rintro ⟨values, hread, hvalues, hchoices⟩
    have hraw := Provider.Completion.decode_ofDict_eq_ok_iff.2 hread
    unfold material
    simp only [Failure.decoding_eq_ok_iff.2 hraw,
      Provider.Completion.choiceValues_eq_ok_iff.2 hvalues, hchoices, Except.map]

theorem ofPayload_eq_ok_iff {chunk : Chunk} :
    ofPayload enhanced supply (some payload) = .ok chunk ↔
      ∃ raw : Provider.Completion, ∃ values choices, raw.ReadsFrom payload ∧
        raw.choices = some (.arr values) ∧
          Provider.Message.eachAt (ChunkChoice.build enhanced) 0 values = .ok choices ∧
            chunk = ofRaw supply raw choices := by
  rw [ofPayload_eq_map_material, Except.map_eq_ok_iff]
  constructor
  · rintro ⟨⟨raw, choices⟩, hmaterial, rfl⟩
    obtain ⟨values, hread, hvalues, hchoices⟩ := material_eq_ok_iff.1 hmaterial
    exact ⟨raw, values, choices, hread, hvalues, hchoices, rfl⟩
  · rintro ⟨raw, values, choices, hread, hvalues, hchoices, rfl⟩
    exact ⟨(raw, choices), material_eq_ok_iff.2 ⟨values, hread, hvalues, hchoices⟩, rfl⟩

/-- **Why there is no chunk.**  A part of the payload cannot be decoded, or its
choices are missing or no list. -/
theorem ofPayload_eq_error {e : Failure}
    (h : ofPayload enhanced supply (some payload) = .error e) :
    (∃ what fault, e = .undecodable what fault) ∨
      Provider.Completion.ChoicesFault payload e := by
  rw [ofPayload_eq_map_material, Except.map_eq_error_iff] at h
  unfold material at h
  simp only at h
  split at h
  next e' hraw =>
    obtain ⟨fault, rfl⟩ := Failure.exists_of_decoding_eq_error hraw
    exact .inl ⟨_, _, (Except.error.inj h).symm⟩
  next raw hraw =>
    split at h
    next e' hvalues =>
      have hread := Provider.Completion.decode_ofDict_eq_ok_iff.1
        (Failure.decoding_eq_ok_iff.1 hraw)
      rw [← Except.error.inj h]
      exact .inr (Provider.Completion.choicesFault_of_choiceValues_eq_error hread hvalues)
    · obtain ⟨k, v, -, hbuild⟩ :=
        Provider.Message.exists_of_eachAt_eq_error (Except.map_eq_error_iff.1 h)
      exact .inl (ChunkChoice.exists_of_build_eq_error hbuild)

end Chunk

end CanonicalReply
