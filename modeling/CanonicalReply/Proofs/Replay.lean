import CanonicalReply.Proofs.Assembling
import CanonicalReply.Proofs.Usage

/-!
# A replay says what the whole completion says

A payload can be assembled as a whole or replayed as one chunk.  The two read it
differently: the replay keeps what the provider said and fills nothing in, does
not repair, and takes every usage count that is none for zero.  Still, where the
whole can be assembled there is a chunk, and the whole can be told from it.

* `ToolCallDelta.toCall`, `FunctionDelta.toCall`: parts read as whole calls.
* `ChunkChoice.Replays`, `Chunk.Replays`: what the two have to do with each
  other.
* `ChunkChoice.replays_of_build`: **one choice**.
* `exists_replays_of_assemble`: **the whole payload**.
-/

namespace CanonicalReply

/-! ## Parts read as whole calls -/

/-- What is missing in a part of a function call is empty in the call. -/
def FunctionDelta.toCall (d : FunctionDelta) : FunctionCall :=
  ⟨d.name.getD "", d.arguments.getD ""⟩

/-- A part of a tool call as a whole call.  A missing or empty id is replaced by
the given one, and the kind is a function if there is none. -/
def ToolCallDelta.toCall (d : ToolCallDelta) (freshId : String) : ToolCall :=
  ⟨(d.id.filter (· ≠ "")).getD freshId, d.kind.getD "function",
    (d.function.map FunctionDelta.toCall).getD ⟨"", ""⟩⟩

namespace Provider

/-- Reading the part of a call as a whole is reading the call as a whole. -/
theorem ToolCall.toCall_toDelta (c : ToolCall) (position : Nat) (freshId : String) :
    (c.toDelta position).toCall freshId = c.toCall freshId := by
  obtain ⟨id, kind, function, index⟩ := c
  rw [ToolCall.toCall, firstNonEmpty_singleton]
  cases function <;> rfl

end Provider

/-! ## What the two have to do with each other -/

/-- A part of a choice tells the whole choice at its position.  The raw choice is
the one that both were read from. -/
structure ChunkChoice.Replays (part : ChunkChoice) (s : Settings) (supply : Supply)
    (position : Nat) (raw : Provider.Choice) (c : Choice) : Prop where
  index_eq : part.index = position ∧ c.index = position
  content_eq : c.message.content = part.delta.content
  logprobs_eq : c.logprobs = part.logprobs
  enhancements_eq : c.enhancements = part.enhancements
  role_eq : c.message.role = (part.delta.role.filter (· ≠ "")).getD Message.assistantRole
  /-- A reason that is nowhere to be found is a stop. -/
  finishReason_eq_stop : raw.finishReason = none →
    part.finishReason = none ∨ part.finishReason = some "" → c.finishReason = FinishReason.stop
  finishReason_eq : ¬ (raw.finishReason = none ∧
      (part.finishReason = none ∨ part.finishReason = some "")) →
    part.finishReason.map FinishReason.canonical = some c.finishReason
  functionCall_eq : c.message.functionCall = part.delta.functionCall.map FunctionDelta.toCall
  toolCalls_eq_none_iff : part.delta.toolCalls = none ↔
    raw.message.toolCalls = none ∨ raw.message.toolCalls = some [] ∨
      ∃ v rest, raw.message.toolCalls = some (v :: rest) ∧ v.isObject = false
  /-- The parts of the calls, read as whole calls and then repaired where that is
  wanted, are the whole calls. -/
  toolCalls_eq : ∀ deltas, part.delta.toolCalls = some deltas →
    ∃ entries, raw.message.toolCalls = some entries ∧ deltas.length = entries.length ∧
      (∀ (k : Nat) v delta, entries[k]? = some v → deltas[k]? = some delta →
        ∃ call, Provider.ToolCall.decode v = .ok call ∧ delta.index = call.index.getD k) ∧
      ∃ expanded, Choice.effectiveCalls s
        (some (deltas.mapIdx fun k delta => delta.toCall (supply.callId position k))) =
          .ok (c.message.toolCalls, expanded)
  /-- Without calls to read there are none. -/
  toolCalls_eq_self : (raw.message.toolCalls = none → c.message.toolCalls = none) ∧
    (raw.message.toolCalls = some [] → c.message.toolCalls = some [])

/-- A chunk tells the whole completion of a payload. -/
structure Chunk.Replays (chunk : Chunk) (s : Settings) (supply : Supply) (payload : Payload)
    (c : Completion) : Prop where
  choices_length : chunk.choices.length = c.choices.length
  choices : ∀ (i : Nat) part choice, chunk.choices[i]? = some part → c.choices[i]? = some choice →
    ∃ values v raw, payload.get? "choices" = some (.arr values) ∧ values[i]? = some v ∧
      Provider.Choice.decode v = .ok raw ∧ part.Replays s supply i raw choice
  /-- The counts agree; the chunk has nothing beside them. -/
  usage_eq : chunk.usage =
    c.usage.map fun u => .ofCounts u.promptTokens u.completionTokens u.totalTokens
  model_eq : chunk.model = c.model
  systemFingerprint_eq : chunk.systemFingerprint = c.systemFingerprint
  id_eq : ∀ t, payload.get? "id" = some (.str t) → t ≠ "" → chunk.id = t ∧ c.id = t
  created_eq : ∀ v t, payload.get? "created" = some v → Provider.unixSeconds v = some t → t ≠ 0 →
    chunk.created = t ∧ c.created = t

/-! ## Tool calls -/

section ToolCalls

variable {m : Provider.Message} {freshId : Nat → String}

/-- Where the calls can be read as wholes, their parts can be read. -/
theorem exists_toolCallDeltas_of_wholeToolCalls {whole : Option (List ToolCall)}
    (h : m.wholeToolCalls freshId = .ok whole) : ∃ deltas, m.toolCallDeltas = .ok deltas := by
  cases hcalls : m.toolCalls with
  | none => exact ⟨none, by rw [Provider.Message.toolCallDeltas, hcalls]⟩
  | some entries =>
    rcases Provider.Message.wholeToolCalls_eq_ok_iff.1 h with ⟨hnone, -⟩ | ⟨_, w, hsome, -, hread⟩
    · rw [hcalls] at hnone
      cases hnone
    · rw [hcalls] at hsome
      cases hsome
      have hdeltas : ∃ parts, Provider.Message.eachAt (fun i v =>
          (Failure.decoding .toolCallDelta Provider.ToolCall.decode v).map (·.toDelta i)) 0 entries
            = .ok parts := by
        refine Provider.Message.exists_eachAt_of_eachAt ?_ hread
        intro i v call hcall
        obtain ⟨raw, hraw, -⟩ := Except.map_eq_ok_iff.1 hcall
        have hraw' : Failure.decoding .toolCallDelta Provider.ToolCall.decode v = .ok raw :=
          Failure.decoding_eq_ok_iff.2 (Failure.decoding_eq_ok_iff.1 hraw)
        exact ⟨raw.toDelta i, Except.map_eq_ok_iff.2 ⟨raw, hraw', rfl⟩⟩
      obtain ⟨parts, hparts⟩ := hdeltas
      cases entries with
      | nil => exact ⟨none, by rw [Provider.Message.toolCallDeltas, hcalls]; rfl⟩
      | cons v rest =>
        cases hv : v.isObject with
        | true =>
          exact ⟨some parts, Provider.Message.toolCallDeltas_eq_ok_iff.2
            (.inr ⟨v, rest, parts, hcalls, hv, hparts, rfl⟩)⟩
        | false =>
          refine ⟨none, Provider.Message.toolCallDeltas_eq_ok_iff.2 (.inl ⟨?_, rfl⟩)⟩
          intro w tail heq
          rw [hcalls] at heq
          cases heq
          exact hv

/-- There are no parts exactly where there is nothing that begins like a call. -/
theorem toolCallDeltas_eq_none_iff {deltas : Option (List ToolCallDelta)}
    (h : m.toolCallDeltas = .ok deltas) : deltas = none ↔
      m.toolCalls = none ∨ m.toolCalls = some [] ∨
        ∃ v rest, m.toolCalls = some (v :: rest) ∧ v.isObject = false := by
  rcases Provider.Message.toolCallDeltas_eq_ok_iff.1 h with
    ⟨hno, rfl⟩ | ⟨v, rest, parts, hcalls, hv, -, rfl⟩
  · simp only [true_iff]
    cases hcalls : m.toolCalls with
    | none => exact .inl rfl
    | some entries =>
      cases entries with
      | nil => exact .inr (.inl rfl)
      | cons v rest => exact .inr (.inr ⟨v, rest, rfl, hno v rest hcalls⟩)
  · simp [hcalls, hv]

/-- The whole calls are the parts, read as whole calls. -/
theorem wholeToolCalls_of_toolCallDeltas {whole : Option (List ToolCall)}
    {deltas : List ToolCallDelta} (hwhole : m.wholeToolCalls freshId = .ok whole)
    (hdeltas : m.toolCallDeltas = .ok (some deltas)) :
    ∃ entries, m.toolCalls = some entries ∧ deltas.length = entries.length ∧
      (∀ (k : Nat) v delta, entries[k]? = some v → deltas[k]? = some delta →
        ∃ call, Provider.ToolCall.decode v = .ok call ∧ delta.index = call.index.getD k) ∧
      whole = some (deltas.mapIdx fun k delta => delta.toCall (freshId k)) := by
  rcases Provider.Message.toolCallDeltas_eq_ok_iff.1 hdeltas with
    ⟨-, hnone⟩ | ⟨v, rest, parts, hcalls, -, hparts, hsome⟩
  · cases hnone
  cases hsome
  rcases Provider.Message.wholeToolCalls_eq_ok_iff.1 hwhole with
    ⟨hnone, -⟩ | ⟨entries, calls, hentries, rfl, hread⟩
  · rw [hcalls] at hnone
    cases hnone
  rw [hcalls] at hentries
  cases hentries
  refine ⟨_, hcalls, Provider.Message.length_of_eachAt hparts, ?_, congrArg some ?_⟩
  · intro k w delta hw hdelta
    have hpart := (Provider.Message.eachAt_eq_ok_iff.1 hparts).2 k w delta hw hdelta
    obtain ⟨call, hcall, rfl⟩ := Except.map_eq_ok_iff.1 hpart
    exact ⟨call, Failure.decoding_eq_ok_iff.1 hcall, by rw [Nat.zero_add]; rfl⟩
  · have hlength : calls.length = deltas.length := by
      rw [Provider.Message.length_of_eachAt hread, Provider.Message.length_of_eachAt hparts]
    refine List.ext_getElem (by rw [hlength, List.length_mapIdx]) ?_
    intro k hk hk'
    have hkd : k < deltas.length := hlength ▸ hk
    obtain ⟨w, -, hcall, hpart⟩ := Provider.Message.exists_of_eachAt_eachAt hread hparts
      (List.getElem?_eq_getElem hk) (List.getElem?_eq_getElem hkd)
    obtain ⟨raw, hraw, hcall⟩ := Except.map_eq_ok_iff.1 hcall
    obtain ⟨raw', hraw', hpart⟩ := Except.map_eq_ok_iff.1 hpart
    have hsame : raw' = raw := Except.ok.inj
      ((Failure.decoding_eq_ok_iff.1 hraw').symm.trans (Failure.decoding_eq_ok_iff.1 hraw))
    rw [List.getElem_mapIdx, ← hcall, ← hpart, hsame, Provider.ToolCall.toCall_toDelta,
      Nat.zero_add]

/-- No list of calls, or an empty one, stays what it is. -/
theorem effectiveCalls_of_wholeToolCalls {s : Settings} {whole calls : Option (List ToolCall)}
    {expanded : Bool} (hwhole : m.wholeToolCalls freshId = .ok whole)
    (hcalls : Choice.effectiveCalls s whole = .ok (calls, expanded)) :
    (m.toolCalls = none → calls = none) ∧ (m.toolCalls = some [] → calls = some []) := by
  constructor
  · intro hnone
    rw [Provider.Message.wholeToolCalls, hnone] at hwhole
    cases hwhole
    cases hcalls
    rfl
  · intro hnil
    rw [Provider.Message.wholeToolCalls, hnil] at hwhole
    cases hwhole
    rw [Choice.effectiveCalls_of_not_packed (by simp)] at hcalls
    cases hcalls
    rfl

end ToolCalls

/-! ## Finish reasons -/

section FinishReason

variable {raw : Provider.Choice}

theorem reasonOrDefault_of_some {reason : String} (h : raw.finishReason = some reason) :
    raw.reasonOrDefault = reason ∧ raw.reasonOrDetails = some reason := by
  rw [Provider.Choice.reasonOrDefault, Provider.Choice.reasonOrDetails, h]
  exact ⟨rfl, rfl⟩

theorem reasonOrDefault_of_none (h : raw.finishReason = none) :
    raw.reasonOrDefault = (raw.reasonOrDetails.filter (· ≠ "")).getD FinishReason.stop := by
  rw [Provider.Choice.reasonOrDefault, Provider.Choice.reasonOrDetails, h,
    Provider.firstNonEmpty_singleton, Option.none_or]

theorem canonical_reasonOrDefault_eq_stop (h : raw.finishReason = none)
    (hpart : raw.reasonOrDetails = none ∨ raw.reasonOrDetails = some "") :
    FinishReason.canonical raw.reasonOrDefault = FinishReason.stop := by
  rw [reasonOrDefault_of_none h]
  rcases hpart with hpart | hpart
  · rw [hpart]
    decide
  · rw [hpart]
    decide

theorem canonical_reasonOrDefault_eq (h : ¬ (raw.finishReason = none ∧
      (raw.reasonOrDetails = none ∨ raw.reasonOrDetails = some ""))) :
    raw.reasonOrDetails.map FinishReason.canonical =
      some (FinishReason.canonical raw.reasonOrDefault) := by
  cases hraw : raw.finishReason with
  | some reason =>
    obtain ⟨hdefault, hdetails⟩ := reasonOrDefault_of_some hraw
    rw [hdefault, hdetails]
    rfl
  | none =>
    rw [reasonOrDefault_of_none hraw]
    cases hpart : raw.reasonOrDetails with
    | none => exact absurd ⟨hraw, .inl hpart⟩ h
    | some reason =>
      have hne : reason ≠ "" := fun hempty => h ⟨hraw, .inr (hempty ▸ hpart)⟩
      simp [Option.filter, hne]

end FinishReason

/-! ## One choice -/

/-- Where a choice can be built, its part can be built. -/
theorem ChunkChoice.exists_build_of_build {s : Settings} {supply : Supply} {jsonMode : Bool}
    {position : Nat} {v : Json} {c : Choice}
    (h : Choice.build s supply jsonMode position v = .ok c) :
    ∃ part, build true position v = .ok part := by
  obtain ⟨raw, whole, calls, expanded, hraw, hwhole, -, -⟩ := Choice.build_eq_ok_iff.1 h
  obtain ⟨deltas, hdeltas⟩ := exists_toolCallDeltas_of_wholeToolCalls hwhole
  exact ⟨_, build_eq_ok_iff.2 ⟨raw, deltas, hraw, hdeltas, rfl⟩⟩

/-- **One choice.**  Outside JSON mode the part of a choice tells the choice. -/
theorem ChunkChoice.replays_of_build {s : Settings} {supply : Supply} {position : Nat} {v : Json}
    {c : Choice} {part : ChunkChoice} (hc : Choice.build s supply false position v = .ok c)
    (hpart : build true position v = .ok part) :
    ∃ raw, Provider.Choice.decode v = .ok raw ∧ part.Replays s supply position raw c := by
  obtain ⟨raw, whole, calls, expanded, hraw, hwhole, hcalls, rfl⟩ := Choice.build_eq_ok_iff.1 hc
  obtain ⟨raw', deltas, hraw', hdeltas, rfl⟩ := build_eq_ok_iff.1 hpart
  cases Except.ok.inj (hraw.symm.trans hraw')
  rw [Choice.body_of_jsonContent_eq_none (Choice.jsonContent_false raw.message)]
  refine ⟨raw, hraw, ⟨rfl, rfl⟩, rfl, rfl, rfl, ?_, ?_, ?_, ?_,
    toolCallDeltas_eq_none_iff hdeltas, ?_, ?_⟩
  · show raw.message.roleOrDefault = _
    rw [Provider.Message.roleOrDefault, Provider.firstNonEmpty_singleton]
  · exact canonical_reasonOrDefault_eq_stop
  · exact canonical_reasonOrDefault_eq
  · show raw.message.functionCall.map _ = (raw.message.functionCall.map _).map _
    rw [Option.map_map]
    rfl
  · intro given hgiven
    cases hgiven
    obtain ⟨entries, hentries, hlength, hindex, rfl⟩ :=
      wholeToolCalls_of_toolCallDeltas hwhole hdeltas
    exact ⟨entries, hentries, hlength, hindex, expanded, hcalls⟩
  · exact effectiveCalls_of_wholeToolCalls hwhole hcalls

/-! ## The whole payload -/

/-- What the strict reader accepts as usage, the other one reads likewise. -/
theorem Provider.Completion.zeroFilledUsage_eq {raw : Provider.Completion} {usage : Option Usage}
    (h : raw.decodedUsage = .ok usage) :
    raw.zeroFilledUsage =
      usage.map fun u => .ofCounts u.promptTokens u.completionTokens u.totalTokens := by
  rw [zeroFilledUsage]
  rcases decodedUsage_eq_ok_iff.1 h with ⟨hraw, rfl⟩ | ⟨v, u, hraw, hread, rfl⟩
  · rw [hraw]
    rfl
  · obtain ⟨members, hv, hprompt, hcompletion, htotal, -⟩ := Usage.decode_eq_ok_iff.1 hread
    rw [hraw, Option.map_some, Option.map_some, hprompt.countOrZero_eq hv,
      hcompletion.countOrZero_eq hv, htotal.countOrZero_eq hv]

/-- **The whole payload.**  Where a completion can be assembled outside JSON
mode, a replay of its payload gives one chunk, which tells the completion. -/
theorem exists_replays_of_assemble (s : Settings) (supply supply' : Supply) (payload : Payload)
    (o : Options) (c : Completion) (hjson : o.jsonMode.getD s.jsonMode = false)
    (h : assemble s supply (some payload) (.completion none) o = .ok (.completion c)) :
    ∃ chunk, Replay.blocking supply' (some payload) = .ok [chunk] ∧
      chunk.Replays s supply payload c := by
  obtain ⟨p, hp, -, hc⟩ := assemble_eq_ok_completion h
  cases hp
  obtain ⟨raw, values, choices, usage, hraw, hvalues, hchoices, husage, rfl⟩ :=
    Completion.assemble_none_eq_ok_iff.1 hc
  rw [hjson] at hchoices
  obtain ⟨parts, hparts⟩ := Provider.Message.exists_eachAt_of_eachAt
    (fun i v c hc => ChunkChoice.exists_build_of_build hc) hchoices
  have hchunk : Chunk.ofPayload true supply' (some payload) =
      .ok (Chunk.ofRaw supply' raw parts) :=
    Chunk.ofPayload_eq_ok_iff.2 ⟨raw, values, parts, hraw, hvalues, hparts, rfl⟩
  refine ⟨_, Except.map_eq_ok_iff.2 ⟨_, hchunk, rfl⟩, ?_, ?_, ?_, rfl, rfl, ?_, ?_⟩
  · show parts.length = choices.length
    rw [Provider.Message.length_of_eachAt hparts, Provider.Message.length_of_eachAt hchoices]
  · intro i part choice hpart hchoice
    obtain ⟨v, hv, hbuild, hbuildPart⟩ :=
      Provider.Message.exists_of_eachAt_eachAt hchoices hparts hchoice hpart
    rw [Nat.zero_add] at hbuild hbuildPart
    obtain ⟨rawChoice, hrawChoice, hreplays⟩ := ChunkChoice.replays_of_build hbuild hbuildPart
    exact ⟨values, v, rawChoice, hraw.get?_choices hvalues, hv, hrawChoice, hreplays⟩
  · exact Provider.Completion.zeroFilledUsage_eq husage
  · intro t ht hne
    have hid := hraw.id_eq ht
    constructor
    · show raw.id.join.getD _ = t
      rw [hid]
      rfl
    · show (raw.id.map (Completion.idOf supply)).getD _ = t
      rw [hid, Option.map_some, Option.getD_some, Completion.idOf, Provider.firstNonEmpty_some hne,
        Option.getD_some]
  · intro v t hv ht hne
    have hnull : v ≠ .null := by
      rintro rfl
      cases ht
    have hcreated := hraw.created_eq hv hnull
    constructor
    · show (raw.created.join.bind Provider.unixSeconds).getD _ = t
      rw [hcreated, Option.join_some, Option.bind_some, ht, Option.getD_some]
    · show (raw.created.map (Completion.createdOf supply)).getD _ = t
      rw [hcreated, Option.map_some, Option.getD_some, Completion.createdOf, Option.bind_some, ht]
      simp [Option.filter, hne]

/-- A payload with one choice that calls two tools.  One call has an index of its
own and no id, the other one has no function. -/
def twoCalls : Payload :=
  .ofList [("id", .str "r"), ("created", .num (.int 5)),
    ("usage", .obj [("prompt_tokens", .null), ("total_tokens", .num (.int 3))]),
    ("choices", .arr [.obj [("finish_details", .obj [("type", .str "max_tokens")]),
      ("message", .obj [("role", .str ""), ("tool_calls", .arr [
        .obj [("index", .num (.int 4)), ("function", .obj [("name", .str "f")])],
        .obj [("id", .str "c")]])])]])]

/-- The completion of two calls. -/
def twoCallsReply : Completion :=
  { Completion.blank "r" 5 with
    choices := [⟨0, "length", ⟨Message.assistantRole, none, none,
      some [.ofFunction (Supply.plain.callId 0 0) "f" "", .ofFunction "c" "" ""], none⟩,
      none, none⟩]
    usage := some ⟨0, 0, 3, .empty⟩ }

theorem exists_replays_of_assemble_twoCalls :
    assemble .standard .plain (some twoCalls) (.completion none) .none =
        .ok (.completion twoCallsReply) ∧
      ∃ chunk, Replay.blocking .plain (some twoCalls) = .ok [chunk] ∧
        chunk.Replays .standard .plain twoCalls twoCallsReply := by
  have hreply : (assemble .standard .plain (some twoCalls) (.completion none) .none).toOption =
      some (.completion twoCallsReply) := by decide +kernel
  have hok := Except.toOption_eq_some_iff.1 hreply
  exact ⟨hok,
    exists_replays_of_assemble .standard .plain .plain twoCalls .none twoCallsReply rfl hok⟩

end CanonicalReply
