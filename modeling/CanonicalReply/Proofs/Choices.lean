import CanonicalReply.Assembly.Choice
import CanonicalReply.Proofs.Decoding
import CanonicalReply.Proofs.Repair

/-!
# Building a choice

A choice is built in steps: it is decoded, its tool calls are completed, they
are repaired, and one of two bodies is taken.  Each step has one lemma here that
says all that it can do; what a whole choice looks like is then read off
`Choice.build_eq_ok_iff`.

* `Provider.Message.wholeToolCalls_eq_ok_iff`: the calls of a message, each one
  completed with an id of its own position.
* `Choice.effectiveCalls_eq_ok_iff`: the calls after repair.
* `Choice.body_of_jsonContent_eq_some`, `Choice.body_of_jsonContent_eq_none`:
  the two bodies.
-/

namespace CanonicalReply

/-! ## The first text that is not empty -/

namespace Provider

theorem firstNonEmpty_ne_empty {candidates : List (Option String)} {s : String}
    (h : firstNonEmpty candidates = some s) : s ≠ "" := by
  have := List.find?_some h
  simpa using this

theorem firstNonEmpty_some {s : String} (h : s ≠ "") : firstNonEmpty [some s] = some s := by
  simp [firstNonEmpty, h]

@[simp] theorem firstNonEmpty_empty : firstNonEmpty [some ""] = none := by
  simp [firstNonEmpty]

/-- One text counts unless it is empty. -/
theorem firstNonEmpty_singleton (o : Option String) :
    firstNonEmpty [o] = o.filter (· ≠ "") := by
  cases o with
  | none => rfl
  | some s =>
    by_cases h : s = ""
    · simp [h, Option.filter]
    · simp [firstNonEmpty_some h, h, Option.filter]

/-- A default that is not empty makes sure of a text that is not. -/
theorem firstNonEmpty_getD_ne_empty {candidates : List (Option String)} {default : String}
    (h : default ≠ "") : (firstNonEmpty candidates).getD default ≠ "" := by
  cases hc : firstNonEmpty candidates with
  | none => exact h
  | some s => exact firstNonEmpty_ne_empty hc

/-! ## Tool calls and roles -/

theorem Message.roleOrDefault_ne_empty (m : Message) : m.roleOrDefault ≠ "" :=
  firstNonEmpty_getD_ne_empty (by decide)

/-- The tool calls of a message are read one by one; each position has an id for
a call without one. -/
theorem Message.wholeToolCalls_eq_ok_iff {m : Message} {freshId : Nat → String}
    {calls : Option (List CanonicalReply.ToolCall)} :
    m.wholeToolCalls freshId = .ok calls ↔
      m.toolCalls = none ∧ calls = none ∨
        ∃ entries whole, m.toolCalls = some entries ∧ calls = some whole ∧
          eachAt (fun i v => (Failure.decoding .toolCall ToolCall.decode v).map
            (·.toCall (freshId i))) 0 entries = .ok whole := by
  rw [wholeToolCalls]
  cases m.toolCalls with
  | none => simp [eq_comm]
  | some entries =>
    simp only [Except.map_eq_ok_iff, reduceCtorEq, false_and, false_or, Option.some.injEq]
    constructor
    · rintro ⟨whole, hwhole, rfl⟩
      exact ⟨entries, whole, rfl, rfl, hwhole⟩
    · rintro ⟨_, whole, rfl, rfl, hwhole⟩
      exact ⟨whole, hwhole, rfl⟩

/-- Completed calls have ids. -/
theorem Message.id_ne_empty_of_wholeToolCalls {m : Message} {freshId : Nat → String}
    {whole : List CanonicalReply.ToolCall} {call : CanonicalReply.ToolCall}
    (hfresh : ∀ i, freshId i ≠ "") (h : m.wholeToolCalls freshId = .ok (some whole))
    (hcall : call ∈ whole) : call.id ≠ "" := by
  rcases wholeToolCalls_eq_ok_iff.1 h with ⟨-, hnone⟩ | ⟨entries, _, -, hsome, heach⟩
  · cases hnone
  · cases hsome
    obtain ⟨i, hi⟩ := List.mem_iff_getElem?.1 hcall
    obtain ⟨v, -, hv⟩ := exists_of_eachAt heach hi
    obtain ⟨raw, -, rfl⟩ := Except.map_eq_ok_iff.1 hv
    exact firstNonEmpty_getD_ne_empty (hfresh _)

/-- A tool call that cannot be completed is one that cannot be decoded. -/
theorem Message.exists_of_wholeToolCalls_eq_error {m : Message} {freshId : Nat → String}
    {e : Failure} (h : m.wholeToolCalls freshId = .error e) :
    ∃ what fault, e = .undecodable what fault := by
  rw [wholeToolCalls] at h
  split at h
  · cases h
  · obtain ⟨k, v, -, hv⟩ := exists_of_eachAt_eq_error (Except.map_eq_error_iff.1 h)
    obtain ⟨fault, rfl⟩ := Failure.exists_of_decoding_eq_error (Except.map_eq_error_iff.1 hv)
    exact ⟨_, _, rfl⟩

end Provider

namespace Choice

/-! ## The calls after repair -/

theorem effectiveCalls_eq_ok_iff {s : Settings} {calls : Option (List ToolCall)}
    {result : Option (List ToolCall) × Bool} :
    effectiveCalls s calls = .ok result ↔
      calls = none ∧ result = (none, false) ∨
        ∃ given, calls = some given ∧
          (s.repair = false ∧ result = (some given, false) ∨
            s.repair = true ∧ ∃ r, ToolCall.repair given = .ok r ∧
              result = (some r.calls, r.isExpanded)) := by
  unfold effectiveCalls
  cases calls with
  | none => simp [@eq_comm _ result]
  | some given =>
    cases hs : s.repair with
    | false => simp [@eq_comm _ result]
    | true => simp [Except.map_eq_ok_iff, @eq_comm _ result]

theorem exists_of_effectiveCalls_eq_error {s : Settings} {calls : Option (List ToolCall)}
    {e : Failure} (h : effectiveCalls s calls = .error e) :
    s.repair = true ∧ ∃ name fault, e = .badToolCall name fault := by
  unfold effectiveCalls at h
  split at h
  · cases h
  · split at h
    next hs => exact ⟨hs, ToolCall.exists_of_repair_eq_error (Except.map_eq_error_iff.1 h)⟩
    · cases h

/-- The calls after repair have ids if the calls before have. -/
theorem id_ne_empty_of_effectiveCalls {s : Settings} {given result : List ToolCall}
    {expanded : Bool} {call : ToolCall} (hids : ∀ c ∈ given, c.id ≠ "")
    (h : effectiveCalls s (some given) = .ok (some result, expanded)) (hcall : call ∈ result) :
    call.id ≠ "" := by
  rcases effectiveCalls_eq_ok_iff.1 h with ⟨hnone, -⟩ | ⟨_, hsome, ⟨-, hr⟩ | ⟨-, r, hrepair, hr⟩⟩
  · cases hnone
  · cases hsome
    cases hr
    exact hids call hcall
  · cases hsome
    cases hr
    exact ToolCall.id_ne_empty_of_mem_repair hids hrepair hcall

/-- Where repair is wanted, no packed call is left. -/
theorem not_isPacked_of_effectiveCalls {s : Settings} {calls : Option (List ToolCall)}
    {result : List ToolCall} {expanded : Bool} {call : ToolCall} (hs : s.repair = true)
    (h : effectiveCalls s calls = .ok (some result, expanded)) (hcall : call ∈ result) :
    call.isPacked = false := by
  rcases effectiveCalls_eq_ok_iff.1 h with ⟨-, hr⟩ | ⟨_, -, ⟨hs', -⟩ | ⟨-, r, hrepair, hr⟩⟩
  · cases hr
  · rw [hs] at hs'
    cases hs'
  · cases hr
    exact ToolCall.not_isPacked_of_mem_repair hrepair hcall

/-- Without packed calls, or without repair, the calls stay as they are. -/
theorem effectiveCalls_of_not_packed {s : Settings} {calls : Option (List ToolCall)}
    (h : s.repair = true → ∀ given ∈ calls, ∀ c ∈ given, c.isPacked = false) :
    effectiveCalls s calls = .ok (calls, false) := by
  rw [effectiveCalls_eq_ok_iff]
  cases calls with
  | none => exact .inl ⟨rfl, rfl⟩
  | some given =>
    refine .inr ⟨given, rfl, ?_⟩
    cases hs : s.repair with
    | false => exact .inl ⟨rfl, rfl⟩
    | true => exact .inr ⟨rfl, _, ToolCall.repair_of_not_packed (h hs given rfl), rfl⟩

/-! ## The body -/

section Body

variable {jsonMode expanded : Bool} {raw : Provider.Choice} {calls : Option (List ToolCall)}

theorem body_of_jsonContent_eq_some {content : String}
    (h : jsonContent jsonMode raw.message calls expanded = some content) :
    body jsonMode raw calls expanded = (.assistant content, FinishReason.stop) := by
  rw [body, h]

theorem body_of_jsonContent_eq_none (h : jsonContent jsonMode raw.message calls expanded = none) :
    body jsonMode raw calls expanded =
      ({ role := raw.message.roleOrDefault, content := raw.message.content,
         functionCall := raw.message.functionCall.map Provider.Function.toCall,
         toolCalls := calls, audio := raw.message.audio }, raw.reasonOrDefault) := by
  rw [body, h]

/-- Outside JSON mode no arguments become the message. -/
theorem jsonContent_false (m : Provider.Message) : jsonContent false m calls expanded = none := by
  unfold jsonContent
  split <;> simp

end Body

/-! ## The whole choice -/

section Build

variable {s : Settings} {supply : Supply} {jsonMode : Bool} {index : Nat} {v : Json}

theorem build_eq_ok_iff {c : Choice} :
    build s supply jsonMode index v = .ok c ↔
      ∃ raw whole calls expanded, Provider.Choice.decode v = .ok raw ∧
        raw.message.wholeToolCalls (supply.callId index) = .ok whole ∧
          effectiveCalls s whole = .ok (calls, expanded) ∧
            c = ⟨index, FinishReason.canonical (body jsonMode raw calls expanded).2,
              (body jsonMode raw calls expanded).1, raw.logprobs, raw.enhancements⟩ := by
  rw [build]
  constructor
  · intro h
    split at h
    · cases h
    next raw hraw =>
      split at h
      · cases h
      next whole hwhole =>
        obtain ⟨⟨calls, expanded⟩, hcalls, rfl⟩ := Except.map_eq_ok_iff.1 h
        exact ⟨raw, whole, calls, expanded, Failure.decoding_eq_ok_iff.1 hraw, hwhole, hcalls, rfl⟩
  · rintro ⟨raw, whole, calls, expanded, hraw, hwhole, hcalls, rfl⟩
    simp only [Failure.decoding_eq_ok_iff.2 hraw, hwhole, hcalls, Except.map]

/-- A choice fails to be built where a part of it cannot be decoded, or, if
repair is wanted, where the arguments of a packed call are no list of calls. -/
theorem exists_of_build_eq_error {e : Failure} (h : build s supply jsonMode index v = .error e) :
    (∃ what fault, e = .undecodable what fault) ∨
      s.repair = true ∧ ∃ name fault, e = .badToolCall name fault := by
  rw [build] at h
  split at h
  next e' hraw =>
    simp only [Except.error.injEq] at h
    obtain ⟨fault, rfl⟩ := Failure.exists_of_decoding_eq_error hraw
    exact .inl ⟨_, _, h.symm⟩
  · split at h
    next e' hwhole =>
      simp only [Except.error.injEq] at h
      exact .inl (h ▸ Provider.Message.exists_of_wholeToolCalls_eq_error hwhole)
    · exact .inr (exists_of_effectiveCalls_eq_error (Except.map_eq_error_iff.1 h))

end Build

end Choice

end CanonicalReply
