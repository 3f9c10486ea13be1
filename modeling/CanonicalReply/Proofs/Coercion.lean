import CanonicalReply.Proofs.Choices
import CanonicalReply.Proofs.Expansion

/-!
# When arguments become the message

In JSON mode a choice gives way to the arguments of its tool call, if there is one
call after repair and that call carries arguments.  What a call carries is said of
the entry that it comes from, and an entry keeps its place when others are
unpacked around it.

* `entryCalls`, `carriedCalls`: the calls after repair, each with whether it
  carries arguments.
* `calls_eq_of_effectiveCalls`: they are the calls that the choice is built with.
* `jsonContent_of_lone`, `jsonContent_of_not_lone`: the text that becomes the
  message.
* `asksForArguments_iff`: arguments are asked for, except from a call that is left
  alone when the calls packed around it come to nothing.
-/

namespace CanonicalReply

/-! ## What a call carries -/

/-- Whether an entry of a list of tool calls comes with arguments, be they empty. -/
def Provider.comesWithArguments (entry : Json) : Bool :=
  ((entry.get? "function").bind (·.get? "arguments")).any (!·.isNull)

theorem Provider.Message.firstCallHasArguments_eq (m : Message) :
    m.firstCallHasArguments = (m.toolCalls.bind List.head?).any comesWithArguments := by
  rw [firstCallHasArguments]
  cases m.toolCalls.bind List.head? with
  | none => rfl
  | some entry =>
    simp only [Option.bind_some, Option.any_some, comesWithArguments]
    cases entry.get? "function" with
    | none => rfl
    | some function =>
      simp only [Option.bind_some]
      cases function.get? "arguments" <;> rfl

namespace Choice

/-- What stands for an entry after repair, each call with whether it carries
arguments: a call that was unpacked does, and any other one does if its entry comes
with them. -/
def entryCalls (s : Settings) (entry : Json) (call : ToolCall) : List (ToolCall × Bool) :=
  if s.repair = true ∧ call.function.name = ToolCall.parallelName then
    call.standIns.map fun d => (d, true)
  else [(call, Provider.comesWithArguments entry)]

/-- The calls of a message after repair, each with whether it carries arguments. -/
def carriedCalls (s : Settings) (m : Provider.Message) (whole : Option (List ToolCall)) :
    Option (List (ToolCall × Bool)) :=
  whole.map fun calls => ((m.toolCalls.getD []).zip calls).flatMap fun e => entryCalls s e.1 e.2

/-- Whether repair unpacks some of the calls. -/
def Unpacks (s : Settings) (whole : Option (List ToolCall)) : Prop :=
  s.repair = true ∧ ∃ calls ∈ whole, ∃ d ∈ calls, d.function.name = ToolCall.parallelName

section Carried

variable {s : Settings} {m : Provider.Message} {freshId : Nat → String}
  {whole calls : Option (List ToolCall)} {expanded : Bool}

theorem map_fst_entryCalls (entry : Json) (call : ToolCall) :
    (entryCalls s entry call).map (·.1) = if s.repair = true then call.standIns else [call] := by
  by_cases hrepair : s.repair = true
  · by_cases hname : call.function.name = ToolCall.parallelName
    · rw [entryCalls, if_pos ⟨hrepair, hname⟩, if_pos hrepair, List.map_map]
      exact List.map_id _
    · rw [entryCalls, if_neg fun h => hname h.2, if_pos hrepair, ToolCall.standIns, if_neg hname]
      rfl
  · rw [entryCalls, if_neg fun h => hrepair h.1, if_neg hrepair]
    rfl

/-- Entries and calls go side by side, so what stands for the calls can be told
without the entries. -/
theorem map_fst_flatMap_entryCalls {entries : List Json} {given : List ToolCall}
    (hlength : given.length = entries.length) :
    ((entries.zip given).flatMap fun e => entryCalls s e.1 e.2).map (·.1) =
      if s.repair = true then given.flatMap ToolCall.standIns else given := by
  induction entries generalizing given with
  | nil =>
    rw [List.eq_nil_of_length_eq_zero hlength]
    simp
  | cons entry entries ih =>
    cases given with
    | nil => simp at hlength
    | cons call given =>
      rw [List.zip_cons_cons, List.flatMap_cons, List.map_append, map_fst_entryCalls,
        ih (by simpa using hlength)]
      split <;> rfl

/-- A message has a call for each of its entries. -/
theorem exists_entries_of_wholeToolCalls {given : List ToolCall}
    (h : m.wholeToolCalls freshId = .ok (some given)) :
    ∃ entries, m.toolCalls = some entries ∧ given.length = entries.length := by
  rcases Provider.Message.wholeToolCalls_eq_ok_iff.1 h with
    ⟨-, hnone⟩ | ⟨entries, _, hm, hsome, heach⟩
  · cases hnone
  · cases hsome
    exact ⟨entries, hm, Provider.Message.length_of_eachAt heach⟩

/-- **The calls of a choice** are those that stand for its entries. -/
theorem calls_eq_of_effectiveCalls (hwhole : m.wholeToolCalls freshId = .ok whole)
    (h : effectiveCalls s whole = .ok (calls, expanded)) :
    calls = (carriedCalls s m whole).map (·.map (·.1)) := by
  rcases effectiveCalls_eq_ok_iff.1 h with ⟨rfl, hr⟩ | ⟨given, rfl, hr⟩
  · cases hr
    rfl
  · obtain ⟨entries, hentries, hlength⟩ := exists_entries_of_wholeToolCalls hwhole
    rw [carriedCalls, hentries, Option.map_some, Option.map_some, Option.getD_some,
      map_fst_flatMap_entryCalls hlength]
    rcases hr with ⟨hrepair, hr⟩ | ⟨hrepair, r, hok, hr⟩
    · cases hr
      rw [if_neg (by simp [hrepair])]
    · cases hr
      rw [if_pos hrepair, (ToolCall.expands_of_repair hok).stands]

theorem expanded_iff_unpacks (h : effectiveCalls s whole = .ok (calls, expanded)) :
    expanded = true ↔ Unpacks s whole := by
  rcases effectiveCalls_eq_ok_iff.1 h with
    ⟨rfl, hr⟩ | ⟨given, rfl, ⟨hrepair, hr⟩ | ⟨hrepair, r, hok, hr⟩⟩
  · cases hr
    simp [Unpacks]
  · cases hr
    simp [Unpacks, hrepair]
  · cases hr
    rw [(ToolCall.expands_of_repair hok).expanded_iff]
    simp [Unpacks, hrepair]

/-- Where nothing is unpacked, a lone call comes from the first entry. -/
theorem firstCallHasArguments_of_lone {call : ToolCall} {carries : Bool}
    (hwhole : m.wholeToolCalls freshId = .ok whole) (hplain : ¬ Unpacks s whole)
    (h : carriedCalls s m whole = some [(call, carries)]) : m.firstCallHasArguments = carries := by
  cases whole with
  | none => cases h
  | some given =>
    obtain ⟨entries, hentries, hlength⟩ := exists_entries_of_wholeToolCalls hwhole
    have hentry : ∀ e ∈ entries.zip given,
        entryCalls s e.1 e.2 = [(e.2, Provider.comesWithArguments e.1)] := by
      intro e he
      rw [entryCalls, if_neg]
      rintro ⟨hrepair, hname⟩
      exact hplain ⟨hrepair, given, rfl, e.2, (List.of_mem_zip he).2, hname⟩
    rw [carriedCalls, hentries, Option.map_some, Option.getD_some, Option.some.injEq] at h
    rw [Provider.Message.firstCallHasArguments_eq, hentries]
    cases entries with
    | nil => simp at h
    | cons entry entries =>
      cases given with
      | nil => simp at hlength
      | cons d given =>
        rw [List.zip_cons_cons, List.flatMap_cons,
          hentry (entry, d) (by simp), List.singleton_append, List.cons.injEq, Prod.mk.injEq] at h
        exact h.1.2

/-! ## The text that becomes the message -/

/-- A lone call becomes the message if it carries arguments.  It does so without
them, too, if something else was unpacked. -/
theorem jsonContent_of_lone {call : ToolCall} {carries : Bool}
    (hwhole : m.wholeToolCalls freshId = .ok whole)
    (heffective : effectiveCalls s whole = .ok (calls, expanded))
    (h : carriedCalls s m whole = some [(call, carries)]) :
    jsonContent true m calls expanded =
      if carries = true ∨ expanded = true then some call.function.arguments else none := by
  have hcalls := calls_eq_of_effectiveCalls hwhole heffective
  rw [h] at hcalls
  subst hcalls
  cases expanded with
  | true => simp [jsonContent]
  | false =>
    have hplain : ¬ Unpacks s whole := fun hunpacks =>
      Bool.false_ne_true ((expanded_iff_unpacks heffective).2 hunpacks)
    simp [jsonContent, firstCallHasArguments_of_lone hwhole hplain h]

/-- Where there is no lone call, there is no such text. -/
theorem jsonContent_of_not_lone (hwhole : m.wholeToolCalls freshId = .ok whole)
    (heffective : effectiveCalls s whole = .ok (calls, expanded))
    (h : ∀ e, carriedCalls s m whole ≠ some [e]) : jsonContent true m calls expanded = none := by
  have hcalls := calls_eq_of_effectiveCalls hwhole heffective
  unfold jsonContent
  split
  next call =>
    obtain ⟨carried, hcarried, hmap⟩ := Option.map_eq_some_iff.1 hcalls.symm
    obtain ⟨e, rfl, -⟩ := List.map_eq_singleton_iff.1 hmap
    exact absurd hcarried (h e)
  · rfl

end Carried

/-! ## The two outcomes -/

/-- The choice is the arguments of a call. -/
def IsArguments (c : Choice) (call : ToolCall) : Prop :=
  c.message = .assistant call.function.arguments ∧ c.finishReason = FinishReason.stop

/-- The choice says what the provider said, with the given calls. -/
def Keeps (c : Choice) (raw : Provider.Choice) (calls : Option (List ToolCall)) : Prop :=
  c.message = ⟨raw.message.roleOrDefault, raw.message.content,
      raw.message.functionCall.map Provider.Function.toCall, calls, raw.message.audio⟩ ∧
    c.finishReason = FinishReason.canonical raw.reasonOrDefault

/-- Arguments are asked for: a lone call that carries them becomes the message, and
in any other case everything is kept. -/
structure AsksForArguments (c : Choice) (raw : Provider.Choice)
    (carried : Option (List (ToolCall × Bool))) : Prop where
  coerced : ∀ call, carried = some [(call, true)] → c.IsArguments call
  kept : (∀ call, carried ≠ some [(call, true)]) → c.Keeps raw (carried.map (·.map (·.1)))

/-- A call without arguments is left alone: what was packed beside it came to
nothing. -/
def LeftAlone (s : Settings) (m : Provider.Message) (whole : Option (List ToolCall))
    (call : ToolCall) : Prop :=
  Unpacks s whole ∧ carriedCalls s m whole = some [(call, false)]

section Build

variable {s : Settings} {supply : Supply} {index : Nat} {v : Json} {c : Choice}

/-- Stop is what every provider's stop means. -/
theorem canonical_stop : FinishReason.canonical FinishReason.stop = FinishReason.stop := by
  decide +kernel

/-- The choice that is built in JSON mode, by the text that becomes its message. -/
theorem isArguments_or_keeps (h : build s supply true index v = .ok c) :
    ∃ raw whole, Provider.Choice.decode v = .ok raw ∧
      raw.message.wholeToolCalls (supply.callId index) = .ok whole ∧
        ∃ calls expanded, effectiveCalls s whole = .ok (calls, expanded) ∧
          (∀ call : ToolCall, jsonContent true raw.message calls expanded =
              some call.function.arguments → c.IsArguments call) ∧
            (jsonContent true raw.message calls expanded = none → c.Keeps raw calls) := by
  obtain ⟨raw, whole, calls, expanded, hraw, hwhole, heffective, rfl⟩ := build_eq_ok_iff.1 h
  refine ⟨raw, whole, hraw, hwhole, calls, expanded, heffective, fun call hsome => ?_,
    fun hnone => ?_⟩
  · rw [body_of_jsonContent_eq_some hsome]
    exact ⟨rfl, canonical_stop⟩
  · rw [body_of_jsonContent_eq_none hnone]
    exact ⟨rfl, rfl⟩

/-- **Asking for arguments.**  A choice that is built in JSON mode is the arguments
of its lone call if that call carries some, and is kept otherwise, but for one
case: a call without arguments that is left alone becomes the message all the
same. -/
theorem outcome_of_build (h : build s supply true index v = .ok c) :
    ∃ raw whole, Provider.Choice.decode v = .ok raw ∧
      raw.message.wholeToolCalls (supply.callId index) = .ok whole ∧
        (∀ call, LeftAlone s raw.message whole call → c.IsArguments call) ∧
          ((∀ call, ¬ LeftAlone s raw.message whole call) →
            c.AsksForArguments raw (carriedCalls s raw.message whole)) := by
  obtain ⟨raw, whole, hraw, hwhole, calls, expanded, heffective, hsome, hnone⟩ :=
    isArguments_or_keeps h
  have hcalls := calls_eq_of_effectiveCalls hwhole heffective
  refine ⟨raw, whole, hraw, hwhole, ?_, fun hleft => ⟨?_, ?_⟩⟩
  · rintro call ⟨hunpacks, hlone⟩
    refine hsome call ?_
    rw [jsonContent_of_lone hwhole heffective hlone,
      if_pos (.inr ((expanded_iff_unpacks heffective).2 hunpacks))]
  · intro call hlone
    refine hsome call ?_
    rw [jsonContent_of_lone hwhole heffective hlone, if_pos (.inl rfl)]
  · intro hother
    rw [← hcalls]
    refine hnone ?_
    by_cases hlone : ∃ e, carriedCalls s raw.message whole = some [e]
    · obtain ⟨⟨call, carries⟩, hlone⟩ := hlone
      cases carries with
      | true => exact absurd hlone (hother call)
      | false =>
        rw [jsonContent_of_lone hwhole heffective hlone, if_neg]
        rintro (hcarries | hexpanded)
        · cases hcarries
        · exact hleft call ⟨(expanded_iff_unpacks heffective).1 hexpanded, hlone⟩
    · exact jsonContent_of_not_lone hwhole heffective fun e he => hlone ⟨e, he⟩

/-- A choice that is the arguments of a call without any was not asked for them. -/
theorem not_asksForArguments_of_leftAlone {raw : Provider.Choice} {whole : Option (List ToolCall)}
    {call : ToolCall} (hleft : LeftAlone s raw.message whole call) (h : c.IsArguments call) :
    ¬ c.AsksForArguments raw (carriedCalls s raw.message whole) := by
  intro hasks
  rw [hleft.2] at hasks
  have hkeeps := (hasks.kept fun d hd => by simp at hd).1
  rw [h.1] at hkeeps
  have htools : none = some [call] := congrArg Message.toolCalls hkeeps
  cases htools

/-- **When arguments are asked for**: always, unless repair leaves a call without
arguments alone. -/
theorem asksForArguments_iff (h : build s supply true index v = .ok c) :
    ∃ raw whole, Provider.Choice.decode v = .ok raw ∧
      raw.message.wholeToolCalls (supply.callId index) = .ok whole ∧
        (∀ call, LeftAlone s raw.message whole call → c.IsArguments call) ∧
          (c.AsksForArguments raw (carriedCalls s raw.message whole) ↔
            ∀ call, ¬ LeftAlone s raw.message whole call) := by
  obtain ⟨raw, whole, hraw, hwhole, hleft, hasks⟩ := outcome_of_build h
  refine ⟨raw, whole, hraw, hwhole, hleft, fun h call hcall => ?_, hasks⟩
  exact not_asksForArguments_of_leftAlone hcall (hleft call hcall) h

end Build

/-- A choice with a call of a function, and beside it one that packs no calls. -/
def besideEmpty (function : List (String × Json)) : Json :=
  .obj [("finish_reason", .str "tool_calls"), ("message", .obj [("content", .str "c"),
    ("tool_calls", .arr [.obj [("id", .str "q"), ("function", .obj function)],
      .obj [("id", .str "p"), ("function", .obj [("name", .str ToolCall.parallelName),
        ("arguments", .str "\x7b\"tool_uses\":[]\x7d")])]])])]

theorem asksForArguments_iff_besideEmpty :
    build .standard .plain true 0 (besideEmpty [("name", .str "g"), ("arguments", .str "")]) =
        .ok ⟨0, FinishReason.stop, .assistant "", none, none⟩ ∧
      ∃ raw whole, Provider.Choice.decode
          (besideEmpty [("name", .str "g"), ("arguments", .str "")]) = .ok raw ∧
        raw.message.wholeToolCalls (Supply.plain.callId 0) = .ok whole ∧
          (∀ call, LeftAlone .standard raw.message whole call →
            IsArguments ⟨0, FinishReason.stop, .assistant "", none, none⟩ call) ∧
            (AsksForArguments ⟨0, FinishReason.stop, .assistant "", none, none⟩ raw
                (carriedCalls .standard raw.message whole) ↔
              ∀ call, ¬ LeftAlone .standard raw.message whole call) := by
  have hsome : (build .standard .plain true 0
      (besideEmpty [("name", .str "g"), ("arguments", .str "")])).toOption =
        some ⟨0, FinishReason.stop, .assistant "", none, none⟩ := by decide +kernel
  have hbuild := Except.toOption_eq_some_iff.1 hsome
  exact ⟨hbuild, asksForArguments_iff hbuild⟩

/-- A call without arguments becomes the message although it was not asked to. -/
theorem not_asksForArguments_besideEmpty :
    ∃ raw whole, Provider.Choice.decode (besideEmpty [("name", .str "g")]) = .ok raw ∧
      raw.message.wholeToolCalls (Supply.plain.callId 0) = .ok whole ∧
        carriedCalls .standard raw.message whole =
            some [(.ofFunction "q" "g" "", false)] ∧
          ∃ c, build .standard .plain true 0 (besideEmpty [("name", .str "g")]) = .ok c ∧
            c.message = .assistant "" ∧ c.finishReason = FinishReason.stop ∧
              ¬ c.AsksForArguments raw (carriedCalls .standard raw.message whole) := by
  -- the lone call of the choice, and the one that comes to nothing
  let g : ToolCall := .ofFunction "q" "g" ""
  let empty : ToolCall := .ofFunction "p" ToolCall.parallelName "\x7b\"tool_uses\":[]\x7d"
  have hbuild : (build .standard .plain true 0 (besideEmpty [("name", .str "g")])).toOption =
      some ⟨0, FinishReason.stop, .assistant "", none, none⟩ := by decide +kernel
  obtain ⟨raw, whole, hraw, hwhole, -, -⟩ :=
    outcome_of_build (Except.toOption_eq_some_iff.1 hbuild)
  have hcalls : (Provider.Choice.decode (besideEmpty [("name", .str "g")])).toOption.map
      (fun raw => (raw.message.wholeToolCalls (Supply.plain.callId 0)).toOption.map
        fun whole => (whole, carriedCalls .standard raw.message whole)) =
      some (some (some [g, empty], some [(g, false)])) := by decide +kernel
  rw [hraw] at hcalls
  simp only [Except.toOption, Option.map_some, hwhole, Option.some.injEq, Prod.mk.injEq] at hcalls
  obtain ⟨rfl, hcarried⟩ := hcalls
  have hleft : LeftAlone .standard raw.message (some [g, empty]) g :=
    ⟨⟨rfl, _, rfl, empty, by simp, rfl⟩, hcarried⟩
  exact ⟨raw, _, hraw, hwhole, hcarried, _, Except.toOption_eq_some_iff.1 hbuild, rfl, rfl,
    not_asksForArguments_of_leftAlone hleft ⟨rfl, rfl⟩⟩

end Choice

end CanonicalReply
