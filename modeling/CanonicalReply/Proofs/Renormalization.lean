import CanonicalReply.Proofs.Written

/-!
# Normalizing what is normal

A completion in canonical form is written in the shape of a payload, and that
payload is assembled to the same completion: there is nothing left to repair, to
map or to fill in.

* `Completion.IsReadable`: what a completion needs beside its form in order to be
  read back.
* `Completion.readsFrom_wire`: what the written completion is decoded as.
* `Completion.assemble_wire`: **a canonical completion is a fixed point.**
* `assemble_toJson_of_assemble`: **every assembled completion is one.**
-/

namespace CanonicalReply

open Json (orNull)

namespace Completion

/-- A completion that is read back as what it is. -/
structure IsReadable (c : Completion) : Prop where
  object_eq : c.object = objectName
  created_ne_zero : c.created ≠ 0
  choices : ∀ choice ∈ c.choices, choice.IsReadable
  usage : ∀ u ∈ c.usage, ∀ key ∈ Usage.keys, u.extra.get? key = none

/-- The written completion, as a map. -/
def wire (c : Completion) : Payload := (Dict.ofPresent c.fieldMembers).overlay c.extra

theorem dict?_toJson (c : Completion) : c.toJson.dict? = some c.wire :=
  congrArg some (Dict.ofList_append_entries _ c.extra)

/-! ## The members of the written form -/

theorem pairwise_fieldMembers (c : Completion) :
    c.fieldMembers.Pairwise fun a b => a.1 ≠ b.1 := by
  simp [fieldMembers]

theorem get?_fieldMembers_eq_none (c : Completion) {key : String} (h : key ∉ keys) :
    (Dict.ofPresent c.fieldMembers).get? key = none := by
  have hnone : c.fieldMembers.lookup key = none := by
    rw [List.lookup_eq_none_iff]
    simpa [keys, fieldMembers] using h
  rw [Dict.get?_ofPresent c.pairwise_fieldMembers, hnone]
  rfl

theorem get?_wire_of_not_mem (c : Completion) {key : String} (h : key ∉ keys) :
    c.wire.get? key = c.extra.get? key := by
  rw [wire, Dict.get?_overlay, c.get?_fieldMembers_eq_none h, Option.or_none]

section Wire

variable {c : Completion} (hextra : ∀ key ∈ keys, c.extra.get? key = none)

include hextra

theorem get?_wire {key : String} (h : key ∈ keys) :
    c.wire.get? key = (c.fieldMembers.lookup key).join := by
  rw [wire, Dict.get?_overlay_of_eq_none (hextra key h),
    Dict.get?_ofPresent c.pairwise_fieldMembers]

/-- The written completion is decoded as a payload that says everything. -/
theorem readsFrom_wire :
    Provider.Completion.ReadsFrom
      { choices := some (.arr (c.choices.map Choice.toJson)), usage := c.usage.map Usage.toJson,
        id := some (some c.id), created := some (some (.ofSeconds c.created)),
        model := some c.model, systemFingerprint := c.systemFingerprint.map some,
        object := some (.str c.object), extra := c.extra } c.wire where
  choices := by
    rw [get?_wire hextra (by simp [keys])]
    rfl
  usage := by
    rw [get?_wire hextra (by simp [keys])]
    show c.usage.map Usage.toJson = (c.usage.map Usage.toJson).bind Json.nonNull?
    cases c.usage <;> rfl
  id := get?_wire hextra (by simp [keys])
  created := by
    rw [get?_wire hextra (by simp [keys])]
    rfl
  model := get?_wire hextra (by simp [keys])
  systemFingerprint := by
    rw [get?_wire hextra (by simp [keys])]
    show c.systemFingerprint.map _ = (c.systemFingerprint.map some).map _
    cases c.systemFingerprint <;> rfl
  object := by
    rw [get?_wire hextra (by simp [keys])]
    rfl
  extra := (Dict.filterKeys_overlay (fun _ => get?_fieldMembers_eq_none c) hextra).symm

end Wire

/-! ## Ids and times -/

theorem idOf_eq_self {supply : Supply} {id : String} (h : id ≠ "") :
    idOf supply (some id) = id := by
  rw [idOf, Provider.firstNonEmpty_some h, Option.getD_some]

theorem unixSeconds_ofSeconds (t : Int64) : Provider.unixSeconds (.ofSeconds t) = some t := by
  rw [Json.ofSeconds, Provider.unixSeconds, Int.min_eq_left t.toInt_le, Int64.ofInt_toInt]

theorem createdOf_ofSeconds {supply : Supply} {t : Int64} (h : t ≠ 0) :
    createdOf supply (some (.ofSeconds t)) = t := by
  rw [createdOf, Option.bind_some, unixSeconds_ofSeconds]
  simp [Option.filter, h]

/-- A time that a payload gives is not zero unless the present is. -/
theorem createdOf_ne_zero {supply : Supply} {created : Option Json} (hnow : supply.now ≠ 0) :
    createdOf supply created ≠ 0 := by
  rw [createdOf]
  cases h : (created.bind Provider.unixSeconds).filter (· ≠ 0) with
  | none => exact hnow
  | some t => simpa using (Option.filter_eq_some_iff.1 h).2

/-! ## The fixed point -/

/-- **A canonical completion is a fixed point.**  What is written of it is
assembled to the same completion, whatever could have been made up. -/
theorem assemble_wire {s : Settings} {supply : Supply} {c : Completion}
    (hcanonical : c.IsCanonical s) (hreadable : c.IsReadable) :
    assemble s supply c.wire none { Options.none with jsonMode := some false } =
      .ok { c with side := .empty, headers := none } := by
  have hchoices : Provider.Message.eachAt (Choice.build s supply false) 0
      (c.choices.map Choice.toJson) = .ok c.choices := by
    refine Provider.Message.eachAt_eq_ok_iff.2 ⟨by rw [List.length_map], ?_⟩
    intro k v choice hv hchoice
    rw [List.getElem?_map, hchoice] at hv
    cases hv
    rw [Nat.zero_add]
    exact Choice.build_toJson (hcanonical.choices k choice hchoice)
      (hreadable.choices choice (List.mem_of_getElem? hchoice))
  have husage : c.usage.map Usage.toJson = none ∧ c.usage = none ∨
      ∃ v u, c.usage.map Usage.toJson = some v ∧ Usage.decode v = .ok u ∧ c.usage = some u := by
    cases hu : c.usage with
    | none => exact .inl ⟨rfl, rfl⟩
    | some u => exact .inr ⟨_, u, rfl, Usage.decode_toJson (hreadable.usage u hu), rfl⟩
  refine assemble_none_eq_ok_iff.2 ⟨_, _, c.choices, c.usage,
    readsFrom_wire hcanonical.extra_eq_none, rfl, hchoices,
    Provider.Completion.decodedUsage_eq_ok_iff.2 husage, ?_⟩
  have hfingerprint : (c.systemFingerprint.map some).join = c.systemFingerprint := by
    cases c.systemFingerprint <;> rfl
  show _ = Completion.mk (idOf supply (some c.id)) objectName
    (createdOf supply (some (.ofSeconds c.created))) c.model c.choices c.usage
    (c.systemFingerprint.map some).join c.extra .empty none
  rw [idOf_eq_self hcanonical.id_ne_empty, createdOf_ofSeconds hreadable.created_ne_zero,
    hfingerprint, ← hreadable.object_eq]

/-! ## What an assembly gives -/

section Assemble

variable {s : Settings} {supply : Supply} {payload : Payload} {o : Options} {c : Completion}

/-- What is assembled can be read back. -/
theorem isReadable_of_assemble (hnow : supply.now ≠ 0)
    (h : assemble s supply payload none o = .ok c) : c.IsReadable := by
  obtain ⟨raw, values, choices, usage, hraw, -, hchoices, husage, rfl⟩ :=
    assemble_none_eq_ok_iff.1 h
  refine ⟨rfl, ?_, ?_, ?_⟩
  · show (raw.created.map (createdOf supply)).getD supply.now ≠ 0
    cases raw.created with
    | none => exact hnow
    | some created => exact createdOf_ne_zero hnow
  · intro choice hchoice
    obtain ⟨i, hi⟩ := List.mem_iff_getElem?.1 hchoice
    obtain ⟨v, -, hbuild⟩ := Provider.Message.exists_of_eachAt hchoices hi
    exact Choice.isReadable_of_build hbuild
  · intro u hu
    rcases Provider.Completion.decodedUsage_eq_ok_iff.1 husage with
      ⟨-, hnone⟩ | ⟨v, u', -, hread, hsome⟩
    · rw [hnone] at hu
      cases hu
    · rw [hsome] at hu
      cases hu
      exact Usage.extra_eq_none_of_decode hread

/-- What is assembled reports an error, when it is written, only if its payload
does. -/
theorem reportsError_of_wire (h : assemble s supply payload none o = .ok c)
    (hwire : ReportsError (some c.wire)) : ReportsError (some payload) := by
  obtain ⟨raw, values, choices, usage, hraw, -, -, -, rfl⟩ := assemble_none_eq_ok_iff.1 h
  obtain ⟨p, e, hp, he, hne⟩ := hwire
  cases hp
  have herror : "error" ∉ keys := by decide
  rw [get?_wire_of_not_mem _ herror] at he
  have hextra : raw.extra.get? "error" = payload.get? "error" := by
    rw [hraw.extra, Dict.get?_filterKeys, if_pos (by simpa using herror)]
  exact ⟨payload, e, rfl, hextra ▸ he, hne⟩

end Assemble

end Completion

/-- **Normalizing what is normal.**  What is assembled from a payload, with
whatever settings and options, is written as a payload that is assembled to it
again: nothing in it is made up, whatever the second assembly could make up. -/
theorem assemble_toJson_of_assemble (s : Settings) (supply : Supply) (payload : Option Payload)
    (o : Options) (c : Completion) (hnow : supply.now ≠ 0)
    (h : assemble s supply payload (.completion none) o = .ok (.completion c)) :
    ∃ wire, c.toJson.dict? = some wire ∧ ∀ supply',
      assemble s supply' (some wire) (.completion none)
          { Options.none with jsonMode := some false } =
        .ok (.completion { c with side := .empty, headers := none }) := by
  obtain ⟨p, hp, hreports, hc⟩ := assemble_eq_ok_completion h
  have hcanonical : c.IsCanonical s := Completion.isCanonical_of_assemble (by simp) hc
  refine ⟨c.wire, c.dict?_toJson, ?_⟩
  intro supply'
  refine (assemble_completion_eq_ok_iff rfl).2 ⟨c.wire, _, rfl, ?_,
    Completion.assemble_wire hcanonical (Completion.isReadable_of_assemble hnow hc), rfl⟩
  rw [hp] at hreports
  exact fun hwire => hreports (Completion.reportsError_of_wire hc hwire)

/-- A payload without id and time whose single call becomes the message. -/
def singleCall : Payload :=
  .ofList [("note", .null), ("usage", .obj [("total_tokens", .num (.int 3)), ("cached", .str "")]),
    ("choices", .arr [.obj [("message", .obj [("tool_calls", .arr [
      .obj [("function", .obj [("arguments", .obj [])])]])])]])]

/-- The completion of the single call in JSON mode. -/
def singleCallReply : Completion :=
  { Completion.blank Supply.plain.completionId 1 with
    choices := [⟨0, FinishReason.stop, .assistant "\x7b\x7d", none, none⟩]
    usage := some ⟨0, 0, 3, .ofList [("cached", .str "")]⟩
    extra := .ofList [("note", .null)] }

theorem assemble_toJson_of_assemble_singleCall :
    assemble .standard .plain (some singleCall) (.completion none)
        { Options.none with jsonMode := some true } = .ok (.completion singleCallReply) ∧
      ∃ wire, singleCallReply.toJson.dict? = some wire ∧ ∀ supply',
        assemble .standard supply' (some wire) (.completion none)
            { Options.none with jsonMode := some false } =
          .ok (.completion { singleCallReply with side := .empty, headers := none }) := by
  have hreply : (assemble .standard .plain (some singleCall) (.completion none)
      { Options.none with jsonMode := some true }).toOption =
        some (.completion singleCallReply) := by decide +kernel
  have hok := Except.toOption_eq_some_iff.1 hreply
  exact ⟨hok, assemble_toJson_of_assemble .standard .plain (some singleCall) _ singleCallReply
    (by decide) hok⟩

end CanonicalReply
