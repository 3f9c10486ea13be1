import CanonicalReply.Assembly.Completion
import CanonicalReply.Dict.Lemmas
import CanonicalReply.Proofs.Choices

/-!
# What a completion's payload says

The payload of a completion is decoded once; everything else looks at what was
decoded.  `Provider.Completion.ReadsFrom` ties each decoded field to the member
of the payload that it comes from, and decoding succeeds with a result exactly
when the two are tied so (`decode_ofDict_eq_ok_iff`).  What an update is made of
is then said by `Completion.update_eq_ok_iff`.
-/

namespace CanonicalReply

open Json (orNull)

namespace Provider.Completion

/-- Each decoded field says what the member of its key says.  A text that may be
null is known from its member; a value of any kind is the member, unless that is
null. -/
structure ReadsFrom (raw : Completion) (payload : Payload) : Prop where
  choices : raw.choices = (payload.get? "choices").bind Json.nonNull?
  usage : raw.usage = (payload.get? "usage").bind Json.nonNull?
  id : payload.get? "id" = raw.id.map fun t => orNull (t.map .str)
  created : raw.created = (payload.get? "created").map Json.nonNull?
  model : payload.get? "model" = raw.model.map fun t => orNull (t.map .str)
  systemFingerprint :
    payload.get? "system_fingerprint" = raw.systemFingerprint.map fun t => orNull (t.map .str)
  object : raw.object = (payload.get? "object").bind Json.nonNull?
  extra : raw.extra = payload.filterKeys fun k => !CanonicalReply.Completion.keys.contains k

/-- The members that no field is read from are those without a key of their own. -/
theorem filterKeys_extra (payload : Payload) :
    (payload.filterKeys fun k => !(["choices", "usage", "id", "created", "model",
      "system_fingerprint", "object"].contains k)) =
        payload.filterKeys fun k => !CanonicalReply.Completion.keys.contains k := by
  refine congrArg (fun p => payload.filterKeys p) (funext fun k => congrArg not ?_)
  rw [Bool.eq_iff_iff]
  simp only [CanonicalReply.Completion.keys, List.contains_eq_mem, decide_eq_true_eq, List.mem_cons,
    List.not_mem_nil, or_false]
  grind

/-- **Decoding a payload.**  What is decoded is tied to the payload field by
field, and whatever is tied to it so is what is decoded. -/
theorem decode_ofDict_eq_ok_iff {raw : Completion} {payload : Payload} :
    decode (.ofDict payload) = .ok raw ↔ raw.ReadsFrom payload := by
  rw [decode, Json.Decoder.openRecord_eq_ok_iff]
  simp only [Json.ofDict, Json.obj.injEq, Json.Fields.seq_eq_ok_iff, Json.Fields.map_eq_ok_iff,
    Json.Fields.lenient_any_eq_ok_iff, Json.Fields.presence_any_eq_ok_iff,
    Json.Fields.presence_text_eq_ok_iff, Json.Source.value?_byKey]
  constructor
  · rintro ⟨_, _, rfl, ⟨_, ⟨_, ⟨_, ⟨_, ⟨_, ⟨_, ⟨_, rfl, rfl⟩, _, rfl, rfl⟩, id, hid, rfl⟩,
      _, rfl, rfl⟩, model, hmodel, rfl⟩, fingerprint, hfingerprint, rfl⟩, _, rfl, rfl⟩, rfl⟩
    rw [Dict.ofList_entries] at hid hmodel hfingerprint ⊢
    exact ⟨rfl, rfl, hid, rfl, hmodel, hfingerprint, rfl, filterKeys_extra payload⟩
  · intro h
    obtain ⟨hchoices, husage, hid, hcreated, hmodel, hfingerprint, hobject, hextra⟩ := h
    refine ⟨_, _, rfl, ⟨_, ⟨_, ⟨_, ⟨_, ⟨_, ⟨_, ⟨_, rfl, rfl⟩, _, rfl, rfl⟩, raw.id, ?_, rfl⟩,
      _, rfl, rfl⟩, raw.model, ?_, rfl⟩, raw.systemFingerprint, ?_, rfl⟩, _, rfl, rfl⟩, ?_⟩
    all_goals rw [Dict.ofList_entries]
    · exact hid
    · exact hmodel
    · exact hfingerprint
    · rw [← hchoices, ← husage, ← hcreated, ← hobject, filterKeys_extra, ← hextra]

/-! ## Single members -/

/-- A text that is sent is decoded. -/
theorem eq_some_some_of_map_orNull {x : Option (Option String)} {t : String}
    (h : x.map (fun t => orNull (t.map .str)) = some (.str t)) : x = some (some t) := by
  obtain ⟨o, rfl, ho⟩ := Option.map_eq_some_iff.1 h
  cases o with
  | none => cases ho
  | some t' => cases ho; rfl

theorem ReadsFrom.id_eq {raw : Completion} {payload : Payload} {t : String}
    (h : raw.ReadsFrom payload) (ht : payload.get? "id" = some (.str t)) : raw.id = some (some t) :=
  eq_some_some_of_map_orNull (h.id.symm.trans ht)

theorem ReadsFrom.created_eq {raw : Completion} {payload : Payload} {v : Json}
    (h : raw.ReadsFrom payload) (hv : payload.get? "created" = some v) (hne : v ≠ .null) :
    raw.created = some (some v) := by
  rw [h.created, hv, Option.map_some, Json.nonNull?_of_ne_null hne]

/-- Choices that were decoded as a list are sent as one. -/
theorem ReadsFrom.get?_choices {raw : Completion} {payload : Payload} {values : List Json}
    (h : raw.ReadsFrom payload) (hvalues : raw.choices = some (.arr values)) :
    payload.get? "choices" = some (.arr values) := by
  obtain ⟨v, hv, hnull⟩ := Option.bind_eq_some_iff.1 (h.choices.symm.trans hvalues)
  rw [hv, (Json.nonNull?_eq_some_iff.1 hnull).1]

/-! ## Choices and usage -/

theorem choiceValues_eq_ok_iff {raw : Completion} {values : List Json} :
    raw.choiceValues = .ok values ↔ raw.choices = some (.arr values) := by
  rw [choiceValues]
  split <;> simp_all

/-- How the choices of a payload can be at fault: they are absent or null, or they
are no list. -/
inductive ChoicesFault (payload : Payload) : Failure → Prop
  | absent : payload.get? "choices" = none ∨ payload.get? "choices" = some .null →
      ChoicesFault payload (.malformed .noChoices)
  | notList {v : Json} : payload.get? "choices" = some v → v ≠ .null → v.items? = none →
      ChoicesFault payload (.malformed .choicesNotList)

theorem choicesFault_of_choiceValues_eq_error {raw : Completion} {payload : Payload} {e : Failure}
    (hraw : raw.ReadsFrom payload) (h : raw.choiceValues = .error e) :
    ChoicesFault payload e := by
  have hchoices := hraw.choices
  rw [choiceValues] at h
  split at h
  · cases h
  next v hlist hv =>
    obtain ⟨w, hw, hnull⟩ := Option.bind_eq_some_iff.1 (hchoices.symm.trans hv)
    obtain ⟨rfl, hne⟩ := Json.nonNull?_eq_some_iff.1 hnull
    have hitems : w.items? = none := by
      cases w with
      | arr items => exact absurd rfl (hlist items)
      | _ => rfl
    exact Except.error.inj h ▸ .notList hw hne hitems
  next hv =>
    refine Except.error.inj h ▸ .absent ?_
    rw [hv] at hchoices
    cases hget : payload.get? "choices" with
    | none => exact .inl rfl
    | some v =>
      by_cases hne : v = .null
      · exact .inr (by rw [hne])
      · rw [hget, Option.bind_some, Json.nonNull?_of_ne_null hne] at hchoices
        cases hchoices

theorem decodedUsage_eq_ok_iff {raw : Completion} {usage : Option Usage} :
    raw.decodedUsage = .ok usage ↔
      raw.usage = none ∧ usage = none ∨
        ∃ v u, raw.usage = some v ∧ Usage.decode v = .ok u ∧ usage = some u := by
  rw [decodedUsage]
  cases raw.usage with
  | none => simp [eq_comm]
  | some v =>
    simp only [Except.map_eq_ok_iff, Failure.decoding_eq_ok_iff]
    simp [@eq_comm _ usage]

theorem decodedUsage_eq_error {raw : Completion} {e : Failure} (h : raw.decodedUsage = .error e) :
    ∃ what fault, e = .undecodable what fault := by
  rw [decodedUsage] at h
  split at h
  · cases h
  · obtain ⟨fault, rfl⟩ := Failure.exists_of_decoding_eq_error (Except.map_eq_error_iff.1 h)
    exact ⟨_, _, rfl⟩

end Provider.Completion

/-! ## Updates -/

namespace Completion

/-- The update of a decoded payload whose choices are built and whose usage is
decoded. -/
def updateOf (s : Settings) (supply : Supply) (o : Options) (raw : Provider.Completion)
    (choices : List Choice) (usage : Option Usage) : Update where
  choices := choices
  usage := usage
  id := raw.id.map (idOf supply)
  created := raw.created.map (createdOf supply)
  model := raw.model
  systemFingerprint := raw.systemFingerprint
  side := { o.sideChannel s.headerPrefix with responseMs := o.latency }
  headers := o.headers
  extra := raw.extra

section Update

variable {s : Settings} {supply : Supply} {payload : Payload} {o : Options}

/-- **What an update is made of.**  The payload is decoded, its choices are a
list of which every entry is built, and its usage is decoded; nothing else is
looked at. -/
theorem update_eq_ok_iff {u : Update} :
    update s supply payload o = .ok u ↔
      ∃ raw : Provider.Completion, ∃ values choices usage, raw.ReadsFrom payload ∧
        raw.choices = some (.arr values) ∧
          Provider.Message.eachAt (Choice.build s supply (o.jsonMode.getD s.jsonMode)) 0 values
            = .ok choices ∧
            raw.decodedUsage = .ok usage ∧ u = updateOf s supply o raw choices usage := by
  constructor
  · intro h
    unfold update at h
    split at h
    · cases h
    next raw hraw =>
      split at h
      · cases h
      next values hvalues =>
        split at h
        · cases h
        next choices hchoices =>
          obtain ⟨usage, husage, rfl⟩ := Except.map_eq_ok_iff.1 h
          have hread := Provider.Completion.decode_ofDict_eq_ok_iff.1
            (Failure.decoding_eq_ok_iff.1 hraw)
          exact ⟨raw, values, choices, usage, hread,
            Provider.Completion.choiceValues_eq_ok_iff.1 hvalues, hchoices, husage, rfl⟩
  · rintro ⟨raw, values, choices, usage, hread, hvalues, hchoices, husage, rfl⟩
    have hraw := Provider.Completion.decode_ofDict_eq_ok_iff.2 hread
    unfold update
    simp only [Failure.decoding_eq_ok_iff.2 hraw,
      Provider.Completion.choiceValues_eq_ok_iff.2 hvalues, hchoices, husage, Except.map, updateOf]

/-- **Why there is no update.**  A part of the payload cannot be decoded, or its
choices are missing or no list, or repair is wanted and the arguments of a
packed call are no list of calls. -/
theorem update_eq_error {e : Failure} (h : update s supply payload o = .error e) :
    (∃ what fault, e = .undecodable what fault) ∨ Provider.Completion.ChoicesFault payload e ∨
      s.repair = true ∧ ∃ name fault, e = .badToolCall name fault := by
  unfold update at h
  split at h
  next e' hraw =>
    obtain ⟨fault, rfl⟩ := Failure.exists_of_decoding_eq_error hraw
    exact .inl ⟨_, _, (Except.error.inj h).symm⟩
  next raw hraw =>
    split at h
    next e' hvalues =>
      have hread := Provider.Completion.decode_ofDict_eq_ok_iff.1
        (Failure.decoding_eq_ok_iff.1 hraw)
      rw [← Except.error.inj h]
      exact .inr (.inl (Provider.Completion.choicesFault_of_choiceValues_eq_error hread hvalues))
    · split at h
      next e' hchoices =>
        obtain ⟨k, v, -, hbuild⟩ := Provider.Message.exists_of_eachAt_eq_error hchoices
        rw [← Except.error.inj h]
        exact (Choice.exists_of_build_eq_error hbuild).imp_right .inr
      · exact .inl (Provider.Completion.decodedUsage_eq_error (Except.map_eq_error_iff.1 h))

/-! ## Completions without one so far -/

/-- The completion of a decoded payload, where the caller has none. -/
def ofRaw (s : Settings) (supply : Supply) (o : Options) (raw : Provider.Completion)
    (choices : List Choice) (usage : Option Usage) : Completion where
  id := (raw.id.map (idOf supply)).getD supply.completionId
  object := objectName
  created := (raw.created.map (createdOf supply)).getD supply.now
  model := raw.model.join
  choices := choices
  usage := usage
  systemFingerprint := raw.systemFingerprint.join
  extra := raw.extra
  side := { o.sideChannel s.headerPrefix with responseMs := o.latency }
  headers := o.headers

theorem merge_none_updateOf {raw : Provider.Completion} {choices : List Choice}
    {usage : Option Usage} :
    merge supply none (updateOf s supply o raw choices usage) =
      ofRaw s supply o raw choices usage := by
  simp only [merge, Option.getD_none, apply, updateOf, ofRaw, fresh, blank, SideChannel.overlay,
    SideChannel.empty, Dict.empty_overlay, Option.or_none]
  congr 1
  · cases raw.model <;> rfl
  · cases raw.systemFingerprint <;> rfl

/-- **What a completion is made of**, where the caller has none. -/
theorem assemble_none_eq_ok_iff {c : Completion} :
    assemble s supply payload none o = .ok c ↔
      ∃ raw : Provider.Completion, ∃ values choices usage, raw.ReadsFrom payload ∧
        raw.choices = some (.arr values) ∧
          Provider.Message.eachAt (Choice.build s supply (o.jsonMode.getD s.jsonMode)) 0 values
            = .ok choices ∧
            raw.decodedUsage = .ok usage ∧ c = ofRaw s supply o raw choices usage := by
  rw [assemble, Except.map_eq_ok_iff]
  simp only [update_eq_ok_iff]
  constructor
  · rintro ⟨_, ⟨raw, values, choices, usage, hraw, hvalues, hchoices, husage, rfl⟩, rfl⟩
    exact ⟨raw, values, choices, usage, hraw, hvalues, hchoices, husage, merge_none_updateOf⟩
  · rintro ⟨raw, values, choices, usage, hraw, hvalues, hchoices, husage, rfl⟩
    exact ⟨_, ⟨raw, values, choices, usage, hraw, hvalues, hchoices, husage, rfl⟩,
      merge_none_updateOf⟩

end Update

end Completion

end CanonicalReply
