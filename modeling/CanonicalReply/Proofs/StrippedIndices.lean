import CanonicalReply.CallArguments
import CanonicalReply.Proofs.DistinctKeys
import Mathlib.Data.List.Forall2

/-!
# Tool calls without their places

Providers do not take back the place that a streamed tool call had.  It is taken away
two levels inside of values that may be anything: in the list of calls, and in the
calls of each message.  Nothing else may go: a message may have an `index` of its own,
and so may the arguments of a call, and these stay.

* `CallArguments.get?_stripIndex`, `CallArguments.get?_stripMessage`: what is found
  afterwards under each key.
* `CallArguments.stripIndex_eq_self_iff`, `CallArguments.stripMessage_eq_self`: **what
  is left alone.**
* `CallArguments.distinct_stripIndex`, `CallArguments.distinct_stripMessage`: a value
  that repeats no key repeats none afterwards.
* `CallArguments.withoutIndex`, `CallArguments.withoutIndices`: one call, and one
  message.
* `CallArguments.stripsIndices`: whole lists, once and again.
-/

namespace CanonicalReply.CallArguments

variable {v : Json} {members : List (String × Json)}

/-! ## One call -/

theorem get?_stripIndex (v : Json) (key : String) :
    (stripIndex v).get? key = if key = indexKey then none else v.get? key := by
  cases v with
  | obj members =>
    show (Dict.ofList (members.filter fun e => e.1 ≠ indexKey)).get? key = _
    rw [Dict.get?_ofList_filter fun k => k ≠ indexKey]
    by_cases h : key = indexKey
    · simp [h]
    · simp [h, Json.get?, Json.dict?]
  | _ => exact (ite_self none).symm

/-- A call is left alone if it has no place. -/
theorem stripIndex_eq_self_iff : stripIndex v = v ↔ v.get? indexKey = none := by
  constructor
  · intro h
    rw [← h, get?_stripIndex, if_pos rfl]
  · intro h
    cases v with
    | obj members =>
      refine congrArg Json.obj (List.filter_eq_self.2 fun e he => ?_)
      exact decide_eq_true (Dict.ne_of_get?_ofList_eq_none h he)
    | _ => rfl

@[simp] theorem stripIndex_stripIndex (v : Json) : stripIndex (stripIndex v) = stripIndex v := by
  rw [stripIndex_eq_self_iff, get?_stripIndex, if_pos rfl]

theorem distinct_stripIndex (h : v.Distinct) : (stripIndex v).Distinct := by
  cases v with
  | obj members =>
    obtain ⟨hkeys, hvalues⟩ := Json.distinct_obj_iff.1 h
    exact .obj (hkeys.filter _) fun e he => hvalues e (List.mem_of_mem_filter he)
  | _ => exact h

/-- One value is another one without its place. -/
structure WithoutIndex (v v' : Json) : Prop where
  get?_index : v'.get? "index" = none
  get?_of_ne : ∀ key, key ≠ "index" → v'.get? key = v.get? key
  /-- No member is added, and those that stay keep their order. -/
  members : ∀ members, v = .obj members → ∃ kept, v' = .obj kept ∧ kept.Sublist members
  eq_of_not_object : v.isObject = false → v' = v
  distinct : v.Distinct → v'.Distinct

theorem withoutIndex (v : Json) : WithoutIndex v (stripIndex v) where
  get?_index := by rw [get?_stripIndex, indexKey, if_pos rfl]
  get?_of_ne := by
    intro key hkey
    rw [get?_stripIndex, indexKey, if_neg hkey]
  members := by
    rintro members rfl
    exact ⟨_, rfl, List.filter_sublist⟩
  eq_of_not_object := by
    intro h
    cases v with
    | obj members => cases h
    | _ => rfl
  distinct := distinct_stripIndex

theorem get?_index_of_mem {calls : List Json} {call : Json} (h : call ∈ calls.map stripIndex) :
    call.get? "index" = none := by
  obtain ⟨v, -, rfl⟩ := List.mem_map.1 h
  exact (withoutIndex v).get?_index

/-- Each one of a list of calls. -/
theorem forall₂_stripIndex (calls : List Json) :
    List.Forall₂ WithoutIndex calls (calls.map stripIndex) := by
  rw [List.forall₂_map_right_iff, List.forall₂_same]
  exact fun v _ => withoutIndex v

/-! ## The calls of a message -/

theorem stripCalls_stripCalls (v : Json) : stripCalls (stripCalls v) = stripCalls v := by
  cases v with
  | arr calls => simp [stripCalls, Function.comp_def]
  | _ => rfl

theorem stripCalls_eq_self (h : ∀ calls, v ≠ .arr calls) : stripCalls v = v := by
  cases v with
  | arr calls => exact absurd rfl (h calls)
  | _ => rfl

theorem distinct_stripCalls (h : v.Distinct) : (stripCalls v).Distinct := by
  cases v with
  | arr calls =>
    refine .arr fun call hcall => ?_
    obtain ⟨w, hw, rfl⟩ := List.mem_map.1 hcall
    exact distinct_stripIndex (Json.distinct_arr_iff.1 h w hw)
  | _ => exact h

theorem get?_stripMessage (m : Json) (key : String) :
    (stripMessage m).get? key =
      (m.get? key).map fun v => if key = toolCallsKey then stripCalls v else v := by
  cases m with
  | obj members =>
    exact Dict.get?_ofList_map (fun k v => if k = toolCallsKey then stripCalls v else v) members key
  | _ => rfl

/-- A message is left alone if its calls are. -/
theorem stripMessage_eq_self
    (h : ∀ e ∈ members, e.1 = toolCallsKey → stripCalls e.2 = e.2) :
    stripMessage (.obj members) = .obj members := by
  have hsame : ∀ e ∈ members,
      (e.1, if e.1 = toolCallsKey then stripCalls e.2 else e.2) = id e := by
    intro e he
    split
    next hkey => rw [h e he hkey, id]
    next => rfl
  rw [stripMessage, List.map_congr_left hsame, List.map_id]

theorem stripMessage_stripMessage (m : Json) : stripMessage (stripMessage m) = stripMessage m := by
  cases m with
  | obj members =>
    refine stripMessage_eq_self fun e' he' hkey => ?_
    obtain ⟨e, -, rfl⟩ := List.mem_map.1 he'
    simp only at hkey ⊢
    rw [if_pos hkey, stripCalls_stripCalls]
  | _ => rfl

theorem distinct_stripMessage {m : Json} (h : m.Distinct) : (stripMessage m).Distinct := by
  cases m with
  | obj members =>
    obtain ⟨hkeys, hvalues⟩ := Json.distinct_obj_iff.1 h
    refine .obj (List.pairwise_map.2 hkeys) fun e' he' => ?_
    obtain ⟨e, he, rfl⟩ := List.mem_map.1 he'
    simp only
    split
    · exact distinct_stripCalls (hvalues e he)
    · exact hvalues e he
  | _ => exact h

/-- One message is another one whose calls are without their places. -/
structure WithoutIndices (m m' : Json) : Prop where
  calls : ∀ calls, m.get? "tool_calls" = some (.arr calls) →
    ∃ calls', m'.get? "tool_calls" = some (.arr calls') ∧ List.Forall₂ WithoutIndex calls calls'
  get?_of_ne : ∀ key, key ≠ "tool_calls" → m'.get? key = m.get? key
  /-- The members stay, in their order. -/
  members : ∀ members, m = .obj members →
    ∃ members', m' = .obj members' ∧ members'.map Prod.fst = members.map Prod.fst
  eq_of_not_object : m.isObject = false → m' = m
  /-- Where there is no list of calls everything is as before, whatever stands in its
  place. -/
  get?_of_no_calls : (∀ calls, m.get? "tool_calls" ≠ some (.arr calls)) →
    ∀ key, m'.get? key = m.get? key
  eq_of_no_calls : m.Distinct → (∀ calls, m.get? "tool_calls" ≠ some (.arr calls)) → m' = m
  distinct : m.Distinct → m'.Distinct

theorem withoutIndices (m : Json) : WithoutIndices m (stripMessage m) where
  calls := by
    intro calls h
    refine ⟨calls.map stripIndex, ?_, forall₂_stripIndex calls⟩
    rw [get?_stripMessage, h]
    rfl
  get?_of_ne := by
    intro key hkey
    rw [get?_stripMessage]
    simp [toolCallsKey, hkey]
  members := by
    rintro members rfl
    exact ⟨_, rfl, by simp⟩
  eq_of_not_object := by
    intro h
    cases m with
    | obj members => cases h
    | _ => rfl
  get?_of_no_calls := by
    intro h key
    rw [get?_stripMessage]
    split
    next hkey =>
      cases hv : m.get? key with
      | none => rfl
      | some v =>
        have hother : ∀ calls, v ≠ .arr calls := by
          rintro calls rfl
          exact h calls (by rw [← hv, hkey, toolCallsKey])
        rw [Option.map_some, stripCalls_eq_self hother]
    next => exact Option.map_id_apply
  eq_of_no_calls := by
    intro hm h
    cases m with
    | obj members =>
      obtain ⟨hkeys, -⟩ := Json.distinct_obj_iff.1 hm
      refine stripMessage_eq_self fun e he hkey => stripCalls_eq_self fun calls hcalls => ?_
      -- what stands in place of the calls is what is found there
      have hfound : (Dict.ofList members).get? e.1 = some e.2 := by
        rw [Dict.get?_ofList hkeys, Dict.lookup_eq_some_iff_mem hkeys]
        exact he
      exact h calls (by rw [← hcalls, ← hfound, hkey]; rfl)
    | _ => rfl
  distinct := distinct_stripMessage

/-! ## Messages and calls -/

/-- What messages and calls are when their places were taken away. -/
structure StripsIndices (messages calls messages' calls' : List Json) : Prop where
  messages : List.Forall₂ WithoutIndices messages messages'
  calls : List.Forall₂ WithoutIndex calls calls'
  /-- No call has a place, wherever it stands. -/
  get?_index : ∀ call ∈ calls', call.get? "index" = none
  get?_index_of_message : ∀ m ∈ messages', ∀ calls, m.get? "tool_calls" = some (.arr calls) →
    ∀ call ∈ calls, call.get? "index" = none
  /-- There is nothing left to be taken away. -/
  again : stripIndices messages' calls' = (messages', calls')

/-- **Places are taken away, and nothing else**, from messages and calls of any shape. -/
theorem stripsIndices (messages calls : List Json) :
    StripsIndices messages calls (stripIndices messages calls).1
      (stripIndices messages calls).2 where
  messages := by
    rw [stripIndices, List.forall₂_map_right_iff, List.forall₂_same]
    exact fun m _ => withoutIndices m
  calls := forall₂_stripIndex calls
  get?_index := fun _ => get?_index_of_mem
  get?_index_of_message := by
    intro m' hm' calls' hcalls call hcall
    obtain ⟨m, -, rfl⟩ := List.mem_map.1 hm'
    rw [get?_stripMessage] at hcalls
    obtain ⟨v, -, hv⟩ := Option.map_eq_some_iff.1 hcalls
    cases v with
    | arr calls =>
      cases hv
      exact get?_index_of_mem hcall
    | _ => cases hv
  again := by
    simp [stripIndices, stripMessage_stripMessage, Function.comp_def]

/-- The `index` of a message stays, and so does one that stands deeper. -/
example :
    stripIndices
      [.obj [("index", .num (.int 7)),
        ("tool_calls", .arr [.obj [("arguments", .obj [("index", .null)]), ("index", .null)]])]]
      [.str "index", .obj [("id", .str "b"), ("index", .null)]] =
    ([.obj [("index", .num (.int 7)),
        ("tool_calls", .arr [.obj [("arguments", .obj [("index", .null)])]])]],
      [.str "index", .obj [("id", .str "b")]]) := by
  decide

end CanonicalReply.CallArguments
