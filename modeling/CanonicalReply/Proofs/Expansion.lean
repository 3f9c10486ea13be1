import CanonicalReply.Proofs.Repair

/-!
# Repair expands a list in place

Every call of a list has calls that stand for it: itself, or what is packed into
it, one call for each entry that does not pack others in turn.  Repair puts them
in the place of the call and changes nothing else; it fails on the first call
whose arguments are no list of packed calls, and on no other list.

* `packedName_eq_iff`: the beginning `functions.` is taken off a name once.
* `ofPacked_eq_filterMap`: a packed list, entry by entry.
* `unpackAll_eq_ok_iff`, `unpackAll_eq_error_iff`: a list of calls is unpacked
  call by call, up to the first one at fault.
* `repairsInPlace`: all that repair does to a list.
-/

namespace CanonicalReply.ToolCall

/-! ## Names without their beginning -/

theorem dropBeginning_append (beginning s : String) :
    dropBeginning beginning (beginning ++ s) = s := by
  have hprefix : beginning.toList.isPrefixOf (beginning ++ s).toList = true := by simp
  rw [dropBeginning, if_pos hprefix, String.toList_append, ← String.length_toList,
    List.drop_left, String.ofList_toList]

theorem dropBeginning_of_ne {beginning s : String} (h : ∀ rest, s ≠ beginning ++ rest) :
    dropBeginning beginning s = s := by
  rw [dropBeginning, if_neg]
  intro hprefix
  obtain ⟨rest, hrest⟩ := List.isPrefixOf_iff_prefix.1 hprefix
  refine h (String.ofList rest) ?_
  rw [← String.toList_inj, String.toList_append, String.toList_ofList, hrest]

/-- **The name** of a packed call is its recipient, less one `functions.` in
front. -/
theorem packedName_eq_iff {u : PackedUse} {name : String} :
    packedName u = name ↔
      u.recipient = functionsPrefix ++ name ∨
        (∀ rest, u.recipient ≠ functionsPrefix ++ rest) ∧ u.recipient = name := by
  by_cases h : ∃ rest, u.recipient = functionsPrefix ++ rest
  · obtain ⟨rest, hrest⟩ := h
    have hname : packedName u = rest := by rw [packedName, hrest, dropBeginning_append]
    rw [hname]
    constructor
    · rintro rfl
      exact .inl hrest
    · rintro (hwhole | ⟨hnone, -⟩)
      · rw [← hname, packedName, hwhole, dropBeginning_append]
      · exact absurd hrest (hnone rest)
  · have hnone : ∀ rest, u.recipient ≠ functionsPrefix ++ rest := fun rest hrest => h ⟨rest, hrest⟩
    rw [packedName, dropBeginning_of_ne hnone]
    exact ⟨fun heq => .inr ⟨hnone, heq⟩, fun hor => hor.elim (absurd · (hnone name)) (·.2)⟩

/-! ## What stands for a call -/

/-- The call that a packed entry at a position becomes.  An entry that packs others
becomes none. -/
def usedAt (id : String) (entry : PackedUse × Nat) : Option ToolCall :=
  if packedName entry.1 = parallelName then none
  else some ⟨packedId id entry.2, "function", ⟨packedName entry.1, entry.1.parameters.compact⟩⟩

theorem ofPacked_eq_filterMap (id : String) (start : Nat) (uses : List PackedUse) :
    ofPacked id start uses = (uses.zipIdx start).filterMap (usedAt id) := by
  induction uses generalizing start with
  | nil => rfl
  | cons u rest ih =>
    rw [ofPacked, List.zipIdx_cons, ih]
    by_cases hname : packedName u = parallelName
    · rw [if_pos hname, List.filterMap_cons_none (by rw [usedAt, if_pos hname])]
    · rw [if_neg hname, List.filterMap_cons_some (by rw [usedAt, if_neg hname])]
      rfl

/-- A call that is meant to pack others, with arguments that are no list of them. -/
def PacksBadly (c : ToolCall) (fault : Json.Error) : Prop :=
  c.function.name = parallelName ∧ PackedUse.parseAll c.function.arguments = .error fault

/-- The calls that stand for a call: those packed into it, each with its position
among all that are, or the call itself. -/
def standIns (c : ToolCall) : List ToolCall :=
  if c.function.name = parallelName then
    ((PackedUse.parseAll c.function.arguments).toOption.getD []).zipIdx.filterMap (usedAt c.id)
  else [c]

theorem isPacked_eq_false_iff {c : ToolCall} :
    c.isPacked = false ↔ c.function.name ≠ parallelName := by
  rw [← Bool.not_eq_true, isPacked_eq_true_iff]

/-- A call that packs badly has no stand-ins; any other one is unpacked into them. -/
theorem unpack_eq (c : ToolCall) :
    (∃ fault, c.PacksBadly fault ∧ c.unpack = .error (.badToolCall parallelName fault)) ∨
      (∀ fault, ¬ c.PacksBadly fault) ∧ c.unpack = .ok c.standIns := by
  by_cases hname : c.function.name = parallelName
  · rw [unpack, if_pos (isPacked_eq_true_iff.2 hname)]
    cases hparse : PackedUse.parseAll c.function.arguments with
    | error fault => exact .inl ⟨fault, ⟨hname, hparse⟩, by rw [hname]⟩
    | ok uses =>
      refine .inr ⟨fun fault hbad => ?_, ?_⟩
      · rw [PacksBadly, hparse] at hbad
        cases hbad.2
      · rw [standIns, if_pos hname, hparse]
        exact congrArg Except.ok (ofPacked_eq_filterMap c.id 0 uses)
  · refine .inr ⟨fun fault hbad => hname hbad.1, ?_⟩
    rw [unpack, isPacked_eq_false_iff.2 hname, standIns, if_neg hname]
    rfl

/-! ## Whole lists -/

theorem unpackAll_eq_ok_iff {calls result : List ToolCall} :
    unpackAll calls = .ok result ↔
      (∀ c ∈ calls, ∀ fault, ¬ c.PacksBadly fault) ∧ result = calls.flatMap standIns := by
  induction calls generalizing result with
  | nil => simp [unpackAll, eq_comm]
  | cons c rest ih =>
    rw [unpackAll]
    rcases unpack_eq c with ⟨fault, hbad, hunpack⟩ | ⟨hgood, hunpack⟩
    · rw [hunpack]
      refine iff_of_false (by simp) fun h => ?_
      exact h.1 c (List.mem_cons_self ..) fault hbad
    · simp only [hunpack, Except.map_eq_ok_iff, ih, List.forall_mem_cons, List.flatMap_cons]
      constructor
      · rintro ⟨_, ⟨hrest, rfl⟩, rfl⟩
        exact ⟨⟨hgood, hrest⟩, rfl⟩
      · rintro ⟨⟨-, hrest⟩, rfl⟩
        exact ⟨_, ⟨hrest, rfl⟩, rfl⟩

/-- The first call of a list that packs badly, with what is wrong with it. -/
def FirstBad (calls : List ToolCall) (fault : Json.Error) : Prop :=
  ∃ before c after, calls = before ++ c :: after ∧ c.PacksBadly fault ∧
    ∀ b ∈ before, ∀ fault, ¬ b.PacksBadly fault

theorem firstBad_cons_of_bad {c : ToolCall} {rest : List ToolCall} {fault fault' : Json.Error}
    (h : c.PacksBadly fault) : FirstBad (c :: rest) fault' ↔ fault = fault' := by
  constructor
  · rintro ⟨before, d, after, hsplit, hd, hbefore⟩
    cases before with
    | nil =>
      cases hsplit
      exact Except.error.inj (h.2.symm.trans hd.2)
    | cons b before =>
      cases hsplit
      exact absurd h (hbefore _ (List.mem_cons_self ..) fault)
  · rintro rfl
    exact ⟨[], c, rest, rfl, h, fun _ hmem => nomatch hmem⟩

theorem firstBad_cons_of_good {c : ToolCall} {rest : List ToolCall} {fault : Json.Error}
    (h : ∀ fault, ¬ c.PacksBadly fault) : FirstBad (c :: rest) fault ↔ FirstBad rest fault := by
  constructor
  · rintro ⟨before, d, after, hsplit, hd, hbefore⟩
    cases before with
    | nil =>
      cases hsplit
      exact absurd hd (h fault)
    | cons b before =>
      cases hsplit
      exact ⟨before, d, after, rfl, hd, fun b hb => hbefore b (List.mem_cons_of_mem _ hb)⟩
  · rintro ⟨before, d, after, rfl, hd, hbefore⟩
    exact ⟨c :: before, d, after, rfl, hd, List.forall_mem_cons.2 ⟨h, hbefore⟩⟩

/-- The first call at fault tells why a list is not unpacked. -/
theorem unpackAll_eq_error_iff {calls : List ToolCall} {e : Failure} :
    unpackAll calls = .error e ↔
      ∃ fault, FirstBad calls fault ∧ e = .badToolCall parallelName fault := by
  induction calls with
  | nil => simp [unpackAll, FirstBad]
  | cons c rest ih =>
    rw [unpackAll]
    rcases unpack_eq c with ⟨fault, hbad, hunpack⟩ | ⟨hgood, hunpack⟩
    · simp [hunpack, firstBad_cons_of_bad hbad, eq_comm]
    · simp [hunpack, firstBad_cons_of_good hgood, Except.map_eq_error_iff, ih]

/-! ## Repair -/

theorem any_isPacked_iff {calls : List ToolCall} :
    calls.any isPacked = true ↔ ∃ c ∈ calls, c.function.name = parallelName := by
  simp only [List.any_eq_true, isPacked_eq_true_iff]

/-- Where nothing is packed, every call stands for itself. -/
theorem flatMap_standIns_of_plain {calls : List ToolCall}
    (h : ∀ c ∈ calls, c.function.name ≠ parallelName) : calls.flatMap standIns = calls := by
  induction calls with
  | nil => rfl
  | cons c rest ih =>
    obtain ⟨hc, hrest⟩ := List.forall_mem_cons.1 h
    rw [List.flatMap_cons, standIns, if_neg hc, ih hrest, List.singleton_append]

theorem repair_eq_error_iff {calls : List ToolCall} {e : Failure} :
    repair calls = .error e ↔
      ∃ fault, FirstBad calls fault ∧ e = .badToolCall parallelName fault := by
  rw [repair]
  split
  · rw [Except.map_eq_error_iff, unpackAll_eq_error_iff]
  next hany =>
    refine iff_of_false (by simp) ?_
    rintro ⟨fault, ⟨before, c, after, rfl, hbad, -⟩, -⟩
    exact hany (any_isPacked_iff.2 ⟨c, by simp, hbad.1⟩)

/-- A list that is repaired gives what stands for its calls, in their order; it is
handed back if nothing in it is packed. -/
theorem repair_eq_ok_iff {calls : List ToolCall} {r : Repaired} :
    repair calls = .ok r ↔
      (∀ c ∈ calls, ∀ fault, ¬ c.PacksBadly fault) ∧
        r = if ∃ c ∈ calls, c.function.name = parallelName then
            .expanded (calls.flatMap standIns) else .untouched calls := by
  rw [repair]
  by_cases hany : ∃ c ∈ calls, c.function.name = parallelName
  · rw [if_pos (any_isPacked_iff.2 hany), if_pos hany]
    simp only [Except.map_eq_ok_iff, unpackAll_eq_ok_iff]
    constructor
    · rintro ⟨_, ⟨hgood, rfl⟩, rfl⟩
      exact ⟨hgood, rfl⟩
    · rintro ⟨hgood, rfl⟩
      exact ⟨_, ⟨hgood, rfl⟩, rfl⟩
  · rw [if_neg (fun h => hany (any_isPacked_iff.1 h)), if_neg hany, Except.ok.injEq]
    refine ⟨fun h => ⟨fun c hc fault hbad => hany ⟨c, hc, hbad.1⟩, h.symm⟩, fun h => h.2.symm⟩

/-- What a list becomes by repair. -/
structure Repaired.Expands (r : Repaired) (calls : List ToolCall) : Prop where
  /-- What stands for each call is put in its place. -/
  stands : r.calls = calls.flatMap standIns
  /-- No call that packs others is left. -/
  unpacked : ∀ d ∈ r.calls, d.function.name ≠ parallelName
  /-- The list that was given is handed back if nothing in it is packed. -/
  untouched_iff : r = .untouched calls ↔ ∀ c ∈ calls, c.function.name ≠ parallelName
  /-- In any other case the list is a new one. -/
  expanded_iff : r.isExpanded = true ↔ ∃ c ∈ calls, c.function.name = parallelName
  /-- There is nothing left to repair. -/
  again : repair r.calls = .ok (.untouched r.calls)

theorem expands_of_repair {calls : List ToolCall} {r : Repaired} (h : repair calls = .ok r) :
    r.Expands calls := by
  have hunpacked : ∀ d ∈ r.calls, d.function.name ≠ parallelName := fun d hd =>
    isPacked_eq_false_iff.1 (not_isPacked_of_mem_repair h hd)
  have hagain : repair r.calls = .ok (.untouched r.calls) :=
    repair_of_not_packed fun d hd => isPacked_eq_false_iff.2 (hunpacked d hd)
  obtain ⟨-, hr⟩ := repair_eq_ok_iff.1 h
  by_cases hany : ∃ c ∈ calls, c.function.name = parallelName
  · rw [if_pos hany] at hr
    subst hr
    exact ⟨rfl, hunpacked, iff_of_false (by simp) (by simpa using hany), iff_of_true rfl hany,
      hagain⟩
  · have hplain : ∀ c ∈ calls, c.function.name ≠ parallelName := by simpa using hany
    rw [if_neg hany] at hr
    subst hr
    exact ⟨(flatMap_standIns_of_plain hplain).symm, hunpacked, iff_of_true rfl hplain,
      iff_of_false (by simp [Repaired.isExpanded]) hany, hagain⟩

/-- All that repair does to a list of calls. -/
structure RepairsInPlace (calls : List ToolCall) : Prop where
  /-- It fails where a call packs badly. -/
  fails_iff : (∃ e, repair calls = .error e) ↔ ∃ c ∈ calls, ∃ fault, c.PacksBadly fault
  /-- The first one that does tells why. -/
  first : ∀ e, repair calls = .error e →
    ∃ fault, FirstBad calls fault ∧ e = .badToolCall parallelName fault
  /-- Any other list is expanded. -/
  expands : (∀ c ∈ calls, ∀ fault, ¬ c.PacksBadly fault) →
    ∃ r, repair calls = .ok r ∧ r.Expands calls
  /-- A name that stands behind `functions.` is the one that follows it. -/
  name_iff : ∀ u name, packedName u = name ↔
    u.recipient = functionsPrefix ++ name ∨
      (∀ rest, u.recipient ≠ functionsPrefix ++ rest) ∧ u.recipient = name
  /-- An unpacked call has the id of the call that packed it, with an underscore and its
  position in decimal digits behind. -/
  id_eq : ∀ id position, packedId id position = id ++ "_" ++ toString position

/-- **Repair expands in place.**  For every list of calls, whatever is packed into
them and however badly. -/
theorem repairsInPlace (calls : List ToolCall) : RepairsInPlace calls where
  fails_iff := by
    constructor
    · rintro ⟨e, he⟩
      obtain ⟨fault, ⟨before, c, after, rfl, hbad, -⟩, -⟩ := repair_eq_error_iff.1 he
      exact ⟨c, by simp, fault, hbad⟩
    · rintro ⟨c, hc, fault, hbad⟩
      cases h : repair calls with
      | error e => exact ⟨e, rfl⟩
      | ok r => exact absurd hbad ((repair_eq_ok_iff.1 h).1 c hc fault)
  first := fun _ he => repair_eq_error_iff.1 he
  expands := fun hgood =>
    have h := repair_eq_ok_iff.2 ⟨hgood, rfl⟩
    ⟨_, h, expands_of_repair h⟩
  name_iff := fun _ _ => packedName_eq_iff
  id_eq := packedId_eq

end CanonicalReply.ToolCall
