import CanonicalReply.PackedCall
import CanonicalReply.Proofs.Outcome

/-!
# What repair leaves in a list of tool calls

Repair unpacks the calls that pack others and keeps the rest.  So every call of
the result is a call of the list that packs nothing, or it was unpacked from one
at a position of its own.

* `packedId_eq`: the id that an unpacked call is given.
* `mem_ofPacked`: where an unpacked call comes from.
* `mem_repair`: where a call of a repaired list comes from.
* `not_isPacked_of_mem_repair`, `id_ne_empty_of_mem_repair`: no call that packs
  others is left, and none without an id has come in.
* `repair_of_not_packed`: a list without packed calls is handed back.
-/

namespace CanonicalReply.ToolCall

/-! ## Packed calls -/

theorem isPacked_eq_true_iff {c : ToolCall} :
    c.isPacked = true ↔ c.function.name = parallelName := by
  rw [isPacked, beq_iff_eq]

/-- An underscore and a position in decimal digits stand behind the id of the call that
packs others. -/
theorem packedId_eq (id : String) (position : Nat) :
    packedId id position = id ++ "_" ++ toString position := rfl

theorem packedId_ne_empty (id : String) (position : Nat) : packedId id position ≠ "" := by
  simp [packedId_eq]

/-- A call that was unpacked stands at a position of the packed list, and names
the function that it is for. -/
theorem mem_ofPacked {id : String} {start : Nat} {uses : List PackedUse} {d : ToolCall}
    (h : d ∈ ofPacked id start uses) :
    ∃ k u, uses[k]? = some u ∧ packedName u ≠ parallelName ∧
      d = .ofFunction (packedId id (start + k)) (packedName u) u.parameters.compact := by
  induction uses generalizing start with
  | nil => simp [ofPacked] at h
  | cons u rest ih =>
    rw [ofPacked] at h
    -- the entries behind the first one stand one position further on
    have hlater : d ∈ ofPacked id (start + 1) rest → ∃ k w, (u :: rest)[k]? = some w ∧
        packedName w ≠ parallelName ∧
          d = .ofFunction (packedId id (start + k)) (packedName w) w.parameters.compact := by
      intro hd
      obtain ⟨k, w, hw, hname, hd⟩ := ih hd
      refine ⟨k + 1, w, by simpa using hw, hname, ?_⟩
      rw [hd, show start + 1 + k = start + (k + 1) by omega]
    split at h
    · exact hlater h
    next hname =>
      rcases List.mem_cons.1 h with rfl | hd
      · exact ⟨0, u, rfl, hname, by rw [Nat.add_zero]⟩
      · exact hlater hd

/-! ## Unpacking -/

/-- A call stands for itself or for the calls that are packed into it. -/
theorem unpack_eq_ok_iff {c : ToolCall} {calls : List ToolCall} :
    c.unpack = .ok calls ↔
      c.isPacked = false ∧ calls = [c] ∨
        c.isPacked = true ∧ ∃ uses, PackedUse.parseAll c.function.arguments = .ok uses ∧
          calls = ofPacked c.id 0 uses := by
  rw [unpack]
  cases hc : c.isPacked with
  | false => simp [eq_comm]
  | true => cases PackedUse.parseAll c.function.arguments <;> simp [eq_comm]

/-- Only the arguments of a packed call can be at fault. -/
theorem exists_of_unpack_eq_error {c : ToolCall} {e : Failure} (h : c.unpack = .error e) :
    ∃ fault, e = .badToolCall c.function.name fault := by
  rw [unpack] at h
  split at h
  · split at h
    next fault _ =>
      simp only [Except.error.injEq] at h
      exact ⟨fault, h.symm⟩
    · cases h
  · cases h

theorem mem_unpackAll {calls result : List ToolCall} {d : ToolCall}
    (h : unpackAll calls = .ok result) (hd : d ∈ result) :
    ∃ c ∈ calls, ∃ part, c.unpack = .ok part ∧ d ∈ part := by
  induction calls generalizing result with
  | nil =>
    rw [unpackAll, Except.ok.injEq] at h
    simp [← h] at hd
  | cons c rest ih =>
    rw [unpackAll] at h
    split at h
    · cases h
    next part hpart =>
      obtain ⟨later, hlater, rfl⟩ := Except.map_eq_ok_iff.1 h
      rcases List.mem_append.1 hd with hd | hd
      · exact ⟨c, List.mem_cons_self .., part, hpart, hd⟩
      · obtain ⟨c', hc', hd'⟩ := ih hlater hd
        exact ⟨c', List.mem_cons_of_mem _ hc', hd'⟩

theorem exists_of_unpackAll_eq_error {calls : List ToolCall} {e : Failure}
    (h : unpackAll calls = .error e) : ∃ name fault, e = .badToolCall name fault := by
  induction calls with
  | nil => simp [unpackAll] at h
  | cons c rest ih =>
    rw [unpackAll] at h
    split at h
    next e' he =>
      simp only [Except.error.injEq] at h
      exact ⟨_, h ▸ exists_of_unpack_eq_error he⟩
    · exact ih (Except.map_eq_error_iff.1 h)

/-! ## Repair -/

/-- A list without packed calls is handed back. -/
theorem repair_of_not_packed {calls : List ToolCall} (h : ∀ c ∈ calls, c.isPacked = false) :
    repair calls = .ok (.untouched calls) := by
  rw [repair, if_neg]
  intro hany
  obtain ⟨c, hc, hpacked⟩ := List.any_eq_true.1 hany
  rw [h c hc] at hpacked
  cases hpacked

/-- Where a call of a repaired list comes from. -/
theorem mem_repair {calls : List ToolCall} {r : Repaired} {d : ToolCall}
    (h : repair calls = .ok r) (hd : d ∈ r.calls) :
    d ∈ calls ∧ d.isPacked = false ∨ ∃ c ∈ calls, ∃ uses, d ∈ ofPacked c.id 0 uses := by
  rw [repair] at h
  split at h
  · obtain ⟨result, hresult, rfl⟩ := Except.map_eq_ok_iff.1 h
    obtain ⟨c, hc, part, hpart, hd⟩ := mem_unpackAll hresult hd
    rcases unpack_eq_ok_iff.1 hpart with ⟨hplain, rfl⟩ | ⟨-, uses, -, rfl⟩
    · obtain rfl := List.mem_singleton.1 hd
      exact .inl ⟨hc, hplain⟩
    · exact .inr ⟨c, hc, uses, hd⟩
  next hany =>
    rw [Except.ok.injEq] at h
    subst h
    refine .inl ⟨hd, ?_⟩
    cases hp : d.isPacked with
    | false => rfl
    | true => exact absurd (List.any_eq_true.2 ⟨d, hd, hp⟩) hany

/-- No call that packs others is left. -/
theorem not_isPacked_of_mem_repair {calls : List ToolCall} {r : Repaired} {d : ToolCall}
    (h : repair calls = .ok r) (hd : d ∈ r.calls) : d.isPacked = false := by
  rcases mem_repair h hd with ⟨-, hplain⟩ | ⟨c, -, uses, hmem⟩
  · exact hplain
  · obtain ⟨k, u, -, hname, rfl⟩ := mem_ofPacked hmem
    rw [isPacked, ofFunction]
    simpa using hname

theorem id_ne_empty_of_mem_repair {calls : List ToolCall} {r : Repaired} {d : ToolCall}
    (hids : ∀ c ∈ calls, c.id ≠ "") (h : repair calls = .ok r) (hd : d ∈ r.calls) :
    d.id ≠ "" := by
  rcases mem_repair h hd with ⟨hmem, -⟩ | ⟨c, -, uses, hmem⟩
  · exact hids d hmem
  · obtain ⟨k, u, -, -, rfl⟩ := mem_ofPacked hmem
    exact packedId_ne_empty _ _

/-- Repair fails only on the arguments of a packed call. -/
theorem exists_of_repair_eq_error {calls : List ToolCall} {e : Failure}
    (h : repair calls = .error e) : ∃ name fault, e = .badToolCall name fault := by
  rw [repair] at h
  split at h
  · exact exists_of_unpackAll_eq_error (Except.map_eq_error_iff.1 h)
  · cases h

end CanonicalReply.ToolCall
