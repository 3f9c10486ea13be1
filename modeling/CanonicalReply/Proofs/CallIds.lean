import CanonicalReply.Proofs.Expansion
import CanonicalReply.Proofs.JsonText

/-!
# Ids of calls after repair

Repair makes the id of an unpacked call from the id of the call that packed it and
a position.  Ids are any texts, so one may look like another with a position behind
it; even so the two parts can always be told apart again, since a position has no
underscore in it.

* `packedId_inj`: an id with its position behind it tells both.
* `nodup_unpacked`: **unpacked calls never share an id**, if the calls of the list
  do not.
* `perm_of_repair`: a repaired list holds the plain calls of the list and those
  that were unpacked.
* `keepsApart_of_repair`: when the ids of a repaired list are different, and when
  they are not.
-/

namespace CanonicalReply.ToolCall

/-! ## Ids with positions -/

/-- Two texts are cut alike at a character that stands in neither of their ends. -/
theorem append_cons_inj {c : Char} {as bs ds es : List Char} (hd : c ∉ ds) (he : c ∉ es)
    (h : as ++ c :: ds = bs ++ c :: es) : as = bs ∧ ds = es := by
  rcases List.append_eq_append_iff.1 h with ⟨more, hbs, hds⟩ | ⟨more, has, hes⟩
  · cases more with
    | nil => simpa using And.intro hbs.symm hds
    | cons x more =>
      obtain ⟨-, rfl⟩ := List.cons.inj hds
      exact absurd (by simp) hd
  · cases more with
    | nil => simpa using And.intro has hes.symm
    | cons x more =>
      obtain ⟨-, rfl⟩ := List.cons.inj hes
      exact absurd (by simp) he

theorem toList_packedId (id : String) (position : Nat) :
    (packedId id position).toList = id.toList ++ '_' :: Nat.toDigits 10 position := by
  have hdigits : (toString position).toList = Nat.toDigits 10 position := by
    rw [Nat.toString_eq_ofList_toDigits, String.toList_ofList]
  rw [packedId_eq, String.toList_append, String.toList_append, hdigits, List.append_assoc]
  rfl

/-- **An id with a position behind it** tells the id and the position, whatever
underscores and digits the id ends in. -/
theorem packedId_inj {a b : String} {i j : Nat} (h : packedId a i = packedId b j) :
    a = b ∧ i = j := by
  have hlists : a.toList ++ '_' :: Nat.toDigits 10 i = b.toList ++ '_' :: Nat.toDigits 10 j := by
    rw [← toList_packedId, ← toList_packedId, h]
  have hunderscore : ∀ n, '_' ∉ Nat.toDigits 10 n := Json.not_mem_toDigits (by decide)
  obtain ⟨hids, hdigits⟩ := append_cons_inj (hunderscore i) (hunderscore j) hlists
  have hvalues := congrArg (Nat.ofDigitChars 10 · 0) hdigits
  rw [Nat.ofDigitChars_ten_toDigits, Nat.ofDigitChars_ten_toDigits] at hvalues
  exact ⟨String.toList_inj.1 hids, hvalues⟩

example : packedId "a" 10 = "a_10" ∧ packedId "a_1" 0 = "a_1_0" := by decide +kernel

/-! ## Unpacked calls -/

/-- A call packs others, and the one at a position of its list becomes a call. -/
def Retains (c : ToolCall) (position : Nat) : Prop :=
  c.function.name = parallelName ∧ ∃ uses u,
    PackedUse.parseAll c.function.arguments = .ok uses ∧ uses[position]? = some u ∧
      packedName u ≠ parallelName

theorem usedAt_eq_some_iff {id : String} {entry : PackedUse × Nat} {d : ToolCall} :
    usedAt id entry = some d ↔ packedName entry.1 ≠ parallelName ∧
      d = ⟨packedId id entry.2, "function", ⟨packedName entry.1, entry.1.parameters.compact⟩⟩ := by
  rw [usedAt]
  by_cases hname : packedName entry.1 = parallelName <;> simp [hname, eq_comm]

/-- The ids of what stands for a call that packs others are its own id with the
positions that it retains. -/
theorem mem_ids_standIns_iff {c : ToolCall} (hc : c.function.name = parallelName) {id : String} :
    id ∈ c.standIns.map (·.id) ↔ ∃ k, c.Retains k ∧ id = packedId c.id k := by
  rw [standIns, if_pos hc, List.mem_map]
  constructor
  · rintro ⟨d, hd, rfl⟩
    obtain ⟨⟨u, k⟩, hentry, hused⟩ := List.mem_filterMap.1 hd
    obtain ⟨hname, rfl⟩ := usedAt_eq_some_iff.1 hused
    cases huses : PackedUse.parseAll c.function.arguments with
    | error e => simp [huses, Except.toOption] at hentry
    | ok uses =>
      rw [huses] at hentry
      exact ⟨k, ⟨hc, uses, u, huses, List.mem_zipIdx_iff_getElem?.1 hentry, hname⟩, rfl⟩
  · rintro ⟨k, ⟨-, uses, u, huses, hu, hname⟩, rfl⟩
    refine ⟨_, List.mem_filterMap.2 ⟨(u, k), ?_, usedAt_eq_some_iff.2 ⟨hname, rfl⟩⟩, rfl⟩
    rw [huses]
    exact List.mem_zipIdx_iff_getElem?.2 hu

/-- The calls packed into one call have different positions, and so different ids. -/
theorem nodup_ids_standIns {c : ToolCall} (hc : c.function.name = parallelName) :
    (c.standIns.map (·.id)).Nodup := by
  rw [standIns, if_pos hc, List.Nodup, List.pairwise_map, List.pairwise_filterMap]
  generalize (PackedUse.parseAll c.function.arguments).toOption.getD [] = uses
  have hpositions : (uses.zipIdx.map Prod.snd).Nodup := by
    rw [List.zipIdx_map_snd]
    exact List.nodup_range'
  refine (List.pairwise_map.1 hpositions).imp ?_
  intro a b hne d hd e he heq
  obtain ⟨-, rfl⟩ := usedAt_eq_some_iff.1 hd
  obtain ⟨-, rfl⟩ := usedAt_eq_some_iff.1 he
  exact hne (packedId_inj heq).2

/-- The calls that are unpacked from a list, in their order. -/
def unpacked (calls : List ToolCall) : List ToolCall := (calls.filter isPacked).flatMap standIns

/-- The calls of a list that pack no others. -/
def plain (calls : List ToolCall) : List ToolCall := calls.filter (!·.isPacked)

theorem mem_ids_unpacked_iff {calls : List ToolCall} {id : String} :
    id ∈ (unpacked calls).map (·.id) ↔ ∃ c ∈ calls, ∃ k, c.Retains k ∧ id = packedId c.id k := by
  rw [unpacked, List.map_flatMap, List.mem_flatMap]
  constructor
  · rintro ⟨c, hc, hid⟩
    obtain ⟨hmem, hpacked⟩ := List.mem_filter.1 hc
    exact ⟨c, hmem, (mem_ids_standIns_iff (isPacked_eq_true_iff.1 hpacked)).1 hid⟩
  · rintro ⟨c, hmem, k, hk, rfl⟩
    have hc : c ∈ calls.filter isPacked := List.mem_filter.2 ⟨hmem, isPacked_eq_true_iff.2 hk.1⟩
    exact ⟨c, hc, (mem_ids_standIns_iff hk.1).2 ⟨k, hk, rfl⟩⟩

/-- **Unpacked calls never share an id.** -/
theorem nodup_unpacked {calls : List ToolCall} (h : (calls.map (·.id)).Nodup) :
    ((unpacked calls).map (·.id)).Nodup := by
  rw [unpacked, List.map_flatMap, List.Nodup, List.pairwise_flatMap]
  have hpacked : ∀ c ∈ calls.filter isPacked, c.function.name = parallelName := by
    intro c hc
    exact isPacked_eq_true_iff.1 (List.mem_filter.1 hc).2
  refine ⟨fun c hc => nodup_ids_standIns (hpacked c hc), ?_⟩
  have hids : (calls.filter isPacked).Pairwise (fun c d => c.id ≠ d.id) :=
    (List.pairwise_map.1 h).filter _
  refine hids.imp_of_mem ?_
  intro c d hc hd hne x hx y hy
  obtain ⟨i, -, rfl⟩ := (mem_ids_standIns_iff (hpacked c hc)).1 hx
  obtain ⟨j, -, rfl⟩ := (mem_ids_standIns_iff (hpacked d hd)).1 hy
  exact fun heq => hne (packedId_inj heq).1

/-! ## Repaired lists -/

/-- A repaired list holds the plain calls of the list and those that were unpacked. -/
theorem perm_of_repair {calls : List ToolCall} {r : Repaired} (h : repair calls = .ok r) :
    r.calls.Perm (plain calls ++ unpacked calls) := by
  have hplain : (plain calls).flatMap standIns = plain calls := by
    refine flatMap_standIns_of_plain fun c hc => ?_
    have hc := (List.mem_filter.1 hc).2
    exact isPacked_eq_false_iff.1 (by simpa using hc)
  have hsplit : (calls.filter isPacked ++ plain calls).Perm calls :=
    List.filter_append_perm isPacked calls
  rw [(expands_of_repair h).stands]
  refine (hsplit.symm.flatMap_right standIns).trans ?_
  rw [List.flatMap_append, hplain]
  exact List.perm_append_comm

/-- How the ids of a repaired list stand to each other. -/
structure KeepsApart (calls : List ToolCall) (r : Repaired) : Prop where
  /-- The list holds the plain calls and those that were unpacked. -/
  holds : r.calls.Perm (plain calls ++ unpacked calls)
  /-- Those that were unpacked have different ids, within one packed call and across
  them. -/
  unpacked : ((unpacked calls).map (·.id)).Nodup
  /-- All ids are different unless a plain call has the id of a packed one with a
  position behind it that becomes a call. -/
  all_iff : (r.calls.map (·.id)).Nodup ↔
    ∀ d ∈ calls, d.function.name ≠ parallelName → ∀ c ∈ calls, ∀ k, c.Retains k →
      d.id ≠ packedId c.id k

/-- **Ids under repair.**  Calls with different ids give, once repaired, calls with
different ids, but for one sort of clash. -/
theorem keepsApart_of_repair {calls : List ToolCall} {r : Repaired}
    (hids : (calls.map (·.id)).Nodup) (h : repair calls = .ok r) : KeepsApart calls r where
  holds := perm_of_repair h
  unpacked := nodup_unpacked hids
  all_iff := by
    have hperm := (perm_of_repair h).map (·.id)
    have hplain : ((plain calls).map (·.id)).Nodup := hids.sublist (List.filter_sublist.map _)
    rw [hperm.nodup_iff, List.map_append, List.nodup_append]
    constructor
    · rintro ⟨-, -, hapart⟩ d hd hname c hc k hk
      have hmem : d ∈ plain calls := by
        refine List.mem_filter.2 ⟨hd, ?_⟩
        rw [isPacked_eq_false_iff.2 hname]
        rfl
      exact hapart _ (List.mem_map_of_mem hmem) _ (mem_ids_unpacked_iff.2 ⟨c, hc, k, hk, rfl⟩)
    · intro hapart
      refine ⟨hplain, nodup_unpacked hids, ?_⟩
      intro x hx y hy
      obtain ⟨d, hd, rfl⟩ := List.mem_map.1 hx
      obtain ⟨c, hc, k, hk, rfl⟩ := mem_ids_unpacked_iff.1 hy
      obtain ⟨hmem, hpacked⟩ := List.mem_filter.1 hd
      have hname := isPacked_eq_false_iff.1 (by simpa using hpacked)
      exact hapart d hmem hname c hc k hk

/-- A call that packs as many others as there are names. -/
def packsNames (id : String) (names : List String) : ToolCall :=
  .ofFunction id parallelName (Json.compact (.obj [("tool_uses", .arr (names.map fun name =>
    .obj [("recipient_name", .str name), ("parameters", .null)]))]))

/-- Ids that look like others with a position behind them.  The plain call has the id
of the second one that is unpacked from the first. -/
def lookalikes : List ToolCall :=
  [packsNames "a" ["f", "g"], .ofFunction "a_1" "h" "", packsNames "a_0" ["functions.k"]]

theorem keepsApart_of_repair_lookalikes :
    (lookalikes.map (·.id)).Nodup ∧
      ∃ r, repair lookalikes = .ok r ∧ KeepsApart lookalikes r ∧
        r.calls.map (·.id) = ["a_0", "a_1", "a_1", "a_0_0"] := by
  have hids : (lookalikes.map (·.id)).Nodup := by decide
  have hrepair : (repair lookalikes).toOption.map (fun r => r.calls.map (·.id)) =
      some ["a_0", "a_1", "a_1", "a_0_0"] := by decide +kernel
  cases h : repair lookalikes with
  | error e =>
    rw [h] at hrepair
    cases hrepair
  | ok r =>
    rw [h] at hrepair
    exact ⟨hids, r, rfl, keepsApart_of_repair hids h, Option.some.inj hrepair⟩

end CanonicalReply.ToolCall
