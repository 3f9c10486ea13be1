import CanonicalReply.Proofs.Decoding
import CanonicalReply.Provider.Payload

/-!
# Reading usage

Usage is read in two ways.  An assembly reads it strictly: a count that is there
has to be a count.  A replay takes whatever is no count for zero.

* `Usage.decode_eq_ok_iff`: what the strict reader accepts, and as what.
* `Usage.decode_toJson`: a usage that is written is read back.
* `Usage.SaysCount.countOrZero_eq`: what the strict reader accepts, the other one
  reads likewise.
-/

namespace CanonicalReply

namespace Usage

/-- The keys of the counts. -/
def keys : List String := ["prompt_tokens", "completion_tokens", "total_tokens"]

/-- What a key says about a count: nothing, which is zero, or a number of 32
bits. -/
def SaysCount (members : Dict Json) (key : String) (n : UInt32) : Prop :=
  (members.get? key = none ∨ members.get? key = some .null) ∧ n = 0 ∨
    ∃ k : Nat, members.get? key = some (.num (.int k)) ∧ k < UInt32.size ∧ UInt32.ofNat k = n

theorem countOrZero_eq_ok_iff {v : Json} {n : UInt32} :
    countOrZero v = .ok n ↔
      v = .null ∧ n = 0 ∨ ∃ k : Nat, v = .num (.int k) ∧ k < UInt32.size ∧ UInt32.ofNat k = n := by
  rw [countOrZero, Except.map_eq_ok_iff]
  simp only [Json.Decoder.nullable_eq_ok_iff, Json.Decoder.uint32_eq_ok_iff]
  constructor
  · rintro ⟨_, ⟨rfl, rfl⟩ | ⟨-, _, ⟨k, rfl, hk, rfl⟩, rfl⟩, rfl⟩
    · exact .inl ⟨rfl, rfl⟩
    · exact .inr ⟨k, rfl, hk, rfl⟩
  · rintro (⟨rfl, rfl⟩ | ⟨k, rfl, hk, rfl⟩)
    · exact ⟨none, .inl ⟨rfl, rfl⟩, rfl⟩
    · exact ⟨some (UInt32.ofNat k), .inr ⟨by simp, _, ⟨k, rfl, hk, rfl⟩, rfl⟩, rfl⟩

theorem saysCount_iff {members : Dict Json} {shape : Json.Shape} {key : String} {n : UInt32} :
    Json.Fields.defaulted key countOrZero 0 shape (.byKey members) = .ok n ↔
      SaysCount members key n := by
  rw [Json.Fields.defaulted_eq_ok_iff, Json.Source.value?_byKey, SaysCount]
  cases members.get? key with
  | none => simp
  | some v => simp [countOrZero_eq_ok_iff]

/-- Each field of a usage says what the members of its key say. -/
structure ReadsFrom (u : Usage) (members : Dict Json) : Prop where
  promptTokens : SaysCount members "prompt_tokens" u.promptTokens
  completionTokens : SaysCount members "completion_tokens" u.completionTokens
  totalTokens : SaysCount members "total_tokens" u.totalTokens
  extra : u.extra = members.filterKeys fun k => !keys.contains k

theorem decode_eq_ok_iff {v : Json} {u : Usage} :
    decode v = .ok u ↔ ∃ members, v.dict? = some members ∧ u.ReadsFrom members := by
  rw [decode, Json.Decoder.openRecord_eq_ok_iff]
  simp only [Json.Fields.seq_eq_ok_iff, Json.Fields.map_eq_ok_iff, saysCount_iff]
  constructor
  · rintro ⟨ms, _, rfl, ⟨_, ⟨_, ⟨prompt, hprompt, rfl⟩, completion, hcompletion, rfl⟩, total,
      htotal, rfl⟩, rfl⟩
    exact ⟨_, rfl, hprompt, hcompletion, htotal, rfl⟩
  · rintro ⟨members, hv, hprompt, hcompletion, htotal, hextra⟩
    cases v with
    | obj ms =>
      cases hv
      exact ⟨ms, _, rfl, ⟨_, ⟨_, ⟨_, hprompt, rfl⟩, _, hcompletion, rfl⟩, _, htotal, rfl⟩, by
        rw [keys] at hextra
        rw [← hextra]⟩
    | _ => cases hv

/-- The rest of a usage that was read has no count in it. -/
theorem extra_eq_none_of_decode {v : Json} {u : Usage} (h : decode v = .ok u) :
    ∀ key ∈ keys, u.extra.get? key = none := by
  intro key hkey
  obtain ⟨members, -, hread⟩ := decode_eq_ok_iff.1 h
  rw [hread.extra, Dict.get?_filterKeys, if_neg (by simpa using hkey)]

/-- A count that is written is read back. -/
theorem saysCount_of_get? {members : Dict Json} {key : String} {n : UInt32}
    (h : members.get? key = some (count n)) : SaysCount members key n :=
  .inr ⟨n.toNat, h, n.toNat_lt, UInt32.ofNat_toNat⟩

/-- **A usage is read as it is written**, if the rest of it has no count in it. -/
theorem decode_toJson {u : Usage} (h : ∀ key ∈ keys, u.extra.get? key = none) :
    decode u.toJson = .ok u := by
  have hcounts : ([("prompt_tokens", count u.promptTokens),
      ("completion_tokens", count u.completionTokens), ("total_tokens", count u.totalTokens)] :
        List (String × Json)).Pairwise fun a b => a.1 ≠ b.1 := by simp
  refine decode_eq_ok_iff.2 ⟨_, rfl, ?_⟩
  rw [Dict.ofList_append_entries]
  refine ⟨saysCount_of_get? ?_, saysCount_of_get? ?_, saysCount_of_get? ?_,
    (Dict.filterKeys_overlay ?_ h).symm⟩
  · rw [Dict.get?_overlay_of_eq_none (h _ (by simp [keys])), Dict.get?_ofList hcounts]
    rfl
  · rw [Dict.get?_overlay_of_eq_none (h _ (by simp [keys])), Dict.get?_ofList hcounts]
    rfl
  · rw [Dict.get?_overlay_of_eq_none (h _ (by simp [keys])), Dict.get?_ofList hcounts]
    rfl
  · intro k hk
    rw [Dict.get?_ofList hcounts, List.lookup_eq_none_iff]
    simpa [keys] using hk

/-- **The two readers agree.**  A count that the strict reader accepts is the one
that the other reader sees. -/
theorem SaysCount.countOrZero_eq {v : Json} {members : Dict Json} {key : String} {n : UInt32}
    (hv : v.dict? = some members) (h : SaysCount members key n) :
    Provider.Completion.countOrZero v key = n := by
  have hget : v.get? key = members.get? key := by rw [Json.get?, hv, Option.bind_some]
  rw [Provider.Completion.countOrZero, hget]
  rcases h with ⟨hnone | hnull, rfl⟩ | ⟨k, hk, hlt, rfl⟩
  · rw [hnone]
  · rw [hnull]
  · rw [hk]
    exact if_pos hlt

end Usage

end CanonicalReply
