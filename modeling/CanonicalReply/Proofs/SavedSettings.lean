import CanonicalReply.Proofs.Decoding
import CanonicalReply.Proofs.Placeholders
import CanonicalReply.Proofs.RecordText
import CanonicalReply.Settings.Load

/-!
# Settings that are saved and loaded again

Settings are saved as compact JSON text.  Loading puts variables in place before it
reads, so that a saved text survives only if nothing in it looks like a placeholder.
The check of the header prefix sees to that: no token has a dollar sign, and neither
do the keys, the truth values and the numbers.

* `dollar_not_mem_compact`: the text of settings that make sense has no dollar sign.
* `parseJson_toJson`: settings of any kind are read from their text.
* `validate_of_loadWith`: what was loaded makes sense.
* `savingKeeps`: **saving and loading gives the same settings.**
-/

namespace CanonicalReply

/-! ## Texts without dollar signs -/

namespace Json

theorem eq_dollar_of_mem_escapeChar {c : Char} (h : '$' ∈ escapeChar c) : c = '$' := by
  unfold escapeChar at h
  split at h
  case h_8 =>
    split at h
    case isTrue hcontrol =>
      have hdigit : ∀ d < 16, '$' ≠ Nat.digitChar d := by decide
      have hhigh := hdigit (c.toNat / 16) (by omega)
      have hlow := hdigit (c.toNat % 16) (by omega)
      simp [hhigh, hlow] at h
    case isFalse => exact (List.mem_singleton.1 h).symm
  all_goals cases h with | tail _ h => cases h with | tail _ h => cases h

theorem dollar_not_mem_stringChars {s : String} (h : '$' ∉ s.toList) : '$' ∉ stringChars s := by
  rw [stringChars, List.mem_cons, List.mem_append, List.mem_flatMap]
  rintro (h' | ⟨c, hc, hmem⟩ | h')
  · cases h'
  · exact h (eq_dollar_of_mem_escapeChar hmem ▸ hc)
  · cases h' with | tail _ h' => cases h'

theorem dollar_not_mem_membersText {es : List (String × Json)}
    (h : ∀ e ∈ es, '$' ∉ e.1.toList ∧ '$' ∉ e.2.chars) (first : Bool) :
    '$' ∉ membersText first es := by
  induction es generalizing first with
  | nil => cases first <;> decide
  | cons e es ih =>
    obtain ⟨⟨hk, hv⟩, hes⟩ := List.forall_mem_cons.1 h
    have hseparator : '$' ∉ separator first := by cases first <;> decide
    rw [membersText_cons]
    simp only [List.mem_append, List.mem_cons, not_or]
    exact ⟨hseparator, dollar_not_mem_stringChars hk, by decide, hv, ih hes false⟩

end Json

namespace Settings

open Json (Exact)
open Placeholder (Environment interpolate)

theorem dollar_not_mem_of_isTokenAfter {started : Bool} {cs : List Char}
    (h : isTokenAfter started cs = true) : '$' ∉ cs := by
  induction cs generalizing started with
  | nil => exact List.not_mem_nil
  | cons c cs ih =>
    rw [isTokenAfter] at h
    split at h
    case isTrue hpiece =>
      refine List.not_mem_cons_of_ne_of_not_mem ?_ (ih h)
      rintro rfl
      cases hpiece
    case isFalse =>
      simp only [Bool.and_eq_true, decide_eq_true_eq] at h
      obtain ⟨⟨rfl, -⟩, hrest⟩ := h
      exact List.not_mem_cons_of_ne_of_not_mem (by decide) (ih hrest)

/-- The members under which settings are saved. -/
def savedMembers (s : Settings) : List (String × Json) :=
  [(headerPrefixKey, .str s.headerPrefix), (errorStatusKey, .num (.int s.errorStatus.toNat)),
    (jsonModeKey, .bool s.jsonMode), (repairKey, .bool s.repair),
    (snapshotKeysKey, .num (.int s.snapshotKeys.toNat))]

theorem toJson_eq_obj (s : Settings) : s.toJson = .obj s.savedMembers := rfl

theorem isToken_of_validate {s : Settings} (h : s.validate = .ok ()) :
    isToken s.headerPrefix = true := by
  unfold validate at h
  split at h
  · cases h
  · split at h
    case isTrue htoken => exact htoken
    case isFalse => cases h

/-- The text of settings that make sense has no dollar sign. -/
theorem dollar_not_mem_compact {s : Settings} (h : s.validate = .ok ()) :
    '$' ∉ s.toJson.compact.toList := by
  have hprefix : '$' ∉ s.headerPrefix.toList :=
    dollar_not_mem_of_isTokenAfter (isToken_of_validate h)
  have hnat : ∀ n : Nat, '$' ∉ (Json.num (.int n)).chars := by
    intro n
    have hpos : ¬ (n : Int) < 0 := by omega
    rw [Json.chars, Json.Number.chars, Json.intChars, if_neg hpos, Int.natAbs_natCast]
    exact Json.not_mem_toDigits (by decide) n
  have hbool : ∀ b : Bool, '$' ∉ (Json.bool b).chars := by
    intro b
    cases b <;> rw [Json.chars] <;> decide
  have hmembers : ∀ e ∈ s.savedMembers, '$' ∉ e.1.toList ∧ '$' ∉ e.2.chars := by
    simp only [savedMembers, List.forall_mem_cons]
    refine ⟨⟨by decide, ?_⟩, ⟨by decide, hnat _⟩, ⟨by decide, hbool _⟩, ⟨by decide, hbool _⟩,
      ⟨by decide, hnat _⟩, List.forall_mem_nil _⟩
    rw [Json.chars]
    exact Json.dollar_not_mem_stringChars hprefix
  rw [toJson_eq_obj, Json.compact, String.toList_ofList, Json.chars, ← Json.membersText_true]
  exact List.not_mem_cons_of_ne_of_not_mem (by decide)
    (Json.dollar_not_mem_membersText hmembers true)

/-! ## Reading the text -/

/-- The reader takes the saved members, one field after the other. -/
theorem takes_reader (s : Settings) (depth : Nat) :
    reader.Takes depth .empty s.savedMembers ⟨some s.headerPrefix, some s.errorStatus,
      some s.jsonMode, some s.repair, some s.snapshotKeys⟩ := by
  have hstatus : s.errorStatus.toNat < UInt64.size :=
    Nat.lt_trans s.errorStatus.toNat_lt_size (by decide)
  have hkeys : s.snapshotKeys.toNat < UInt64.size := s.snapshotKeys.toNat_lt_size
  have hbool : ∀ b, Json.Decoder.bool (.bool b) = .ok b := fun _ => rfl
  refine .cons rfl rfl (fun _ hrest => Json.map_readScalar_append (.str _)
    (Json.Decoder.text_str _).2 (fun p => (⟨some p, none, none, none, none⟩ : Draft)) hrest) ?_
  refine .cons rfl rfl (fun _ hrest => Json.map_readScalar_append (.nat hstatus)
    (Json.Decoder.uint16_toNat _) (fun n => (⟨_, some n, none, none, none⟩ : Draft)) hrest) ?_
  refine .cons rfl rfl (fun _ hrest => Json.map_readScalar_append (.bool _) (hbool _)
    (fun b => (⟨_, _, some b, none, none⟩ : Draft)) hrest) ?_
  refine .cons rfl rfl (fun _ hrest => Json.map_readScalar_append (.bool _) (hbool _)
    (fun b => (⟨_, _, _, some b, none⟩ : Draft)) hrest) ?_
  refine .cons rfl rfl (fun _ hrest => Json.map_readScalar_append (.nat hkeys)
    (Json.Decoder.uint64_toNat _) (fun n => (⟨_, _, _, _, some n⟩ : Draft)) hrest) ?_
  exact .nil _

/-- Settings of any kind are read from their text, whether they make sense or not. -/
theorem parseJson_toJson (s : Settings) : parseJson s.toJson.compact = .ok s :=
  Json.RecordReader.parse_of_takes (takes_reader s _) rfl

/-! ## Loading -/

theorem fromUTF8?_toUTF8 (text : String) : String.fromUTF8? text.toUTF8 = some text := by
  have hvalid : text.toUTF8.IsValidUTF8 := text.isValidUTF8
  rw [String.fromUTF8?, dif_pos hvalid]
  rfl

theorem loadWith_of_validate {reader : String → Except LoadFault Settings} {s : Settings}
    {env : Environment} {text : String} (path : String) (hdollar : '$' ∉ text.toList)
    (hread : reader text = .ok s) (hvalid : s.validate = .ok ()) :
    loadWith reader env path (some text.toUTF8) = .ok s := by
  simp only [loadWith, fromUTF8?_toUTF8, Placeholder.interpolate_eq_self env hdollar, hread]
  exact Except.mapError_eq_ok_iff.2 (Except.map_eq_ok_iff.2 ⟨(), hvalid, rfl⟩)

/-- Whatever was loaded makes sense. -/
theorem validate_of_loadWith {reader : String → Except LoadFault Settings} {s : Settings}
    {env : Environment} {path : String} {content : Option ByteArray}
    (h : loadWith reader env path content = .ok s) : s.validate = .ok () := by
  unfold loadWith at h
  split at h
  · cases h
  · split at h
    · cases h
    · split at h
      · cases h
      · split at h
        · cases h
        · obtain ⟨_, hvalid, rfl⟩ := Except.map_eq_ok_iff.1 (Except.mapError_eq_ok_iff.1 h)
          exact hvalid

/-- Settings that make sense are loaded from the file to which they were saved. -/
theorem loadJson_toJson {s : Settings} (h : s.validate = .ok ()) (env : Environment)
    (path : String) : loadJson env path (some s.toJson.compact.toUTF8) = .ok s := by
  have hread : ofJson path s.toJson.compact = .ok s :=
    Except.mapError_eq_ok_iff.2 (parseJson_toJson s)
  exact loadWith_of_validate path (dollar_not_mem_compact h) hread h

/-- What settings keep when they are saved as JSON text and loaded again. -/
structure SavingKeeps (s : Settings) : Prop where
  /-- The text is read as the same settings. -/
  read : parseJson s.toJson.compact = .ok s
  /-- The text of settings that make sense names no variable. -/
  interpolated : s.validate = .ok () → ∀ env,
    interpolate env s.toJson.compact = .ok s.toJson.compact
  /-- Settings that make sense come back, whatever the environment. -/
  saved : s.validate = .ok () → ∀ env path,
    loadJson env path (some s.toJson.compact.toUTF8) = .ok s
  /-- Settings that were loaded make sense, whatever the file was. -/
  sensible : ∀ env path content,
    loadJson env path content = .ok s ∨ loadYaml env path content = .ok s → s.validate = .ok ()
  /-- Settings that were loaded from any file come back once they are saved. -/
  loaded : ∀ env path content,
    loadJson env path content = .ok s ∨ loadYaml env path content = .ok s →
      ∀ env' path', loadJson env' path' (some s.toJson.compact.toUTF8) = .ok s

/-- **Saving and loading gives the same settings.** -/
theorem savingKeeps (s : Settings) : SavingKeeps s := by
  have hsensible : ∀ env path content,
      loadJson env path content = .ok s ∨ loadYaml env path content = .ok s →
        s.validate = .ok () := by
    rintro env path content (h | h)
    · exact validate_of_loadWith h
    · exact validate_of_loadWith h
  exact {
    read := parseJson_toJson s
    interpolated := fun h env => Placeholder.interpolate_eq_self env (dollar_not_mem_compact h)
    saved := fun h => loadJson_toJson h
    sensible := hsensible
    loaded := fun env path content h => loadJson_toJson (hsensible env path content h) }

/-- Settings at the far end of each range, with every sort of character in the prefix. -/
def outermost : Settings := ⟨"My-gate_way.v2", 599, true, false, 18446744073709551615⟩

theorem savingKeeps_outermost :
    outermost.validate = .ok () ∧
      loadJson (fun _ => none) "saved.json" (some outermost.toJson.compact.toUTF8) =
        .ok outermost := by
  have hvalid : outermost.validate = .ok () := by rfl
  exact ⟨hvalid, (savingKeeps outermost).saved hvalid (fun _ => none) "saved.json"⟩

end Settings

end CanonicalReply
