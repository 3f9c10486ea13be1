import CanonicalReply.Dict.Lemmas
import CanonicalReply.Proofs.Outcome

/-!
# When a record is read

A record is described field by field.  It is read exactly when each of its
fields is, and a field looks at one value only: the one that stands for its
key.  So what a reader says of a value is said here by cases on the values of
its keys, for records that are written as objects and as arrays alike.

* `Fields.seq_eq_ok_iff`, `Fields.map_eq_ok_iff`: fields side by side.
* `Fields.required_eq_ok_iff`, `Fields.lenient_eq_ok_iff`,
  `Fields.presence_eq_ok_iff`: one field of each sort.
* `Fields.lenient_of_eq_map`, `Fields.lenient_of_eq_orNull`: a field that was
  written from an optional value is read as that value.
* `Decoder.record_objectOf_eq_ok`, `Decoder.openRecord_eq_ok_iff`: whole records.
-/

namespace CanonicalReply.Json

/-- What stands for a key where the fields of a record are looked up. -/
def Source.value? (source : Source) (shape : Shape) (key : String) : Option Json :=
  match source with
  | .byKey members => members.get? key
  | .byPlace items => items[shape.index key]?

@[simp] theorem Source.value?_byKey (members : Dict Json) (shape : Shape) (key : String) :
    (Source.byKey members).value? shape key = members.get? key := rfl

/-! ## Null or a value -/

/-- A value, unless it is null. -/
def nonNull? : Json → Option Json
  | .null => none
  | v => some v

theorem nonNull?_of_ne_null {v : Json} (h : v ≠ .null) : v.nonNull? = some v := by
  cases v with
  | null => exact absurd rfl h
  | _ => rfl

theorem nonNull?_eq_some_iff {v w : Json} : v.nonNull? = some w ↔ v = w ∧ v ≠ .null := by
  by_cases h : v = .null
  · simp [h, nonNull?]
  · simp [nonNull?_of_ne_null h, h]

theorem bind_nonNull?_eq_self {o : Option Json} (h : o ≠ some .null) : o.bind nonNull? = o := by
  cases o with
  | none => rfl
  | some v => exact nonNull?_of_ne_null fun hv => h (hv ▸ rfl)

theorem bind_nonNull?_ne_some_null (o : Option Json) : o.bind nonNull? ≠ some .null := by
  intro h
  obtain ⟨v, -, hv⟩ := Option.bind_eq_some_iff.1 h
  obtain ⟨rfl, hne⟩ := nonNull?_eq_some_iff.1 hv
  exact hne rfl

namespace Decoder

variable {α : Type} {decode : Decoder α} {v : Json}

theorem nullable_of_ne_null (h : v ≠ .null) : nullable decode v = (decode v).map some := by
  cases v with
  | null => exact absurd rfl h
  | _ => rfl

theorem nullable_eq_ok_iff {o : Option α} :
    nullable decode v = .ok o ↔
      v = .null ∧ o = none ∨ v ≠ .null ∧ ∃ a, decode v = .ok a ∧ o = some a := by
  by_cases h : v = .null
  · subst h
    simp [nullable, eq_comm]
  · rw [nullable_of_ne_null h, Except.map_eq_ok_iff]
    simp only [h, ne_eq, not_false_eq_true, false_and, true_and, false_or]
    constructor
    · rintro ⟨a, ha, rfl⟩
      exact ⟨a, ha, rfl⟩
    · rintro ⟨a, ha, rfl⟩
      exact ⟨a, ha, rfl⟩

/-- A value that was written as it is or as a null is read back. -/
theorem nullable_orNull {β : Type} {x : Option β} {f : β → Json} {g : β → α}
    (hf : ∀ b ∈ x, f b ≠ .null ∧ decode (f b) = .ok (g b)) :
    nullable decode (orNull (x.map f)) = .ok (x.map g) := by
  cases x with
  | none => rfl
  | some b =>
    obtain ⟨hne, hread⟩ := hf b rfl
    rw [Option.map_some, orNull, nullable_of_ne_null hne, hread]
    rfl

@[simp] theorem nullable_any : nullable any v = .ok v.nonNull? := by
  cases v <;> rfl

/-- A text can be told from a null, and is read as itself. -/
theorem text_str (t : String) : Json.str t ≠ .null ∧ text (.str t) = .ok t :=
  ⟨by simp, rfl⟩

theorem nullable_text_eq_ok_iff {o : Option String} :
    nullable text v = .ok o ↔ v = orNull (o.map .str) := by
  cases v <;> cases o <;> simp [nullable, text, mismatch, Except.map, orNull]

/-! ## Lists of any values -/

theorem list_any (vs : List Json) : list any (.arr vs) = .ok vs := by
  show items any vs = .ok vs
  induction vs with
  | nil => rfl
  | cons v rest ih =>
    show Except.map _ (items any rest) = _
    rw [ih]
    rfl

/-! ## Integers within bounds -/

theorem intWithin_eq_ok_iff {low high n : Int} {wanted : String} :
    intWithin low high wanted v = .ok n ↔ v = .num (.int n) ∧ low ≤ n ∧ n < high := by
  unfold intWithin
  split
  next m =>
    by_cases h : low ≤ m ∧ m < high
    · simp only [h, and_self, if_true, Except.ok.injEq, Json.num.injEq, Number.int.injEq]
      constructor
      · rintro rfl
        exact ⟨rfl, h⟩
      · exact fun hn => hn.1
    · simp only [h, if_false, reduceCtorEq, Json.num.injEq, Number.int.injEq, false_iff]
      rintro ⟨rfl, hn⟩
      exact h hn
  next hne =>
    simp only [mismatch, reduceCtorEq, false_iff]
    rintro ⟨rfl, -⟩
    exact hne n rfl

theorem uint32_eq_ok_iff {m : UInt32} :
    uint32 v = .ok m ↔ ∃ n : Nat, v = .num (.int n) ∧ n < UInt32.size ∧ UInt32.ofNat n = m := by
  rw [uint32, Except.map_eq_ok_iff]
  simp only [intWithin_eq_ok_iff]
  constructor
  · rintro ⟨n, ⟨rfl, hlow, hhigh⟩, rfl⟩
    exact ⟨n.toNat, by rw [Int.toNat_of_nonneg hlow], by omega, rfl⟩
  · rintro ⟨n, rfl, hn, rfl⟩
    exact ⟨n, ⟨rfl, by omega, by omega⟩, rfl⟩

theorem uint16_toNat (n : UInt16) : uint16 (.num (.int n.toNat)) = .ok n := by
  refine Except.map_eq_ok_iff.2 ⟨n.toNat, intWithin_eq_ok_iff.2 ⟨rfl, ?_, ?_⟩, ?_⟩
  · exact Int.natCast_nonneg _
  · exact Int.ofNat_lt.2 n.toNat_lt_size
  · rw [Int.toNat_natCast, UInt16.ofNat_toNat]

theorem uint64_toNat (n : UInt64) : uint64 (.num (.int n.toNat)) = .ok n := by
  refine Except.map_eq_ok_iff.2 ⟨n.toNat, intWithin_eq_ok_iff.2 ⟨rfl, ?_, ?_⟩, ?_⟩
  · exact Int.natCast_nonneg _
  · exact Int.ofNat_lt.2 n.toNat_lt_size
  · rw [Int.toNat_natCast, UInt64.ofNat_toNat]

end Decoder

namespace Fields

variable {α β : Type} {shape : Shape} {source : Source} {key : String} {decode : Decoder α}

/-! ## Fields side by side -/

theorem seq_eq_ok_iff {f : Fields (α → β)} {x : Fields α} {b : β} :
    (f <*> x) shape source = .ok b ↔
      ∃ g, f shape source = .ok g ∧ ∃ a, x shape source = .ok a ∧ g a = b := by
  show both _ (f shape source) (x shape source) = .ok b ↔ _
  cases f shape source <;> cases x shape source <;> simp [both]

theorem map_eq_ok_iff {f : α → β} {x : Fields α} {b : β} :
    (f <$> x) shape source = .ok b ↔ ∃ a, x shape source = .ok a ∧ f a = b := by
  show both _ (.ok f) (x shape source) = .ok b ↔ _
  cases x shape source <;> simp [both]

theorem seq_eq_ok {f : Fields (α → β)} {x : Fields α} {g : α → β} {a : α}
    (hf : f shape source = .ok g) (hx : x shape source = .ok a) :
    (f <*> x) shape source = .ok (g a) :=
  seq_eq_ok_iff.2 ⟨g, hf, a, hx, rfl⟩

theorem map_eq_ok {f : α → β} {x : Fields α} {a : α} (hx : x shape source = .ok a) :
    (f <$> x) shape source = .ok (f a) :=
  map_eq_ok_iff.2 ⟨a, hx, rfl⟩

/-! ## One field -/

/-- A field that has to be there is read from the value of its key. -/
theorem required_eq_ok_iff {a : α} :
    required key decode shape source = .ok a ↔
      ∃ v, source.value? shape key = some v ∧ decode v = .ok a := by
  cases source with
  | byKey members =>
    simp only [required, field, Source.value?]
    cases members.get? key <;> simp [Except.mapError_eq_ok_iff]
  | byPlace items =>
    simp only [required, field, Source.value?]
    cases items[shape.index key]? <;> simp [Except.mapError_eq_ok_iff]

/-- A field with a default is absent or read. -/
theorem defaulted_eq_ok_iff {default a : α} :
    defaulted key decode default shape source = .ok a ↔
      source.value? shape key = none ∧ a = default ∨
        ∃ v, source.value? shape key = some v ∧ decode v = .ok a := by
  cases source with
  | byKey members =>
    simp only [defaulted, field, Source.value?]
    cases members.get? key <;> simp [Except.mapError_eq_ok_iff, @eq_comm _ default a]
  | byPlace items =>
    simp only [defaulted, field, Source.value?]
    cases items[shape.index key]? <;> simp [Except.mapError_eq_ok_iff, @eq_comm _ default a]

theorem lenient_eq_ok_iff {o : Option α} :
    lenient key decode shape source = .ok o ↔
      source.value? shape key = none ∧ o = none ∨
        ∃ v, source.value? shape key = some v ∧ Decoder.nullable decode v = .ok o := by
  rw [lenient, defaulted_eq_ok_iff]

theorem presence_eq_ok_iff {o : Option (Option α)} :
    presence key decode shape source = .ok o ↔
      source.value? shape key = none ∧ o = none ∨
        ∃ v o', source.value? shape key = some v ∧ Decoder.nullable decode v = .ok o' ∧
          o = some o' := by
  rw [presence, defaulted_eq_ok_iff]
  simp only [Except.map_eq_ok_iff]
  refine or_congr Iff.rfl ⟨?_, ?_⟩
  · rintro ⟨v, hv, o', ho, rfl⟩
    exact ⟨v, o', hv, ho, rfl⟩
  · rintro ⟨v, o', hv, ho, rfl⟩
    exact ⟨v, hv, o', ho, rfl⟩

/-! ### Fields that take any value, and texts -/

theorem lenient_any_eq_ok_iff {o : Option Json} :
    lenient key Decoder.any shape source = .ok o ↔
      o = (source.value? shape key).bind nonNull? := by
  rw [lenient_eq_ok_iff]
  cases source.value? shape key <;> simp [@eq_comm _ o]

theorem presence_any_eq_ok_iff {o : Option (Option Json)} :
    presence key Decoder.any shape source = .ok o ↔
      o = (source.value? shape key).map nonNull? := by
  rw [presence_eq_ok_iff]
  cases source.value? shape key <;> simp

/-- A text that may be null tells its value. -/
theorem presence_text_eq_ok_iff {o : Option (Option String)} :
    presence key Decoder.text shape source = .ok o ↔
      source.value? shape key = o.map fun t => orNull (t.map .str) := by
  rw [presence_eq_ok_iff]
  cases o with
  | none => simp
  | some t => simp [Decoder.nullable_text_eq_ok_iff]

/-! ### Fields that were written from an optional value -/

section Written

variable {x : Option β} {f : β → Json} {g : β → α}
  (hf : ∀ b ∈ x, f b ≠ .null ∧ decode (f b) = .ok (g b))

include hf

theorem lenient_of_eq_map (h : source.value? shape key = x.map f) :
    lenient key decode shape source = .ok (x.map g) := by
  rw [lenient_eq_ok_iff, h]
  cases x with
  | none => exact .inl ⟨rfl, rfl⟩
  | some b => exact .inr ⟨f b, rfl, Decoder.nullable_orNull hf⟩

theorem lenient_of_eq_orNull (h : source.value? shape key = some (orNull (x.map f))) :
    lenient key decode shape source = .ok (x.map g) :=
  lenient_eq_ok_iff.2 (.inr ⟨_, h, Decoder.nullable_orNull hf⟩)

end Written

theorem lenient_any_of_eq {o : Option Json} (ho : o ≠ some .null)
    (h : source.value? shape key = o) : lenient key Decoder.any shape source = .ok o := by
  rw [lenient_any_eq_ok_iff, h, bind_nonNull?_eq_self ho]

theorem lenient_text_of_eq_map {o : Option String} (h : source.value? shape key = o.map .str) :
    lenient key Decoder.text shape source = .ok o := by
  have := lenient_of_eq_map (g := id) (fun t _ => Decoder.text_str t) h
  rwa [Option.map_id] at this

end Fields

/-! ## Whole records -/

namespace Decoder

variable {α : Type} {shape : Shape} {a : α}

theorem settle_eq_ok_iff {r : Except (Place × Fault) α} : settle r = .ok a ↔ r = .ok a :=
  Except.mapError_eq_ok_iff

theorem record_obj_eq_ok_iff {fields : Fields α} {ms : List (String × Json)} :
    record shape fields (.obj ms) = .ok a ↔ fields shape (.byKey (.ofList ms)) = .ok a :=
  settle_eq_ok_iff

/-- A record that was written member by member is read from where each key gives
what was written for it. -/
theorem record_objectOf_eq_ok {fields : Fields α} {members : List (String × Option Json)}
    (hkeys : members.Pairwise fun a b => a.1 ≠ b.1)
    (h : ∀ source : Source, (∀ key, source.value? shape key = (members.lookup key).join) →
      fields shape source = .ok a) : record shape fields (objectOf members) = .ok a :=
  record_obj_eq_ok_iff.2 (h _ fun key => Dict.get?_ofPresent hkeys key)

/-- Whatever form a record is written in, its fields are read from it. -/
theorem exists_source_of_record {fields : Fields α} {v : Json}
    (h : record shape fields v = .ok a) : ∃ source, fields shape source = .ok a := by
  cases v with
  | obj ms => exact ⟨_, record_obj_eq_ok_iff.1 h⟩
  | arr vs =>
    rw [record, placed] at h
    split at h
    · cases h
    next b hb =>
      split at h
      · cases h
      · cases h
        exact ⟨_, settle_eq_ok_iff.1 hb⟩
  | _ => cases h

/-- A record that collects what it does not know is read from an object, and
keeps the members that have no field. -/
theorem openRecord_eq_ok_iff {fields : Fields (Dict Json → α)} {v : Json} :
    openRecord shape fields v = .ok a ↔
      ∃ ms f, v = .obj ms ∧ fields shape (.byKey (.ofList ms)) = .ok f ∧
        f ((Dict.ofList ms).filterKeys fun k => !shape.keys.contains k) = a := by
  cases v with
  | obj ms =>
    simp only [openRecord, Except.map_eq_ok_iff, settle_eq_ok_iff, Json.obj.injEq]
    constructor
    · rintro ⟨f, hf, rfl⟩
      exact ⟨ms, f, rfl, hf, rfl⟩
    · rintro ⟨ms, f, rfl, hf, rfl⟩
      exact ⟨f, hf, rfl⟩
  | _ => simp [openRecord, mismatch]

end Decoder

end CanonicalReply.Json
