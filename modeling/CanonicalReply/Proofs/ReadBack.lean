import CanonicalReply.Proofs.Decoding
import CanonicalReply.Proofs.DistinctKeys
import CanonicalReply.Reply.Completion

/-!
# Reading what was written, field by field

A value reads back if it is written without repeating a key and is decoded again
from what is written.  A record reads back if its fields do, and the fields of a
record that was decoded were decoded themselves.  So for each type of record there
are two steps, and the facts here make them short: from the fields to the record,
and from a record that was decoded to its fields.

* `Json.ReadsBack`, `Json.RoundTrips`: reading undoes writing, for one value and for
  all values that can be decoded.
* `Json.Kept`: a field is written, and read again.
* `Json.ReadsBackAs.of_record`, `Json.ReadsBackAs.of_openRecord`: records of fields
  that are kept.
* `Json.Decoder.exists_source_of_distinct`, `Json.Decoder.exists_rest_of_distinct`:
  the fields of a record that was decoded.
-/

namespace CanonicalReply.Json

/-! ## Reading back -/

section ReadsBack

variable {α : Type}

/-- What is written of the first value repeats no key and is read as the second
value. -/
structure ReadsBackAs (encode : α → Json) (decode : Decoder α) (x y : α) : Prop where
  distinct : (encode x).Distinct
  decode_eq : decode (encode x) = .ok y

/-- What is written of a value repeats no key and is read as that value. -/
abbrev ReadsBack (encode : α → Json) (decode : Decoder α) (x : α) : Prop :=
  ReadsBackAs encode decode x x

/-- Every value that can be decoded reads back.  What it is decoded from repeats no
key either, which is true of every value that was read (`distinct_of_parse`). -/
def RoundTrips (encode : α → Json) (decode : Decoder α) : Prop :=
  ∀ v x, v.Distinct → decode v = .ok x → ReadsBack encode decode x

/-- A value that shows where it is written, and reads back. -/
def Shows (encode : α → Json) (decode : Decoder α) (x : α) : Prop :=
  encode x ≠ .null ∧ ReadsBack encode decode x

variable {encode : α → Json} {decode : Decoder α}

theorem ReadsBackAs.readsBack {x y : α} (h : ReadsBackAs encode decode x y) (hsame : y = x) :
    ReadsBack encode decode x := by
  rwa [hsame] at h

/-- Whatever a text is decoded as reads back. -/
theorem RoundTrips.of_parse (h : RoundTrips encode decode) {text : String} {v : Json} {x : α}
    (hparse : parse text = .ok v) (hread : decode v = .ok x) : ReadsBack encode decode x :=
  h v x (distinct_of_parse hparse) hread

theorem RoundTrips.of_forall (h : ∀ x, ReadsBack encode decode x) : RoundTrips encode decode :=
  fun _ x _ _ => h x

end ReadsBack

/-! ### Simple values -/

theorem readsBack_text (s : String) : ReadsBack .str Decoder.text s := ⟨.str s, rfl⟩

theorem readsBack_size (n : Nat) : ReadsBack ofNat Decoder.size n := ⟨.num _, rfl⟩

theorem readsBack_int64 (t : Int64) : ReadsBack ofSeconds Decoder.int64 t := by
  refine ⟨.num _, Except.map_eq_ok_iff.2 ⟨t.toInt, ?_, Int64.ofInt_toInt t⟩⟩
  refine Decoder.intWithin_eq_ok_iff.2 ⟨rfl, ?_, ?_⟩
  · exact t.le_toInt
  · exact Int.lt_add_one_of_le t.toInt_le

theorem readsBack_double (x : Binary64) : ReadsBack SideChannel.doubleJson Decoder.double x :=
  ⟨.num _, rfl⟩

theorem readsBack_object {d : Dict Json} (h : (ofDict d).Distinct) :
    ReadsBack ofDict Decoder.object d :=
  ⟨h, congrArg Except.ok d.ofList_entries⟩

theorem distinct_of_object {v : Json} {d : Dict Json} (hv : v.Distinct)
    (h : Decoder.object v = .ok d) : (ofDict d).Distinct := by
  cases v with
  | obj ms =>
    cases h
    exact hv.ofList
  | _ => cases h

/-- Texts are read under the keys where they were written. -/
theorem members_text (l : List (String × String)) :
    Decoder.members Decoder.text (l.map fun e => (e.1, .str e.2)) = .ok l := by
  induction l with
  | nil => rfl
  | cons e rest ih =>
    rw [List.map_cons, Decoder.members, Decoder.text, ih]
    rfl

theorem readsBack_headers (h : Headers) :
    ReadsBack SideChannel.headersJson (Decoder.dict Decoder.text) h := by
  constructor
  · refine distinct_ofDict_iff.2 fun key v hv => ?_
    rw [Dict.get?_map] at hv
    obtain ⟨s, -, rfl⟩ := Option.map_eq_some_iff.1 hv
    exact .str s
  · show (Decoder.members Decoder.text (Dict.ofList (h.map Json.str).entries).entries).map _ = _
    rw [Dict.ofList_entries]
    refine Except.map_eq_ok_iff.2 ⟨h.entries, members_text h.entries, h.ofList_entries⟩

/-! ### Lists -/

section List

variable {α : Type} {encode : α → Json} {decode : Decoder α}

theorem items_map {as : List α} (h : ∀ a ∈ as, decode (encode a) = .ok a) :
    Decoder.items decode (as.map encode) = .ok as := by
  induction as with
  | nil => rfl
  | cons a rest ih =>
    rw [List.map_cons, Decoder.items, h a (List.mem_cons_self ..),
      ih fun b hb => h b (List.mem_cons_of_mem _ hb)]
    rfl

/-- What was read as a list was read item by item. -/
theorem exists_of_items {vs : List Json} {as : List α} (h : Decoder.items decode vs = .ok as) :
    ∀ a ∈ as, ∃ v ∈ vs, decode v = .ok a := by
  induction vs generalizing as with
  | nil =>
    cases h
    exact nofun
  | cons v rest ih =>
    rw [Decoder.items] at h
    split at h
    · cases h
    next b hb =>
      obtain ⟨bs, hbs, rfl⟩ := Except.map_eq_ok_iff.1 h
      intro a ha
      rcases List.mem_cons.1 ha with rfl | ha
      · exact ⟨v, List.mem_cons_self .., hb⟩
      · obtain ⟨w, hw, hread⟩ := ih hbs a ha
        exact ⟨w, List.mem_cons_of_mem _ hw, hread⟩

theorem exists_of_list {v : Json} {as : List α} (h : Decoder.list decode v = .ok as) :
    ∃ vs, v = .arr vs ∧ ∀ a ∈ as, ∃ w ∈ vs, decode w = .ok a := by
  cases v with
  | arr vs => exact ⟨vs, rfl, exists_of_items h⟩
  | _ => cases h

theorem readsBack_list {as : List α} (h : ∀ a ∈ as, ReadsBack encode decode a) :
    ReadsBack (fun as => .arr (as.map encode)) (Decoder.list decode) as := by
  refine ⟨.arr fun v hv => ?_, items_map fun a ha => (h a ha).decode_eq⟩
  obtain ⟨a, ha, rfl⟩ := List.mem_map.1 hv
  exact (h a ha).distinct

theorem readsBack_listAny {vs : List Json} (h : ∀ v ∈ vs, v.Distinct) :
    ReadsBack .arr (Decoder.list Decoder.any) vs :=
  ⟨.arr h, Decoder.list_any vs⟩

/-- Every item of a list that was read reads back. -/
theorem RoundTrips.list (h : RoundTrips encode decode) {v : Json} {as : List α} (hv : v.Distinct)
    (hread : Decoder.list decode v = .ok as) : ∀ a ∈ as, ReadsBack encode decode a := by
  obtain ⟨vs, rfl, hitems⟩ := exists_of_list hread
  intro a ha
  obtain ⟨w, hw, hdecode⟩ := hitems a ha
  exact h w a (distinct_arr_iff.1 hv w hw) hdecode

theorem distinct_of_listAny {v : Json} {vs : List Json} (hv : v.Distinct)
    (hread : Decoder.list Decoder.any v = .ok vs) : ∀ w ∈ vs, w.Distinct := by
  obtain ⟨_, rfl, hitems⟩ := exists_of_list hread
  intro w hw
  obtain ⟨w', hw', hsame⟩ := hitems w hw
  cases hsame
  exact distinct_arr_iff.1 hv w hw'

/-- Lists of any values that were read where there was one. -/
theorem distinct_of_exists_listAny {o : Option (List Json)}
    (h : ∀ vs ∈ o, ∃ v : Json, v.IsShown ∧ Decoder.list Decoder.any v = .ok vs) :
    ∀ vs ∈ o, ∀ w ∈ vs, w.Distinct := by
  intro vs hvs
  obtain ⟨v, hv, hread⟩ := h vs hvs
  exact distinct_of_listAny hv.2 hread

end List

/-! ## Fields that are written -/

section Kept

variable {α β : Type} {shape : Shape} {key : String} {encode : α → Json} {decode : Decoder α}

/-- What is written for a key repeats no key, and the field is read from it as the
given value. -/
structure Kept (shape : Shape) (key : String) (field : Fields β) (written : Option Json) (b : β) :
    Prop where
  distinct : ∀ v ∈ written, v.Distinct
  read {d : Dict Json} : d.get? key = written → field shape (.byKey d) = .ok b

theorem Kept.required {a : α} (h : ReadsBack encode decode a) :
    Kept shape key (Fields.required key decode) (some (encode a)) a where
  distinct := by
    rintro _ ⟨⟩
    exact h.distinct
  read := fun hget => Fields.required_eq_ok_iff.2 ⟨_, hget, h.decode_eq⟩

/-- A field with a default may be left out where there is no more to say. -/
theorem Kept.defaulted {a default : α} {written : Option Json}
    (h : written = none ∧ a = default ∨
      ∃ v : Json, written = some v ∧ v.Distinct ∧ decode v = .ok a) :
    Kept shape key (Fields.defaulted key decode default) written a where
  distinct := by
    rintro w rfl
    rcases h with ⟨hnone, -⟩ | ⟨v, hsome, hv, -⟩
    · cases hnone
    · cases hsome
      exact hv
  read := by
    intro d hget
    rcases h with ⟨rfl, rfl⟩ | ⟨v, rfl, -, hread⟩
    · exact Fields.defaulted_eq_ok_iff.2 (.inl ⟨hget, rfl⟩)
    · exact Fields.defaulted_eq_ok_iff.2 (.inr ⟨v, hget, hread⟩)

/-- A field that may be null or absent from an object is read like one that may be
null or absent anywhere. -/
theorem optional_byKey {d : Dict Json} :
    Fields.optional key decode shape (.byKey d) = Fields.lenient key decode shape (.byKey d) := rfl

theorem nullable_of_shows {o : Option α} (h : ∀ a ∈ o, Shows encode decode a) :
    Decoder.nullable decode (orNull (o.map encode)) = .ok o := by
  have hread := Decoder.nullable_orNull (g := id) fun a ha => ⟨(h a ha).1, (h a ha).2.decode_eq⟩
  rwa [Option.map_id] at hread

/-- A field that is left out where there is no value. -/
theorem Kept.skipped {o : Option α} (h : ∀ a ∈ o, Shows encode decode a) :
    Kept shape key (Fields.optional key decode) (o.map encode) o where
  distinct := by
    intro v hv
    obtain ⟨a, ha, rfl⟩ := Option.map_eq_some_iff.1 hv
    exact (h a ha).2.distinct
  read := by
    intro d hget
    rw [optional_byKey, Fields.lenient_eq_ok_iff, Source.value?_byKey, hget]
    cases o with
    | none => exact .inl ⟨rfl, rfl⟩
    | some a => exact .inr ⟨_, rfl, nullable_of_shows h⟩

/-- A field that is null where there is no value. -/
theorem Kept.shown {o : Option α} (h : ∀ a ∈ o, Shows encode decode a) :
    Kept shape key (Fields.optional key decode) (some (orNull (o.map encode))) o where
  distinct := by
    rintro _ ⟨⟩
    cases o with
    | none => exact .null
    | some a => exact (h a rfl).2.distinct
  read := fun hget =>
    optional_byKey.trans (Fields.lenient_eq_ok_iff.2 (.inr ⟨_, hget, nullable_of_shows h⟩))

/-- A field of any kind that is left out where there is no value. -/
theorem Kept.any {o : Option Json} (h : ∀ v ∈ o, v.IsShown) :
    Kept shape key (Fields.optional key Decoder.any) o o where
  distinct := fun v hv => (h v hv).2
  read := by
    intro d hget
    have hne : o ≠ some .null := by
      rintro rfl
      exact (h _ rfl).1 rfl
    exact optional_byKey.trans (Fields.lenient_any_of_eq hne hget)

theorem shows_text (s : String) : Shows .str Decoder.text s := ⟨by simp, readsBack_text s⟩

theorem shows_int64 (t : Int64) : Shows ofSeconds Decoder.int64 t :=
  ⟨by simp [ofSeconds], readsBack_int64 t⟩

theorem shows_double (x : Binary64) : Shows SideChannel.doubleJson Decoder.double x :=
  ⟨by simp [SideChannel.doubleJson], readsBack_double x⟩

theorem shows_list {as : List α} (h : ∀ a ∈ as, ReadsBack encode decode a) :
    Shows (fun as => .arr (as.map encode)) (Decoder.list decode) as :=
  ⟨by simp, readsBack_list h⟩

theorem shows_listAny {vs : List Json} (h : ∀ v ∈ vs, v.Distinct) :
    Shows .arr (Decoder.list Decoder.any) vs :=
  ⟨by simp, readsBack_listAny h⟩

theorem Kept.text {o : Option String} :
    Kept shape key (Fields.optional key Decoder.text) (o.map .str) o :=
  .skipped fun s _ => shows_text s

end Kept

/-! ## Records that are written -/

section Records

variable {α β : Type} {encode : α → Json} {x y : α} {shape : Shape}
  {members tail : List (String × Option Json)}

/-- A row of fields, side by side with the members that are written for them.  The
row ends where the tail of the members begins. -/
structure KeptRow (shape : Shape) (members tail : List (String × Option Json)) (fields : Fields β)
    (b : β) : Prop where
  subset : ∀ e ∈ tail, e ∈ members
  distinct : ∀ e ∈ members, e ∈ tail ∨ ∀ v ∈ e.2, v.Distinct
  read {d : Dict Json} : (∀ e ∈ members, d.get? e.1 = e.2) → fields shape (.byKey d) = .ok b

section Row

variable {key : String} {field : Fields α} {written : Option Json} {a : α}

/-- The first field of a row. -/
theorem KeptRow.first {f : α → β} (h : Kept shape key field written a) :
    KeptRow shape ((key, written) :: tail) tail (f <$> field) (f a) where
  subset := fun _ he => List.mem_cons_of_mem _ he
  distinct := by
    intro e he
    rcases List.mem_cons.1 he with rfl | he
    · exact .inr h.distinct
    · exact .inl he
  read := fun hget => Fields.map_eq_ok (h.read (hget _ (List.mem_cons_self ..)))

/-- One field more. -/
theorem KeptRow.next {fields : Fields (α → β)} {g : α → β}
    (hrow : KeptRow shape members ((key, written) :: tail) fields g)
    (h : Kept shape key field written a) :
    KeptRow shape members tail (fields <*> field) (g a) where
  subset := fun e he => hrow.subset e (List.mem_cons_of_mem _ he)
  distinct := by
    intro e he
    rcases hrow.distinct e he with he | hdistinct
    · rcases List.mem_cons.1 he with rfl | he
      · exact .inr h.distinct
      · exact .inl he
    · exact .inr hdistinct
  read := fun hget =>
    Fields.seq_eq_ok (hrow.read hget) (h.read (hget _ (hrow.subset _ (List.mem_cons_self ..))))

end Row

/-- The members that have a value have different keys. -/
theorem pairwise_present (hkeys : members.Pairwise fun a b => a.1 ≠ b.1) :
    (members.filterMap fun e => e.2.map (e.1, ·)).Pairwise fun a b => a.1 ≠ b.1 := by
  refine List.Pairwise.filterMap _ ?_ hkeys
  intro a b hne a' ha b' hb
  obtain ⟨_, -, rfl⟩ := Option.map_eq_some_iff.1 ha
  obtain ⟨_, -, rfl⟩ := Option.map_eq_some_iff.1 hb
  exact hne

theorem mem_present {e : String × Json}
    (h : e ∈ members.filterMap fun e => e.2.map (e.1, ·)) : (e.1, some e.2) ∈ members := by
  obtain ⟨⟨key, value⟩, hmem, hvalue⟩ := List.mem_filterMap.1 h
  obtain ⟨v, rfl, rfl⟩ := Option.map_eq_some_iff.1 hvalue
  exact hmem

/-- The value of a member that was written is found. -/
theorem get?_ofPresent_of_mem (hkeys : members.Pairwise fun a b => a.1 ≠ b.1)
    {e : String × Option Json} (he : e ∈ members) :
    (Dict.ofPresent members).get? e.1 = e.2 := by
  rw [Dict.get?_ofPresent hkeys, (Dict.lookup_eq_some_iff_mem hkeys).2 he, Option.join_some]

variable {b : β}

theorem KeptRow.distinct_of_mem {fields : Fields β} (hrow : KeptRow shape members [] fields b)
    {e : String × Json} (he : e ∈ members.filterMap fun e => e.2.map (e.1, ·)) : e.2.Distinct := by
  rcases hrow.distinct _ (mem_present he) with hnil | hdistinct
  · cases hnil
  · exact hdistinct e.2 rfl

/-- **A record reads back** if its fields are kept. -/
theorem ReadsBackAs.of_record {fields : Fields α}
    (hkeys : members.Pairwise fun a b => a.1 ≠ b.1) (hwrite : encode x = objectOf members)
    (hrow : KeptRow shape members [] fields y) :
    ReadsBackAs encode (Decoder.record shape fields) x y where
  distinct := by
    rw [hwrite]
    exact .obj (pairwise_present hkeys) fun e he => hrow.distinct_of_mem he
  decode_eq := by
    rw [hwrite]
    exact Decoder.record_obj_eq_ok_iff.2 (hrow.read fun e he => get?_ofPresent_of_mem hkeys he)

/-- Members with keys of their own and the rest repeat no key. -/
theorem distinct_obj_append {own : List (String × Json)} {keys : List String} {rest : Dict Json}
    (hkeys : own.Pairwise fun a b => a.1 ≠ b.1) (hown : ∀ e ∈ own, e.1 ∈ keys)
    (hdistinct : ∀ e ∈ own, e.2.Distinct) (hrest : RestOf keys rest) :
    (Json.obj (own ++ rest.entries)).Distinct := by
  refine .obj (List.pairwise_append.2 ⟨hkeys, rest.pairwise_ne, ?_⟩) ?_
  · intro e he e' he' hsame
    have hnone := hrest.get?_eq_none e.1 (hown e he)
    rw [hsame, Dict.get?_eq_some_iff.2 he'] at hnone
    cases hnone
  · intro e he
    rcases List.mem_append.1 he with he | he
    · exact hdistinct e he
    · exact distinct_ofDict_iff.1 hrest.distinct e.1 e.2 (Dict.get?_eq_some_iff.2 he)

/-- **A record with a rest reads back** if its fields are kept and none of them is
in the rest. -/
theorem ReadsBackAs.of_openRecord {fields : Fields (Dict Json → α)} {rest : Dict Json}
    {f : Dict Json → α} (hkeys : members.Pairwise fun a b => a.1 ≠ b.1)
    (hshape : ∀ e ∈ members, e.1 ∈ shape.keys)
    (hwrite : encode x = .obj ((members.filterMap fun e => e.2.map (e.1, ·)) ++ rest.entries))
    (hrow : KeptRow shape members [] fields f) (hrest : RestOf shape.keys rest)
    (hread : f rest = y) : ReadsBackAs encode (Decoder.openRecord shape fields) x y where
  distinct := by
    rw [hwrite]
    exact distinct_obj_append (pairwise_present hkeys) (fun e he => hshape _ (mem_present he))
      (fun e he => hrow.distinct_of_mem he) hrest
  decode_eq := by
    have hbase : ∀ key, key ∉ shape.keys → (Dict.ofPresent members).get? key = none := by
      intro key hkey
      have hnone : members.lookup key = none := by
        rw [List.lookup_eq_none_iff]
        intro e he
        simpa using fun hsame : key = e.1 => hkey (hsame ▸ hshape e he)
      rw [Dict.get?_ofPresent hkeys, hnone]
      rfl
    have hmap : Dict.ofList ((members.filterMap fun e => e.2.map (e.1, ·)) ++ rest.entries) =
        (Dict.ofPresent members).overlay rest := Dict.ofList_append_entries _ rest
    rw [hwrite, Decoder.openRecord_eq_ok_iff]
    refine ⟨_, f, rfl, ?_, ?_⟩
    · rw [hmap]
      refine hrow.read fun e he => ?_
      have hnone := hrest.get?_eq_none e.1 (hshape e he)
      rw [Dict.get?_overlay_of_eq_none hnone, get?_ofPresent_of_mem hkeys he]
    · rw [hmap, Dict.filterKeys_overlay hbase hrest.get?_eq_none, hread]

end Records

/-! ## Records that were read -/

/-- Whatever stands for a key repeats no key. -/
def Source.Distinct (source : Source) : Prop :=
  ∀ shape key v, source.value? shape key = some v → v.Distinct

namespace Decoder

variable {α : Type} {shape : Shape} {v : Json} {a : α}

theorem source_distinct_of_obj {ms : List (String × Json)} (h : (Json.obj ms).Distinct) :
    (Source.byKey (.ofList ms)).Distinct :=
  fun _ key v hv => distinct_ofDict_iff.1 h.ofList key v hv

/-- The fields of a record that was read were read from values that repeat no
key. -/
theorem exists_source_of_distinct {fields : Fields α} (hv : v.Distinct)
    (h : record shape fields v = .ok a) :
    ∃ source : Source, source.Distinct ∧ fields shape source = .ok a := by
  cases v with
  | obj ms => exact ⟨_, source_distinct_of_obj hv, record_obj_eq_ok_iff.1 h⟩
  | arr vs =>
    rw [record, placed] at h
    split at h
    · cases h
    next b hb =>
      split at h
      · cases h
      · cases h
        refine ⟨_, ?_, settle_eq_ok_iff.1 hb⟩
        intro shape key w hw
        exact distinct_arr_iff.1 hv w (List.mem_of_getElem? hw)
  | _ => cases h

/-- The same for a record that collects what it does not know, and the rest has
none of its fields in it. -/
theorem exists_rest_of_distinct {fields : Fields (Dict Json → α)} (hv : v.Distinct)
    (h : openRecord shape fields v = .ok a) :
    ∃ (source : Source) (f : Dict Json → α) (rest : Dict Json), source.Distinct ∧
      fields shape source = .ok f ∧ RestOf shape.keys rest ∧ f rest = a := by
  obtain ⟨ms, f, rfl, hf, rfl⟩ := openRecord_eq_ok_iff.1 h
  exact ⟨_, f, _, source_distinct_of_obj hv, hf, .filterKeys hv.ofList, rfl⟩

end Decoder

namespace Fields

variable {α : Type} {shape : Shape} {source : Source} {key : String} {encode : α → Json}
  {decode : Decoder α}

/-! ### One field -/

theorem exists_of_required {a : α} (hsource : source.Distinct)
    (h : required key decode shape source = .ok a) : ∃ v, v.Distinct ∧ decode v = .ok a := by
  obtain ⟨v, hv, hread⟩ := required_eq_ok_iff.1 h
  exact ⟨v, hsource shape key v hv, hread⟩

theorem exists_of_nullable {v : Json} {o : Option α} (hv : v.Distinct)
    (h : Decoder.nullable decode v = .ok o) : ∀ a ∈ o, ∃ v, v.IsShown ∧ decode v = .ok a := by
  rintro a rfl
  rcases Decoder.nullable_eq_ok_iff.1 h with ⟨-, hnone⟩ | ⟨hne, b, hb, hsome⟩
  · cases hnone
  · cases hsome
    exact ⟨v, ⟨hne, hv⟩, hb⟩

theorem exists_of_lenient {o : Option α} (hsource : source.Distinct)
    (h : lenient key decode shape source = .ok o) : ∀ a ∈ o, ∃ v, v.IsShown ∧ decode v = .ok a := by
  rcases lenient_eq_ok_iff.1 h with ⟨-, rfl⟩ | ⟨v, hv, hread⟩
  · exact nofun
  · exact exists_of_nullable (hsource shape key v hv) hread

theorem exists_of_presence {o : Option (Option α)} (hsource : source.Distinct)
    (h : presence key decode shape source = .ok o) :
    ∀ a ∈ o.join, ∃ v, v.IsShown ∧ decode v = .ok a := by
  rcases presence_eq_ok_iff.1 h with ⟨-, rfl⟩ | ⟨v, o', hv, hread, rfl⟩
  · exact nofun
  · exact exists_of_nullable (hsource shape key v hv) hread

/-- An optional field that was read from an array was there. -/
theorem exists_of_optional {o : Option α} (hsource : source.Distinct)
    (h : optional key decode shape source = .ok o) :
    ∀ a ∈ o, ∃ v, v.IsShown ∧ decode v = .ok a := by
  cases source with
  | byKey d => exact exists_of_lenient hsource (optional_byKey.symm.trans h)
  | byPlace items =>
    rw [optional, field] at h
    split at h
    next v hv =>
      exact exists_of_nullable (hsource shape key v hv) (Except.mapError_eq_ok_iff.1 h)
    · cases h

/-! ### Fields that take any value -/

theorem isShown_of_nullable_any {o : Option Json}
    (h : ∀ v ∈ o, ∃ w : Json, w.IsShown ∧ Decoder.any w = .ok v) : ∀ v ∈ o, v.IsShown := by
  intro v hv
  obtain ⟨w, hw, hread⟩ := h v hv
  cases hread
  exact hw

theorem isShown_of_lenient {o : Option Json} (hsource : source.Distinct)
    (h : lenient key Decoder.any shape source = .ok o) : ∀ v ∈ o, v.IsShown :=
  isShown_of_nullable_any (exists_of_lenient hsource h)

theorem isShown_of_optional {o : Option Json} (hsource : source.Distinct)
    (h : optional key Decoder.any shape source = .ok o) : ∀ v ∈ o, v.IsShown :=
  isShown_of_nullable_any (exists_of_optional hsource h)

end Fields

end CanonicalReply.Json
