import CanonicalReply.Json.RecordReader
import CanonicalReply.Proofs.JsonText

/-!
# Reading records from written text

A reader of records decodes while it reads, so that a whole text is never a value
first.  From a text that was written the record comes out nevertheless, field by
field: each field has to read the text of its own value only.

* `readScalar_append`: a field that is a string, a truth value or an integer.
* `readListOf_append`: a field that is a list, item by item.
* `RecordReader.Takes`: what a reader has in the making before and after members.
* `RecordReader.read_of_takes`, `RecordReader.parse_of_takes`: **a written record is
  read back**, if its members can be taken one after the other.
-/

namespace CanonicalReply.Json

variable {σ α β : Type} {depth : Nat}

/-- A field of a simple type is read as far as its value can be decoded. -/
theorem readScalar_append (wanted : String) {decode : Decoder β} {v : Json} {b : β}
    (hexact : Exact 0 v) (hdecode : decode v = .ok b) {rest : List Char} (hrest : Stops rest) :
    readScalar wanted decode (v.chars ++ rest) = .ok (b, rest) := by
  have hsteps : v.chars.length < stepLimit (v.chars ++ rest) := by
    rw [stepLimit, List.length_append]
    omega
  have hread := hexact.readsText _ rest hsteps hrest
  obtain ⟨c, cs, hcons, hspace, -⟩ := hexact.exists_chars_eq_cons
  rw [hcons, List.cons_append] at hread ⊢
  rw [readScalar, skipSpace_cons hspace]
  split
  -- A list or an object would be too deep.
  case h_1 heq =>
    cases heq
    cases hread
  case h_2 heq =>
    cases heq
    cases hread
  case h_3 => simp only [hread, hdecode]

/-- A field that is set to such a value. -/
theorem map_readScalar_append {wanted : String} {decode : Decoder β} {v : Json} {b : β}
    (hexact : Exact 0 v) (hdecode : decode v = .ok b) (set : β → σ) {rest : List Char}
    (hrest : Stops rest) :
    ((readScalar wanted decode (v.chars ++ rest)).map fun r => (set r.1, r.2)) =
      .ok (set b, rest) := by
  rw [readScalar_append wanted hexact hdecode hrest]
  rfl

/-! ## Lists of items -/

section Lists

variable {reader : List Char → Reading α}

/-- Items are read from the texts of values: each text begins like a value, and the
reader takes it up to its end. -/
inductive ReadsItems (reader : List Char → Reading α) : List Json → List α → Prop
  | nil : ReadsItems reader [] []
  | cons {v : Json} {a : α} {c : Char} {cs : List Char} {vs : List Json} {as : List α}
      (hchars : v.chars = c :: cs) (hspace : isSpace c = false) (hclose : c ≠ ']')
      (hread : ∀ rest, Stops rest → reader (v.chars ++ rest) = .ok (a, rest))
      (hlater : ReadsItems reader vs as) : ReadsItems reader (v :: vs) (a :: as)

theorem readItemsWith_cons {steps : Nat} {first : Bool} {c : Char} {cs s rest : List Char} {a : α}
    (hspace : isSpace c = false) (hclose : c ≠ ']') (hstart : itemStart first (c :: cs) = .ok s)
    (hread : reader s = .ok (a, rest)) :
    readItemsWith reader (steps + 1) first (c :: cs) =
      (readItemsWith reader steps false rest).map fun r => (a :: r.1, r.2) := by
  rw [readItemsWith, skipSpace_cons hspace]
  split
  case h_1 heq => cases heq
  case h_2 heq =>
    cases heq
    exact absurd rfl hclose
  case h_3 => simp only [hstart, hread]

theorem ReadsItems.readItemsWith {vs : List Json} {as : List α} (h : ReadsItems reader vs as)
    (first : Bool) {steps : Nat} (hsteps : vs.length < steps) (rest : List Char) :
    readItemsWith reader steps first (itemsText first vs ++ rest) = .ok (as, rest) := by
  induction h generalizing first steps with
  | nil =>
    cases steps with
    | zero => cases hsteps
    | succ steps => rfl
  | @cons v a c cs vs as hchars hspace hclose hread _ ih =>
    cases steps with
    | zero => cases hsteps
    | succ steps =>
      have hitem := hread _ (stops_itemsText vs rest)
      have hlater := ih false (Nat.lt_of_succ_lt_succ hsteps)
      have hstart := itemStart_separator hspace hclose first (cs ++ (itemsText false vs ++ rest))
      rw [hchars, List.cons_append] at hitem
      rw [itemsText_cons, List.append_assoc, List.append_assoc, hchars, List.cons_append]
      have hstep : Json.readItemsWith reader (steps + 1) first
            (separator first ++ c :: (cs ++ (itemsText false vs ++ rest))) =
          (Json.readItemsWith reader steps false (itemsText false vs ++ rest)).map
            fun r => (a :: r.1, r.2) := by
        cases first with
        | true => exact readItemsWith_cons hspace hclose hstart hitem
        | false => exact readItemsWith_cons rfl (by decide) hstart hitem
      rw [hstep, hlater, Except.map]

theorem length_lt_length_itemsText (first : Bool) (vs : List Json) (hvs : ∀ v ∈ vs, v.chars ≠ []) :
    vs.length < (itemsText first vs).length := by
  induction vs generalizing first with
  | nil => exact Nat.zero_lt_one
  | cons v vs ih =>
    obtain ⟨hv, hlater⟩ := List.forall_mem_cons.1 hvs
    have hpos : 0 < v.chars.length := List.length_pos_iff.2 hv
    have hshorter := ih false hlater
    rw [itemsText_cons, List.length_append, List.length_append, List.length_cons]
    omega

/-- **A written list is read back**, if its items are. -/
theorem readListOf_append {reader : Nat → List Char → Reading α} {vs : List Json} {as : List α}
    (h : ReadsItems (reader depth) vs as) (rest : List Char) :
    readListOf reader (depth + 1) ((Json.arr vs).chars ++ rest) = .ok (as, rest) := by
  have hnonempty : ∀ v ∈ vs, v.chars ≠ [] := by
    intro v hv
    induction h with
    | nil => cases hv
    | cons hchars _ _ _ _ ih =>
      rcases List.mem_cons.1 hv with rfl | hv
      · simp [hchars]
      · exact ih hv
  have hlength := length_lt_length_itemsText true vs hnonempty
  rw [chars, ← itemsText_true, List.cons_append, readListOf, skipSpace_cons rfl]
  refine h.readItemsWith true ?_ rest
  rw [List.length_append]
  omega

end Lists

/-! ## Records -/

namespace RecordReader

variable (r : RecordReader σ α)

/-- A reader takes members one after the other, at the given depth: each has a field
that is not set yet and reads the text of its value. -/
inductive Takes (depth : Nat) : σ → List (String × Json) → σ → Prop
  | nil (draft : σ) : Takes depth draft [] draft
  | cons {draft mid last : σ} {k : String} {v : Json} {es : List (String × Json)}
      {field : FieldReader σ} (hfield : r.fields.find? (·.key = k) = some field)
      (hset : field.isSet draft = false)
      (hread : ∀ rest, Stops rest → field.read draft depth (v.chars ++ rest) = .ok (mid, rest))
      (hlater : Takes depth mid es last) : Takes depth draft ((k, v) :: es) last

variable {r}

theorem readMembers_cons {draft mid : σ} {steps : Nat} {first : Bool} {c : Char}
    {cs s rest : List Char} {k : String} {field : FieldReader σ} (hspace : isSpace c = false)
    (hclose : c ≠ '\x7d')
    (hstart : keyStart first (c :: cs) = .ok (k.toList.flatMap escapeChar ++ '"' :: ':' :: s))
    (hfield : r.fields.find? (·.key = k) = some field) (hset : field.isSet draft = false)
    (hread : field.read draft depth s = .ok (mid, rest)) :
    r.readMembers depth (steps + 1) first draft (c :: cs) =
      r.readMembers depth steps false mid rest := by
  have hcolon : colonEnd (':' :: s) = .ok s := rfl
  rw [readMembers, skipSpace_cons hspace]
  split
  case h_1 heq => cases heq
  case h_2 heq =>
    cases heq
    exact absurd rfl hclose
  case h_3 =>
    simp only [hstart, readString_append, readMember, hfield, hset, hcolon, hread,
      Bool.false_eq_true, if_false]

/-- The members that a reader takes are read from their text. -/
theorem Takes.readMembers {draft last : σ} {es : List (String × Json)}
    (h : r.Takes depth draft es last) (first : Bool) {steps : Nat} (hsteps : es.length < steps)
    (rest : List Char) :
    r.readMembers depth steps first draft (membersText first es ++ rest) =
      r.conclude .missingField last rest := by
  induction h generalizing first steps with
  | nil draft =>
    cases steps with
    | zero => cases hsteps
    | succ steps => rfl
  | @cons draft mid last k v es field hfield hset hread _ ih =>
    cases steps with
    | zero => cases hsteps
    | succ steps =>
      have hvalue := hread _ (stops_membersText es rest)
      have hstart := keyStart_separator first (k.toList.flatMap escapeChar ++
        '"' :: ':' :: (v.chars ++ (membersText false es ++ rest)))
      rw [← ih false (Nat.lt_of_succ_lt_succ hsteps)]
      simp only [membersText_cons, List.append_assoc, List.cons_append, stringChars_append]
      cases first with
      | true => exact readMembers_cons rfl (by decide) hstart hfield hset hvalue
      | false => exact readMembers_cons rfl (by decide) hstart hfield hset hvalue

theorem length_lt_length_membersText (first : Bool) (es : List (String × Json)) :
    es.length < (membersText first es).length := by
  induction es generalizing first with
  | nil => exact Nat.zero_lt_one
  | cons e es ih =>
    have hlater := ih false
    rw [membersText_cons, List.length_append, List.length_append, List.length_cons,
      List.length_cons, List.length_append]
    omega

/-- **A written record is read back** from the text in front of anything else, if its
members can be taken one after the other. -/
theorem read_of_takes {es : List (String × Json)} {draft : σ} {a : α}
    (h : r.Takes depth r.start es draft) (hfinish : r.finish .missingField draft = .ok a)
    (rest : List Char) : r.read (depth + 1) ((Json.obj es).chars ++ rest) = .ok (a, rest) := by
  have hlength := length_lt_length_membersText true es
  have hsteps : es.length < (membersText true es ++ rest).length + 1 := by
    rw [List.length_append]
    omega
  have hmembers := h.readMembers true hsteps rest
  rw [conclude, hfinish] at hmembers
  rw [chars, ← membersText_true, List.cons_append, read, skipSpace_cons rfl]
  exact hmembers

/-- A text that is nothing but a written record is read. -/
theorem parse_of_takes {es : List (String × Json)} {draft : σ} {a : α}
    (h : r.Takes (depthLimit - 1) r.start es draft)
    (hfinish : r.finish .missingField draft = .ok a) : r.parse (Json.obj es).compact = .ok a := by
  have hread := read_of_takes h hfinish []
  rw [List.append_nil] at hread
  rw [parse, compact, String.toList_ofList]
  exact readWhole_eq_ok hread

end RecordReader

end CanonicalReply.Json
