import CanonicalReply.Dict.Lemmas
import CanonicalReply.Json.Reader
import CanonicalReply.Proofs.Outcome

/-!
# Values that repeat no key

The members of an object are a list, which could name a key twice.  A text that
names one twice is read as if only the last member were there, so no value that was
read does; and values that are put together from such values by way of maps do not
either.

* `Json.Distinct`: in no object of a value, however deep, a key occurs twice.
* `Json.distinct_ofDict_iff`: for a map that is up to its values.
* `Json.RestOf`: what is left of an object beside the members that have fields.
* `Json.distinct_of_parse`: **a value that was read from a text repeats no key.**
-/

namespace CanonicalReply.Json

/-! ## Keys that are different -/

/-- In no object of a value, however deep, a key occurs twice. -/
inductive Distinct : Json → Prop
  | null : Distinct .null
  | bool (b : Bool) : Distinct (.bool b)
  | num (n : Number) : Distinct (.num n)
  | str (s : String) : Distinct (.str s)
  | arr {items : List Json} : (∀ v ∈ items, Distinct v) → Distinct (.arr items)
  | obj {members : List (String × Json)} : members.Pairwise (fun a b => a.1 ≠ b.1) →
      (∀ e ∈ members, Distinct e.2) → Distinct (.obj members)

theorem distinct_arr_iff {items : List Json} :
    (Json.arr items).Distinct ↔ ∀ v ∈ items, v.Distinct :=
  ⟨fun h => by cases h with | arr h => exact h, .arr⟩

theorem distinct_obj_iff {members : List (String × Json)} :
    (Json.obj members).Distinct ↔
      members.Pairwise (fun a b => a.1 ≠ b.1) ∧ ∀ e ∈ members, e.2.Distinct :=
  ⟨fun h => by cases h with | obj hkeys h => exact ⟨hkeys, h⟩, fun h => .obj h.1 h.2⟩

/-- The keys of a map are different; its values have to see to it themselves. -/
theorem distinct_ofDict_iff {d : Dict Json} :
    (ofDict d).Distinct ↔ ∀ key v, d.get? key = some v → v.Distinct := by
  rw [ofDict, distinct_obj_iff]
  constructor
  · rintro ⟨-, h⟩ key v hv
    exact h _ (Dict.get?_eq_some_iff.1 hv)
  · intro h
    exact ⟨d.pairwise_ne, fun e he => h e.1 e.2 (Dict.get?_eq_some_iff.2 he)⟩

/-- Of members with one key the last counts, so a map has none twice. -/
theorem distinct_ofList {members : List (String × Json)} (h : ∀ e ∈ members, e.2.Distinct) :
    (ofDict (.ofList members)).Distinct :=
  distinct_ofDict_iff.2 fun _ _ hv => h _ (Dict.mem_of_get?_ofList hv)

theorem Distinct.ofList {members : List (String × Json)} (h : (Json.obj members).Distinct) :
    (ofDict (.ofList members)).Distinct :=
  distinct_ofList (distinct_obj_iff.1 h).2

theorem Distinct.filterKeys {d : Dict Json} (h : (ofDict d).Distinct) (p : String → Bool) :
    (ofDict (d.filterKeys p)).Distinct := by
  rw [distinct_ofDict_iff] at h ⊢
  intro key v hv
  rw [Dict.get?_filterKeys] at hv
  split at hv
  · exact h key v hv
  · cases hv

theorem Distinct.overlay {base later : Dict Json} (hbase : (ofDict base).Distinct)
    (hlater : (ofDict later).Distinct) : (ofDict (base.overlay later)).Distinct := by
  rw [distinct_ofDict_iff] at hbase hlater ⊢
  intro key v hv
  rw [Dict.get?_overlay] at hv
  rcases Option.or_eq_some_iff.1 hv with hv | ⟨-, hv⟩
  · exact hlater key v hv
  · exact hbase key v hv

/-! ## The rest of an object -/

/-- What is left of an object when the members with keys of their own are taken
away. -/
structure RestOf (keys : List String) (rest : Dict Json) : Prop where
  get?_eq_none : ∀ key ∈ keys, rest.get? key = none
  distinct : (ofDict rest).Distinct

theorem RestOf.filterKeys {keys : List String} {d : Dict Json} (h : (ofDict d).Distinct) :
    RestOf keys (d.filterKeys fun k => !keys.contains k) := by
  refine ⟨?_, h.filterKeys _⟩
  intro key hkey
  rw [Dict.get?_filterKeys, if_neg (by simpa using hkey)]

theorem RestOf.overlay {keys : List String} {base later : Dict Json} (hbase : RestOf keys base)
    (hlater : RestOf keys later) : RestOf keys (base.overlay later) := by
  refine ⟨?_, hbase.distinct.overlay hlater.distinct⟩
  intro key hkey
  rw [Dict.get?_overlay, hlater.get?_eq_none key hkey, hbase.get?_eq_none key hkey, Option.or_none]

theorem RestOf.empty (keys : List String) : RestOf keys .empty :=
  ⟨fun _ _ => rfl, .obj .nil nofun⟩

/-- A value of any kind that shows where it is written. -/
def IsShown (v : Json) : Prop := v ≠ .null ∧ v.Distinct

/-! ## Values that were read -/

/-- **The readers.**  They call each other with one step less, so all that they give
is known together, by induction on the steps. -/
theorem distinct_of_read (steps : Nat) :
    (∀ depth s v rest, readValue steps depth s = .ok (v, rest) → v.Distinct) ∧
      (∀ depth first s vs rest, readItems steps depth first s = .ok (vs, rest) →
        ∀ v ∈ vs, v.Distinct) ∧
      ∀ depth first s es rest, readMembers steps depth first s = .ok (es, rest) →
        ∀ e ∈ es, e.2.Distinct := by
  induction steps with
  | zero => exact ⟨nofun, nofun, nofun⟩
  | succ steps ih =>
    obtain ⟨hvalue, hitems, hmembers⟩ := ih
    refine ⟨?value, ?items, ?members⟩
    case value =>
      intro depth s v rest h
      rw [readValue] at h
      split at h
      case h_1 => cases h
      case h_2 | h_3 | h_4 | h_5 | h_6 =>
        obtain ⟨_, -, ⟨⟩⟩ := Except.map_eq_ok_iff.1 h
        constructor
      case h_7 =>
        split at h
        · cases h
        · obtain ⟨⟨vs, _⟩, hvs, ⟨⟩⟩ := Except.map_eq_ok_iff.1 h
          exact .arr (hitems _ _ _ _ _ hvs)
      case h_8 =>
        split at h
        · cases h
        · obtain ⟨⟨es, _⟩, hes, ⟨⟩⟩ := Except.map_eq_ok_iff.1 h
          exact distinct_ofList (hmembers _ _ _ _ _ hes)
      case h_9 =>
        split at h
        · obtain ⟨_, -, ⟨⟩⟩ := Except.map_eq_ok_iff.1 h
          constructor
        · cases h
    case items =>
      intro depth first s vs rest h
      rw [readItems] at h
      split at h
      · cases h
      · cases h
        exact nofun
      · split at h
        · cases h
        · split at h
          · cases h
          next v _ hv =>
            obtain ⟨⟨ws, _⟩, hws, ⟨⟩⟩ := Except.map_eq_ok_iff.1 h
            exact List.forall_mem_cons.2 ⟨hvalue _ _ _ _ hv, hitems _ _ _ _ _ hws⟩
    case members =>
      intro depth first s es rest h
      rw [readMembers] at h
      split at h
      · cases h
      · cases h
        exact nofun
      · split at h
        · cases h
        · split at h
          · cases h
          · split at h
            · cases h
            · split at h
              · cases h
              next v _ hv =>
                obtain ⟨⟨fs, _⟩, hfs, ⟨⟩⟩ := Except.map_eq_ok_iff.1 h
                exact List.forall_mem_cons.2 ⟨hvalue _ _ _ _ hv, hmembers _ _ _ _ _ hfs⟩

/-- **A value that was read from a text repeats no key.** -/
theorem distinct_of_parse {text : String} {v : Json} (h : parse text = .ok v) : v.Distinct := by
  rw [parse, readWhole] at h
  have hmarked := Except.mapError_eq_ok_iff.1 h
  split at hmarked
  · cases hmarked
  next a rest hread =>
    split at hmarked
    · cases hmarked
      exact (distinct_of_read _).1 _ _ _ _ hread
    · cases hmarked

end CanonicalReply.Json
