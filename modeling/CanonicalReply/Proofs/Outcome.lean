import CanonicalReply.Provider.Choice

/-!
# When a computation succeeds, and when it fails

A reading of a payload is put together from readings of its parts.  The facts
here say what the success of the whole tells about the parts, and where its
failure comes from.

* `Except.map_eq_ok_iff`, `Except.mapError_eq_ok_iff` and their twins for
  errors: changing the result or the error of a computation.
* `eachAt_eq_ok_iff`: a list is read exactly when every entry is, each at its
  own position.
* `eachAt_map`: a reader that makes something of what another one reads.
* `exists_eachAt_of_eachAt`: a reader that accepts what another one accepts
  does so for lists.
* `exists_of_eachAt_eq_error`: the error of a list is the error of an entry.
-/

namespace CanonicalReply

/-! ## Results and errors that are changed -/

section Except

variable {ε ε' α β : Type}

theorem Except.map_eq_ok_iff {x : Except ε α} {f : α → β} {b : β} :
    x.map f = .ok b ↔ ∃ a, x = .ok a ∧ f a = b := by
  cases x <;> simp [Except.map]

theorem Except.map_eq_error_iff {x : Except ε α} {f : α → β} {e : ε} :
    x.map f = .error e ↔ x = .error e := by
  cases x <;> simp [Except.map]

theorem Except.mapError_eq_ok_iff {x : Except ε α} {f : ε → ε'} {a : α} :
    x.mapError f = .ok a ↔ x = .ok a := by
  cases x with
  | error e =>
    show Except.error (f e) = .ok a ↔ _
    simp
  | ok b =>
    show Except.ok b = .ok a ↔ _
    simp

theorem Except.mapError_eq_error_iff {x : Except ε α} {f : ε → ε'} {e' : ε'} :
    x.mapError f = .error e' ↔ ∃ e, x = .error e ∧ f e = e' := by
  cases x with
  | error e =>
    show Except.error (f e) = .error e' ↔ _
    simp
  | ok b =>
    show Except.ok b = .error e' ↔ _
    simp

theorem Except.toOption_eq_some_iff {x : Except ε α} {a : α} : x.toOption = some a ↔ x = .ok a := by
  cases x <;> simp [Except.toOption]

end Except

/-- A supply for fixed inputs. -/
def Supply.plain : Supply := ⟨1, fun _ => ⟨7⟩⟩

namespace Failure

variable {α : Type}

/-- What is decoded is what the decoder gives. -/
theorem decoding_eq_ok_iff {what : Subject} {decode : Json.Decoder α} {v : Json} {a : α} :
    decoding what decode v = .ok a ↔ decode v = .ok a := by
  rw [decoding, Except.mapError_eq_ok_iff]

/-- A part that cannot be decoded is named in the failure. -/
theorem exists_of_decoding_eq_error {what : Subject} {decode : Json.Decoder α} {v : Json}
    {e : Failure} (h : decoding what decode v = .error e) :
    ∃ fault, e = .undecodable what fault := by
  rw [decoding, Except.mapError_eq_error_iff] at h
  obtain ⟨fault, -, rfl⟩ := h
  exact ⟨_, rfl⟩

end Failure

/-! ## Lists that are read entry by entry -/

namespace Provider.Message

variable {α : Type} {f : Nat → Json → Except Failure α}

/-- A list is read exactly when every entry is, each at its own position. -/
theorem eachAt_eq_ok_iff {start : Nat} {vs : List Json} {as : List α} :
    eachAt f start vs = .ok as ↔
      as.length = vs.length ∧
        ∀ k v a, vs[k]? = some v → as[k]? = some a → f (start + k) v = .ok a := by
  induction vs generalizing start as with
  | nil => cases as <;> simp [eachAt]
  | cons v rest ih =>
    rw [eachAt]
    cases hv : f start v with
    | error e =>
      simp only [reduceCtorEq, false_iff, not_and]
      intro hlen hall
      cases as with
      | nil => simp at hlen
      | cons a as =>
        have h0 := hall 0 v a rfl rfl
        rw [Nat.add_zero, hv] at h0
        cases h0
    | ok a =>
      simp only [Except.map_eq_ok_iff, ih]
      constructor
      · rintro ⟨bs, ⟨hlen, hall⟩, rfl⟩
        refine ⟨by simp [hlen], ?_⟩
        intro k w b hw hb
        cases k with
        | zero =>
          simp only [List.getElem?_cons_zero, Option.some.injEq] at hw hb
          rw [← hw, ← hb, Nat.add_zero, hv]
        | succ k =>
          have := hall k w b (by simpa using hw) (by simpa using hb)
          rwa [show start + 1 + k = start + (k + 1) by omega] at this
      · rintro ⟨hlen, hall⟩
        cases as with
        | nil => simp at hlen
        | cons b bs =>
          have h0 := hall 0 v b rfl rfl
          rw [Nat.add_zero, hv, Except.ok.injEq] at h0
          refine ⟨bs, ⟨by simpa using hlen, ?_⟩, by rw [h0]⟩
          intro k w c hw hc
          have := hall (k + 1) w c (by simpa using hw) (by simpa using hc)
          rwa [show start + (k + 1) = start + 1 + k by omega] at this

theorem length_of_eachAt {start : Nat} {vs : List Json} {as : List α}
    (h : eachAt f start vs = .ok as) : as.length = vs.length :=
  (eachAt_eq_ok_iff.1 h).1

/-- What is made of every result is made of the whole list. -/
theorem eachAt_map {β : Type} (g : α → β) (start : Nat) (vs : List Json) :
    eachAt (fun i v => (f i v).map g) start vs = (eachAt f start vs).map (List.map g) := by
  induction vs generalizing start with
  | nil => rfl
  | cons v rest ih =>
    rw [eachAt, eachAt]
    cases f start v with
    | error e => rfl
    | ok a =>
      simp only [ih]
      cases eachAt f (start + 1) rest <;> rfl

/-- Every result comes from the entry at its position. -/
theorem exists_of_eachAt {start k : Nat} {vs : List Json} {as : List α} {a : α}
    (h : eachAt f start vs = .ok as) (ha : as[k]? = some a) :
    ∃ v, vs[k]? = some v ∧ f (start + k) v = .ok a := by
  obtain ⟨hlen, hall⟩ := eachAt_eq_ok_iff.1 h
  obtain ⟨hk, -⟩ := List.getElem?_eq_some_iff.1 ha
  have hv : vs[k]? = some vs[k] := List.getElem?_eq_getElem (hlen ▸ hk)
  exact ⟨vs[k], hv, hall k _ a hv ha⟩

/-- A reader that succeeds wherever another one does reads every list that the
other one reads. -/
theorem exists_eachAt_of_eachAt {β : Type} {g : Nat → Json → Except Failure β}
    (hfg : ∀ i v a, f i v = .ok a → ∃ b, g i v = .ok b) {start : Nat} {vs : List Json}
    {as : List α} (h : eachAt f start vs = .ok as) : ∃ bs, eachAt g start vs = .ok bs := by
  induction vs generalizing start as with
  | nil => exact ⟨[], rfl⟩
  | cons v rest ih =>
    rw [eachAt] at h
    cases hv : f start v with
    | error e =>
      rw [hv] at h
      cases h
    | ok a =>
      rw [hv] at h
      obtain ⟨as', has', -⟩ := Except.map_eq_ok_iff.1 h
      obtain ⟨b, hb⟩ := hfg start v a hv
      obtain ⟨bs, hbs⟩ := ih has'
      exact ⟨b :: bs, by rw [eachAt, hb, hbs]; rfl⟩

/-- Results of two readers at one position come from one entry. -/
theorem exists_of_eachAt_eachAt {β : Type} {g : Nat → Json → Except Failure β} {start k : Nat}
    {vs : List Json} {as : List α} {bs : List β} {a : α} {b : β} (hf : eachAt f start vs = .ok as)
    (hg : eachAt g start vs = .ok bs) (ha : as[k]? = some a) (hb : bs[k]? = some b) :
    ∃ v, vs[k]? = some v ∧ f (start + k) v = .ok a ∧ g (start + k) v = .ok b := by
  obtain ⟨v, hv, hfv⟩ := exists_of_eachAt hf ha
  exact ⟨v, hv, hfv, (eachAt_eq_ok_iff.1 hg).2 k v b hv hb⟩

/-- The error of a list is the error of one of its entries. -/
theorem exists_of_eachAt_eq_error {start : Nat} {vs : List Json} {e : Failure}
    (h : eachAt f start vs = .error e) : ∃ k, ∃ v ∈ vs, f k v = .error e := by
  induction vs generalizing start with
  | nil => simp [eachAt] at h
  | cons v rest ih =>
    rw [eachAt] at h
    cases hv : f start v with
    | error e' =>
      rw [hv] at h
      simp only [Except.error.injEq] at h
      exact ⟨start, v, List.mem_cons_self .., h ▸ hv⟩
    | ok a =>
      rw [hv] at h
      obtain ⟨k, w, hw, hf⟩ := ih (Except.map_eq_error_iff.1 h)
      exact ⟨k, w, List.mem_cons_of_mem _ hw, hf⟩

end Provider.Message

end CanonicalReply
