import CanonicalReply.Dict

/-!
# Laws of maps

Look-up is the view of a map: what each operation does is said by what is found afterwards, and
look-up tells all there is to know (`Dict.ext_get?`). So the laws of overlays follow from those of
optional values.
-/

namespace CanonicalReply.Dict

universe u v

variable {α : Type u} {β : Type v}

/-! ## Look-up in a list of entries -/

/-- Look-up asks the first entry first. -/
theorem lookup_cons_eq_ite (k : String) (e : String × α) (l : List (String × α)) :
    (e :: l).lookup k = if k = e.1 then some e.2 else l.lookup k := by
  obtain ⟨key, a⟩ := e
  by_cases h : k = key
  · simp [h]
  · have hne : (k == key) = false := by simpa using h
    simp [List.lookup_cons, h, hne]

/-- A key below all keys of a list is not in it. -/
theorem lookup_eq_none_of_lt {k : String} {l : List (String × α)} (h : ∀ e ∈ l, k < e.1) :
    l.lookup k = none := by
  rw [List.lookup_eq_none_iff]
  intro e he
  simpa using (Std.ne_of_lt (h e he))

/-- An inserted entry is found, and the others as before. -/
theorem lookup_insertEntry (k j : String) (a : α) (l : List (String × α)) :
    (insertEntry k a l).lookup j = if j = k then some a else l.lookup j := by
  induction l with
  | nil => simp [insertEntry, lookup_cons_eq_ite]
  | cons e rest ih =>
    obtain ⟨k', a'⟩ := e
    simp only [insertEntry]
    split
    next => simp [lookup_cons_eq_ite]
    next =>
      split
      next heq => subst heq; by_cases hj : j = k <;> simp [hj, lookup_cons_eq_ite]
      next hne =>
        rw [lookup_cons_eq_ite, lookup_cons_eq_ite, ih]
        by_cases hj : j = k
        · subst hj; simp [hne]
        · simp [hj]

/-- Entries are kept or dropped by their keys. -/
theorem lookup_filter (p : String → Bool) (l : List (String × α)) (k : String) :
    (l.filter fun e => p e.1).lookup k = if p k then l.lookup k else none := by
  induction l with
  | nil => simp
  | cons e rest ih =>
    rw [lookup_cons_eq_ite]
    by_cases hp : p e.1
    · rw [List.filter_cons_of_pos (by exact hp), lookup_cons_eq_ite, ih]
      by_cases hk : k = e.1
      · subst hk; simp [hp]
      · simp [hk]
    · rw [List.filter_cons_of_neg (by exact hp), ih]
      by_cases hk : k = e.1
      · subst hk; simp [hp]
      · simp [hk]

/-- Values are changed, each as its key says. -/
theorem lookup_map (f : String → α → β) (l : List (String × α)) (k : String) :
    (l.map fun e => (e.1, f e.1 e.2)).lookup k = (l.lookup k).map (f k) := by
  induction l with
  | nil => rfl
  | cons e rest ih =>
    rw [List.map_cons, lookup_cons_eq_ite, lookup_cons_eq_ite, ih]
    by_cases hk : k = e.1
    · subst hk
      simp
    · simp [hk]

/-- In a list of entries with different keys what is found is an entry, and each entry is found. -/
theorem lookup_eq_some_iff_mem {l : List (String × α)} (hl : l.Pairwise (fun a b => a.1 ≠ b.1))
    {k : String} {a : α} : l.lookup k = some a ↔ (k, a) ∈ l := by
  induction l with
  | nil => simp
  | cons e rest ih =>
    obtain ⟨he, hrest⟩ := List.pairwise_cons.1 hl
    rw [lookup_cons_eq_ite, List.mem_cons]
    by_cases hk : k = e.1
    · subst hk
      rw [if_pos rfl, Option.some.injEq]
      constructor
      · rintro rfl
        exact .inl rfl
      · rintro (heq | hmem)
        · exact congrArg Prod.snd heq.symm
        · exact absurd rfl (he (e.1, a) hmem)
    · rw [if_neg hk, ih hrest]
      refine ⟨.inr, ?_⟩
      rintro (heq | hmem)
      · exact absurd (congrArg Prod.fst heq) hk
      · exact hmem

/-- Look-up in a list of entries with different keys does not depend on their order. -/
theorem lookup_eq_of_perm {l m : List (String × α)} (h : l.Perm m)
    (hl : l.Pairwise (fun a b => a.1 ≠ b.1)) (k : String) : l.lookup k = m.lookup k := by
  have hm : m.Pairwise (fun a b => a.1 ≠ b.1) := h.pairwise hl fun hne => hne.symm
  refine Option.ext fun a => ?_
  rw [lookup_eq_some_iff_mem hl, lookup_eq_some_iff_mem hm, h.mem_iff]

theorem lookup_reverse {l : List (String × α)} (hl : l.Pairwise (fun a b => a.1 ≠ b.1))
    (k : String) : l.reverse.lookup k = l.lookup k :=
  (lookup_eq_of_perm (List.reverse_perm l).symm hl k).symm

/-! ## Look-up after each operation -/

@[simp] theorem get?_empty (k : String) : (empty : Dict α).get? k = none := rfl

theorem get?_insert (d : Dict α) (k j : String) (a : α) :
    (d.insert k a).get? j = if j = k then some a else d.get? j :=
  lookup_insertEntry k j a d.entries

theorem get?_filterKeys (p : String → Bool) (d : Dict α) (k : String) :
    (d.filterKeys p).get? k = if p k then d.get? k else none :=
  lookup_filter p d.entries k

theorem get?_map (f : α → β) (d : Dict α) (k : String) : (d.map f).get? k = (d.get? k).map f :=
  lookup_map (fun _ => f) d.entries k

/-- Of the entries that are inserted one after the other the last one with a key is found, which
is the first one from behind; other keys are found as before. -/
theorem get?_foldl_insert (l : List (String × α)) (d : Dict α) (k : String) :
    (l.foldl (fun d e => d.insert e.1 e.2) d).get? k = (l.reverse.lookup k).or (d.get? k) := by
  induction l generalizing d with
  | nil => simp
  | cons e rest ih =>
    rw [List.foldl_cons, ih, get?_insert, List.reverse_cons, List.lookup_append,
      lookup_cons_eq_ite, Option.or_assoc]
    by_cases hk : k = e.1 <;> simp [hk]

/-- The keys of a map are different. -/
theorem pairwise_ne (d : Dict α) : d.entries.Pairwise (fun a b => a.1 ≠ b.1) :=
  d.ordered.imp Std.ne_of_lt

theorem get?_eq_some_iff {d : Dict α} {k : String} {a : α} :
    d.get? k = some a ↔ (k, a) ∈ d.entries :=
  lookup_eq_some_iff_mem d.pairwise_ne

/-- Of several entries with one key the last counts. -/
theorem get?_ofList_eq_lookup_reverse (l : List (String × α)) (k : String) :
    (ofList l).get? k = l.reverse.lookup k := by
  rw [ofList, get?_foldl_insert, get?_empty, Option.or_none]

/-- In a list of entries with different keys each one is found. -/
theorem get?_ofList {l : List (String × α)} (hl : l.Pairwise (fun a b => a.1 ≠ b.1)) (k : String) :
    (ofList l).get? k = l.lookup k := by
  rw [get?_ofList_eq_lookup_reverse, lookup_reverse hl]

theorem get?_ofList_filter (p : String → Bool) (l : List (String × α)) (k : String) :
    (ofList (l.filter fun e => p e.1)).get? k = if p k then (ofList l).get? k else none := by
  rw [get?_ofList_eq_lookup_reverse, ← List.filter_reverse, lookup_filter,
    get?_ofList_eq_lookup_reverse]

theorem get?_ofList_map (f : String → α → β) (l : List (String × α)) (k : String) :
    (ofList (l.map fun e => (e.1, f e.1 e.2))).get? k = ((ofList l).get? k).map (f k) := by
  rw [get?_ofList_eq_lookup_reverse, ← List.map_reverse, lookup_map,
    get?_ofList_eq_lookup_reverse]

/-- A key that is not found is not in the list. -/
theorem ne_of_get?_ofList_eq_none {l : List (String × α)} {k : String}
    (h : (ofList l).get? k = none) {e : String × α} (he : e ∈ l) : e.1 ≠ k := by
  rw [get?_ofList_eq_lookup_reverse, List.lookup_eq_none_iff] at h
  have hne : k ≠ e.1 := by simpa using h e (List.mem_reverse.2 he)
  exact hne.symm

/-- The map of a list of entries has no others. -/
theorem mem_of_get?_ofList {l : List (String × α)} {k : String} {a : α}
    (h : (ofList l).get? k = some a) : (k, a) ∈ l := by
  rw [get?_ofList_eq_lookup_reverse] at h
  obtain ⟨before, after, hl, -⟩ := List.lookup_eq_some_iff.1 h
  exact List.mem_reverse.1 (hl ▸ List.mem_append_cons_self)

/-- Of a list of entries with different keys those with a value are found. -/
theorem lookup_filterMap_present {l : List (String × Option α)}
    (hl : l.Pairwise (fun a b => a.1 ≠ b.1)) (k : String) :
    (l.filterMap fun e => e.2.map (e.1, ·)).lookup k = (l.lookup k).join := by
  induction l with
  | nil => rfl
  | cons e rest ih =>
    obtain ⟨he, hrest⟩ := List.pairwise_cons.1 hl
    obtain ⟨key, value⟩ := e
    rw [lookup_cons_eq_ite]
    by_cases hk : k = key
    · subst hk
      cases value with
      | some a => simp
      | none =>
        have hnone : rest.lookup k = none := by
          rw [List.lookup_eq_none_iff]
          intro x hx
          simpa using he x hx
        simpa [hnone] using ih hrest
    · cases value with
      | some a => simpa [lookup_cons_eq_ite, hk] using ih hrest
      | none => simpa [hk] using ih hrest

theorem get?_ofPresent {l : List (String × Option α)} (hl : l.Pairwise (fun a b => a.1 ≠ b.1))
    (k : String) : (ofPresent l).get? k = (l.lookup k).join := by
  rw [ofPresent, get?_ofList, lookup_filterMap_present hl]
  refine List.Pairwise.filterMap _ ?_ hl
  intro a b hne a' ha b' hb
  obtain ⟨_, -, rfl⟩ := Option.map_eq_some_iff.1 ha
  obtain ⟨_, -, rfl⟩ := Option.map_eq_some_iff.1 hb
  exact hne

/-- In an overlay the later map is asked first. -/
theorem get?_overlay (base later : Dict α) (k : String) :
    (base.overlay later).get? k = (later.get? k).or (base.get? k) := by
  rw [overlay, get?_foldl_insert, lookup_reverse later.pairwise_ne]
  rfl

theorem get?_overlay_of_eq_none {base later : Dict α} {k : String} (h : later.get? k = none) :
    (base.overlay later).get? k = base.get? k := by
  rw [get?_overlay, h, Option.none_or]

/-! ## One representation -/

/-- Two ordered lists of entries with the same look-ups are equal. -/
theorem eq_of_lookup_eq {l m : List (String × α)} (hl : l.Pairwise (fun a b => a.1 < b.1))
    (hm : m.Pairwise (fun a b => a.1 < b.1)) (h : ∀ k, l.lookup k = m.lookup k) : l = m := by
  induction l generalizing m with
  | nil =>
    cases m with
    | nil => rfl
    | cons e rest => simpa [lookup_cons_eq_ite] using h e.1
  | cons e l ih =>
    cases m with
    | nil => simpa [lookup_cons_eq_ite] using h e.1
    | cons f m =>
      obtain ⟨he, hl⟩ := List.pairwise_cons.1 hl
      obtain ⟨hf, hm⟩ := List.pairwise_cons.1 hm
      have hkey : e.1 = f.1 := by
        rcases Std.lt_trichotomy e.1 f.1 with hlt | heq | hlt
        · have := h e.1
          rw [lookup_cons_eq_ite, lookup_cons_eq_ite, if_pos rfl, if_neg (Std.ne_of_lt hlt),
            lookup_eq_none_of_lt fun x hx => String.lt_trans hlt (hf x hx)] at this
          cases this
        · exact heq
        · have := h f.1
          rw [lookup_cons_eq_ite, lookup_cons_eq_ite, if_pos rfl, if_neg (Std.ne_of_lt hlt),
            lookup_eq_none_of_lt fun x hx => String.lt_trans hlt (he x hx)] at this
          cases this
      have hvalue : e.2 = f.2 := by simpa [lookup_cons_eq_ite, hkey] using h e.1
      have hrest : l = m := ih hl hm fun k => by
        by_cases hk : k = e.1
        · subst hk
          rw [lookup_eq_none_of_lt he, lookup_eq_none_of_lt (hkey ▸ hf)]
        · simpa [lookup_cons_eq_ite, hk, hkey ▸ hk] using h k
      rw [hrest, show e = f from Prod.ext hkey hvalue]

/-- Two maps with the same look-ups are equal. -/
theorem ext_get? {d e : Dict α} (h : ∀ k, d.get? k = e.get? k) : d = e := by
  obtain ⟨l, hl⟩ := d
  obtain ⟨m, hm⟩ := e
  have := eq_of_lookup_eq hl hm h
  subst this
  rfl

theorem eq_empty_of_isEmpty {d : Dict α} (h : d.isEmpty = true) : d = empty := by
  obtain ⟨l, hl⟩ := d
  cases l with
  | nil => rfl
  | cons e rest => cases h

theorem isEmpty_iff {d : Dict α} : d.isEmpty = true ↔ d = empty :=
  ⟨eq_empty_of_isEmpty, fun h => h ▸ rfl⟩

/-- The entries of a map make the map again. -/
@[simp] theorem ofList_entries (d : Dict α) : ofList d.entries = d :=
  ext_get? fun k => get?_ofList d.pairwise_ne k

/-- Entries that come behind others lie over them. -/
theorem ofList_append (l m : List (String × α)) :
    ofList (l ++ m) = (ofList l).overlay (ofList m) := by
  refine ext_get? fun k => ?_
  rw [get?_overlay, get?_ofList_eq_lookup_reverse, get?_ofList_eq_lookup_reverse,
    get?_ofList_eq_lookup_reverse, List.reverse_append, List.lookup_append]

/-- The entries of a map behind others lie over them. -/
theorem ofList_append_entries (l : List (String × α)) (d : Dict α) :
    ofList (l ++ d.entries) = (ofList l).overlay d := by
  rw [ofList_append, ofList_entries]

/-- A map that lies over one with keys of a list, and has none of them itself, is what is left when
those keys are taken away. -/
theorem filterKeys_overlay {base later : Dict α} {keys : List String}
    (hbase : ∀ k, k ∉ keys → base.get? k = none) (hlater : ∀ k ∈ keys, later.get? k = none) :
    ((base.overlay later).filterKeys fun k => !keys.contains k) = later := by
  refine ext_get? fun k => ?_
  rw [get?_filterKeys, get?_overlay]
  by_cases hk : k ∈ keys
  · simp [hk, hlater k hk]
  · simp [hk, hbase k hk]

@[simp] theorem overlay_empty (d : Dict α) : d.overlay empty = d := rfl

@[simp] theorem empty_overlay (d : Dict α) : empty.overlay d = d := ofList_entries d

theorem overlay_assoc (a b c : Dict α) : (a.overlay b).overlay c = a.overlay (b.overlay c) :=
  ext_get? fun k => by simp only [get?_overlay, Option.or_assoc]

@[simp] theorem overlay_self (d : Dict α) : d.overlay d = d :=
  ext_get? fun k => by rw [get?_overlay, Option.or_self]

/-- An overlay is empty if both maps are. -/
theorem overlay_eq_empty_iff {base later : Dict α} :
    base.overlay later = empty ↔ base = empty ∧ later = empty := by
  constructor
  · intro h
    have hfound : ∀ k, later.get? k = none ∧ base.get? k = none := by
      intro k
      have hnone := congrArg (·.get? k) h
      simpa [get?_overlay] using hnone
    exact ⟨ext_get? fun k => (hfound k).2, ext_get? fun k => (hfound k).1⟩
  · rintro ⟨rfl, rfl⟩
    rfl

/-! ## Keys -/

theorem mem_keys {d : Dict α} {k : String} : k ∈ d.keys ↔ d.contains k = true := by
  rw [keys, List.mem_map, contains, Option.isSome_iff_exists]
  constructor
  · rintro ⟨⟨k, a⟩, hmem, rfl⟩
    exact ⟨a, get?_eq_some_iff.2 hmem⟩
  · rintro ⟨a, ha⟩
    exact ⟨(k, a), get?_eq_some_iff.1 ha, rfl⟩

/-- Keys come in increasing order. -/
theorem pairwise_keys (d : Dict α) : d.keys.Pairwise (· < ·) := List.pairwise_map.2 d.ordered

@[simp] theorem keys_map (f : α → β) (d : Dict α) : (d.map f).keys = d.keys := by
  simp [keys, map]

/-- Maps that contain the same keys list them alike. -/
theorem keys_eq_of_contains_iff {d e : Dict α}
    (h : ∀ k, d.contains k = true ↔ e.contains k = true) : d.keys = e.keys := by
  have hsame : d.map (fun _ => ()) = e.map fun _ => () := by
    refine ext_get? fun k => ?_
    have hk := h k
    rw [get?_map, get?_map]
    rw [contains, contains] at hk
    cases hd : d.get? k <;> cases he : e.get? k <;> simp_all
  rw [← keys_map (fun _ => ()) d, hsame, keys_map]

/-! ## Entries in any order -/

/-- **Entries with different keys** make the same map, in whatever order they come. -/
theorem ofList_eq_of_perm {l m : List (String × α)} (h : l.Perm m)
    (hl : l.Pairwise (fun a b => a.1 ≠ b.1)) : ofList l = ofList m := by
  have hm : m.Pairwise (fun a b => a.1 ≠ b.1) := h.pairwise hl fun hne => hne.symm
  exact ext_get? fun k => by rw [get?_ofList hl, get?_ofList hm, lookup_eq_of_perm h hl]

end CanonicalReply.Dict
