import CanonicalReply.Settings.Placeholder

/-!
# Where placeholders stand in a text

A placeholder is a name in braces behind a dollar sign, and there is no second dollar
sign in it.  So placeholders never reach into each other, and a text can be cut in
front of any dollar sign: what stands in front of it and what begins there name their
variables independently.

* `nameAt?_eq_some_iff`: when a text begins with a placeholder.
* `textInduction`: **a text is read from left to right**, placeholder by placeholder.
* `names_append_dollar`, `names_append_written`: the names of a text that was cut.
* `placeInduction`: the places of one name in a text.
* `interpolate_eq_self`: a text without a dollar sign stays as it is.
-/

namespace CanonicalReply.Settings.Placeholder

/-! ## Where a placeholder stands -/

/-- A name begins with what may begin one, and goes on with what may go on one. -/
def IsName (name : List Char) : Prop :=
  (name.head?.map startsName).getD false = true ∧ ∀ c ∈ name, goesOn c = true

theorem IsName.dollar_not_mem {name : List Char} (h : IsName name) : '$' ∉ name := by
  intro hmem
  have hgoesOn := h.2 '$' hmem
  cases hgoesOn

/-- No placeholder has a second dollar sign. -/
theorem IsName.written_eq {name : List Char} (h : IsName name) :
    ∃ rest, written name = '$' :: rest ∧ '$' ∉ rest ∧ rest.length = name.length + 2 := by
  refine ⟨'\x7b' :: (name ++ ['\x7d']), rfl, ?_, by simp⟩
  have hname := h.dollar_not_mem
  simp [hname]

/-- **A text begins with a placeholder** where it begins with a name in braces behind a
dollar sign. -/
theorem nameAt?_eq_some_iff {s name : List Char} :
    nameAt? s = some name ↔ IsName name ∧ ∃ rest, s = written name ++ rest := by
  constructor
  · intro h
    unfold nameAt? at h
    split at h
    case h_1 rest =>
      simp only [Bool.and_eq_true, beq_iff_eq] at h
      split at h
      case isTrue hname =>
        obtain ⟨hstart, hclose⟩ := hname
        obtain rfl := Option.some.inj h
        refine ⟨⟨hstart, fun c hc => List.all_eq_true.1 List.all_takeWhile c hc⟩, ?_⟩
        obtain ⟨more, hmore⟩ := List.head?_eq_some_iff.1 hclose
        refine ⟨more, ?_⟩
        have hsplit := List.prefix_iff_eq_append.1 (List.takeWhile_prefix goesOn (l := rest))
        rw [hmore] at hsplit
        simp [written, hsplit]
      case isFalse => cases h
    case h_2 => cases h
  · rintro ⟨⟨hstart, hgoesOn⟩, rest, rfl⟩
    have htake : (name ++ '\x7d' :: rest).takeWhile goesOn = name := by
      rw [List.takeWhile_append_of_pos hgoesOn, List.takeWhile_cons, if_neg (by decide),
        List.append_nil]
    have htext : written name ++ rest = '$' :: '\x7b' :: (name ++ '\x7d' :: rest) := by
      simp [written]
    rw [htext, nameAt?]
    simp [htake, hstart]

theorem nameAt?_eq_none_of_ne {c : Char} (h : c ≠ '$') (rest : List Char) :
    nameAt? (c :: rest) = none := by
  unfold nameAt?
  split
  case h_1 heq =>
    cases heq
    exact absurd rfl h
  case h_2 => rfl

/-- What follows behind a dollar sign decides nothing in front of it. -/
theorem nameAt?_append_of_eq_none {c : Char} {rest : List Char} (h : nameAt? (c :: rest) = none)
    (s : List Char) : nameAt? (c :: rest ++ '$' :: s) = none := by
  cases hname : nameAt? (c :: rest ++ '$' :: s) with
  | none => rfl
  | some name =>
    obtain ⟨hisName, more, hmore⟩ := nameAt?_eq_some_iff.1 hname
    obtain ⟨tail, htail, hdollar, -⟩ := hisName.written_eq
    rcases List.append_eq_append_iff.1 hmore with ⟨as, has, hmore⟩ | ⟨bs, hbs, -⟩
    · cases as with
      | nil =>
        have hwhole : nameAt? (c :: rest) = some name :=
          nameAt?_eq_some_iff.2 ⟨hisName, [], by simpa using has.symm⟩
        rw [h] at hwhole
        cases hwhole
      | cons d as =>
        -- the placeholder would reach over the dollar sign
        obtain ⟨rfl, -⟩ := List.cons.inj hmore
        rw [htail, List.cons_append] at has
        obtain ⟨-, rfl⟩ := List.cons.inj has
        exact absurd (by simp) hdollar
    · have hwhole : nameAt? (c :: rest) = some name :=
        nameAt?_eq_some_iff.2 ⟨hisName, bs, hbs⟩
      rw [h] at hwhole
      cases hwhole

/-- **A text is read** from left to right: it is empty, or a placeholder comes first,
or a character at which no placeholder begins. -/
@[elab_as_elim]
theorem textInduction {motive : List Char → Prop} (nil : motive [])
    (plain : ∀ c rest, nameAt? (c :: rest) = none → motive rest → motive (c :: rest))
    (named : ∀ name rest, IsName name → motive rest → motive (written name ++ rest))
    (s : List Char) : motive s := by
  induction hlength : s.length using Nat.strongRecOn generalizing s with
  | ind n ih =>
    cases s with
    | nil => exact nil
    | cons c rest =>
      cases hname : nameAt? (c :: rest) with
      | none => exact plain c rest hname (ih rest.length (by rw [← hlength]; simp) rest rfl)
      | some name =>
        obtain ⟨hisName, more, hmore⟩ := nameAt?_eq_some_iff.1 hname
        rw [hmore] at hlength ⊢
        refine named name more hisName (ih more.length ?_ more rfl)
        rw [← hlength]
        simp [written]
        omega

/-! ## The names of a text -/

theorem names_cons_of_eq_none {c : Char} {rest : List Char} (h : nameAt? (c :: rest) = none) :
    names (c :: rest) = names rest := by
  rw [names, h]

theorem names_append_of_not_mem {x : List Char} (h : '$' ∉ x) (s : List Char) :
    names (x ++ s) = names s := by
  induction x with
  | nil => rfl
  | cons c x ih =>
    obtain ⟨hc, hx⟩ := List.ne_and_not_mem_of_not_mem_cons h
    rw [List.cons_append, names_cons_of_eq_none (nameAt?_eq_none_of_ne hc.symm _), ih hx]

/-- A text without a dollar sign names no variable, so no environment changes it. -/
theorem interpolate_eq_self (env : Environment) {text : String} (h : '$' ∉ text.toList) :
    interpolate env text = .ok text := by
  have hnames : names text.toList = [] := by
    have hall := names_append_of_not_mem h []
    rwa [List.append_nil] at hall
  simp only [interpolate, hnames, List.find?_nil, fill, List.foldl_nil, String.ofList_toList]

theorem names_written {name : List Char} (h : IsName name) (s : List Char) :
    names (written name ++ s) = name :: names s := by
  obtain ⟨tail, htail, hdollar, -⟩ := h.written_eq
  have hname : nameAt? (written name ++ s) = some name := nameAt?_eq_some_iff.2 ⟨h, s, rfl⟩
  rw [htail, List.cons_append] at hname ⊢
  rw [names, hname]
  exact congrArg (name :: ·) (names_append_of_not_mem hdollar s)

theorem isName_of_mem_names {s name : List Char} (h : name ∈ names s) : IsName name := by
  induction s using textInduction with
  | nil => cases h
  | plain c rest hnone ih =>
    rw [names_cons_of_eq_none hnone] at h
    exact ih h
  | named other rest hother ih =>
    rw [names_written hother] at h
    rcases List.mem_cons.1 h with rfl | h
    · exact hother
    · exact ih h

/-- A text may be cut in front of a dollar sign. -/
theorem names_append_dollar (x s : List Char) :
    names (x ++ '$' :: s) = names x ++ names ('$' :: s) := by
  induction x using textInduction with
  | nil => rfl
  | plain c rest hnone ih =>
    have hlonger := nameAt?_append_of_eq_none hnone s
    rw [List.cons_append] at hlonger ⊢
    rw [names_cons_of_eq_none hlonger, names_cons_of_eq_none hnone, ih]
  | named name rest hname ih =>
    rw [List.append_assoc, names_written hname, names_written hname, ih, List.cons_append]

theorem names_append_written (x : List Char) {name : List Char} (h : IsName name) (y : List Char) :
    names (x ++ (written name ++ y)) = names x ++ name :: names y := by
  obtain ⟨tail, htail, -, -⟩ := h.written_eq
  rw [← names_written h, htail, List.cons_append, names_append_dollar]

/-- A name of a text has a first place in it. -/
theorem exists_first_place {s name : List Char} (h : name ∈ names s) :
    ∃ x y, s = x ++ (written name ++ y) ∧ name ∉ names x := by
  induction s using textInduction with
  | nil => cases h
  | plain c rest hnone ih =>
    rw [names_cons_of_eq_none hnone] at h
    obtain ⟨x, y, rfl, hx⟩ := ih h
    refine ⟨c :: x, y, rfl, ?_⟩
    cases hfirst : nameAt? (c :: x) with
    | none => rwa [names_cons_of_eq_none hfirst]
    | some other =>
      -- then a placeholder would begin in the longer text, too
      obtain ⟨hother, more, hmore⟩ := nameAt?_eq_some_iff.1 hfirst
      have hlonger : nameAt? (c :: (x ++ (written name ++ y))) = some other := by
        refine nameAt?_eq_some_iff.2 ⟨hother, more ++ (written name ++ y), ?_⟩
        rw [← List.cons_append, hmore, List.append_assoc]
      rw [hnone] at hlonger
      cases hlonger
  | named other rest hother ih =>
    by_cases hsame : name = other
    · subst hsame
      exact ⟨[], rest, rfl, List.not_mem_nil⟩
    · rw [names_written hother] at h
      obtain ⟨x, y, rfl, hx⟩ := ih ((List.mem_cons.1 h).resolve_left hsame)
      refine ⟨written other ++ x, y, (List.append_assoc ..).symm, ?_⟩
      rw [names_written hother]
      exact List.not_mem_cons_of_ne_of_not_mem hsame hx

/-- **The places of one name**: a text has none, or there is a first one and a text
behind it. -/
@[elab_as_elim]
theorem placeInduction (name : List Char) {motive : List Char → Prop}
    (apart : ∀ s, name ∉ names s → motive s)
    (here : ∀ x y, IsName name → name ∉ names x → motive y → motive (x ++ (written name ++ y)))
    (s : List Char) : motive s := by
  induction hlength : s.length using Nat.strongRecOn generalizing s with
  | ind n ih =>
    by_cases hmem : name ∈ names s
    · obtain ⟨x, y, rfl, hx⟩ := exists_first_place hmem
      refine here x y (isName_of_mem_names hmem) hx (ih y.length ?_ y rfl)
      rw [← hlength]
      simp [written]
      omega
    · exact apart s hmem

end CanonicalReply.Settings.Placeholder
