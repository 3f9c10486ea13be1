import CanonicalReply.Proofs.Placeholders

/-!
# Placeholders filled in at once, and one after the other

Variables take the place of their placeholders one after the other, each in the
whole text so far.  One would rather have them put in all at once, so that a value
is taken as it is, whatever it looks like.  The two agree as long as no placeholder
comes in with a value, or out of a value and what stands around it.  Where one does
come in and its variable is still to be put in, it is replaced with the others.

* `substitute`: all values in place at once, and `replaceAll_written`: one variable
  is put in like that.
* `substitute_single_iff`: **the step**: when one more variable goes where it ought
  to go, and nowhere else.
* `undisturbed_iff`: **the run**: when all of them do.
* `undisturbed_of_values`: values without dollar signs disturb nothing in a text
  without stray ones.
* `substitutesAtOnce`: what this says of whole texts, and behind it a text of which
  it does not hold.
-/

namespace CanonicalReply.Settings.Placeholder

/-! ## All at once -/

/-- Values for names. -/
abbrev Assignment := List Char → Option (List Char)

/-- What stands in the place of a placeholder: the value of its name, or else itself. -/
def Assignment.inPlace (σ : Assignment) (name : List Char) : List Char :=
  (σ name).getD (written name)

/-- Every placeholder of a text gives way to what stands in its place; all else stays.
The first argument counts the characters of the last placeholder that are still to be
passed over. -/
def substituteFrom (σ : Assignment) : Nat → List Char → List Char
  | _, [] => []
  | skip + 1, _ :: rest => substituteFrom σ skip rest
  | 0, c :: rest =>
    match nameAt? (c :: rest) with
    | some name => σ.inPlace name ++ substituteFrom σ (name.length + 2) rest
    | none => c :: substituteFrom σ 0 rest

/-- The text with all values in place at once. -/
def substitute (σ : Assignment) (s : List Char) : List Char := substituteFrom σ 0 s

theorem substituteFrom_append (σ : Assignment) (x s : List Char) :
    substituteFrom σ x.length (x ++ s) = substitute σ s := by
  induction x with
  | nil => rfl
  | cons c x ih => exact ih

theorem substitute_cons_of_eq_none (σ : Assignment) {c : Char} {rest : List Char}
    (h : nameAt? (c :: rest) = none) : substitute σ (c :: rest) = c :: substitute σ rest := by
  rw [substitute, substituteFrom, h]
  rfl

theorem substitute_written (σ : Assignment) {name : List Char} (h : IsName name) (s : List Char) :
    substitute σ (written name ++ s) = σ.inPlace name ++ substitute σ s := by
  obtain ⟨tail, htail, -, hlength⟩ := h.written_eq
  have hname : nameAt? (written name ++ s) = some name := nameAt?_eq_some_iff.2 ⟨h, s, rfl⟩
  rw [htail, List.cons_append] at hname ⊢
  rw [substitute, substituteFrom, hname]
  exact congrArg (σ.inPlace name ++ ·) (hlength ▸ substituteFrom_append σ tail s)

/-- Texts that are cut in front of a dollar sign are filled in one by one. -/
theorem substitute_append_dollar (σ : Assignment) (x s : List Char) :
    substitute σ (x ++ '$' :: s) = substitute σ x ++ substitute σ ('$' :: s) := by
  induction x using textInduction with
  | nil => rfl
  | plain c rest hnone ih =>
    have hlonger := nameAt?_append_of_eq_none hnone s
    rw [List.cons_append] at hlonger ⊢
    rw [substitute_cons_of_eq_none σ hlonger, substitute_cons_of_eq_none σ hnone, ih,
      List.cons_append]
  | named name rest hname ih =>
    rw [List.append_assoc, substitute_written σ hname, substitute_written σ hname, ih,
      List.append_assoc]

theorem substitute_append_written (σ : Assignment) (x : List Char) {name : List Char}
    (h : IsName name) (y : List Char) :
    substitute σ (x ++ (written name ++ y)) =
      substitute σ x ++ (σ.inPlace name ++ substitute σ y) := by
  obtain ⟨tail, htail, -, -⟩ := h.written_eq
  rw [← substitute_written σ h, htail, List.cons_append, substitute_append_dollar]

/-- Only what stands in the places of a text's own names counts. -/
theorem substitute_congr {σ τ : Assignment} {s : List Char}
    (h : ∀ name ∈ names s, σ.inPlace name = τ.inPlace name) : substitute σ s = substitute τ s := by
  induction s using textInduction with
  | nil => rfl
  | plain c rest hnone ih =>
    rw [names_cons_of_eq_none hnone] at h
    rw [substitute_cons_of_eq_none σ hnone, substitute_cons_of_eq_none τ hnone, ih h]
  | named name rest hname ih =>
    rw [names_written hname] at h
    obtain ⟨hfirst, hrest⟩ := List.forall_mem_cons.1 h
    rw [substitute_written σ hname, substitute_written τ hname, hfirst, ih hrest]

/-- A text stays as it is where its placeholders stand in their own places. -/
theorem substitute_eq_self {σ : Assignment} {s : List Char}
    (h : ∀ name ∈ names s, σ.inPlace name = written name) : substitute σ s = s := by
  induction s using textInduction with
  | nil => rfl
  | plain c rest hnone ih =>
    rw [names_cons_of_eq_none hnone] at h
    rw [substitute_cons_of_eq_none σ hnone, ih h]
  | named name rest hname ih =>
    rw [names_written hname] at h
    obtain ⟨hfirst, hrest⟩ := List.forall_mem_cons.1 h
    rw [substitute_written σ hname, hfirst, ih hrest]

/-! ## One variable in the whole text -/

namespace Assignment

/-- No values at all. -/
def none : Assignment := fun _ => Option.none

/-- One name more, or another value for it. -/
def set (σ : Assignment) (name value : List Char) : Assignment :=
  fun m => if m = name then some value else σ m

end Assignment

theorem inPlace_of_eq_none {σ : Assignment} {name : List Char} (h : σ name = none) :
    σ.inPlace name = written name := by
  rw [Assignment.inPlace, h, Option.getD_none]

theorem inPlace_set_self (σ : Assignment) (name value : List Char) :
    (σ.set name value).inPlace name = value := by
  simp [Assignment.inPlace, Assignment.set]

theorem inPlace_set_of_ne (σ : Assignment) {name m : List Char} (value : List Char)
    (h : m ≠ name) : (σ.set name value).inPlace m = σ.inPlace m := by
  simp [Assignment.inPlace, Assignment.set, h]

@[simp] theorem substitute_none (s : List Char) : substitute .none s = s :=
  substitute_eq_self fun _ _ => rfl

/-- A value for a name that does not occur does nothing. -/
theorem substitute_set_of_not_mem (σ : Assignment) {name s : List Char} (value : List Char)
    (h : name ∉ names s) : substitute (σ.set name value) s = substitute σ s := by
  refine substitute_congr fun m hm => inPlace_set_of_ne σ value ?_
  rintro rfl
  exact h hm

section ReplaceAll

variable {name value : List Char}

theorem replaceFrom_append (pattern value x s : List Char) :
    replaceFrom pattern value x.length (x ++ s) = replaceAll pattern value s := by
  induction x with
  | nil => rfl
  | cons c x ih => exact ih

/-- Where another placeholder begins, or none, nothing is replaced. -/
theorem replaceAll_cons_of_ne (hname : IsName name) {c : Char} {rest : List Char}
    (h : nameAt? (c :: rest) ≠ some name) :
    replaceAll (written name) value (c :: rest) = c :: replaceAll (written name) value rest := by
  rw [replaceAll, replaceFrom, if_neg]
  · rfl
  · intro hprefix
    obtain ⟨more, hmore⟩ := List.isPrefixOf_iff_prefix.1 hprefix
    exact h (nameAt?_eq_some_iff.2 ⟨hname, more, hmore.symm⟩)

theorem replaceAll_append_of_not_mem (hname : IsName name) {x : List Char} (hx : '$' ∉ x)
    (s : List Char) :
    replaceAll (written name) value (x ++ s) = x ++ replaceAll (written name) value s := by
  induction x with
  | nil => rfl
  | cons c x ih =>
    obtain ⟨hc, hx⟩ := List.ne_and_not_mem_of_not_mem_cons hx
    have hnone : nameAt? (c :: (x ++ s)) ≠ some name := by
      rw [nameAt?_eq_none_of_ne hc.symm]
      exact fun h => nomatch h
    rw [List.cons_append, replaceAll_cons_of_ne hname hnone, ih hx, List.cons_append]

/-- **One variable** goes where its name stands, and nowhere else. -/
theorem replaceAll_written (hname : IsName name) (s : List Char) :
    replaceAll (written name) value s = substitute (Assignment.none.set name value) s := by
  induction s using textInduction with
  | nil => rfl
  | plain c rest hnone ih =>
    have hne : nameAt? (c :: rest) ≠ some name := by
      rw [hnone]
      exact fun h => nomatch h
    rw [replaceAll_cons_of_ne hname hne, substitute_cons_of_eq_none _ hnone, ih]
  | named m rest hm ih =>
    obtain ⟨tail, htail, hdollar, -⟩ := hm.written_eq
    rw [substitute_written _ hm, ← ih]
    by_cases hsame : m = name
    · subst hsame
      have hhere : (written m).isPrefixOf ('$' :: (tail ++ rest)) = true := by
        rw [htail]
        simp
      have hlength : (written m).length - 1 = tail.length := by
        rw [htail, List.length_cons, Nat.add_sub_cancel]
      rw [inPlace_set_self, htail, List.cons_append, ← htail, replaceAll, replaceFrom,
        if_pos hhere, hlength, replaceFrom_append]
    · have hfirst : nameAt? (written m ++ rest) = some m :=
        nameAt?_eq_some_iff.2 ⟨hm, rest, rfl⟩
      have hne : nameAt? ('$' :: (tail ++ rest)) ≠ some name := by
        rw [← List.cons_append, ← htail, hfirst]
        exact fun h => hsame (Option.some.inj h)
      have hstays : Assignment.inPlace (Assignment.none.set name value) m = written m :=
        inPlace_set_of_ne Assignment.none value hsame
      rw [hstays, htail, List.cons_append, replaceAll_cons_of_ne hname hne,
        replaceAll_append_of_not_mem hname hdollar, List.cons_append]

end ReplaceAll

/-! ## One variable more -/

section Step

variable {σ : Assignment} {name value : List Char}

theorem count_names_written (hname : IsName name) {x : List Char} (hx : name ∉ names x)
    (y : List Char) :
    (names (x ++ (written name ++ y))).count name = (names y).count name + 1 := by
  rw [names_append_written x hname, List.count_append, List.count_eq_zero.2 hx,
    List.count_cons_self, Nat.zero_add]

/-- The length of a text that was filled in tells how often one name stands in it. -/
theorem length_substitute_set (hσ : σ name = none) (value s : List Char) :
    (substitute (σ.set name value) s).length + (names s).count name * (written name).length =
      (substitute σ s).length + (names s).count name * value.length := by
  induction s using placeInduction name with
  | apart s hs =>
    rw [substitute_set_of_not_mem σ value hs, List.count_eq_zero.2 hs, Nat.zero_mul, Nat.zero_mul]
  | here x y hname hx ih =>
    rw [count_names_written hname hx, substitute_append_written _ x hname,
      substitute_append_written _ x hname, substitute_set_of_not_mem σ value hx,
      inPlace_set_self, inPlace_of_eq_none hσ]
    simp only [List.length_append, Nat.add_mul, Nat.one_mul]
    omega

theorem length_substitute_single (name value s : List Char) :
    (substitute (Assignment.none.set name value) s).length +
        (names s).count name * (written name).length =
      s.length + (names s).count name * value.length := by
  have habsent : Assignment.none name = none := rfl
  have hlength := length_substitute_set habsent value s
  rwa [substitute_none] at hlength

/-- A text in which one name is replaced stays as it is only if the name is not there,
or its value is its own placeholder. -/
theorem eq_written_or_not_mem_of_eq_self {s : List Char}
    (h : substitute (Assignment.none.set name value) s = s) :
    value = written name ∨ name ∉ names s := by
  by_cases hmem : name ∈ names s
  · refine .inl ?_
    have hname := isName_of_mem_names hmem
    have hlength := length_substitute_single name value s
    rw [h] at hlength
    have hcount : 0 < (names s).count name := List.count_pos_iff.2 hmem
    have hsame : (written name).length = value.length :=
      Nat.eq_of_mul_eq_mul_left hcount (by omega)
    obtain ⟨x, y, rfl, hx⟩ := exists_first_place hmem
    rw [substitute_append_written _ x hname, substitute_set_of_not_mem _ value hx,
      substitute_none, inPlace_set_self] at h
    exact (List.append_inj (List.append_cancel_left h) hsame.symm).1
  · exact .inr hmem

/-- In a text of which some placeholders were filled in, a name stands as often as its
placeholder was left there: none came in. -/
def NamedAsGiven (σ : Assignment) (s name : List Char) : Prop :=
  (names (substitute σ s)).count name = ((names s).filter fun m => (σ m).isNone).count name

instance : Decidable (NamedAsGiven σ s name) := inferInstanceAs (Decidable (_ = _))

theorem namedAsGiven_iff_of_eq_none (hσ : σ name = none) {s : List Char} :
    NamedAsGiven σ s name ↔ (names (substitute σ s)).count name = (names s).count name := by
  rw [NamedAsGiven, List.count_filter (by rw [hσ]; rfl)]

theorem namedAsGiven_iff_of_eq_some (hσ : σ name = some value) {s : List Char} :
    NamedAsGiven σ s name ↔ name ∉ names (substitute σ s) := by
  have hnone : ((names s).filter fun m => (σ m).isNone).count name = 0 := by
    refine List.count_eq_zero.2 fun hmem => ?_
    have hopen := (List.mem_filter.1 hmem).2
    rw [hσ] at hopen
    cases hopen
  rw [NamedAsGiven, hnone, List.count_eq_zero]

/-- What was left of a name is still there. -/
theorem count_le_count_substitute (hσ : σ name = none) (s : List Char) :
    (names s).count name ≤ (names (substitute σ s)).count name := by
  induction s using placeInduction name with
  | apart s hs =>
    rw [List.count_eq_zero.2 hs]
    exact Nat.zero_le _
  | here x y hname hx ih =>
    rw [count_names_written hname hx, substitute_append_written _ x hname,
      inPlace_of_eq_none hσ, names_append_written _ hname, List.count_append,
      List.count_cons_self]
    omega

/-- Where no placeholder of a name came in, its value goes to the text's own ones. -/
theorem substitute_single_of_count (hσ : σ name = none) {s : List Char}
    (h : (names (substitute σ s)).count name = (names s).count name) :
    substitute (Assignment.none.set name value) (substitute σ s) =
      substitute (σ.set name value) s := by
  induction s using placeInduction name with
  | apart s hs =>
    rw [List.count_eq_zero.2 hs] at h
    rw [substitute_set_of_not_mem _ value (List.count_eq_zero.1 h), substitute_none,
      substitute_set_of_not_mem σ value hs]
  | here x y hname hx ih =>
    have hbehind := count_le_count_substitute hσ y
    rw [count_names_written hname hx, substitute_append_written σ x hname, inPlace_of_eq_none hσ,
      names_append_written _ hname, List.count_append, List.count_cons_self] at h
    -- nothing came in in front of the place, and nothing behind it
    have hfront : name ∉ names (substitute σ x) := List.count_eq_zero.1 (by omega)
    have hlater := ih (by omega)
    rw [substitute_append_written σ x hname, inPlace_of_eq_none hσ,
      substitute_append_written _ _ hname, substitute_append_written _ x hname, hlater,
      inPlace_set_self, inPlace_set_self, substitute_set_of_not_mem _ value hfront,
      substitute_none, substitute_set_of_not_mem σ value hx]

/-- Where a value is as long as the placeholder, the two texts agree place by place. -/
theorem count_of_substitute_single_of_length (hσ : σ name = none) (hvalue : value ≠ written name)
    (hsame : (written name).length = value.length) {s : List Char}
    (h : substitute (Assignment.none.set name value) (substitute σ s) =
      substitute (σ.set name value) s) :
    (names (substitute σ s)).count name = (names s).count name := by
  induction s using placeInduction name with
  | apart s hs =>
    rw [substitute_set_of_not_mem σ value hs] at h
    have hnot := (eq_written_or_not_mem_of_eq_self h).resolve_left hvalue
    rw [List.count_eq_zero.2 hs, List.count_eq_zero.2 hnot]
  | here x y hname hx ih =>
    have hfront := length_substitute_single name value (substitute σ x)
    rw [hsame] at hfront
    rw [substitute_append_written σ x hname, inPlace_of_eq_none hσ,
      substitute_append_written _ _ hname, substitute_append_written _ x hname,
      inPlace_set_self, inPlace_set_self, substitute_set_of_not_mem σ value hx] at h
    obtain ⟨hx', hy'⟩ := List.append_inj h (by omega)
    have hnot := (eq_written_or_not_mem_of_eq_self hx').resolve_left hvalue
    have hlater := ih (List.append_cancel_left hy')
    rw [count_names_written hname hx, substitute_append_written σ x hname,
      inPlace_of_eq_none hσ, count_names_written hname hnot, hlater]

/-- A value that is not the placeholder itself goes to the text's own placeholders only
if no other ones came in. -/
theorem count_of_substitute_single (hσ : σ name = none) (hvalue : value ≠ written name)
    {s : List Char} (h : substitute (Assignment.none.set name value) (substitute σ s) =
      substitute (σ.set name value) s) :
    (names (substitute σ s)).count name = (names s).count name := by
  by_cases hsame : (written name).length = value.length
  · exact count_of_substitute_single_of_length hσ hvalue hsame h
  · -- each place that came in would change the length
    have hall := length_substitute_single name value (substitute σ s)
    have hown := length_substitute_set hσ value s
    obtain ⟨more, hmore⟩ := Nat.exists_eq_add_of_le (count_le_count_substitute hσ s)
    rw [h, hmore, Nat.add_mul, Nat.add_mul] at hall
    have hlengths : more * (written name).length = more * value.length := by omega
    rcases Nat.eq_zero_or_pos more with hzero | hpos
    · omega
    · exact absurd (Nat.eq_of_mul_eq_mul_left hpos hlengths) hsame

/-- A value that is the placeholder itself changes nothing, wherever it goes. -/
theorem substitute_single_written (hσ : σ name = none ∨ σ name = some (written name))
    (s : List Char) :
    substitute (Assignment.none.set name (written name)) (substitute σ s) =
      substitute (σ.set name (written name)) s := by
  have hown : ∀ m ∈ names s, (σ.set name (written name)).inPlace m = σ.inPlace m := by
    intro m _
    by_cases hm : m = name
    · subst hm
      rw [inPlace_set_self]
      rcases hσ with hσ | hσ
      · rw [inPlace_of_eq_none hσ]
      · rw [Assignment.inPlace, hσ, Option.getD_some]
    · exact inPlace_set_of_ne σ (written name) hm
  have hall : ∀ m ∈ names (substitute σ s),
      (Assignment.none.set name (written name)).inPlace m = written m := by
    intro m _
    by_cases hm : m = name
    · rw [hm, inPlace_set_self]
    · exact inPlace_set_of_ne .none (written name) hm
  rw [substitute_eq_self hall, substitute_congr hown]

/-- **The step.**  In a text of which some placeholders were filled in, one more value
goes to what is left of the text's own placeholders, and nowhere else, just if no other
ones came in, or the value is the placeholder itself. -/
theorem substitute_single_iff {s : List Char} (hσ : σ name = none ∨ σ name = some value) :
    substitute (Assignment.none.set name value) (substitute σ s) =
        substitute (σ.set name value) s ↔
      value = written name ∨ NamedAsGiven σ s name := by
  by_cases hvalue : value = written name
  · subst hvalue
    exact iff_of_true (substitute_single_written hσ s) (.inl rfl)
  · rcases hσ with hσ | hσ
    · rw [namedAsGiven_iff_of_eq_none hσ]
      refine ⟨fun h => .inr (count_of_substitute_single hσ hvalue h), fun h => ?_⟩
      exact substitute_single_of_count hσ (h.resolve_left hvalue)
    · have hsame : σ.set name value = σ := by
        funext m
        by_cases hm : m = name <;> simp [Assignment.set, hm, hσ]
      rw [namedAsGiven_iff_of_eq_some hσ, hsame]
      refine ⟨eq_written_or_not_mem_of_eq_self, fun h => ?_⟩
      rw [substitute_set_of_not_mem _ value (h.resolve_left hvalue), substitute_none]

end Step

/-! ## One after the other -/

section Run

variable (env : Environment) (s : List Char)

/-- The value of a variable. -/
def valueOf : Assignment := fun name => (env (String.ofList name)).map String.toList

/-- The values of the variables that were put in. -/
def assigned (done : List (List Char)) : Assignment := fun name =>
  if name ∈ done then valueOf env name else none

/-- The text after one more variable. -/
def putIn (name : List Char) : List Char :=
  match env (String.ofList name) with
  | some value => replaceAll (written name) value.toList s
  | none => s

/-- Variables are put in behind those that were, and none meets another placeholder than
those of the text as it was given, unless it would stay as it is. -/
def Undisturbed : List (List Char) → List (List Char) → Prop
  | _, [] => True
  | done, name :: later =>
    (valueOf env name = some (written name) ∨ NamedAsGiven (assigned env done) s name) ∧
      Undisturbed (done ++ [name]) later

variable {env s}

theorem assigned_append {name value : List Char} (hvalue : valueOf env name = some value)
    (done : List (List Char)) :
    assigned env (done ++ [name]) = (assigned env done).set name value := by
  funext m
  by_cases hm : m = name
  · simp [assigned, Assignment.set, hm, hvalue]
  · simp [assigned, Assignment.set, hm]

theorem putIn_of_value {name value : List Char} (hname : IsName name)
    (hvalue : valueOf env name = some value) :
    putIn env s name = substitute (Assignment.none.set name value) s := by
  obtain ⟨text, htext, rfl⟩ := Option.map_eq_some_iff.1 hvalue
  rw [putIn, htext]
  exact replaceAll_written hname s

/-- **The run.**  Behind the variables that were put in, others all go where they ought
to go just if they are undisturbed. -/
theorem undisturbed_iff {later : List (List Char)} (hnames : ∀ name ∈ later, IsName name)
    (hset : ∀ name ∈ later, valueOf env name ≠ none) (done : List (List Char)) :
    Undisturbed env s done later ↔ ∀ before after, later = before ++ after →
      fill env (substitute (assigned env done) s) before =
        substitute (assigned env (done ++ before)) s := by
  induction later generalizing done with
  | nil =>
    refine iff_of_true trivial fun before after hsplit => ?_
    obtain ⟨rfl, -⟩ := List.append_eq_nil_iff.1 hsplit.symm
    rw [List.append_nil]
    rfl
  | cons name later ih =>
    obtain ⟨hname, hnames⟩ := List.forall_mem_cons.1 hnames
    obtain ⟨hfirst, hset⟩ := List.forall_mem_cons.1 hset
    obtain ⟨value, hvalue⟩ := Option.ne_none_iff_exists'.1 hfirst
    have hopen : assigned env done name = none ∨ assigned env done name = some value := by
      by_cases hmem : name ∈ done <;> simp [assigned, hmem, hvalue]
    have hstep : putIn env (substitute (assigned env done) s) name =
          substitute (assigned env (done ++ [name])) s ↔
        valueOf env name = some (written name) ∨ NamedAsGiven (assigned env done) s name := by
      rw [putIn_of_value hname hvalue, assigned_append hvalue, substitute_single_iff hopen, hvalue,
        Option.some.injEq]
    rw [Undisturbed, ← hstep, ih hnames hset]
    constructor
    · rintro ⟨hone, hrest⟩ before after hsplit
      cases before with
      | nil =>
        rw [List.append_nil]
        rfl
      | cons first before =>
        obtain ⟨rfl, hlater⟩ := List.cons.inj hsplit
        have hthen := hrest before after hlater
        rw [List.append_assoc] at hthen
        rw [← hone] at hthen
        exact hthen
    · intro hall
      have hone := hall [name] later rfl
      refine ⟨hone, fun before after hsplit => ?_⟩
      have hthen := hall (name :: before) after (by rw [hsplit]; rfl)
      rw [List.append_assoc, ← hone]
      exact hthen

/-- Before any variable is put in, the text is as it was given. -/
theorem substitute_assigned_nil : substitute (assigned env []) s = s :=
  substitute_eq_self fun _ _ => rfl

theorem substitute_assigned {ns : List (List Char)} (h : ∀ name ∈ names s, name ∈ ns) :
    substitute (assigned env ns) s = substitute (valueOf env) s := by
  refine substitute_congr fun name hname => ?_
  rw [Assignment.inPlace, Assignment.inPlace, assigned, if_pos (h name hname)]

/-- Undisturbed variables that are all those of a text are put in as if at once. -/
theorem fill_of_undisturbed {ns : List (List Char)} (hns : ∀ name, name ∈ ns ↔ name ∈ names s)
    (hset : ∀ name ∈ names s, valueOf env name ≠ none) (h : Undisturbed env s [] ns) :
    fill env s ns = substitute (valueOf env) s := by
  have hnames : ∀ name ∈ ns, IsName name := fun name hmem =>
    isName_of_mem_names ((hns name).1 hmem)
  have hsetAll : ∀ name ∈ ns, valueOf env name ≠ none := fun name hmem =>
    hset name ((hns name).1 hmem)
  have hrun := (undisturbed_iff hnames hsetAll []).1 h ns [] (List.append_nil ns).symm
  rw [substitute_assigned_nil, List.nil_append] at hrun
  rw [hrun, substitute_assigned fun name hmem => (hns name).2 hmem]

/-! ## Values that disturb nothing -/

/-- Every dollar sign of a text begins a placeholder. -/
def NoStrayDollar (s : List Char) : Prop :=
  ∀ before after, s = before ++ '$' :: after → nameAt? ('$' :: after) ≠ none

theorem names_substitute_of_values {σ : Assignment} {s : List Char} (hstray : NoStrayDollar s)
    (hvalues : ∀ name ∈ names s, ∀ value, σ name = some value → '$' ∉ value) :
    names (substitute σ s) = (names s).filter fun m => (σ m).isNone := by
  induction s using textInduction with
  | nil => rfl
  | plain c rest hnone ih =>
    have hc : c ≠ '$' := by
      rintro rfl
      exact hstray [] rest rfl hnone
    have hrest : NoStrayDollar rest := by
      rintro before after rfl
      exact hstray (c :: before) after rfl
    rw [names_cons_of_eq_none hnone] at hvalues ⊢
    rw [substitute_cons_of_eq_none σ hnone, names_cons_of_eq_none (nameAt?_eq_none_of_ne hc _),
      ih hrest hvalues]
  | named name rest hname ih =>
    have hrest : NoStrayDollar rest := by
      rintro before after rfl
      exact hstray (written name ++ before) after (by rw [List.append_assoc])
    rw [names_written hname] at hvalues ⊢
    obtain ⟨hvalue, hlater⟩ := List.forall_mem_cons.1 hvalues
    rw [substitute_written σ hname]
    cases hσ : σ name with
    | none =>
      rw [inPlace_of_eq_none hσ, names_written hname, ih hrest hlater,
        List.filter_cons_of_pos (by rw [hσ]; rfl)]
    | some value =>
      have hplace : σ.inPlace name = value := by rw [Assignment.inPlace, hσ, Option.getD_some]
      rw [hplace, names_append_of_not_mem (hvalue value hσ), ih hrest hlater,
        List.filter_cons_of_neg (by rw [hσ]; exact Bool.false_ne_true)]

/-- Values without dollar signs disturb nothing, in whatever order they come, in a text
whose dollar signs all begin placeholders. -/
theorem undisturbed_of_values (hstray : NoStrayDollar s)
    (hvalues : ∀ name ∈ names s, ∀ value, valueOf env name = some value → '$' ∉ value)
    (done later : List (List Char)) : Undisturbed env s done later := by
  induction later generalizing done with
  | nil => trivial
  | cons name later ih =>
    refine ⟨.inr ?_, ih (done ++ [name])⟩
    have hdone : ∀ m ∈ names s, ∀ value, assigned env done m = some value → '$' ∉ value := by
      intro m hm value hvalue
      rw [assigned] at hvalue
      split at hvalue
      · exact hvalues m hm value hvalue
      · cases hvalue
    rw [NamedAsGiven, names_substitute_of_values hstray hdone]

end Run

/-! ## Whole texts -/

/-- The text with the values of all variables in place at once. -/
def substituted (env : Environment) (text : String) : String :=
  String.ofList (substitute (valueOf env) text.toList)

/-- How a text is filled in, all of whose variables are set. -/
structure SubstitutesAtOnce (env : Environment) (text : String) : Prop where
  /-- Every value is taken as it is, if no variable meets a placeholder that came in. -/
  once : Undisturbed env text.toList [] (names text.toList) →
    interpolate env text = .ok (substituted env text)
  /-- If one does, its value goes astray. -/
  astray : ¬ Undisturbed env text.toList [] (names text.toList) →
    ∃ before after, names text.toList = before ++ after ∧
      fill env text.toList before ≠ substitute (assigned env before) text.toList
  /-- The same comes out in any other order in which none meets one. -/
  reordered : ∀ ns, (∀ name, name ∈ ns ↔ name ∈ names text.toList) →
    Undisturbed env text.toList [] ns →
      String.ofList (fill env text.toList ns) = substituted env text
  /-- None ever meets one where dollar signs stand at the text's own placeholders only. -/
  values : NoStrayDollar text.toList →
    (∀ name ∈ names text.toList, ∀ value, valueOf env name = some value → '$' ∉ value) →
      ∀ ns, Undisturbed env text.toList [] ns

theorem interpolate_of_set {env : Environment} {text : String}
    (hset : ∀ name ∈ names text.toList, valueOf env name ≠ none) :
    interpolate env text = .ok (String.ofList (fill env text.toList (names text.toList))) := by
  have hfind :
      (names text.toList).find? (fun name => (env (String.ofList name)).isNone) = none := by
    refine List.find?_eq_none.2 fun name hname hnone => hset name hname ?_
    rw [valueOf, Option.isNone_iff_eq_none.1 hnone, Option.map_none]
  simp only [interpolate, hfind]

/-- **All at once**, or else astray: for any text and any environment that sets all
variables of the text. -/
theorem substitutesAtOnce (env : Environment) (text : String)
    (hset : ∀ name ∈ names text.toList, valueOf env name ≠ none) :
    SubstitutesAtOnce env text where
  once := by
    intro h
    rw [interpolate_of_set hset, fill_of_undisturbed (fun _ => Iff.rfl) hset h, substituted]
  astray := by
    intro h
    have hiff := undisturbed_iff (s := text.toList) (fun _ => isName_of_mem_names) hset []
    rw [hiff] at h
    simp only [Classical.not_forall, substitute_assigned_nil, List.nil_append] at h
    obtain ⟨before, after, hsplit, hne⟩ := h
    exact ⟨before, after, hsplit, hne⟩
  reordered := by
    intro ns hns h
    rw [fill_of_undisturbed hns hset h, substituted]
  values := fun hstray hvalues ns => undisturbed_of_values hstray hvalues [] ns

/-- The environment in which two variables are set and no others. -/
def twoSet (a b : String) : Environment := fun name =>
  if name = "A" then some a else if name = "B" then some b else none

/-- Pieces of placeholders that come in with values and are joined to none. -/
theorem substitutesAtOnce_pieces :
    (∀ name ∈ names "$\x7bA\x7d-$\x7bB\x7d-$\x7bA\x7d".toList,
        valueOf (twoSet "\x7bB\x7d$\x7b" "") name ≠ none) ∧
      interpolate (twoSet "\x7bB\x7d$\x7b" "") "$\x7bA\x7d-$\x7bB\x7d-$\x7bA\x7d" =
        .ok "\x7bB\x7d$\x7b--\x7bB\x7d$\x7b" := by
  have hset : ∀ name ∈ names "$\x7bA\x7d-$\x7bB\x7d-$\x7bA\x7d".toList,
      valueOf (twoSet "\x7bB\x7d$\x7b" "") name ≠ none := by decide +kernel
  have hundisturbed : Undisturbed (twoSet "\x7bB\x7d$\x7b" "")
      "$\x7bA\x7d-$\x7bB\x7d-$\x7bA\x7d".toList []
        (names "$\x7bA\x7d-$\x7bB\x7d-$\x7bA\x7d".toList) :=
    ⟨.inr (by decide +kernel), .inr (by decide +kernel), .inr (by decide +kernel), trivial⟩
  have honce := (substitutesAtOnce _ _ hset).once hundisturbed
  have htext : substituted (twoSet "\x7bB\x7d$\x7b" "")
      "$\x7bA\x7d-$\x7bB\x7d-$\x7bA\x7d" = "\x7bB\x7d$\x7b--\x7bB\x7d$\x7b" := by
    decide +kernel
  exact ⟨hset, htext ▸ honce⟩

/-- A value that looks like the placeholder of another variable is replaced in turn. -/
theorem interpolate_ne_substituted_lookalike :
    (∀ name ∈ names "$\x7bA\x7d.$\x7bB\x7d".toList,
        valueOf (twoSet "$\x7bB\x7d" "x") name ≠ none) ∧
      substituted (twoSet "$\x7bB\x7d" "x") "$\x7bA\x7d.$\x7bB\x7d" = "$\x7bB\x7d.x" ∧
        interpolate (twoSet "$\x7bB\x7d" "x") "$\x7bA\x7d.$\x7bB\x7d" = .ok "x.x" ∧
          interpolate (twoSet "$\x7bB\x7d" "x") "$\x7bA\x7d.$\x7bB\x7d" ≠
            .ok (substituted (twoSet "$\x7bB\x7d" "x") "$\x7bA\x7d.$\x7bB\x7d") := by
  have hset : ∀ name ∈ names "$\x7bA\x7d.$\x7bB\x7d".toList,
      valueOf (twoSet "$\x7bB\x7d" "x") name ≠ none := by decide +kernel
  have hvalue : substituted (twoSet "$\x7bB\x7d" "x") "$\x7bA\x7d.$\x7bB\x7d" =
      "$\x7bB\x7d.x" := by decide +kernel
  have hfill : fill (twoSet "$\x7bB\x7d" "x") "$\x7bA\x7d.$\x7bB\x7d".toList
      (names "$\x7bA\x7d.$\x7bB\x7d".toList) = "x.x".toList := by decide +kernel
  have hcode : interpolate (twoSet "$\x7bB\x7d" "x") "$\x7bA\x7d.$\x7bB\x7d" =
      .ok "x.x" := by
    rw [interpolate_of_set hset, hfill, String.ofList_toList]
  refine ⟨hset, hvalue, hcode, ?_⟩
  rw [hvalue, hcode]
  intro hsame
  exact absurd (Except.ok.inj hsame) (by decide)

end CanonicalReply.Settings.Placeholder
