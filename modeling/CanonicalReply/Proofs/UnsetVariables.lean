import CanonicalReply.Proofs.Placeholders
import CanonicalReply.Proofs.Outcome
import CanonicalReply.Settings.Load

/-!
# Variables that are not set

A text is searched for placeholders from left to right, each behind the one before it.
If one of them names a variable that is not set, the first such one is the fault,
whatever the values of the others are and whatever comes in with them.  Loading a file
reports it before the text is read as settings.

* `Scanned`: **the search**, said without the function that does it.
* `scanned_iff`: what is found in a text is found in one way only.
* `mem_names_iff`: every placeholder of a text is found, wherever it stands.
* `foldl_pass`: values that are put in on the way do not matter.
* `interpolate_eq_error_iff`: **the fault** is the first variable that is not set.
* `reportsUnset`: what this says of all texts and of the files that hold them.
-/

namespace CanonicalReply.Settings.Placeholder

/-! ## Names -/

/-- What may begin a name: a capital letter or an underscore. -/
def MayBegin (c : Char) : Prop := ('A' ≤ c ∧ c ≤ 'Z') ∨ c = '_'

/-- What may go on a name: that, or a digit. -/
def MayGoOn (c : Char) : Prop := MayBegin c ∨ ('0' ≤ c ∧ c ≤ '9')

theorem startsName_iff {c : Char} : startsName c = true ↔ MayBegin c := by
  have hupper : c.isUpper = true ↔ 'A' ≤ c ∧ c ≤ 'Z' := decide_eq_true_iff
  rw [startsName, Bool.or_eq_true, hupper, decide_eq_true_iff, MayBegin]

theorem goesOn_iff {c : Char} : goesOn c = true ↔ MayGoOn c := by
  have hdigit : c.isDigit = true ↔ '0' ≤ c ∧ c ≤ '9' := Char.isDigit_iff_toNat
  rw [goesOn, Bool.or_eq_true, startsName_iff, hdigit, MayGoOn]

/-- A name has a character that may begin one, and goes on with such as may go on one. -/
theorem isName_iff {name : List Char} :
    IsName name ↔ ∃ c rest, name = c :: rest ∧ MayBegin c ∧ ∀ d ∈ rest, MayGoOn d := by
  cases name with
  | nil => simp [IsName]
  | cons c rest =>
    simp only [IsName, List.head?_cons, Option.map_some, Option.getD_some, startsName_iff,
      goesOn_iff, List.forall_mem_cons]
    constructor
    · rintro ⟨hbegin, -, hrest⟩
      exact ⟨c, rest, rfl, hbegin, hrest⟩
    · rintro ⟨_, _, heq, hbegin, hrest⟩
      cases heq
      exact ⟨hbegin, .inl hbegin, hrest⟩

/-! ## The search -/

/-- A placeholder stands in a text behind a part of it. -/
def StandsBehind (s front name : List Char) : Prop :=
  IsName name ∧ ∃ back, s = front ++ (written name ++ back)

/-- **The search** from left to right: there is no placeholder, or there is a first one,
and the search goes on behind it. -/
inductive Scanned : List Char → List (List Char) → Prop where
  | nothing {s : List Char} (h : ∀ front name, ¬ StandsBehind s front name) : Scanned s []
  | next {front name back : List Char} {ns : List (List Char)} (hname : IsName name)
      (hfirst : ∀ other m, StandsBehind (front ++ (written name ++ back)) other m →
        front.length ≤ other.length)
      (hrest : Scanned back ns) : Scanned (front ++ (written name ++ back)) (name :: ns)

theorem standsBehind_nil_iff {s name : List Char} :
    StandsBehind s [] name ↔ nameAt? s = some name :=
  nameAt?_eq_some_iff.symm

theorem standsBehind_cons {c d : Char} {s front name : List Char} :
    StandsBehind (c :: s) (d :: front) name ↔ c = d ∧ StandsBehind s front name := by
  simp only [StandsBehind, List.cons_append, List.cons.injEq]
  constructor
  · rintro ⟨hname, back, hc, hs⟩
    exact ⟨hc, hname, back, hs⟩
  · rintro ⟨hc, hname, back, hs⟩
    exact ⟨hname, back, hc, hs⟩

/-- What the function finds is what the search finds. -/
theorem scanned_names (s : List Char) : Scanned s (names s) := by
  induction s using textInduction with
  | nil =>
    refine .nothing ?_
    rintro front name ⟨-, back, hback⟩
    cases front with
    | nil => cases hback
    | cons c front => cases hback
  | plain c rest hnone ih =>
    -- whatever stands in the longer text stands one character further
    have hshift : ∀ front name, StandsBehind (c :: rest) front name →
        ∃ tail, front = c :: tail ∧ StandsBehind rest tail name := by
      intro front name hstands
      cases front with
      | nil =>
        rw [standsBehind_nil_iff, hnone] at hstands
        cases hstands
      | cons d tail =>
        obtain ⟨rfl, htail⟩ := standsBehind_cons.1 hstands
        exact ⟨tail, rfl, htail⟩
    rw [names_cons_of_eq_none hnone]
    generalize names rest = ns at ih
    cases ih with
    | nothing h =>
      refine .nothing fun front name hstands => ?_
      obtain ⟨tail, -, htail⟩ := hshift front name hstands
      exact h tail name htail
    | @next front name back ns hname hfirst hrest =>
      show Scanned (c :: front ++ (written name ++ back)) (name :: ns)
      refine .next hname ?_ hrest
      intro other m hstands
      obtain ⟨tail, rfl, htail⟩ := hshift other m hstands
      exact Nat.succ_le_succ (hfirst tail m htail)
  | named name rest hname ih =>
    rw [names_written hname]
    show Scanned ([] ++ (written name ++ rest)) (name :: names rest)
    exact .next hname (fun _ _ _ => Nat.zero_le _) ih

/-- **One search**: what is found in a text is found in one way only. -/
theorem scanned_iff {s : List Char} {ns : List (List Char)} : Scanned s ns ↔ names s = ns := by
  constructor
  · intro h
    induction h with
    | @nothing s h =>
      refine List.eq_nil_iff_forall_not_mem.2 fun name hname => ?_
      obtain ⟨front, back, hs, -⟩ := exists_first_place hname
      exact h front name ⟨isName_of_mem_names hname, back, hs⟩
    | @next front name back ns hname hfirst hrest ih =>
      have hnone : names front = [] := by
        refine List.eq_nil_iff_forall_not_mem.2 fun m hm => ?_
        obtain ⟨x, y, rfl, -⟩ := exists_first_place hm
        have hle := hfirst x m ⟨isName_of_mem_names hm, y ++ (written name ++ back), by
          simp only [List.append_assoc]⟩
        have hpositive : 0 < (written m).length := Nat.zero_lt_succ _
        rw [List.length_append, List.length_append] at hle
        omega
      rw [names_append_written front hname, hnone, ih, List.nil_append]
  · rintro rfl
    exact scanned_names s

/-- **Every placeholder** of a text is found, wherever it stands. -/
theorem mem_names_iff {s name : List Char} :
    name ∈ names s ↔ IsName name ∧ written name <:+: s := by
  constructor
  · intro h
    obtain ⟨front, back, rfl, -⟩ := exists_first_place h
    exact ⟨isName_of_mem_names h, front, back, List.append_assoc ..⟩
  · rintro ⟨hname, front, back, rfl⟩
    rw [List.append_assoc, names_append_written front hname]
    simp

example : names "$\x7bA_1\x7d $\x7b$\x7bB\x7d\x7d $$\x7b_\x7d $\x7b\x7d $\x7bc\x7d $\x7bD".toList =
    ["A_1".toList, "B".toList, "_".toList] := by
  decide +kernel

/-! ## Values that are put in on the way -/

section Fault

variable {env : Environment} {text : String}

/-- A name is that of a variable that is not set. -/
def IsUnset (env : Environment) (name : List Char) : Prop := env (String.ofList name) = none

instance (env : Environment) (name : List Char) : Decidable (IsUnset env name) :=
  inferInstanceAs (Decidable (_ = _))

/-- One step of a single pass over the names: a value is put in, or the name of a variable
that is not set is noted. -/
def pass (env : Environment) (state : List Char × List (List Char)) (name : List Char) :
    List Char × List (List Char) :=
  match env (String.ofList name) with
  | some value => (replaceAll (written name) value.toList state.1, state.2)
  | none => (state.1, state.2 ++ [name])

/-- **The pass** notes the variables that are not set, whatever it puts in on the way. -/
theorem foldl_pass (ns : List (List Char)) (s : List Char) (noted : List (List Char)) :
    ns.foldl (pass env) (s, noted) =
      (fill env s ns, noted ++ ns.filter fun name => (env (String.ofList name)).isNone) := by
  induction ns generalizing s noted with
  | nil => simp [fill]
  | cons name ns ih =>
    rw [List.foldl_cons, fill, List.foldl_cons, ← fill, pass]
    cases hvalue : env (String.ofList name) with
    | none => simp [ih, hvalue]
    | some value => simp [ih, hvalue]

/-! ## The fault -/

theorem find?_unset_eq_some_iff {name : List Char} {ns : List (List Char)} :
    ns.find? (fun name => (env (String.ofList name)).isNone) = some name ↔
      ∃ before after, ns = before ++ name :: after ∧ (∀ m ∈ before, ¬ IsUnset env m) ∧
        IsUnset env name := by
  have hset : ∀ m, (!(env (String.ofList m)).isNone) = true ↔ ¬ IsUnset env m := by
    intro m
    rw [Bool.not_eq_true', ← Bool.not_eq_true, Option.isNone_iff_eq_none, IsUnset]
  rw [List.find?_eq_some_iff_append, Option.isNone_iff_eq_none]
  simp only [hset]
  constructor
  · rintro ⟨hname, before, after, hsplit, hbefore⟩
    exact ⟨before, after, hsplit, hbefore, hname⟩
  · rintro ⟨before, after, hsplit, hbefore, hname⟩
    exact ⟨hname, before, after, hsplit, hbefore⟩

/-- **The fault** of a text is the first of its variables that is not set. -/
theorem interpolate_eq_error_iff {e : LoadFault} :
    interpolate env text = .error e ↔
      ∃ before name after, names text.toList = before ++ name :: after ∧
        (∀ m ∈ before, ¬ IsUnset env m) ∧ IsUnset env name ∧ e = .unset (String.ofList name) := by
  constructor
  · intro h
    simp only [interpolate] at h
    split at h
    case h_1 name hfind =>
      cases h
      obtain ⟨before, after, hsplit, hbefore, hname⟩ := find?_unset_eq_some_iff.1 hfind
      exact ⟨before, name, after, hsplit, hbefore, hname, rfl⟩
    case h_2 => cases h
  · rintro ⟨before, name, after, hsplit, hbefore, hname, rfl⟩
    have hfind := find?_unset_eq_some_iff.2 ⟨before, after, hsplit, hbefore, hname⟩
    simp only [interpolate, hfind]

/-- A text fails just if it names a variable that is not set. -/
theorem exists_interpolate_eq_error_iff :
    (∃ e, interpolate env text = .error e) ↔ ∃ name ∈ names text.toList, IsUnset env name := by
  constructor
  · rintro ⟨e, he⟩
    obtain ⟨before, name, after, hsplit, -, hname, -⟩ := interpolate_eq_error_iff.1 he
    exact ⟨name, by rw [hsplit]; simp, hname⟩
  · rintro ⟨name, hmem, hname⟩
    have hsome : ((names text.toList).find? fun name => (env (String.ofList name)).isNone).isSome :=
      List.find?_isSome.2 ⟨name, hmem, Option.isNone_iff_eq_none.2 hname⟩
    obtain ⟨first, hfirst⟩ := Option.isSome_iff_exists.1 hsome
    obtain ⟨before, after, hsplit, hbefore, hunset⟩ := find?_unset_eq_some_iff.1 hfirst
    exact ⟨_, interpolate_eq_error_iff.2 ⟨before, first, after, hsplit, hbefore, hunset, rfl⟩⟩

/-- Only which variables are set decides about the fault. -/
theorem interpolate_eq_error_congr {other : Environment}
    (h : ∀ v, other v = none ↔ env v = none) (e : LoadFault) :
    interpolate other text = .error e ↔ interpolate env text = .error e := by
  simp only [interpolate_eq_error_iff, IsUnset, h]

theorem interpolate_of_scanned_nil (h : Scanned text.toList []) :
    interpolate env text = .ok text := by
  have hnames := scanned_iff.1 h
  simp only [interpolate, hnames, List.find?_nil, fill, List.foldl_nil, String.ofList_toList]

/-- The outcome of a single pass: the first name that was noted, or else the text. -/
def outcome : List Char × List (List Char) → Except LoadFault String
  | (_, name :: _) => .error (.unset (String.ofList name))
  | (s, []) => .ok (String.ofList s)

/-- Going through the names once comes to the same. -/
theorem interpolate_eq_outcome (env : Environment) (text : String) :
    interpolate env text = outcome ((names text.toList).foldl (pass env) (text.toList, [])) := by
  rw [foldl_pass, List.nil_append, interpolate, ← List.head?_filter]
  cases (names text.toList).filter fun name => (env (String.ofList name)).isNone with
  | nil => rfl
  | cons name more => rfl

/-! ## Files -/

/-- A file is reported for a variable that is not set just if its text is. -/
theorem loadWith_eq_unset_iff {reader : String → Except LoadFault Settings}
    (hreader : ∀ t v, reader t ≠ .error (.unset v)) {path : String} {bytes : ByteArray}
    (htext : String.fromUTF8? bytes = some text) {v : String} :
    loadWith reader env path (some bytes) = .error (.unset v) ↔
      interpolate env text = .error (.unset v) := by
  cases hfill : interpolate env text with
  | error e => simp only [loadWith, htext, hfill, Except.error.injEq]
  | ok filled =>
    refine iff_of_false (fun h => ?_) fun h => nomatch h
    simp only [loadWith, htext, hfill] at h
    split at h
    case h_1 e he =>
      cases h
      exact hreader _ _ he
    case h_2 s hs =>
      obtain ⟨_, -, hinvalid⟩ := Except.mapError_eq_error_iff.1 h
      cases hinvalid

theorem ofJson_ne_unset (path text v : String) : ofJson path text ≠ .error (.unset v) := by
  intro h
  obtain ⟨_, -, hmalformed⟩ := Except.mapError_eq_error_iff.1 h
  cases hmalformed

theorem ofYaml_ne_unset (path text v : String) : ofYaml path text ≠ .error (.unset v) := by
  intro h
  obtain ⟨_, -, hmalformed⟩ := Except.mapError_eq_error_iff.1 h
  cases hmalformed

/-! ## Whole texts -/

/-- How variables of a text that are not set are reported. -/
structure ReportsUnset (env : Environment) (text : String) : Prop where
  /-- The names are those that begin with a capital letter or an underscore and go on with
  such, or with digits. -/
  names_iff : ∀ name, IsName name ↔
    ∃ c rest, name = c :: rest ∧ MayBegin c ∧ ∀ d ∈ rest, MayGoOn d
  /-- A text fails just if one of the placeholders that are found in it from left to right
  names a variable that is not set. -/
  fails_iff : (∃ e, interpolate env text = .error e) ↔
    ∃ ns, Scanned text.toList ns ∧ ∃ name ∈ ns, IsUnset env name
  /-- It does not matter how the text is searched: any placeholder in it counts. -/
  anywhere_iff : (∃ e, interpolate env text = .error e) ↔
    ∃ name, IsName name ∧ written name <:+: text.toList ∧ IsUnset env name
  /-- The fault is the first such variable. -/
  first_iff : ∀ e, interpolate env text = .error e ↔
    ∃ before name after, Scanned text.toList (before ++ name :: after) ∧
      (∀ m ∈ before, ¬ IsUnset env m) ∧ IsUnset env name ∧ e = .unset (String.ofList name)
  /-- It stays the same, whatever the values of the others are. -/
  whatever : ∀ other : Environment, (∀ v, other v = none ↔ env v = none) →
    ∀ e, interpolate other text = .error e ↔ interpolate env text = .error e
  /-- It is the same if values are put in while the names are gone through. -/
  onTheWay : interpolate env text =
    outcome ((names text.toList).foldl (pass env) (text.toList, []))
  /-- A text without placeholders stays as it is. -/
  unchanged : Scanned text.toList [] → interpolate env text = .ok text
  /-- A file of JSON text that can be read is reported just if its text is. -/
  json_iff : ∀ path bytes v, String.fromUTF8? bytes = some text →
    (loadJson env path (some bytes) = .error (.unset v) ↔
      interpolate env text = .error (.unset v))
  /-- A file of YAML text likewise. -/
  yaml_iff : ∀ path bytes v, String.fromUTF8? bytes = some text →
    (loadYaml env path (some bytes) = .error (.unset v) ↔
      interpolate env text = .error (.unset v))

/-- **Variables that are not set** are reported first, in any text and any environment. -/
theorem reportsUnset (env : Environment) (text : String) : ReportsUnset env text where
  names_iff := fun _ => isName_iff
  fails_iff := by
    simp only [exists_interpolate_eq_error_iff, scanned_iff, exists_eq_left']
  anywhere_iff := by
    simp only [exists_interpolate_eq_error_iff, mem_names_iff, and_assoc]
  first_iff := by
    simp only [interpolate_eq_error_iff, scanned_iff, implies_true]
  whatever := fun _ h e => interpolate_eq_error_congr h e
  onTheWay := interpolate_eq_outcome env text
  unchanged := interpolate_of_scanned_nil
  json_iff := fun path _ _ htext => loadWith_eq_unset_iff (ofJson_ne_unset path) htext
  yaml_iff := fun path _ _ htext => loadWith_eq_unset_iff (ofYaml_ne_unset path) htext

end Fault

end CanonicalReply.Settings.Placeholder
