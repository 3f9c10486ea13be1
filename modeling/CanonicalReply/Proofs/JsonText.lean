import CanonicalReply.Json.Reader
import CanonicalReply.Json.Writer
import CanonicalReply.Dict.Lemmas
import CanonicalReply.Proofs.Outcome

/-!
# Written JSON is read back

A reader that comes to the text of a value gives that value, and goes on behind it.
This holds of values in which every number is an integer of 64 bits; the digits of a
double are not followed here.

* `readString_append`: strings, whatever their characters.
* `readNumber_append`: integers, where no digit and no fraction follows.
* `Exact`: the values that their texts say exactly.
* `Exact.readsText`: **a value in front of anything else**, lists and objects by
  their items and members.
* `Exact.parse_compact`: **whole texts.**
-/

namespace CanonicalReply.Json

/-! ## Strings -/

theorem hexValue?_digitChar : ∀ d < 16, Text.hexValue? (Nat.digitChar d) = some d := by
  decide

/-- An escape by number, as it is written for a control character, is read back. -/
theorem readNumberedChar_append {c : Char} (hc : c.toNat < 0x20) (rest : List Char) :
    readNumberedChar
        ('0' :: '0' :: Nat.digitChar (c.toNat / 16) :: Nat.digitChar (c.toNat % 16) :: rest) =
      .ok (c, rest) := by
  have hhigh := hexValue?_digitChar (c.toNat / 16) (by omega)
  have hlow := hexValue?_digitChar (c.toNat % 16) (by omega)
  have hzero : Text.hexValue? '0' = some 0 := rfl
  have hvalue : ((0 * 16 + 0) * 16 + c.toNat / 16) * 16 + c.toNat % 16 = c.toNat := by omega
  have hlone : ¬ (0xDC00 ≤ c.toNat ∧ c.toNat ≤ 0xDFFF) := by omega
  have hplane : c.toNat < 0xD800 ∨ 0xDBFF < c.toNat := by omega
  simp only [readNumberedChar, readHex4, hzero, hhigh, hlow, hvalue, if_neg hlone, if_pos hplane,
    Char.ofNat_toNat]

theorem readStringChars_escape {c : Char} {s rest : List Char} (h : readEscape s = .ok (c, rest))
    (steps : Nat) : readStringChars (steps + 1) ('\\' :: s) =
      (readStringChars steps rest).map fun r => (c :: r.1, r.2) := by
  simp only [readStringChars, h]
  cases readStringChars steps rest <;> rfl

theorem readStringChars_plain {c : Char} (hquote : c ≠ '"') (hslash : c ≠ '\\')
    (hplain : ¬ c.toNat < 0x20) (steps : Nat) (rest : List Char) :
    readStringChars (steps + 1) (c :: rest) =
      (readStringChars steps rest).map fun r => (c :: r.1, r.2) := by
  simp only [readStringChars, if_neg hplain]
  cases readStringChars steps rest <;> rfl

/-- One character of a string is read back, and what is behind it is read as before. -/
theorem readStringChars_escapeChar (c : Char) (steps : Nat) (rest : List Char) :
    readStringChars (steps + 1) (escapeChar c ++ rest) =
      (readStringChars steps rest).map fun r => (c :: r.1, r.2) := by
  unfold escapeChar
  split
  case h_8 hquote hslash _ _ _ _ _ =>
    split
    case isTrue hcontrol =>
      have hread : readEscape ('u' :: '0' :: '0' :: Nat.digitChar (c.toNat / 16) ::
          Nat.digitChar (c.toNat % 16) :: rest) = .ok (c, rest) :=
        readNumberedChar_append hcontrol rest
      exact readStringChars_escape hread steps
    case isFalse hplain => exact readStringChars_plain hquote hslash hplain steps rest
  -- The other characters have escapes of their own.
  all_goals exact readStringChars_escape rfl steps

theorem one_le_length_escapeChar (c : Char) : 1 ≤ (escapeChar c).length := by
  unfold escapeChar
  split
  case h_8 => split <;> exact Nat.le_add_left 1 _
  all_goals exact Nat.le_add_left 1 _

/-- The text of a string is read back up to its closing quote. -/
theorem readStringChars_append (cs rest : List Char) :
    ∀ steps, cs.length < steps →
      readStringChars steps (cs.flatMap escapeChar ++ '"' :: rest) = .ok (cs, rest) := by
  induction cs with
  | nil =>
    rintro (_ | steps) hsteps
    · cases hsteps
    · rfl
  | cons c cs ih =>
    rintro (_ | steps) hsteps
    · cases hsteps
    · rw [List.flatMap_cons, List.append_assoc, readStringChars_escapeChar,
        ih steps (Nat.lt_of_succ_lt_succ hsteps), Except.map]

theorem stringChars_append (s : String) (rest : List Char) :
    stringChars s ++ rest = '"' :: (s.toList.flatMap escapeChar ++ '"' :: rest) := by
  rw [stringChars, List.cons_append, List.append_assoc, List.singleton_append]

theorem length_le_length_flatMap_escapeChar (cs : List Char) :
    cs.length ≤ (cs.flatMap escapeChar).length := by
  induction cs with
  | nil => exact Nat.le_refl 0
  | cons c cs ih =>
    have hone := one_le_length_escapeChar c
    rw [List.flatMap_cons, List.length_append, List.length_cons]
    omega

theorem readString_append (s : String) (rest : List Char) :
    readString (s.toList.flatMap escapeChar ++ '"' :: rest) = .ok (s, rest) := by
  have hescaped := length_le_length_flatMap_escapeChar s.toList
  have hsteps : s.toList.length < (s.toList.flatMap escapeChar ++ '"' :: rest).length + 1 := by
    rw [List.length_append]
    omega
  rw [readString, readStringChars_append _ _ _ hsteps]
  simp only [String.ofList_toList]

/-! ## Integers -/

/-- A text that does not go on a number: it begins neither with a digit nor with a
fraction. -/
def Stops (rest : List Char) : Prop :=
  (rest.head?.map Char.isDigit).getD false = false ∧ startsFraction rest = false

theorem takeWhile_of_stops {rest : List Char} (h : Stops rest) :
    rest.takeWhile Char.isDigit = [] ∧ rest.dropWhile Char.isDigit = rest := by
  cases rest with
  | nil => exact ⟨rfl, rfl⟩
  | cons c cs =>
    have hc : ¬ c.isDigit = true := Bool.not_eq_true _ ▸ h.1
    exact ⟨List.takeWhile_cons_of_neg hc, List.dropWhile_cons_of_neg hc⟩

/-- A natural number is written with digits and nothing else. -/
theorem not_mem_toDigits {c : Char} (h : c.isDigit = false) (n : Nat) : c ∉ Nat.toDigits 10 n := by
  intro hmem
  have hdigit := Nat.isDigit_of_mem_toDigits (by decide) (by decide) hmem
  rw [h] at hdigit
  cases hdigit

/-- No number is written with a zero in front. -/
theorem head?_toDigits_eq_zero_iff (n : Nat) :
    (Nat.toDigits 10 n).head? = some '0' ↔ n = 0 := by
  induction n using Nat.strongRecOn with
  | ind n ih =>
    by_cases hn : n < 10
    · rw [Nat.toDigits_of_lt_base hn, List.head?_cons, Option.some_inj, Nat.digitChar_eq_zero]
    · have hhead := ih (n / 10) (by omega)
      obtain ⟨c, cs, hcons⟩ :=
        List.exists_cons_of_ne_nil (Nat.toDigits_ne_nil (n := n / 10) (b := 10))
      rw [hcons] at hhead
      rw [Nat.toDigits_of_base_le (by decide) (by omega), hcons]
      exact hhead.trans (by omega)

/-- A natural number begins with a digit, and with a zero only where it ends there. -/
theorem exists_toDigits_eq_cons (n : Nat) :
    ∃ c cs, Nat.toDigits 10 n = c :: cs ∧ c.isDigit = true ∧ (c = '0' → cs = []) := by
  obtain ⟨c, cs, hcons⟩ := List.exists_cons_of_ne_nil (Nat.toDigits_ne_nil (n := n) (b := 10))
  have hmem : c ∈ Nat.toDigits 10 n := hcons ▸ List.mem_cons_self
  refine ⟨c, cs, hcons, Nat.isDigit_of_mem_toDigits (by decide) (by decide) hmem, ?_⟩
  rintro rfl
  have hzero : n = 0 := (head?_toDigits_eq_zero_iff n).1 (by rw [hcons, List.head?_cons])
  rw [hzero, Nat.toDigits_zero] at hcons
  exact (List.cons.inj hcons).2.symm

/-- Digits of a number of 64 bits are all taken. -/
theorem absorb_eq (n : Nat) (ds : List Char) (h : Nat.ofDigitChars 10 ds n < UInt64.size) :
    absorb n ds = (Nat.ofDigitChars 10 ds n, []) := by
  induction ds generalizing n with
  | nil => rw [absorb, Nat.ofDigitChars_nil]
  | cons c ds ih =>
    rw [Nat.ofDigitChars_cons, Nat.mul_comm] at h ⊢
    have hle : n * 10 + (c.toNat - '0'.toNat) ≤
        Nat.ofDigitChars 10 ds (n * 10 + (c.toNat - '0'.toNat)) := by
      rw [Nat.ofDigitChars_eq_ofDigitChars_zero]
      exact Nat.le_add_right_of_le (Nat.le_mul_of_pos_left _ (Nat.pow_pos (by decide)))
    rw [absorb, if_pos (Nat.lt_of_le_of_lt hle h), ih _ h]

/-- The digits of a number of 64 bits are read back, with the sign in front of them. -/
theorem readNumber_append (negative : Bool) {n : Nat} (hn : n < UInt64.size) {rest : List Char}
    (hrest : Stops rest) :
    readNumber negative (Nat.toDigits 10 n ++ rest) =
      if !negative then .ok (.int n, rest)
      else if n = 0 ∨ Nat.pow 2 63 < n then finishDouble true ⟨n, 0⟩ rest
      else .ok (.int (-n), rest) := by
  have hdigits : ∀ c ∈ Nat.toDigits 10 n, c.isDigit = true :=
    fun c hc => Nat.isDigit_of_mem_toDigits (by decide) (by decide) hc
  obtain ⟨htake, hdrop⟩ := takeWhile_of_stops hrest
  have htakeAll : (Nat.toDigits 10 n ++ rest).takeWhile Char.isDigit = Nat.toDigits 10 n := by
    rw [List.takeWhile_append_of_pos hdigits, htake, List.append_nil]
  have hdropAll : (Nat.toDigits 10 n ++ rest).dropWhile Char.isDigit = rest := by
    rw [List.dropWhile_append_of_pos hdigits, hdrop]
  have habsorb : absorb 0 (Nat.toDigits 10 n) = (n, []) := by
    rw [absorb_eq _ _ (by rwa [Nat.ofDigitChars_ten_toDigits]), Nat.ofDigitChars_ten_toDigits]
  obtain ⟨c, cs, hcons, hc, hend⟩ := exists_toDigits_eq_cons n
  have hzero : ¬ (c = '0' ∧ ((cs ++ rest).head?.map Char.isDigit).getD false = true) := by
    rintro ⟨hc0, hnext⟩
    rw [hend hc0, List.nil_append, hrest.1] at hnext
    cases hnext
  rw [hcons, List.cons_append] at htakeAll hdropAll ⊢
  rw [readNumber]
  simp only [hc, Bool.not_true, Bool.false_eq_true, if_false, if_neg hzero, htakeAll, hdropAll,
    ← hcons, habsorb, List.isEmpty_nil, hrest.2, or_self]

/-! ## Values -/

/-- A value that its text says exactly, at most so many levels deep: the numbers are
integers of 64 bits. -/
inductive Exact : Nat → Json → Prop
  | null {depth : Nat} : Exact depth .null
  | bool {depth : Nat} (b : Bool) : Exact depth (.bool b)
  | int {depth : Nat} {n : Int} (hlow : Int64.minValue.toInt ≤ n) (hhigh : n < UInt64.size) :
      Exact depth (.num (.int n))
  | str {depth : Nat} (s : String) : Exact depth (.str s)
  | arr {depth : Nat} {vs : List Json} (h : ∀ v ∈ vs, Exact depth v) : Exact (depth + 1) (.arr vs)
  | obj {depth : Nat} {d : Dict Json} (h : ∀ e ∈ d.entries, Exact depth e.2) :
      Exact (depth + 1) (.ofDict d)

theorem Exact.nat {depth n : Nat} (h : n < UInt64.size) : Exact depth (.num (.int n)) := by
  have hmin : Int64.minValue.toInt = -9223372036854775808 := rfl
  exact .int (by omega) (by omega)

/-- What stands in front of an item or a member: nothing before the first one. -/
def separator (first : Bool) : List Char := if first then [] else [',']

/-- What is written of a list behind its opening bracket, or behind an item. -/
def itemsText (first : Bool) : List Json → List Char
  | [] => [']']
  | v :: vs => separator first ++ itemChars (v :: vs)

/-- What is written of an object behind its opening brace, or behind a member. -/
def membersText (first : Bool) : List (String × Json) → List Char
  | [] => ['\x7d']
  | e :: es => separator first ++ memberChars (e :: es)

theorem itemsText_true (vs : List Json) : itemsText true vs = itemChars vs := by
  cases vs with
  | nil => rw [itemsText, itemChars]
  | cons v vs => rfl

theorem membersText_true (es : List (String × Json)) : membersText true es = memberChars es := by
  cases es with
  | nil => rw [membersText, memberChars]
  | cons e es => rfl

theorem itemsText_cons (first : Bool) (v : Json) (vs : List Json) :
    itemsText first (v :: vs) = separator first ++ (v.chars ++ itemsText false vs) := by
  cases vs with
  | nil => simp only [itemsText, itemChars]
  | cons w vs =>
    simp only [itemsText, itemChars, separator, Bool.false_eq_true, if_false]
    rfl

theorem membersText_cons (first : Bool) (k : String) (v : Json) (es : List (String × Json)) :
    membersText first ((k, v) :: es) =
      separator first ++ (stringChars k ++ ':' :: (v.chars ++ membersText false es)) := by
  cases es with
  | nil => simp only [membersText, memberChars, List.append_assoc, List.cons_append]
  | cons e es =>
    simp only [membersText, memberChars, separator, Bool.false_eq_true, if_false,
      List.append_assoc, List.cons_append]
    rfl

theorem stops_itemsText (vs : List Json) (rest : List Char) :
    Stops (itemsText false vs ++ rest) := by
  cases vs <;> exact ⟨rfl, rfl⟩

theorem stops_membersText (es : List (String × Json)) (rest : List Char) :
    Stops (membersText false es ++ rest) := by
  cases es <;> exact ⟨rfl, rfl⟩

theorem skipSpace_cons {c : Char} (hc : isSpace c = false) (rest : List Char) :
    skipSpace (c :: rest) = c :: rest :=
  List.dropWhile_cons_of_neg (Bool.not_eq_true _ ▸ hc)

theorem not_isSpace_of_isDigit {c : Char} (hc : c.isDigit = true) : isSpace c = false := by
  by_cases h : isSpace c = true
  · simp only [isSpace, Bool.or_eq_true, decide_eq_true_eq] at h
    rcases h with ((rfl | rfl) | rfl) | rfl <;> cases hc
  · exact Bool.not_eq_true _ ▸ h

/-- The text of a value begins with none of the characters between values. -/
theorem Exact.exists_chars_eq_cons {depth : Nat} {v : Json} (h : Exact depth v) :
    ∃ c cs, v.chars = c :: cs ∧ isSpace c = false ∧ c ≠ ']' := by
  cases h with
  | null => exact ⟨_, _, by rw [chars], rfl, by decide⟩
  | bool b => cases b <;> exact ⟨_, _, by rw [chars], rfl, by decide⟩
  | str s => exact ⟨_, _, by rw [chars, stringChars], rfl, by decide⟩
  | arr h => exact ⟨_, _, by rw [chars], rfl, by decide⟩
  | obj h => exact ⟨_, _, by rw [ofDict, chars], rfl, by decide⟩
  | @int _ n _ _ =>
    rw [chars, Number.chars, intChars]
    split
    · exact ⟨_, _, rfl, rfl, by decide⟩
    · obtain ⟨c, cs, hcons, hc, -⟩ := exists_toDigits_eq_cons n.natAbs
      refine ⟨c, cs, hcons, not_isSpace_of_isDigit hc, ?_⟩
      rintro rfl
      cases hc

/-! ### Reading one value -/

theorem readValue_of_isDigit {c : Char} (hc : c.isDigit = true) (steps depth : Nat)
    (rest : List Char) : readValue (steps + 1) depth (c :: rest) =
      (readNumber false (c :: rest)).map fun r => (.num r.1, r.2) := by
  rw [readValue, skipSpace_cons (not_isSpace_of_isDigit hc)]
  split
  case h_1 heq => cases heq
  case h_9 heq =>
    cases heq
    rw [if_pos hc]
  all_goals
    rename_i heq
    cases heq
    cases hc

theorem readValue_int {n : Int} (hlow : Int64.minValue.toInt ≤ n) (hhigh : n < UInt64.size)
    (steps depth : Nat) {rest : List Char} (hrest : Stops rest) :
    readValue (steps + 1) depth (intChars n ++ rest) = .ok (.num (.int n), rest) := by
  have hmin : Int64.minValue.toInt = -9223372036854775808 := rfl
  have hsize : n.natAbs < UInt64.size := by
    rw [UInt64.size] at hhigh ⊢
    omega
  rw [intChars]
  split
  case isTrue hneg =>
    have hfits : ¬ (n.natAbs = 0 ∨ Nat.pow 2 63 < n.natAbs) := by
      rw [show Nat.pow 2 63 = 9223372036854775808 from rfl]
      omega
    have hvalue : -(n.natAbs : Int) = n := by omega
    rw [List.cons_append, readValue, skipSpace_cons rfl]
    simp only [readNumber_append true hsize hrest, Bool.not_true, Bool.false_eq_true, if_false,
      if_neg hfits, Except.map, hvalue]
  case isFalse hpos =>
    have hvalue : (n.natAbs : Int) = n := by omega
    obtain ⟨c, cs, hcons, hc, -⟩ := exists_toDigits_eq_cons n.natAbs
    have hread := readNumber_append false hsize hrest
    rw [hcons, List.cons_append] at hread ⊢
    rw [readValue_of_isDigit hc, hread, Bool.not_false, if_pos rfl, Except.map, hvalue]

theorem readValue_str (s : String) (steps depth : Nat) (rest : List Char) :
    readValue (steps + 1) depth (stringChars s ++ rest) = .ok (.str s, rest) := by
  rw [stringChars_append, readValue, skipSpace_cons rfl]
  simp only [readString_append, Except.map]

/-! ### Lists and objects -/

theorem itemStart_separator {c : Char} (hspace : isSpace c = false) (hclose : c ≠ ']')
    (first : Bool) (cs : List Char) :
    itemStart first (separator first ++ c :: cs) = .ok (c :: cs) := by
  cases first with
  | true => rfl
  | false =>
    simp only [separator, itemStart, Bool.false_eq_true, if_false, List.singleton_append,
      skipSpace_cons hspace]
    split
    case h_1 heq => cases heq
    case h_2 heq =>
      cases heq
      exact absurd rfl hclose
    case h_3 => rfl

theorem keyStart_separator (first : Bool) (rest : List Char) :
    keyStart first (separator first ++ '"' :: rest) = .ok rest := by
  cases first <;> rfl

theorem readItems_cons {steps depth : Nat} {first : Bool} {c : Char} {cs s rest : List Char}
    {v : Json} (hspace : isSpace c = false) (hclose : c ≠ ']')
    (hstart : itemStart first (c :: cs) = .ok s) (hv : readValue steps depth s = .ok (v, rest)) :
    readItems (steps + 1) depth first (c :: cs) =
      (readItems steps depth false rest).map fun r => (v :: r.1, r.2) := by
  rw [readItems, skipSpace_cons hspace]
  split
  case h_1 heq => cases heq
  case h_2 heq =>
    cases heq
    exact absurd rfl hclose
  case h_3 heq =>
    cases heq
    simp only [hstart, hv]

theorem readMembers_cons {steps depth : Nat} {first : Bool} {c : Char} {cs s rest : List Char}
    {k : String} {v : Json} (hspace : isSpace c = false) (hclose : c ≠ '\x7d')
    (hstart : keyStart first (c :: cs) = .ok (k.toList.flatMap escapeChar ++ '"' :: ':' :: s))
    (hv : readValue steps depth s = .ok (v, rest)) :
    readMembers (steps + 1) depth first (c :: cs) =
      (readMembers steps depth false rest).map fun r => ((k, v) :: r.1, r.2) := by
  have hcolon : colonEnd (':' :: s) = .ok s := rfl
  rw [readMembers, skipSpace_cons hspace]
  split
  case h_1 heq => cases heq
  case h_2 heq =>
    cases heq
    exact absurd rfl hclose
  case h_3 heq =>
    cases heq
    simp only [hstart, readString_append, hcolon, hv]

section Reads

variable {depth : Nat}

/-- The text of a value is read back in any number of steps above its length. -/
def ReadsText (depth : Nat) (v : Json) : Prop :=
  ∀ steps rest, v.chars.length < steps → Stops rest →
    readValue steps depth (v.chars ++ rest) = .ok (v, rest)

/-- One item of a list, with what separates it from the last one. -/
theorem readItems_item {steps : Nat} {v : Json} (hexact : Exact depth v)
    (hreads : ReadsText depth v) (hsteps : v.chars.length < steps) (first : Bool) {rest : List Char}
    (hrest : Stops rest) :
    readItems (steps + 1) depth first (separator first ++ (v.chars ++ rest)) =
      (readItems steps depth false rest).map fun r => (v :: r.1, r.2) := by
  obtain ⟨c, cs, hcons, hspace, hclose⟩ := hexact.exists_chars_eq_cons
  have hread := hreads steps rest hsteps hrest
  rw [hcons, List.cons_append] at hread ⊢
  have hstart := itemStart_separator hspace hclose first (cs ++ rest)
  cases first with
  | true => exact readItems_cons hspace hclose hstart hread
  | false => exact readItems_cons rfl (by decide) hstart hread

/-- One member of an object, with what separates it from the last one. -/
theorem readMembers_member {steps : Nat} {v : Json} (hreads : ReadsText depth v)
    (hsteps : v.chars.length < steps) (first : Bool) (k : String) {rest : List Char}
    (hrest : Stops rest) :
    readMembers (steps + 1) depth first
        (separator first ++ (stringChars k ++ ':' :: (v.chars ++ rest))) =
      (readMembers steps depth false rest).map fun r => ((k, v) :: r.1, r.2) := by
  have hread := hreads steps rest hsteps hrest
  have hstart := keyStart_separator first (k.toList.flatMap escapeChar ++
    '"' :: ':' :: (v.chars ++ rest))
  rw [stringChars_append]
  cases first with
  | true => exact readMembers_cons rfl (by decide) hstart hread
  | false => exact readMembers_cons rfl (by decide) hstart hread

theorem readItems_append {vs : List Json} (hexact : ∀ v ∈ vs, Exact depth v)
    (hreads : ∀ v ∈ vs, ReadsText depth v) (first : Bool) (steps : Nat) (rest : List Char)
    (hsteps : (itemsText first vs).length < steps) :
    readItems steps depth first (itemsText first vs ++ rest) = .ok (vs, rest) := by
  induction vs generalizing first steps with
  | nil =>
    cases steps with
    | zero => cases hsteps
    | succ steps => rfl
  | cons v vs ih =>
    cases steps with
    | zero => cases hsteps
    | succ steps =>
      obtain ⟨hv, hvs⟩ := List.forall_mem_cons.1 hreads
      obtain ⟨hve, hvse⟩ := List.forall_mem_cons.1 hexact
      have hend : 0 < (itemsText false vs).length := by
        cases vs <;> exact Nat.zero_lt_succ _
      have hbegin : 0 < v.chars.length := by
        obtain ⟨c, cs, hcons, -⟩ := hve.exists_chars_eq_cons
        rw [hcons]
        exact Nat.zero_lt_succ _
      rw [itemsText_cons, List.length_append, List.length_append] at hsteps
      have hitem : v.chars.length < steps := by omega
      have hlater : (itemsText false vs).length < steps := by omega
      rw [itemsText_cons, List.append_assoc, List.append_assoc,
        readItems_item hve hv hitem first (stops_itemsText vs rest),
        ih hvse hvs false steps hlater, Except.map]

theorem readMembers_append {es : List (String × Json)} (hreads : ∀ e ∈ es, ReadsText depth e.2)
    (first : Bool) (steps : Nat) (rest : List Char)
    (hsteps : (membersText first es).length < steps) :
    readMembers steps depth first (membersText first es ++ rest) = .ok (es, rest) := by
  induction es generalizing first steps with
  | nil =>
    cases steps with
    | zero => cases hsteps
    | succ steps => rfl
  | cons e es ih =>
    cases steps with
    | zero => cases hsteps
    | succ steps =>
      obtain ⟨k, v⟩ := e
      obtain ⟨hv, hes⟩ := List.forall_mem_cons.1 hreads
      rw [membersText_cons, List.length_append, List.length_append, List.length_cons,
        List.length_append] at hsteps
      have hmember : v.chars.length < steps := by omega
      have hlater : (membersText false es).length < steps := by omega
      simp only [membersText_cons, List.append_assoc, List.cons_append]
      rw [readMembers_member hv hmember first k (stops_membersText es rest),
        ih hes false steps hlater, Except.map]

/-- **The text of a value is read back**, whatever follows that does not go on a
number. -/
theorem Exact.readsText {v : Json} (h : Exact depth v) : ReadsText depth v := by
  induction h with
  | null =>
    rintro (_ | steps) rest hsteps -
    · cases hsteps
    · rfl
  | bool b =>
    rintro (_ | steps) rest hsteps -
    · cases hsteps
    · cases b <;> rfl
  | int hlow hhigh =>
    rintro (_ | steps) rest hsteps hrest
    · cases hsteps
    · exact readValue_int hlow hhigh steps _ hrest
  | str s =>
    rintro (_ | steps) rest hsteps -
    · cases hsteps
    · exact readValue_str s steps _ rest
  | @arr depth vs hexact ih =>
    rintro (_ | steps) rest hsteps -
    · cases hsteps
    · rw [chars, ← itemsText_true] at hsteps ⊢
      have hitems := readItems_append hexact ih true steps rest (Nat.lt_of_succ_lt_succ hsteps)
      rw [List.cons_append, readValue, skipSpace_cons rfl]
      simp only [hitems, Except.map]
  | @obj depth d hexact ih =>
    rintro (_ | steps) rest hsteps -
    · cases hsteps
    · rw [ofDict, chars, ← membersText_true] at hsteps ⊢
      have hmembers := readMembers_append ih true steps rest (Nat.lt_of_succ_lt_succ hsteps)
      rw [List.cons_append, readValue, skipSpace_cons rfl]
      simp only [hmembers, Except.map, Dict.ofList_entries, ofDict]

end Reads

/-- A reader that leaves nothing has read the whole text. -/
theorem readWhole_eq_ok {α : Type} {reader : List Char → Reading α} {text : List Char} {a : α}
    (h : reader text = .ok (a, [])) : readWhole reader text = .ok a := by
  refine Except.mapError_eq_ok_iff.2 ?_
  rw [h]
  rfl

/-- **The compact text of a value is that value's text**, as far as texts are nested at
all. -/
theorem Exact.parse_compact {v : Json} (h : Exact depthLimit v) : parse v.compact = .ok v := by
  have hread := h.readsText (stepLimit v.chars) [] (by rw [stepLimit]; omega) ⟨rfl, rfl⟩
  rw [List.append_nil] at hread
  rw [parse, compact, String.toList_ofList]
  exact readWhole_eq_ok hread

end CanonicalReply.Json
