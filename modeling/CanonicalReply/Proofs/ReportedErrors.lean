import CanonicalReply.Proofs.Assembling

/-!
# Errors that providers report

What a provider says about its own failure is passed on as it is.  The status may come
as a number or as a text of one, and only if it is exactly a number of 16 bits; there
is no rounding, no wrapping and no cutting off.  The message is a text as it stands, or
any other value in writing.

* `statusOfDigits_eq_some_iff`: the texts of numbers of 16 bits.
* `statusOfCode_eq_some_iff`: **the codes that tell a status**.
* `ofPayload_eq_some`: what is read of an error that is there.
* `passesOn`: what this says of all payloads.
-/

namespace CanonicalReply

namespace Provider.ReportedError

/-! ## Texts of numbers -/

/-- A text denotes a number: at least one digit, behind a plus sign or none. -/
inductive Denotes : List Char → Nat → Prop where
  | plain {digits : List Char} (hne : digits ≠ []) (hdigits : ∀ c ∈ digits, c.isDigit = true) :
    Denotes digits (Nat.ofDigitChars 10 digits 0)
  | signed {digits : List Char} (hne : digits ≠ []) (hdigits : ∀ c ∈ digits, c.isDigit = true) :
    Denotes ('+' :: digits) (Nat.ofDigitChars 10 digits 0)

/-- A text without the plus sign in front, if there is one. -/
def unsigned (cs : List Char) : List Char := if cs.head? == some '+' then cs.tail else cs

theorem unsigned_of_ne {c : Char} (h : c ≠ '+') (cs : List Char) :
    unsigned (c :: cs) = c :: cs := by
  simp [unsigned, h]

theorem denotes_iff {cs : List Char} {n : Nat} :
    Denotes cs n ↔ unsigned cs ≠ [] ∧ (∀ c ∈ unsigned cs, c.isDigit = true) ∧
      Nat.ofDigitChars 10 (unsigned cs) 0 = n := by
  constructor
  · intro h
    cases h with
    | plain hne hdigits =>
      obtain ⟨c, rest, rfl⟩ := List.exists_cons_of_ne_nil hne
      have hplus : c ≠ '+' := by
        rintro rfl
        exact absurd (hdigits '+' List.mem_cons_self) (by decide)
      rw [unsigned_of_ne hplus]
      exact ⟨hne, hdigits, rfl⟩
    | signed hne hdigits => exact ⟨hne, hdigits, rfl⟩
  · rintro ⟨hne, hdigits, rfl⟩
    cases cs with
    | nil => exact absurd rfl hne
    | cons c rest =>
      by_cases hplus : c = '+'
      · subst hplus
        exact .signed hne hdigits
      · rw [unsigned_of_ne hplus] at hne hdigits ⊢
        exact .plain hne hdigits

/-- A number is a status if it fits 16 bits, and none is cut to fit. -/
theorem fitted_eq_some_iff {n : Nat} {status : UInt16} :
    (if n < UInt16.size then some (UInt16.ofNat n) else none) = some status ↔
      n = status.toNat := by
  constructor
  · intro h
    split at h
    case isTrue hlt =>
      cases h
      exact (UInt16.toNat_ofNat_of_lt' hlt).symm
    case isFalse => cases h
  · rintro rfl
    rw [if_pos status.toNat_lt_size, UInt16.ofNat_toNat]

/-- **The texts of numbers** of 16 bits, and no others, are read. -/
theorem statusOfDigits_eq_some_iff {cs : List Char} {status : UInt16} :
    statusOfDigits cs = some status ↔ Denotes cs status.toNat := by
  have hvalue : statusOfDigits cs =
      if (unsigned cs).isEmpty || !(unsigned cs).all Char.isDigit then none
      else if Nat.ofDigitChars 10 (unsigned cs) 0 < UInt16.size then
        some (UInt16.ofNat (Nat.ofDigitChars 10 (unsigned cs) 0))
      else none := by
    simp only [statusOfDigits, unsigned, Nat.ofDigitChars_eq_foldl, Nat.mul_comm]
  have hdigits : ((unsigned cs).isEmpty || !(unsigned cs).all Char.isDigit) = false ↔
      unsigned cs ≠ [] ∧ ∀ c ∈ unsigned cs, c.isDigit = true := by
    rw [Bool.or_eq_false_iff, List.isEmpty_eq_false_iff, Bool.not_eq_false', List.all_eq_true]
  rw [hvalue, denotes_iff, ← and_assoc, ← hdigits]
  split
  case isTrue h =>
    refine iff_of_false (fun hread => nomatch hread) fun hall => ?_
    rw [h] at hall
    exact nomatch hall.1
  case isFalse h => rw [fitted_eq_some_iff, and_iff_right (Bool.eq_false_iff.2 h)]

theorem not_isBlank_of_denotes {cs : List Char} {n : Nat} (h : Denotes cs n) :
    ∀ c ∈ cs, Text.isBlank c = false := by
  have hdigit : ∀ c : Char, c.isDigit = true → Text.isBlank c = false := by
    intro c hc
    have hlow : 48 ≤ c.toNat := (Char.isDigit_iff_toNat.1 hc).1
    have hhigh : c.toNat ≤ 57 := (Char.isDigit_iff_toNat.1 hc).2
    exact Text.isBlank_eq_false_of_visible (by omega) (by omega)
  cases h with
  | plain _ hdigits => exact fun c hc => hdigit c (hdigits c hc)
  | signed _ hdigits =>
    exact List.forall_mem_cons.2 ⟨by decide, fun c hc => hdigit c (hdigits c hc)⟩

/-! ## Codes -/

/-- A code tells a number: it is that number, or a text of it between blanks. -/
inductive Tells : Json → Nat → Prop where
  | number (n : Nat) : Tells (.num (.int n)) n
  | text {s : String} {front numeral back : List Char} {n : Nat}
    (hs : s.toList = front ++ (numeral ++ back))
    (hfront : ∀ c ∈ front, Text.isBlank c = true) (hnumeral : Denotes numeral n)
    (hback : ∀ c ∈ back, Text.isBlank c = true) : Tells (.str s) n

/-- **The codes that tell a status** are those that tell a number of 16 bits. -/
theorem statusOfCode_eq_some_iff {code : Json} {status : UInt16} :
    statusOfCode code = some status ↔ Tells code status.toNat := by
  constructor
  · intro h
    unfold statusOfCode at h
    split at h
    case h_1 n =>
      obtain rfl := fitted_eq_some_iff.1 h
      exact .number _
    case h_2 s =>
      obtain ⟨front, back, hs, hfront, hback⟩ := Text.exists_eq_append_trimBlank s.toList
      exact .text hs hfront (statusOfDigits_eq_some_iff.1 h) hback
    case h_3 => cases h
  · intro h
    generalize hn : status.toNat = n at h
    cases h with
    | number n => exact fitted_eq_some_iff.2 hn.symm
    | text hs hfront hnumeral hback =>
      rw [statusOfCode, hs, Text.trimBlank_append hfront (not_isBlank_of_denotes hnumeral) hback]
      exact statusOfDigits_eq_some_iff.2 (hn ▸ hnumeral)

example : statusOfCode (.str "\t+00429\u00a0") = some 429 ∧ statusOfCode (.str "65536") = none ∧
    statusOfCode (.num (.int (-1))) = none := by
  decide +kernel

/-! ## The error -/

/-- What is read of an error that is there. -/
theorem ofPayload_eq_some {payload : Payload} {error : Json}
    (h : payload.get? "error" = some error) (hne : error ≠ .null) :
    ofPayload payload = some ⟨(error.get? "code").bind statusOfCode,
      (error.get? "message").bind messageText⟩ := by
  unfold ofPayload
  rw [h]
  split
  case h_1 hnone => cases hnone
  case h_2 hnull => exact absurd (Option.some.inj hnull) hne
  case h_3 other hother =>
    cases hother
    rw [Json.get?, Json.get?]
    cases error.dict? <;> rfl

end Provider.ReportedError

open Provider.ReportedError (Tells statusOfCode statusOfCode_eq_some_iff messageText
  ofPayload_eq_some)

/-- How the error that a payload reports is passed on: with which status, and with which
message. -/
structure ReportedAs (s : Settings) (error : Json) (status : UInt16) (message : String) :
    Prop where
  /-- A code that tells a number of 16 bits is the status, exactly. -/
  told : ∀ code n, error.get? "code" = some code → Tells code n → n ≤ 65535 → status.toNat = n
  /-- Without such a code it is the status that the settings give. -/
  standard : (∀ code n, error.get? "code" = some code → Tells code n → 65535 < n) →
    status = s.errorStatus
  /-- A message that is a text is passed on as it is. -/
  verbatim : ∀ text, error.get? "message" = some (.str text) → message = text
  /-- Any other message is written, unless it is null. -/
  written : ∀ v, error.get? "message" = some v → v ≠ .null → v.text? = none →
    message = v.compact
  /-- Without a message there is a standing one. -/
  unexplained : (∀ v, error.get? "message" = some v → v = .null) →
    message = "Error in response object"

theorem reportedAs (s : Settings) (error : Json) :
    ReportedAs s error (((error.get? "code").bind statusOfCode).getD s.errorStatus)
      (((error.get? "message").bind messageText).getD unexplainedError) where
  told := by
    intro code n hcode htells hle
    have hlt : n < UInt16.size := Nat.lt_succ_of_le hle
    have hn : (UInt16.ofNat n).toNat = n := UInt16.toNat_ofNat_of_lt' hlt
    have hstatus : statusOfCode code = some (UInt16.ofNat n) :=
      statusOfCode_eq_some_iff.2 (hn.symm ▸ htells)
    rw [hcode, Option.bind_some, hstatus, Option.getD_some, hn]
  standard := by
    intro h
    have hnone : (error.get? "code").bind statusOfCode = none := by
      refine Option.bind_eq_none_iff.2 fun code hcode => Option.eq_none_iff_forall_ne_some.2 ?_
      intro status hstatus
      have hlarge := h code _ hcode (statusOfCode_eq_some_iff.1 hstatus)
      have hsmall := status.toNat_lt_size
      exact absurd hlarge (Nat.not_lt.2 (Nat.le_of_lt_succ hsmall))
    rw [hnone, Option.getD_none]
  verbatim := by
    intro text htext
    rw [htext]
    rfl
  written := by
    intro v hv hnull htext
    rw [hv]
    cases v with
    | null => exact absurd rfl hnull
    | str text => cases htext
    | _ => rfl
  unexplained := by
    intro h
    cases hmessage : error.get? "message" with
    | none => rfl
    | some v =>
      obtain rfl := h v hmessage
      rfl

/-- How an error that a payload may report is dealt with. -/
structure PassesOn (s : Settings) (payload : Payload) : Prop where
  /-- A payload goes on just if it has no error, or a null one. -/
  passes_iff : checkReported s payload = .ok () ↔
    payload.get? "error" = none ∨ payload.get? "error" = some .null
  /-- Any other error is passed on as it is reported. -/
  reported : ∀ error, payload.get? "error" = some error → error ≠ .null →
    ∃ status message, checkReported s payload = .error (.reported status message) ∧
      ReportedAs s error status message

/-- **Reported errors** are passed on, of whatever payload and under whatever settings. -/
theorem passesOn (s : Settings) (payload : Payload) : PassesOn s payload where
  passes_iff := by
    rw [checkReported_eq_ok_iff]
    cases herror : payload.get? "error" with
    | none =>
      refine iff_of_true ?_ (.inl rfl)
      rintro ⟨p, e, hp, he, -⟩
      cases hp
      rw [herror] at he
      cases he
    | some error =>
      rw [Option.some.injEq, or_iff_right (Option.some_ne_none error)]
      constructor
      · intro h
        exact Classical.byContradiction fun hne => h ⟨payload, error, rfl, herror, hne⟩
      · rintro rfl ⟨p, e, hp, he, hne⟩
        cases hp
        rw [herror] at he
        exact hne (Option.some.inj he).symm
  reported := by
    intro error herror hne
    refine ⟨_, _, ?_, reportedAs s error⟩
    rw [checkReported, ofPayload_eq_some herror hne]

end CanonicalReply
