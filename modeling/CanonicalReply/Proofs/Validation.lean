import CanonicalReply.Settings.Validation
import Mathlib.Computability.Language
import Mathlib.Data.Set.List

/-!
# Which settings are accepted

A header prefix is read character by character, and the reader only remembers whether
the piece it is in has a character yet.  What it accepts can be said in two other ways:
by an expression, which is a piece and then any number of pieces with a dash in front,
and by a cut at every dash, which has to leave pieces with at least one character each.

* `isTokenAfter_iff`: the reader and the cut.
* `mem_token_iff`: the expression and the cut.
* `validate_eq_ok_iff`: **the settings that are accepted**.
* `screens`: what this says of all settings, with the faults of those that are not.
-/

namespace CanonicalReply.Settings

open scoped Computability

/-! ## Pieces -/

/-- What may stand in a piece: the letters, the digits, the underscore and the dot of the
first 128 characters. -/
def StandsInPiece (c : Char) : Prop :=
  ('A' ≤ c ∧ c ≤ 'Z') ∨ ('a' ≤ c ∧ c ≤ 'z') ∨ ('0' ≤ c ∧ c ≤ '9') ∨ c = '_' ∨ c = '.'

instance (c : Char) : Decidable (StandsInPiece c) := inferInstanceAs (Decidable (_ ∨ _))

theorem isPieceChar_iff {c : Char} : isPieceChar c = true ↔ StandsInPiece c := by
  have hupper : c.isUpper = true ↔ 'A' ≤ c ∧ c ≤ 'Z' := decide_eq_true_iff
  have hlower : c.isLower = true ↔ 'a' ≤ c ∧ c ≤ 'z' := by
    show (decide ('a' ≤ c) && decide (c ≤ 'z')) = true ↔ _
    rw [Bool.and_eq_true, decide_eq_true_iff, decide_eq_true_iff]
  have hdigit : c.isDigit = true ↔ '0' ≤ c ∧ c ≤ '9' := Char.isDigit_iff_toNat
  have halphanum : c.isAlphanum = (c.isUpper || c.isLower || c.isDigit) := rfl
  simp only [isPieceChar, halphanum, StandsInPiece, Bool.or_eq_true, decide_eq_true_eq, hupper,
    hlower, hdigit, or_assoc]

/-- A piece of a token has a character, and only such as may stand in one. -/
structure IsPiece (cs : List Char) : Prop where
  nonempty : cs ≠ []
  stands : ∀ c ∈ cs, StandsInPiece c

/-- A character that can be read in a header: no blank, and one of the first 128. -/
def Visible (c : Char) : Prop := c.toNat < 128 ∧ Text.isBlank c = false

theorem StandsInPiece.visible {c : Char} (h : StandsInPiece c) : Visible c := by
  have hcode : (65 ≤ c.toNat ∧ c.toNat ≤ 90) ∨ (97 ≤ c.toNat ∧ c.toNat ≤ 122) ∨
      (48 ≤ c.toNat ∧ c.toNat ≤ 57) ∨ c.toNat = 95 ∨ c.toNat = 46 := by
    rcases h with h | h | h | rfl | rfl
    · exact .inl h
    · exact .inr (.inl h)
    · exact .inr (.inr (.inl h))
    · exact .inr (.inr (.inr (.inl rfl)))
    · exact .inr (.inr (.inr (.inr rfl)))
  exact ⟨by omega, Text.isBlank_eq_false_of_visible (by omega) (by omega)⟩

/-! ## The cut at every dash -/

/-- The pieces that a cut leaves are those of a token.  The flag tells whether the first
one has characters in front, so that it may be empty. -/
def PiecesAfter (started : Bool) : List (List Char) → Prop
  | [] => False
  | first :: rest => (started = true ∨ first ≠ []) ∧ (∀ c ∈ first, StandsInPiece c) ∧
      ∀ piece ∈ rest, IsPiece piece

theorem piecesAfter_false_iff {pieces : List (List Char)} (h : pieces ≠ []) :
    PiecesAfter false pieces ↔ ∀ piece ∈ pieces, IsPiece piece := by
  cases pieces with
  | nil => exact absurd rfl h
  | cons first rest =>
    rw [PiecesAfter, List.forall_mem_cons]
    constructor
    · rintro ⟨hsome, hstands, hrest⟩
      exact ⟨⟨hsome.resolve_left Bool.false_ne_true, hstands⟩, hrest⟩
    · rintro ⟨hfirst, hrest⟩
      exact ⟨.inr hfirst.nonempty, hfirst.stands, hrest⟩

/-- **The reader** accepts a text just if the cut leaves the pieces of a token. -/
theorem isTokenAfter_iff {started : Bool} {cs : List Char} :
    isTokenAfter started cs = true ↔ PiecesAfter started (cs.splitOn '-') := by
  induction cs generalizing started with
  | nil => simp [isTokenAfter, PiecesAfter]
  | cons c cs ih =>
    obtain ⟨first, rest, hcut⟩ := List.exists_cons_of_ne_nil (List.splitOn_ne_nil '-' cs)
    have hstep : (c :: cs).splitOn '-' =
        if c = '-' then [] :: cs.splitOn '-' else (c :: first) :: rest := by
      rw [List.splitOn, List.splitOnP_cons_eq_if_modifyHead, ← List.splitOn, hcut]
      by_cases hdash : c = '-' <;> simp [hdash]
    rw [isTokenAfter, hstep]
    by_cases hdash : c = '-'
    · subst hdash
      have hreader : isPieceChar '-' = false := by decide
      have hlater : isTokenAfter false cs = true ↔ PiecesAfter false (cs.splitOn '-') := ih
      rw [piecesAfter_false_iff (List.splitOn_ne_nil _ _)] at hlater
      simp [hreader, hlater, PiecesAfter]
    · by_cases hpiece : isPieceChar c = true
      · have hstands := isPieceChar_iff.1 hpiece
        simp [hdash, hpiece, hstands, ih, hcut, PiecesAfter]
      · have hstands : ¬ StandsInPiece c := fun h => hpiece (isPieceChar_iff.2 h)
        simp [hdash, hpiece, hstands, PiecesAfter]

theorem isToken_iff {s : String} :
    isToken s = true ↔ ∀ piece ∈ s.toList.splitOn '-', IsPiece piece := by
  rw [isToken, isTokenAfter_iff, piecesAfter_false_iff (List.splitOn_ne_nil _ _)]

/-- A text that is cut at one of its dashes is cut on both sides of it. -/
theorem splitOn_append_dash (xs ys : List Char) :
    (xs ++ '-' :: ys).splitOn '-' = xs.splitOn '-' ++ ys.splitOn '-' :=
  List.splitOnP_append_cons xs ys (beq_self_eq_true '-')

/-- Pieces that are joined by dashes are the first one and the others, each behind its
dash. -/
theorem intercalate_dash (first : List Char) (rest : List (List Char)) :
    ['-'].intercalate (first :: rest) = first ++ (rest.map ('-' :: ·)).flatten := by
  induction rest generalizing first with
  | nil => rw [List.intercalate_singleton, List.map_nil, List.flatten_nil, List.append_nil]
  | cons next rest ih =>
    rw [List.intercalate_cons_cons, ih, List.map_cons, List.flatten_cons, List.append_assoc]
    rfl

/-! ## The expression -/

/-- The pieces, as a language. -/
def piece : Language Char := {cs | IsPiece cs}

/-- The tokens, as a language: a piece, and then any number of pieces behind dashes. -/
def token : Language Char := piece * ({['-']} * piece)∗

/-- **The expression** describes a text just if the cut leaves pieces. -/
theorem mem_token_iff {cs : List Char} :
    cs ∈ token ↔ ∀ part ∈ cs.splitOn '-', IsPiece part := by
  constructor
  · intro h
    obtain ⟨first, hfirst, tail, htail, rfl⟩ := Language.mem_mul.1 h
    obtain ⟨words, rfl, hwords⟩ := Language.mem_kstar.1 htail
    have hbehind : ∀ word ∈ words, ∃ part, IsPiece part ∧ '-' :: part = word := by
      intro word hword
      obtain ⟨_, rfl, part, hpart, heq⟩ := Language.mem_mul.1 (hwords word hword)
      exact ⟨part, hpart, heq⟩
    have hwords : words ∈ Set.range (List.map ('-' :: ·)) := by
      rw [Set.range_list_map]
      exact fun word hword => (hbehind word hword).imp fun _ h => h.2
    obtain ⟨rest, rfl⟩ := hwords
    have hrest : ∀ part ∈ rest, IsPiece part := by
      intro part hpart
      obtain ⟨_, hpiece, heq⟩ := hbehind _ (List.mem_map_of_mem hpart)
      cases heq
      exact hpiece
    have hall : ∀ part ∈ first :: rest, IsPiece part := List.forall_mem_cons.2 ⟨hfirst, hrest⟩
    have hdash : ∀ part ∈ first :: rest, '-' ∉ part := fun part hpart hmem =>
      absurd ((hall part hpart).stands _ hmem) (by decide)
    rwa [← intercalate_dash, List.splitOn_intercalate _ hdash (List.cons_ne_nil _ _)]
  · intro h
    obtain ⟨first, rest, hcut⟩ := List.exists_cons_of_ne_nil (List.splitOn_ne_nil '-' cs)
    have hwhole : ['-'].intercalate (cs.splitOn '-') = cs := List.intercalate_splitOn '-'
    rw [hcut, List.forall_mem_cons] at h
    rw [hcut, intercalate_dash] at hwhole
    obtain ⟨hfirst, hrest⟩ := h
    rw [← hwhole]
    refine Language.append_mem_mul hfirst (Language.join_mem_kstar fun word hword => ?_)
    obtain ⟨part, hpart, rfl⟩ := List.mem_map.1 hword
    exact Language.mem_mul.2 ⟨['-'], rfl, part, hrest part hpart, rfl⟩

/-! ## What a token looks like -/

/-- A character of a token is a dash, or one that may stand in a piece. -/
theorem mem_of_isToken {s : String} (h : isToken s = true) {c : Char} (hc : c ∈ s.toList) :
    c = '-' ∨ StandsInPiece c := by
  by_cases hdash : c = '-'
  · exact .inl hdash
  · refine .inr ?_
    have hwhole : ['-'].intercalate (s.toList.splitOn '-') = s.toList :=
      List.intercalate_splitOn '-'
    obtain ⟨first, rest, hcut⟩ := List.exists_cons_of_ne_nil (List.splitOn_ne_nil '-' s.toList)
    have hpieces := isToken_iff.1 h
    rw [hcut, intercalate_dash] at hwhole
    rw [hcut, List.forall_mem_cons] at hpieces
    rw [← hwhole, List.mem_append, List.mem_flatten] at hc
    rcases hc with hc | ⟨word, hword, hc⟩
    · exact hpieces.1.stands c hc
    · obtain ⟨part, hpart, rfl⟩ := List.mem_map.1 hword
      exact (hpieces.2 part hpart).stands c ((List.mem_cons.1 hc).resolve_left hdash)

/-- How a header prefix that is accepted looks from outside. -/
structure IsPlain (s : String) : Prop where
  nonempty : s ≠ ""
  /-- No dash stands in front. -/
  noLeadingDash : ¬ ['-'] <+: s.toList
  /-- No dash stands at the end. -/
  noTrailingDash : ¬ ['-'] <:+ s.toList
  /-- No two dashes stand together. -/
  noDoubleDash : ¬ ['-', '-'] <:+: s.toList
  /-- No character is blank, and all are of the first 128. -/
  visible : ∀ c ∈ s.toList, Visible c

theorem isPlain_of_isToken {s : String} (h : isToken s = true) : IsPlain s := by
  have hpieces := isToken_iff.1 h
  have hempty : [] ∉ s.toList.splitOn '-' := fun hmem => (hpieces _ hmem).nonempty rfl
  constructor
  case nonempty =>
    rintro rfl
    exact hempty (by decide)
  case noLeadingDash =>
    rintro ⟨ys, hys⟩
    refine hempty ?_
    rw [← hys, List.singleton_append, ← List.nil_append ('-' :: ys), splitOn_append_dash]
    simp
  case noTrailingDash =>
    rintro ⟨xs, hxs⟩
    refine hempty ?_
    rw [← hxs, splitOn_append_dash]
    simp
  case noDoubleDash =>
    rintro ⟨xs, ys, hxs⟩
    refine hempty ?_
    rw [← hxs, List.append_assoc, List.cons_append, List.singleton_append, splitOn_append_dash,
      ← List.nil_append ('-' :: ys), splitOn_append_dash]
    simp
  case visible =>
    intro c hc
    rcases mem_of_isToken h hc with rfl | hstands
    · exact ⟨by decide, by decide⟩
    · exact hstands.visible

/-! ## All checks -/

/-- The status is one of errors. -/
def HasErrorStatus (s : Settings) : Prop :=
  400 ≤ s.errorStatus.toNat ∧ s.errorStatus.toNat ≤ 599

/-- A snapshot shows a key. -/
def ShowsKeys (s : Settings) : Prop := 0 < s.snapshotKeys.toNat

theorem check_eq_ok_iff {s : Settings} :
    s.check = .ok () ↔ s.headerPrefix ≠ "" ∧
      (∀ c ∈ s.headerPrefix.toList, Text.isBlank c = false) ∧ s.HasErrorStatus ∧ s.ShowsKeys := by
  have hempty : s.headerPrefix.isEmpty = true ↔ s.headerPrefix = "" := String.isEmpty_iff
  have hblank : s.headerPrefix.toList.any Text.isBlank = true ↔
      ¬ ∀ c ∈ s.headerPrefix.toList, Text.isBlank c = false := by
    simp
  have hstatus : (s.errorStatus < lowestErrorStatus ∨ highestErrorStatus < s.errorStatus) ↔
      ¬ s.HasErrorStatus := by
    have hlowest : lowestErrorStatus.toNat = 400 := rfl
    have hhighest : highestErrorStatus.toNat = 599 := rfl
    rw [UInt16.lt_iff_toNat_lt, UInt16.lt_iff_toNat_lt, hlowest, hhighest, HasErrorStatus]
    omega
  have hkeys : s.snapshotKeys = 0 ↔ ¬ s.ShowsKeys := by
    have hzero : (0 : UInt64).toNat = 0 := rfl
    rw [← UInt64.toNat_inj, hzero, ShowsKeys]
    omega
  have hrefused : ∀ e, (.error e : Except Invalid Unit) ≠ .ok () := fun _ h => nomatch h
  unfold check
  split
  case isTrue h => exact iff_of_false (hrefused _) fun hall => hall.1 (hempty.1 h)
  case isFalse hsome =>
    split
    case isTrue h => exact iff_of_false (hrefused _) fun hall => hblank.1 h hall.2.1
    case isFalse hvisible =>
      split
      case isTrue h => exact iff_of_false (hrefused _) fun hall => hstatus.1 h hall.2.2.1
      case isFalse hrange =>
        split
        case isTrue h => exact iff_of_false (hrefused _) fun hall => hkeys.1 h hall.2.2.2
        case isFalse hpositive =>
          rw [hempty] at hsome
          rw [hblank, not_not] at hvisible
          rw [hstatus, not_not] at hrange
          rw [hkeys, not_not] at hpositive
          exact iff_of_true rfl ⟨hsome, hvisible, hrange, hpositive⟩

/-- What refuses a setting without a grammar refuses it for good. -/
theorem validate_of_check_eq_error {s : Settings} {e : Invalid} (h : s.check = .error e) :
    s.validate = .error e := by
  rw [validate, h]

theorem validate_of_check_eq_ok {s : Settings} (h : s.check = .ok ()) :
    s.validate = if isToken s.headerPrefix then .ok ()
      else .error ((Invalid.plain headerPrefixKey
        (.invalidFormat s!"'{s.headerPrefix}' is not a valid header token")).withHint
          "use letters, digits, '_', '.' and inner '-' only") := by
  rw [validate, h]

/-- **The settings that are accepted.**  That the prefix is there and has no blank need
not be asked for again. -/
theorem validate_eq_ok_iff {s : Settings} :
    s.validate = .ok () ↔ isToken s.headerPrefix = true ∧ s.HasErrorStatus ∧ s.ShowsKeys := by
  constructor
  · intro h
    cases hcheck : s.check with
    | error e =>
      rw [validate_of_check_eq_error hcheck] at h
      cases h
    | ok u =>
      obtain ⟨-, -, hstatus, hkeys⟩ := check_eq_ok_iff.1 hcheck
      rw [validate_of_check_eq_ok hcheck] at h
      by_cases htoken : isToken s.headerPrefix = true
      · exact ⟨htoken, hstatus, hkeys⟩
      · rw [if_neg htoken] at h
        cases h
  · rintro ⟨htoken, hstatus, hkeys⟩
    have hplain := isPlain_of_isToken htoken
    have hcheck : s.check = .ok () :=
      check_eq_ok_iff.2 ⟨hplain.nonempty, fun c hc => (hplain.visible c hc).2, hstatus, hkeys⟩
    rw [validate_of_check_eq_ok hcheck, if_pos htoken]

/-- How settings are screened. -/
structure Screens (s : Settings) : Prop where
  /-- Settings are accepted if the prefix, cut at every dash, falls into pieces, the status
  is one of errors, and a snapshot shows a key. -/
  accepts_iff : s.validate = .ok () ↔
    (∀ part ∈ s.headerPrefix.toList.splitOn '-', IsPiece part) ∧ s.HasErrorStatus ∧ s.ShowsKeys
  /-- These prefixes are the ones that the expression describes. -/
  described_iff : (∀ part ∈ s.headerPrefix.toList.splitOn '-', IsPiece part) ↔
    s.headerPrefix.toList ∈ token
  /-- A prefix that is accepted has no dash at its ends and no two together, and no
  character that is blank or beyond the first 128. -/
  plain : s.validate = .ok () → IsPlain s.headerPrefix
  /-- What is refused without a grammar is refused for the same reason with it. -/
  sameFault : ∀ e, s.check = .error e → s.validate = .error e
  /-- What is refused by the grammar alone has a prefix in no valid format. -/
  ownFault : s.check = .ok () → ∀ e, s.validate = .error e →
    e.field = headerPrefixKey ∧ ∃ why, e.refusal = .invalidFormat why

/-- **All settings are screened** like that. -/
theorem screens (s : Settings) : Screens s where
  accepts_iff := by rw [validate_eq_ok_iff, isToken_iff]
  described_iff := mem_token_iff.symm
  plain := fun h => isPlain_of_isToken (validate_eq_ok_iff.1 h).1
  sameFault := fun _ => validate_of_check_eq_error
  ownFault := by
    intro hcheck e he
    rw [validate_of_check_eq_ok hcheck] at he
    split at he
    · cases he
    · cases he
      exact ⟨rfl, _, rfl⟩

example : (⟨"my-gate_way.v2", 599, false, true, 1⟩ : Settings).validate = .ok () ∧
    isToken "a--b" = false ∧ isToken "a-" = false ∧ isToken "a\n" = false := by
  decide +kernel

end CanonicalReply.Settings
