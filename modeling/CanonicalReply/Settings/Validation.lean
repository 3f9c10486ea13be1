import CanonicalReply.Settings
import CanonicalReply.Settings.Fault
import CanonicalReply.Text.Blank

/-!
# Which settings make sense

The header prefix is joined to the names of headers by a dash, so it has to be a token: pieces of
letters, digits, underscores and dots, joined by single dashes. The error status has to be a status
of errors, and a snapshot has to show at least one key.
-/

namespace CanonicalReply.Settings

/-- The lowest status of an error. -/
def lowestErrorStatus : UInt16 := 400

/-- The highest status of an error. -/
def highestErrorStatus : UInt16 := 599

/-- The checks that need no grammar, in their order. -/
def check (s : Settings) : Except Invalid Unit :=
  if s.headerPrefix.isEmpty then .error (.plain headerPrefixKey .missing)
  else if s.headerPrefix.toList.any Text.isBlank then
    .error (.plain headerPrefixKey (.invalidFormat "header prefix must not contain whitespace"))
  else if s.errorStatus < lowestErrorStatus ∨ highestErrorStatus < s.errorStatus then
    .error (.plain errorStatusKey
      (.outOfRange s!"{s.errorStatus.toNat} is not an HTTP error status"))
  else if s.snapshotKeys = 0 then
    .error (.plain snapshotKeysKey (.outOfRange "must be greater than 0"))
  else .ok ()

/-! ## Tokens -/

/-- Whether a character may stand in a piece of a token. -/
def isPieceChar (c : Char) : Bool := c.isAlphanum || c = '_' || c = '.'

/-- Whether a text is a token. The flag tells whether the piece before the text has a character
already, so that a dash or the end may follow. -/
def isTokenAfter : Bool → List Char → Bool
  | started, [] => started
  | started, c :: rest =>
    if isPieceChar c then isTokenAfter true rest
    else c = '-' && started && isTokenAfter false rest

/-- Whether a text is a token. -/
def isToken (s : String) : Bool := isTokenAfter false s.toList

/-- All checks. -/
def validate (s : Settings) : Except Invalid Unit :=
  match s.check with
  | .error e => .error e
  | .ok () =>
    if isToken s.headerPrefix then .ok ()
    else
      .error ((Invalid.plain headerPrefixKey
        (.invalidFormat s!"'{s.headerPrefix}' is not a valid header token")).withHint
          "use letters, digits, '_', '.' and inner '-' only")

end CanonicalReply.Settings
