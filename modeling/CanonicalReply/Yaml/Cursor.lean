import CanonicalReply.Yaml.Problem

/-!
# A place in a text that is being read

A cursor holds what remains of a text and the place where that begins. The kinds of characters
that the readers tell apart are named here too.
-/

namespace CanonicalReply.Yaml

/-! ## Kinds of characters -/

/-- Whether a character is a space or a tab. -/
def isBlank (c : Char) : Bool := c = ' ' || c = '\t'

/-- Whether a character ends a line. -/
def isBreak (c : Char) : Bool :=
  c = '\r' || c = '\n' || c = '\u0085' || c = '\u2028' || c = '\u2029'

/-- Whether a character is white space. -/
def isSpacing (c : Char) : Bool := isBlank c || isBreak c

/-- Whether a character may stand in names. -/
def isNameCharacter (c : Char) : Bool := c.isAlphanum || c = '_' || c = '-'

/-- Whether a character brackets or separates the parts of flow collections. -/
def isFlowIndicator (c : Char) : Bool :=
  c = ',' || c = '[' || c = ']' || c = '\x7b' || c = '\x7d'

/-- Whether a text is at its end or goes on with white space. -/
def pauses : List Char → Bool
  | [] => true
  | c :: _ => isSpacing c

/-- Whether a text is at its end or goes on with a line break. -/
def endsLine : List Char → Bool
  | [] => true
  | c :: _ => isBreak c

/-- Whether a text goes on with three dashes or three dots that stand alone. -/
def isDocumentIndicator : List Char → Bool
  | '-' :: '-' :: '-' :: rest => pauses rest
  | '.' :: '.' :: '.' :: rest => pauses rest
  | _ => false

/-- Whether a character may stand in a text. -/
def isAllowed (c : Char) : Bool :=
  let n := c.toNat
  n == 0x09 || n == 0x0A || n == 0x0D || (0x20 ≤ n && n ≤ 0x7E) || n == 0x85 ||
    (0xA0 ≤ n && n ≤ 0xD7FF) || (0xE000 ≤ n && n ≤ 0xFFFD) || 0x10000 ≤ n

/-- The number of bytes before the first character that may not stand in a text. -/
def forbiddenOffset? : List Char → Option Nat
  | [] => none
  | c :: rest => if isAllowed c then (forbiddenOffset? rest).map (c.utf8Size + ·) else some 0

/-! ## Cursors -/

/-- What remains of a text, and where that begins. -/
structure Cursor where
  rest : List Char
  mark : Mark
  deriving DecidableEq

namespace Cursor

/-- The beginning of a text. -/
def ofString (s : String) : Cursor := ⟨s.toList, .start⟩

/-- How many characters are in front of the cursor's line. -/
def column (c : Cursor) : Nat := c.mark.column

/-- Whether the text goes on with a character of some kind. -/
def sees (p : Char → Bool) (c : Cursor) : Bool := c.rest.head?.any p

/-- Whether the text goes on with a given character. -/
def looksAt (ch : Char) (c : Cursor) : Bool := c.rest.head? == some ch

/-- Whether a document begins or ends here. -/
def atDocumentIndicator (c : Cursor) : Bool := c.column == 0 && isDocumentIndicator c.rest

/-- Past so many characters of the line. -/
def skip (n : Nat) (c : Cursor) : Cursor :=
  ⟨c.rest.drop n, ⟨c.mark.index + n, c.mark.line, c.mark.column + n⟩⟩

/-- The characters of some kind that come next, and what follows them. -/
def takeWhile (p : Char → Bool) (c : Cursor) : List Char × Cursor :=
  let taken := c.rest.takeWhile p
  (taken, c.skip taken.length)

/-- Past the characters of some kind. -/
def skipWhile (p : Char → Bool) (c : Cursor) : Cursor := (c.takeWhile p).2

/-- The line break that comes next, as it counts in a scalar, and what follows it. The two
separators of the wider character set stand for themselves. Without a line break nothing is
taken. -/
def takeBreak (c : Cursor) : List Char × Cursor :=
  match c.rest with
  | [] => ([], c)
  | '\r' :: '\n' :: rest => (['\n'], ⟨rest, c.mark.nextLine 2⟩)
  | ch :: rest =>
    if isBreak ch then
      ([if ch = '\u2028' ∨ ch = '\u2029' then ch else '\n'], ⟨rest, c.mark.nextLine 1⟩)
    else ([], c)

/-- Past the line break that comes next, if one does. -/
def skipBreak (c : Cursor) : Cursor := c.takeBreak.2

/-- To the end of the line. -/
def skipLine (c : Cursor) : Cursor := c.skipWhile fun ch => !isBreak ch

/-- Past a comment, if one begins here. -/
def skipComment (c : Cursor) : Cursor := if c.looksAt '#' then c.skipLine else c

/-- Fail at the cursor, while something is read that began at `start`. -/
def fail {α : Type} (c : Cursor) (activity : Activity) (start : Mark) (flaw : Flaw) :
    Except Problem α :=
  .error (.during activity start flaw c.mark)

end Cursor

end CanonicalReply.Yaml
