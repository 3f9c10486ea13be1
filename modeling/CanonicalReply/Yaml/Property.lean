import CanonicalReply.Text.Digits
import CanonicalReply.Yaml.Cursor

/-!
# Anchors, references and tags

A node may have an anchor, by which later references name it, and a tag. A tag is written in full
between angle brackets, or as a handle that stands for the beginning of it and the rest.
-/

namespace CanonicalReply.Yaml

open Text (hexValue?)

/-! ## Anchors -/

/-- Whether a character may follow the name of an anchor. -/
def mayFollowName (c : Char) : Bool :=
  isSpacing c || c = '?' || c = ':' || c = ',' || c = ']' || c = '\x7d' || c = '%' || c = '@' ||
    c = '\x60'

/-- The name of an anchor or of a reference, behind its indicator. -/
def readAnchorName (activity : Activity) (c : Cursor) : Except Problem (List Char × Cursor) :=
  let start := c.mark
  let (name, c) := (c.skip 1).takeWhile isNameCharacter
  if name = [] ∨ !c.rest.head?.all mayFollowName then c.fail activity start .expectedName
  else .ok (name, c)

/-! ## Tags -/

/-- A tag as it is written: a handle, empty for a tag in full, and the rest. -/
structure WrittenTag where
  handle : List Char
  rest : List Char
  deriving DecidableEq

/-- Whether a character may stand in a tag. -/
def isTagCharacter (c : Char) : Bool :=
  isNameCharacter c || c = ';' || c = '/' || c = '?' || c = ':' || c = '@' || c = '&' || c = '=' ||
    c = '+' || c = '$' || c = '.' || c = '%' || c = '!' || c = '~' || c = '*' || c = '\'' ||
    c = '(' || c = ')'

/-- Whether a character may stand in a tag that is written in full. -/
def isFullTagCharacter (c : Char) : Bool := isTagCharacter c || c = ',' || c = '[' || c = ']'

/-- The octet of an escape of a percent sign and two hexadecimal digits. -/
def escapedOctet? : List Char → Option Nat
  | '%' :: a :: b :: _ =>
    match hexValue? a, hexValue? b with
    | some a, some b => some (a * 16 + b)
    | _, _ => none
  | _ => none

/-- How many octets the character has that an octet begins. -/
def octetCount? (octet : Nat) : Option Nat :=
  if octet < 0x80 then some 1
  else if 0xC0 ≤ octet ∧ octet < 0xE0 then some 2
  else if 0xE0 ≤ octet ∧ octet < 0xF0 then some 3
  else if 0xF0 ≤ octet ∧ octet < 0xF8 then some 4
  else none

/-- So many escaped octets inside a character. -/
def readTrailingOctets (activity : Activity) (start : Mark) :
    Nat → Cursor → Except Problem (List Nat × Cursor)
  | 0, c => .ok ([], c)
  | count + 1, c =>
    match escapedOctet? c.rest with
    | none => c.fail activity start .expectedEscapedOctet
    | some octet =>
      if octet < 0x80 ∨ 0xC0 ≤ octet then c.fail activity start .incorrectTrailingOctet
      else
        (readTrailingOctets activity start count (c.skip 3)).map fun (more, c) =>
          (octet :: more, c)

/-- The characters that octets encode; a replacement character if they encode none. -/
def decodeOctets (octets : List Nat) : List Char :=
  match String.fromUTF8? ⟨(octets.map UInt8.ofNat).toArray⟩ with
  | some s => s.toList
  | none => ['\ufffd']

/-- A character that is given by escaped octets. -/
def readEscapedCharacter (activity : Activity) (start : Mark) (c : Cursor) :
    Except Problem (List Char × Cursor) :=
  match escapedOctet? c.rest with
  | none => c.fail activity start .expectedEscapedOctet
  | some octet =>
    match octetCount? octet with
    | none => c.fail activity start .incorrectLeadingOctet
    | some count =>
      (readTrailingOctets activity start (count - 1) (c.skip 3)).map fun (more, c) =>
        (decodeOctets (octet :: more), c)

/-- The characters of a tag, in at most so many steps. -/
def readTagCharacters (allowed : Char → Bool) (activity : Activity) (start : Mark) :
    Nat → Cursor → Except Problem (List Char × Cursor)
  | 0, c => .ok ([], c)
  | steps + 1, c =>
    match c.rest with
    | [] => .ok ([], c)
    | ch :: _ =>
      if !allowed ch then .ok ([], c)
      else
        match if ch = '%' then readEscapedCharacter activity start c else .ok ([ch], c.skip 1) with
        | .error p => .error p
        | .ok (chs, c) =>
          (readTagCharacters allowed activity start steps c).map fun (more, c) => (chs ++ more, c)

/-- The characters of a tag, at least one unless some stand before them. -/
def readTagText (allowed : Char → Bool) (activity : Activity) (start : Mark)
    (before : List Char) (c : Cursor) : Except Problem (List Char × Cursor) :=
  match readTagCharacters allowed activity start (c.rest.length + 1) c with
  | .error p => .error p
  | .ok (chs, next) =>
    if before = [] ∧ chs = [] then next.fail activity start .expectedTagCharacter
    else .ok (before.drop 1 ++ chs, next)

/-- A handle: an exclamation mark, or a name between two of them. The name may lack the second
one, which a tag permits and a directive does not. -/
def readHandle (activity : Activity) (start : Mark) (c : Cursor) :
    Except Problem (List Char × Cursor) :=
  if !c.looksAt '!' then c.fail activity start .expectedExclamation
  else
    let (name, c) := (c.skip 1).takeWhile isNameCharacter
    if c.looksAt '!' then .ok ('!' :: (name ++ ['!']), c.skip 1) else .ok ('!' :: name, c)

/-- Whether a handle is closed by a second exclamation mark. -/
def isClosedHandle (handle : List Char) : Bool :=
  2 ≤ handle.length && handle.getLast? == some '!'

/-- The parts of a tag that begins at the cursor. -/
def readTagParts (c : Cursor) : Except Problem (WrittenTag × Cursor) :=
  let start := c.mark
  if c.rest.tail.head? = some '<' then
    match readTagText isFullTagCharacter .tagCharacters start [] (c.skip 2) with
    | .error p => .error p
    | .ok (text, c) =>
      if c.looksAt '>' then .ok (⟨[], text⟩, c.skip 1)
      else c.fail .tag start .expectedClosingAngle
  else
    match readHandle .tag start c with
    | .error p => .error p
    | .ok (handle, c) =>
      if isClosedHandle handle then
        (readTagText isTagCharacter .tagCharacters start [] c).map fun (text, c) =>
          (⟨handle, text⟩, c)
      else
        (readTagText isTagCharacter .tagCharacters start handle c).map fun (text, c) =>
          (if text = [] then ⟨[], ['!']⟩ else ⟨['!'], text⟩, c)

/-- The tag that begins at the cursor. White space has to follow it, or a comma in a flow
collection. -/
def readTag (flow : Bool) (c : Cursor) : Except Problem (WrittenTag × Cursor) :=
  let start := c.mark
  match readTagParts c with
  | .error p => .error p
  | .ok (tag, c) =>
    if pauses c.rest || (flow && c.looksAt ',') then .ok (tag, c)
    else c.fail .tag start .expectedBlankOrBreak

end CanonicalReply.Yaml
