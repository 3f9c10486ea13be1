/-!
# What can be wrong with a YAML text

A problem says what is wrong and where, and often also what was being read and where that began.
Places are counted in characters from zero; messages show them counted from one.
-/

namespace CanonicalReply.Yaml

/-! ## Places -/

/-- A place in a text: how many characters lie before it, how many line breaks, and how many
characters lie before it in its line. -/
structure Mark where
  index : Nat
  line : Nat
  column : Nat
  deriving DecidableEq

namespace Mark

/-- The beginning of a text. -/
def start : Mark := ⟨0, 0, 0⟩

/-- The place behind one more character of the same line. -/
def next (m : Mark) : Mark := ⟨m.index + 1, m.line, m.column + 1⟩

/-- The beginning of the next line, behind a line break of so many characters. -/
def nextLine (width : Nat) (m : Mark) : Mark := ⟨m.index + width, m.line + 1, 0⟩

/-- The end of a text. A line that has been begun counts as ended. -/
def atEnd (m : Mark) : Mark := if m.column = 0 then m else ⟨m.index, m.line + 1, 0⟩

/-- Whether a place is at the beginning of the first line. Messages leave such a place out. -/
def isOrigin (m : Mark) : Bool := m.line = 0 && m.column = 0

/-- Whether two places lie in the same line and column. -/
def coincides (m n : Mark) : Bool := m.line = n.line && m.column = n.column

/-- The place in words. -/
def message (m : Mark) : String := s!"line {m.line + 1} column {m.column + 1}"

/-- The place as the end of a message; nothing at the beginning of the text. -/
def suffix (m : Mark) : String := if m.isOrigin then "" else " at " ++ m.message

end Mark

/-! ## Flaws -/

/-- What was being read. -/
inductive Activity where
  | simpleKey
  | nextToken
  | plainScalar
  | quotedScalar
  /-- An escape in a quoted scalar. -/
  | escape
  | blockScalar
  | anchor
  | reference
  | tag
  /-- The characters of a tag behind its handle. -/
  | tagCharacters
  | directive
  | versionDirective
  | tagDirective
  /-- The handle that a tag directive defines. -/
  | definedHandle
  /-- The end of the handle that a tag directive defines. -/
  | definedHandleEnd
  /-- The characters of a tag directive behind the handle. -/
  | tagDirectiveCharacters
  | node
  | blockNode
  | flowNode
  | blockCollection
  | blockMapping
  | flowSequence
  | flowMapping
  deriving DecidableEq

/-- The activity in words. -/
def Activity.message : Activity → String
  | simpleKey => "while scanning a simple key"
  | nextToken => "while scanning for the next token"
  | plainScalar => "while scanning a plain scalar"
  | quotedScalar => "while scanning a quoted scalar"
  | escape => "while parsing a quoted scalar"
  | blockScalar => "while scanning a block scalar"
  | anchor => "while scanning an anchor"
  | reference => "while scanning an alias"
  | tag => "while scanning a tag"
  | tagCharacters => "while parsing a tag"
  | directive => "while scanning a directive"
  | versionDirective => "while scanning a %YAML directive"
  | tagDirective => "while scanning a %TAG directive"
  | definedHandle => "while scanning a tag directive"
  | definedHandleEnd => "while parsing a tag directive"
  | tagDirectiveCharacters => "while parsing a %TAG directive"
  | node => "while parsing a node"
  | blockNode => "while parsing a block node"
  | flowNode => "while parsing a flow node"
  | blockCollection => "while parsing a block collection"
  | blockMapping => "while parsing a block mapping"
  | flowSequence => "while parsing a flow sequence"
  | flowMapping => "while parsing a flow mapping"

/-- What is wrong. -/
inductive Flaw where
  | controlCharacter
  | noTokenStart
  | expectedColon
  | entryNotAllowed
  | keyNotAllowed
  | valueNotAllowed
  | unexpectedColon
  | tabIndentation
  | unexpectedDocument
  | unexpectedEnd
  | unknownEscape
  | expectedHexDigits
  | invalidEscapeCode
  | zeroIndentation
  | expectedCommentOrBreak
  | tabForSpace
  | expectedName
  | expectedClosingAngle
  | expectedBlankOrBreak
  | expectedBlank
  | expectedExclamation
  | expectedTagCharacter
  | expectedEscapedOctet
  | incorrectLeadingOctet
  | incorrectTrailingOctet
  | expectedDirectiveName
  | unexpectedNameCharacter
  | unknownDirective
  | expectedVersionDot
  | longVersion
  | expectedVersion
  | expectedDocumentStart
  | duplicateVersion
  | incompatibleVersion
  | duplicateHandle
  | undefinedHandle
  | expectedContent
  | expectedDash
  | expectedKey
  | expectedCommaOrBracket
  | expectedCommaOrBrace
  | unknownAnchor
  deriving DecidableEq

/-- The flaw in words. -/
def Flaw.message : Flaw → String
  | controlCharacter => "control characters are not allowed"
  | noTokenStart => "found character that cannot start any token"
  | expectedColon => "could not find expected ':'"
  | entryNotAllowed => "block sequence entries are not allowed in this context"
  | keyNotAllowed => "mapping keys are not allowed in this context"
  | valueNotAllowed => "mapping values are not allowed in this context"
  | unexpectedColon => "found unexpected ':'"
  | tabIndentation => "found a tab character that violates indentation"
  | unexpectedDocument => "found unexpected document indicator"
  | unexpectedEnd => "found unexpected end of stream"
  | unknownEscape => "found unknown escape character"
  | expectedHexDigits => "did not find expected hexdecimal number"
  | invalidEscapeCode => "found invalid Unicode character escape code"
  | zeroIndentation => "found an indentation indicator equal to 0"
  | expectedCommentOrBreak => "did not find expected comment or line break"
  | tabForSpace => "found a tab character where an indentation space is expected"
  | expectedName => "did not find expected alphabetic or numeric character"
  | expectedClosingAngle => "did not find the expected '>'"
  | expectedBlankOrBreak => "did not find expected whitespace or line break"
  | expectedBlank => "did not find expected whitespace"
  | expectedExclamation => "did not find expected '!'"
  | expectedTagCharacter => "did not find expected tag URI"
  | expectedEscapedOctet => "did not find URI escaped octet"
  | incorrectLeadingOctet => "found an incorrect leading UTF-8 octet"
  | incorrectTrailingOctet => "found an incorrect trailing UTF-8 octet"
  | expectedDirectiveName => "could not find expected directive name"
  | unexpectedNameCharacter => "found unexpected non-alphabetical character"
  | unknownDirective => "found unknown directive name"
  | expectedVersionDot => "did not find expected digit or '.' character"
  | longVersion => "found extremely long version number"
  | expectedVersion => "did not find expected version number"
  | expectedDocumentStart => "did not find expected <document start>"
  | duplicateVersion => "found duplicate %YAML directive"
  | incompatibleVersion => "found incompatible YAML document"
  | duplicateHandle => "found duplicate %TAG directive"
  | undefinedHandle => "found undefined tag handle"
  | expectedContent => "did not find expected node content"
  | expectedDash => "did not find expected '-' indicator"
  | expectedKey => "did not find expected key"
  | expectedCommaOrBracket => "did not find expected ',' or ']'"
  | expectedCommaOrBrace => "did not find expected ',' or '\x7d'"
  | unknownAnchor => "unknown anchor"

/-! ## Problems -/

/-- What is wrong with a text. -/
structure Problem where
  flaw : Flaw
  /-- Where it shows. -/
  mark : Mark
  /-- What was being read, and where that began. -/
  context : Option (Activity × Mark)
  /-- For a text that must not be read at all: how many bytes lie before the cause. -/
  offset : Nat
  deriving DecidableEq

namespace Problem

/-- A problem that shows at a place. -/
def bare (flaw : Flaw) (mark : Mark) : Problem := ⟨flaw, mark, none, 0⟩

/-- A problem that shows while something is read. -/
def during (activity : Activity) (start : Mark) (flaw : Flaw) (mark : Mark) : Problem :=
  ⟨flaw, mark, some (activity, start), 0⟩

/-- A character that no text may have, behind so many bytes. -/
def forbidden (offset : Nat) : Problem := ⟨.controlCharacter, .start, none, offset⟩

/-- Where the problem shows, as part of its message. -/
def location (p : Problem) : String :=
  if p.mark.isOrigin && p.offset != 0 then s!" at position {p.offset}" else p.mark.suffix

/-- What was being read, as part of the message. Its place is left out where it says nothing. -/
def background (p : Problem) : String :=
  match p.context with
  | none => ""
  | some (activity, start) =>
    ", " ++ activity.message ++ if start.coincides p.mark then "" else start.suffix

/-- The problem in words. -/
def message (p : Problem) : String := p.flaw.message ++ p.location ++ p.background

end Problem

end CanonicalReply.Yaml
