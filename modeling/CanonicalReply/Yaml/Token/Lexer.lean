import CanonicalReply.Yaml.Scalar.Block
import CanonicalReply.Yaml.Scalar.Plain
import CanonicalReply.Yaml.Scalar.Quoted
import CanonicalReply.Yaml.Token

/-!
# Cutting a text into tokens

Two things make this more than a matter of characters. First, indentation: the columns of the open
blocks are kept, and a token in a lower column closes blocks. Secondly, a key of a mapping shows
only by the colon behind it. So the place of a token that may turn out to begin a key is kept, one
for each open flow collection and one outside of them, and tokens are held back from the first
such place on, until a colon comes or none can come any more: a key must not be longer than 1024
characters and lies on one line.
-/

namespace CanonicalReply.Yaml

/-- A place where a key may have begun. -/
structure SimpleKey where
  mark : Mark
  /-- The number of the token that begins there. -/
  number : Nat
  /-- Whether nothing but a key may stand there. -/
  isRequired : Bool
  deriving DecidableEq

/-- The state of the lexer. -/
structure Lexer where
  cursor : Cursor
  /-- The columns of the open blocks, innermost first. -/
  blocks : List Nat
  /-- Where a key may have begun in the innermost flow collection, or in the block. -/
  candidate : Option SimpleKey
  /-- The same for what is around the innermost flow collection, from inside to outside. -/
  outer : List (Option SimpleKey)
  /-- Whether a key may begin at the cursor. -/
  keyAllowed : Bool
  /-- The number of the first token that is held back. -/
  first : Nat
  /-- The tokens that are held back. -/
  held : List Token

namespace Lexer

/-- Ready to read a text. -/
def start (s : String) : Lexer := ⟨.ofString s, [], none, [], true, 0, []⟩

/-- Whether a flow collection is open. -/
def inFlow (l : Lexer) : Bool := !l.outer.isEmpty

/-- The place that is read next. -/
def mark (l : Lexer) : Mark := l.cursor.mark

/-- The lowest column that belongs to the innermost block. -/
def least (l : Lexer) : Nat :=
  match l.blocks with
  | [] => 0
  | column :: _ => column + 1

/-- Fail at the cursor, whatever is being read. -/
def fail {α : Type} (l : Lexer) (flaw : Flaw) : Except Problem α := .error (.bare flaw l.mark)

/-- Append a token. -/
def push (l : Lexer) (kind : TokenKind) (mark : Mark) : Lexer :=
  { l with held := l.held ++ [⟨kind, mark⟩] }

/-- Insert a token in front of the one with a given number. -/
def insert (l : Lexer) (number : Nat) (kind : TokenKind) (mark : Mark) : Lexer :=
  { l with held := l.held.insertIdx (number - l.first) ⟨kind, mark⟩ }

/-- Append a token of so many characters. -/
def pushHere (l : Lexer) (kind : TokenKind) (width : Nat) : Lexer :=
  { l.push kind l.mark with cursor := l.cursor.skip width }

/-! ## Keys -/

/-- A place at which a key may have begun, unless it is too far away by now. If nothing else may
stand there, that is a problem. -/
def checkCandidate (now : Mark) (key? : Option SimpleKey) : Except Problem (Option SimpleKey) :=
  match key? with
  | none => .ok none
  | some key =>
    if key.mark.line < now.line ∨ key.mark.index + 1024 < now.index then
      if key.isRequired then .error (.during .simpleKey key.mark .expectedColon now) else .ok none
    else .ok (some key)

/-- The same for several places, of which the outermost is checked first. -/
def checkCandidates (now : Mark) :
    List (Option SimpleKey) → Except Problem (List (Option SimpleKey))
  | [] => .ok []
  | key? :: keys =>
    match checkCandidates now keys with
    | .error p => .error p
    | .ok keys => (checkCandidate now key?).map (· :: keys)

/-- Forget the places where a key can no longer have begun. -/
def dropStale (l : Lexer) : Except Problem Lexer :=
  match checkCandidates l.mark l.outer with
  | .error p => .error p
  | .ok outer =>
    (checkCandidate l.mark l.candidate).map fun candidate =>
      { l with candidate := candidate, outer := outer }

/-- Forget the innermost place where a key may have begun. -/
def dropCandidate (l : Lexer) : Except Problem Lexer :=
  match l.candidate with
  | some ⟨mark, _, true⟩ => .error (.during .simpleKey mark .expectedColon l.mark)
  | _ => .ok { l with candidate := none }

/-- A key may begin at the cursor, if it is allowed to. -/
def noteCandidate (l : Lexer) : Except Problem Lexer :=
  if l.keyAllowed then
    l.dropCandidate.map fun l =>
      { l with candidate := some ⟨l.mark, l.first + l.held.length,
        !l.inFlow && l.blocks.head? == some l.mark.column⟩ }
  else .ok l

/-! ## Blocks -/

/-- Open a block at a place, unless one is open that begins in the same column or behind it. The
token for it comes in front of the one with the given number, or last. -/
def openBlock (l : Lexer) (number : Option Nat) (kind : TokenKind) (mark : Mark) : Lexer :=
  if l.inFlow || mark.column < l.least then l
  else
    let l := { l with blocks := mark.column :: l.blocks }
    match number with
    | none => l.push kind mark
    | some n => l.insert n kind mark

/-- Close all blocks of which a predicate on the column says so, from the inside. -/
def closeBlocks (l : Lexer) (closes : Nat → Bool) : Lexer :=
  if l.inFlow then l
  else
    let closed := (l.blocks.takeWhile closes).map fun _ => Token.mk .blockEnd l.mark
    { l with blocks := l.blocks.dropWhile closes, held := l.held ++ closed }

/-! ## Tokens of each kind -/

/-- The end of the text. -/
def finish (l : Lexer) : Except Problem Lexer :=
  let l := { l with cursor := { l.cursor with mark := l.mark.atEnd } }
  (l.closeBlocks fun _ => true).dropCandidate

/-- A directive. -/
def directive (l : Lexer) : Except Problem Lexer :=
  match (l.closeBlocks fun _ => true).dropCandidate with
  | .error p => .error p
  | .ok l =>
    (readDirective l.cursor).map fun (content, c) =>
      { l.push (.directive content) l.mark with keyAllowed := false, cursor := c }

/-- Three dashes or three dots. -/
def documentIndicator (l : Lexer) (kind : TokenKind) : Except Problem Lexer :=
  (l.closeBlocks fun _ => true).dropCandidate.map fun l =>
    { l.pushHere kind 3 with keyAllowed := false }

/-- The beginning of a flow collection, which may itself begin a key. -/
def flowStart (l : Lexer) (kind : TokenKind) : Except Problem Lexer :=
  l.noteCandidate.map fun l =>
    { l.pushHere kind 1 with
      keyAllowed := true, candidate := none, outer := l.candidate :: l.outer }

/-- The end of a flow collection. -/
def flowEnd (l : Lexer) (kind : TokenKind) : Except Problem Lexer :=
  l.dropCandidate.map fun l =>
    let l := { l.pushHere kind 1 with keyAllowed := false }
    match l.outer with
    | [] => l
    | candidate :: outer => { l with candidate := candidate, outer := outer }

/-- A comma in a flow collection. -/
def flowEntry (l : Lexer) : Except Problem Lexer :=
  l.dropCandidate.map fun l => { l.pushHere .flowEntry 1 with keyAllowed := true }

/-- A dash in front of an item. -/
def blockEntry (l : Lexer) : Except Problem Lexer :=
  if !l.inFlow && !l.keyAllowed then l.fail .entryNotAllowed
  else
    (l.openBlock none .blockSequenceStart l.mark).dropCandidate.map fun l =>
      { l.pushHere .blockEntry 1 with keyAllowed := true }

/-- A question mark in front of a key. -/
def key (l : Lexer) : Except Problem Lexer :=
  if !l.inFlow && !l.keyAllowed then l.fail .keyNotAllowed
  else
    (l.openBlock none .blockMappingStart l.mark).dropCandidate.map fun l =>
      { l.pushHere (.key true) 1 with keyAllowed := !l.inFlow }

/-- A colon in front of a value. If a key may have begun earlier, it has. -/
def value (l : Lexer) : Except Problem Lexer :=
  match l.candidate with
  | some k =>
    let l := (l.insert k.number (.key false) k.mark).openBlock (some k.number) .blockMappingStart
      k.mark
    .ok { l.pushHere .value 1 with candidate := none, keyAllowed := false }
  | none =>
    if !l.inFlow && !l.keyAllowed then l.fail .valueNotAllowed
    else
      let l := l.openBlock none .blockMappingStart l.mark
      .ok { l.pushHere .value 1 with keyAllowed := !l.inFlow }

/-- A token that may begin a key, from what a reader makes of the text. -/
def keyPart {α : Type} (l : Lexer) (read : Cursor → Except Problem (α × Cursor))
    (kind : α → TokenKind) : Except Problem Lexer :=
  match l.noteCandidate with
  | .error p => .error p
  | .ok l =>
    (read l.cursor).map fun (content, c) =>
      { l.push (kind content) l.mark with keyAllowed := false, cursor := c }

/-- A plain scalar. If it ends with its line, a key may follow. -/
def plain (l : Lexer) : Except Problem Lexer :=
  match l.noteCandidate with
  | .error p => .error p
  | .ok l =>
    (readPlain l.inFlow l.least l.cursor).map fun s =>
      { l.push (.scalar .plain s.text) l.mark with keyAllowed := s.isBroken, cursor := s.rest }

/-- A quoted scalar. -/
def quoted (l : Lexer) (quote : Char) (style : Style) : Except Problem Lexer :=
  l.keyPart (readQuoted quote) (.scalar style)

/-- A block scalar, behind which a key may follow. -/
def block (l : Lexer) (literal : Bool) : Except Problem Lexer :=
  match l.dropCandidate with
  | .error p => .error p
  | .ok l =>
    (readBlock literal l.least l.cursor).map fun (text, c) =>
      { l.push (.scalar (if literal then .literal else .folded) text) l.mark with
        keyAllowed := true, cursor := c }

/-! ## The next token -/

/-- To the next character that is neither white space nor in a comment, in at most so many steps.
A tab may indent a line only where no key can begin; behind a line break one can, outside of flow
collections. -/
def skipSpacing : Nat → Lexer → Lexer
  | 0, l => l
  | steps + 1, l =>
    let c := if l.mark.index = 0 ∧ l.cursor.looksAt '\ufeff' then l.cursor.skip 1 else l.cursor
    let blank := fun ch => ch == ' ' || (ch == '\t' && (l.inFlow || !l.keyAllowed))
    let c := (c.skipWhile blank).skipComment
    if c.sees isBreak then
      skipSpacing steps { l with cursor := c.skipBreak, keyAllowed := l.keyAllowed || !l.inFlow }
    else { l with cursor := c }

/-- Whether a plain scalar can begin with a text. -/
def startsPlain (inFlow : Bool) : List Char → Bool
  | [] => false
  | c :: rest =>
    let indicators := "-?:,[]\x7b\x7d#&*!|>'\"%@\x60".toList
    (!isSpacing c && !indicators.contains c) ||
      (c == '-' && !rest.head?.any isBlank) ||
      (!inFlow && (c == '?' || c == ':') && !pauses rest)

/-- Read the token that begins at the cursor, which is not at the end. -/
def readToken (l : Lexer) : Except Problem Lexer :=
  match l.cursor.rest with
  | [] => l.finish
  | c :: rest =>
    if l.mark.column = 0 ∧ c = '%' then l.directive
    else if l.cursor.atDocumentIndicator then
      l.documentIndicator (if c = '-' then .documentStart else .documentEnd)
    else if c = '[' then l.flowStart .flowSequenceStart
    else if c = '\x7b' then l.flowStart .flowMappingStart
    else if c = ']' then l.flowEnd .flowSequenceEnd
    else if c = '\x7d' then l.flowEnd .flowMappingEnd
    else if c = ',' then l.flowEntry
    else if c = '-' ∧ pauses rest then l.blockEntry
    else if c = '?' ∧ (l.inFlow || pauses rest) then l.key
    else if c = ':' ∧ (l.inFlow || pauses rest) then l.value
    else if c = '*' then l.keyPart (readAnchorName .reference) .reference
    else if c = '&' then l.keyPart (readAnchorName .anchor) .anchor
    else if c = '!' then l.keyPart (readTag l.inFlow) .tag
    else if c = '|' ∧ !l.inFlow then l.block true
    else if c = '>' ∧ !l.inFlow then l.block false
    else if c = '\'' then l.quoted '\'' .singleQuoted
    else if c = '"' then l.quoted '"' .doubleQuoted
    else if startsPlain l.inFlow l.cursor.rest then l.plain
    else l.cursor.fail .nextToken l.mark .noTokenStart

/-- Go to the next token and close the blocks that it does not belong to. -/
def approach (l : Lexer) : Except Problem Lexer :=
  (skipSpacing (l.cursor.rest.length + 1) l).dropStale.map fun l =>
    l.closeBlocks fun column => l.mark.column < column

/-! ## All tokens -/

/-- The number of the first token that may turn out to begin a key. -/
def firstCandidate? (l : Lexer) : Option Nat :=
  ((l.candidate :: l.outer).filterMap (·.map SimpleKey.number)).min?

/-- The tokens that need not be held back any longer. -/
def release (l : Lexer) : List Token × Lexer :=
  let count :=
    match l.firstCandidate? with
    | none => l.held.length
    | some n => n - l.first
  (l.held.take count, { l with first := l.first + count, held := l.held.drop count })

/-- The tokens that remain, in at most so many steps. A problem takes the place of the tokens that
are held back. -/
def run : Nat → Lexer → Tokens
  | 0, l => ⟨l.held, .ok l.mark⟩
  | steps + 1, l =>
    match l.dropStale with
    | .error p => ⟨[], .error p⟩
    | .ok l =>
      let (ready, l) := l.release
      .after ready <|
        match l.approach with
        | .error p => ⟨[], .error p⟩
        | .ok l =>
          if l.cursor.rest = [] then
            match l.finish.bind dropStale with
            | .error p => ⟨[], .error p⟩
            | .ok l => ⟨l.held, .ok l.mark⟩
          else
            match l.readToken with
            | .error p => ⟨[], .error p⟩
            | .ok l => run steps l

end Lexer

/-- The tokens of a text. A text with a character that it may not have has none. -/
def tokens (s : String) : Tokens :=
  match forbiddenOffset? s.toList with
  | some offset => ⟨[], .error (.forbidden offset)⟩
  | none => (Lexer.start s).run (s.length + 1)

end CanonicalReply.Yaml
