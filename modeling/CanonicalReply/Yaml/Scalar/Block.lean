import CanonicalReply.Text.Digits
import CanonicalReply.Yaml.Cursor

/-!
# Block scalars

A block scalar is the text of the lines below its header, without their common indentation. The
header may give the indentation, and may say what becomes of the line breaks at the end. In a
literal scalar every line break counts; in a folded one a line break between two lines that do not
begin with blanks counts as a space.
-/

namespace CanonicalReply.Yaml

/-- What becomes of the line breaks at the end. -/
inductive Chomping where
  | strip
  | clip
  | keep
  deriving DecidableEq

/-- What the header of a block scalar says. -/
structure BlockHeader where
  chomping : Chomping
  /-- The indentation beyond that of the block around the scalar, if it is given. -/
  increment? : Option Nat
  deriving DecidableEq

/-! ## The header -/

/-- A sign for what becomes of the line breaks at the end. -/
def chomping? : Char → Option Chomping
  | '+' => some .keep
  | '-' => some .strip
  | _ => none

/-- Read a sign, if one comes next. -/
def readChomping (c : Cursor) : Option Chomping × Cursor :=
  match c.rest.head?.bind chomping? with
  | none => (none, c)
  | some chomping => (some chomping, c.skip 1)

/-- Read a digit that gives the indentation, if one comes next. -/
def readIncrement (start : Mark) (c : Cursor) : Except Problem (Option Nat × Cursor) :=
  match c.rest.head?.bind (Text.digitValue? 10) with
  | none => .ok (none, c)
  | some 0 => c.fail .blockScalar start .zeroIndentation
  | some n => .ok (some n, c.skip 1)

/-- Read a header behind its indicator, up to the end of the line. Sign and digit come in any
order. -/
def readBlockHeader (start : Mark) (c : Cursor) : Except Problem (BlockHeader × Cursor) :=
  let (first, c) := readChomping c
  match readIncrement start c with
  | .error p => .error p
  | .ok (increment, c) =>
    let (second, c) := if first.isNone && increment.isSome then readChomping c else (none, c)
    let c := (c.skipWhile isBlank).skipComment
    if endsLine c.rest then .ok (⟨(first.or second).getD .clip, increment⟩, c.skipBreak)
    else c.fail .blockScalar start .expectedCommentOrBreak

/-! ## The lines -/

/-- Past the spaces in front of a line, up to its indentation if that is known. -/
def skipIndent (indent? : Option Nat) (c : Cursor) : Cursor :=
  let spaces := (c.rest.takeWhile (· = ' ')).length
  match indent? with
  | none => c.skip spaces
  | some indent => c.skip (min spaces (indent - c.column))

/-- Whether the cursor has not reached the indentation, as far as that is known. -/
def isBelow (indent? : Option Nat) (c : Cursor) : Bool :=
  match indent? with
  | none => true
  | some indent => c.column < indent

/-- Empty lines, and how far the cursor came in any of them. -/
structure EmptyLines where
  breaks : List Char
  widest : Nat
  rest : Cursor

/-- Read over empty lines and the indentation of the line behind them, in at most so many
steps. -/
def readEmptyLines (indent? : Option Nat) (start : Mark) :
    Nat → Cursor → Except Problem EmptyLines
  | 0, c => .ok ⟨[], 0, c⟩
  | steps + 1, c =>
    let c := skipIndent indent? c
    if isBelow indent? c && c.looksAt '\t' then c.fail .blockScalar start .tabForSpace
    else if c.sees isBreak then
      let (b, next) := c.takeBreak
      (readEmptyLines indent? start steps next).map fun e =>
        ⟨b ++ e.breaks, max c.column e.widest, e.rest⟩
    else .ok ⟨[], c.column, c⟩

/-- The line break behind a line and those of the empty lines below it. -/
structure LineEnd where
  own : List Char
  further : List Char
  deriving DecidableEq

/-- What the line breaks between two lines count as. `begun` says that the line above them begins
with a blank, `begins` that the line below them does. -/
def LineEnd.between (e : LineEnd) (literal begun begins : Bool) : List Char :=
  if !literal && e.own == ['\n'] && !begun && !begins then
    if e.further = [] then [' '] else e.further
  else e.own ++ e.further

/-- What the line breaks at the end of the scalar count as. -/
def LineEnd.chomped (e : LineEnd) : Chomping → List Char
  | .strip => []
  | .clip => e.own
  | .keep => e.own ++ e.further

/-- The lines of a scalar with a given indentation, in at most so many steps. The end of the line
above is given, and whether that line begins with a blank. -/
def readBlockLines (literal : Bool) (chomping : Chomping) (indent : Nat) (start : Mark) :
    Nat → LineEnd → Bool → Cursor → Except Problem (List Char × Cursor)
  | 0, e, _, c => .ok (e.chomped chomping, c)
  | steps + 1, e, begun, c =>
    if c.column != indent || c.rest.isEmpty then .ok (e.chomped chomping, c)
    else
      let begins := c.sees isBlank
      let (line, c) := c.takeWhile fun ch => !isBreak ch
      let (own, c) := c.takeBreak
      match readEmptyLines (some indent) start (c.rest.length + 1) c with
      | .error p => .error p
      | .ok empty =>
        (readBlockLines literal chomping indent start steps ⟨own, empty.breaks⟩ begins
          empty.rest).map fun (more, c) => (e.between literal begun begins ++ line ++ more, c)

/-- The text of a block scalar that begins at the cursor, inside a block whose scalars must not
reach below column `least`. -/
def readBlock (literal : Bool) (least : Nat) (c : Cursor) :
    Except Problem (List Char × Cursor) :=
  let start := c.mark
  match readBlockHeader start (c.skip 1) with
  | .error p => .error p
  | .ok (header, c) =>
    let given := header.increment?.map (least - 1 + ·)
    match readEmptyLines given start (c.rest.length + 1) c with
    | .error p => .error p
    | .ok empty =>
      let indent := given.getD (max 1 (max least empty.widest))
      readBlockLines literal header.chomping indent start (c.rest.length + 1)
        ⟨[], empty.breaks⟩ false empty.rest

end CanonicalReply.Yaml
