import CanonicalReply.Yaml.Cursor

/-!
# White space inside scalars

Between two words of a plain or quoted scalar there may be blanks and line breaks. Blanks on one
line stay. A single line break counts as a space, and of several line breaks all but the first
stay; blanks around line breaks do not count.
-/

namespace CanonicalReply.Yaml

/-- White space inside a scalar, as far as it has been read. -/
structure Gap where
  /-- The blanks before the first line break. -/
  blanks : List Char
  /-- The first line break, if there is one; an escaped one is empty. -/
  lineBreak? : Option (List Char)
  /-- The other line breaks. -/
  further : List Char
  deriving DecidableEq

namespace Gap

/-- No white space. -/
def empty : Gap := ⟨[], none, []⟩

/-- An escaped line break. -/
def escaped : Gap := ⟨[], some [], []⟩

/-- Whether there is a line break. -/
def isBroken (g : Gap) : Bool := g.lineBreak?.isSome

/-- With one more blank, which counts only on the first line. -/
def withBlank (g : Gap) (c : Char) : Gap :=
  if g.isBroken then g else { g with blanks := g.blanks ++ [c] }

/-- With one more line break. -/
def withBreak (g : Gap) (b : List Char) : Gap :=
  match g.lineBreak? with
  | none => { g with lineBreak? := some b }
  | some _ => { g with further := g.further ++ b }

/-- What the white space counts as. -/
def text (g : Gap) : List Char :=
  match g.lineBreak? with
  | none => g.blanks
  | some ['\n'] => if g.further = [] then [' '] else g.further
  | some b => b ++ g.further

/-- Read on over white space, in at most so many steps. Behind a line break a tab must not stand
in a column below `indent`. -/
def read (indent : Nat) (start : Mark) : Nat → Gap → Cursor → Except Problem (Gap × Cursor)
  | 0, g, c => .ok (g, c)
  | steps + 1, g, c =>
    match c.rest with
    | [] => .ok (g, c)
    | ch :: _ =>
      if isBlank ch then
        if g.isBroken && ch == '\t' && c.column < indent then
          c.fail .plainScalar start .tabIndentation
        else read indent start steps (g.withBlank ch) (c.skip 1)
      else if isBreak ch then
        let (b, c) := c.takeBreak
        read indent start steps (g.withBreak b) c
      else .ok (g, c)

end Gap

end CanonicalReply.Yaml
