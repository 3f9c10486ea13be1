import CanonicalReply.Yaml.Scalar.Gap

/-!
# Plain scalars

A scalar without quotes is a sequence of words. It ends before a comment, before a colon that
stands in front of white space, at the end of the block that it stands in, and in flow collections
also before the characters that have a meaning there.
-/

namespace CanonicalReply.Yaml

/-- Whether a colon must not stand before this character in a flow collection. -/
def clashesWithColon (c : Char) : Bool := isFlowIndicator c || c = '?'

/-- The characters of a word, from a place on. -/
def readPlainWord (flow : Bool) (start : Mark) :
    List Char → Mark → Except Problem (List Char × Cursor)
  | [], m => .ok ([], ⟨[], m⟩)
  | c :: rest, m =>
    if isSpacing c then .ok ([], ⟨c :: rest, m⟩)
    else if flow && c == ':' && rest.head?.any clashesWithColon then
      .error (.during .plainScalar start .unexpectedColon m)
    else if (c == ':' && pauses rest) || (flow && isFlowIndicator c) then
      .ok ([], ⟨c :: rest, m⟩)
    else (readPlainWord flow start rest m.next).map fun (word, cursor) => (c :: word, cursor)

/-- A plain scalar and what follows it. -/
structure PlainScalar where
  text : List Char
  /-- Whether a line break lies between the scalar and what follows it. -/
  isBroken : Bool
  rest : Cursor

/-- A gap in front of the rest of a scalar, of which there may be nothing. -/
def PlainScalar.after (word : List Char) (gap : Gap) (s : PlainScalar) : PlainScalar :=
  if s.text = [] then { s with text := word, isBroken := gap.isBroken }
  else { s with text := word ++ gap.text ++ s.text }

/-- The words of a scalar that may not reach below column `indent`, in at most so many steps. -/
def readPlainText (flow : Bool) (indent : Nat) (start : Mark) :
    Nat → Cursor → Except Problem PlainScalar
  | 0, c => .ok ⟨[], false, c⟩
  | steps + 1, c =>
    if c.atDocumentIndicator || c.looksAt '#' then .ok ⟨[], false, c⟩
    else
      match readPlainWord flow start c.rest c.mark with
      | .error p => .error p
      | .ok ([], c) => .ok ⟨[], false, c⟩
      | .ok (word, c) =>
        match Gap.empty.read indent start (c.rest.length + 1) c with
        | .error p => .error p
        | .ok (gap, c) =>
          if !flow && c.column < indent then .ok ⟨word, gap.isBroken, c⟩
          else (readPlainText flow indent start steps c).map (PlainScalar.after word gap)

/-- The plain scalar that begins at the cursor. -/
def readPlain (flow : Bool) (indent : Nat) (c : Cursor) : Except Problem PlainScalar :=
  readPlainText flow indent c.mark (c.rest.length + 1) c

end CanonicalReply.Yaml
