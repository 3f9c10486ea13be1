import CanonicalReply.Yaml.Directive

/-!
# Tokens

The text is cut into tokens before its structure is found. Blocks, which the text shows by
indentation, have tokens of their own where they begin and end.
-/

namespace CanonicalReply.Yaml

/-- How a scalar is written. -/
inductive Style where
  | plain
  | singleQuoted
  | doubleQuoted
  | literal
  | folded
  deriving DecidableEq

/-- What a token stands for. -/
inductive TokenKind where
  | streamEnd
  | directive (content : Directive)
  | documentStart
  | documentEnd
  | blockSequenceStart
  | blockMappingStart
  | blockEnd
  | flowSequenceStart
  | flowSequenceEnd
  | flowMappingStart
  | flowMappingEnd
  | blockEntry
  | flowEntry
  /-- A key of a mapping follows. A question mark may stand here, or the colon behind the key
  shows it. -/
  | key (written : Bool)
  | value
  | reference (name : List Char)
  | anchor (name : List Char)
  | tag (content : WrittenTag)
  | scalar (style : Style) (text : List Char)
  deriving DecidableEq

/-- A token and where it begins. -/
structure Token where
  kind : TokenKind
  mark : Mark
  deriving DecidableEq

/-- The place behind a token that takes at most one character. -/
def Token.behind (t : Token) : Mark :=
  match t.kind with
  | .key false => t.mark
  | _ => t.mark.next

/-- The tokens of a text up to its end, or up to a problem. -/
structure Tokens where
  all : List Token
  ending : Except Problem Mark

/-- More tokens in front. -/
def Tokens.after (front : List Token) (ts : Tokens) : Tokens := { ts with all := front ++ ts.all }

end CanonicalReply.Yaml
