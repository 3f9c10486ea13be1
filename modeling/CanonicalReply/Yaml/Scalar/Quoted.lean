import CanonicalReply.Text.Digits
import CanonicalReply.Yaml.Scalar.Gap

/-!
# Quoted scalars

Between single quotes every character stands for itself, and two quotes for one. Between double
quotes there are escapes behind a backslash, and a line may be broken behind one.
-/

namespace CanonicalReply.Yaml

open Text (numeral? hexValue?)

/-- The character that a one-letter escape stands for. -/
def shortEscape? : Char → Option Char
  | '0' => some '\x00'
  | 'a' => some '\x07'
  | 'b' => some '\x08'
  | 't' => some '\t'
  | '\t' => some '\t'
  | 'n' => some '\n'
  | 'v' => some '\x0b'
  | 'f' => some '\x0c'
  | 'r' => some '\r'
  | 'e' => some '\x1b'
  | ' ' => some ' '
  | '"' => some '"'
  | '/' => some '/'
  | '\\' => some '\\'
  | 'N' => some '\u0085'
  | '_' => some '\u00a0'
  | 'L' => some '\u2028'
  | 'P' => some '\u2029'
  | _ => none

/-- How many hexadecimal digits an escape by number has. -/
def escapeDigits? : Char → Option Nat
  | 'x' => some 2
  | 'u' => some 4
  | 'U' => some 8
  | _ => none

/-- The character of an escape by number, with so many digits. -/
def readNumberedEscape (start : Mark) (digits : Nat) (c : Cursor) :
    Except Problem (Char × Cursor) :=
  let written := c.rest.take digits
  if written.length < digits then c.fail .escape start .expectedHexDigits
  else
    match numeral? 16 written with
    | none => c.fail .escape start .expectedHexDigits
    | some n =>
      if n.isValidChar then .ok (Char.ofNat n, c.skip digits)
      else c.fail .escape start .invalidEscapeCode

/-- The character of an escape, from its backslash on. -/
def readEscape (start : Mark) (c : Cursor) : Except Problem (Char × Cursor) :=
  match c.rest.tail.head? with
  | none => c.fail .escape start .unknownEscape
  | some letter =>
    match shortEscape? letter, escapeDigits? letter with
    | some ch, _ => .ok (ch, c.skip 2)
    | none, some digits => readNumberedEscape start digits (c.skip 2)
    | none, none => c.fail .escape start .unknownEscape

/-- What stands between white space and the next white space or the closing quote. -/
structure QuotedWord where
  text : List Char
  /-- The white space that begins behind the word: none yet, or an escaped line break. -/
  gap : Gap
  rest : Cursor

/-- The characters up to white space or the closing quote, in at most so many steps. -/
def readQuotedWord (quote : Char) (start : Mark) : Nat → Cursor → Except Problem QuotedWord
  | 0, c => .ok ⟨[], .empty, c⟩
  | steps + 1, c =>
    match c.rest with
    | [] => .ok ⟨[], .empty, c⟩
    | ch :: rest =>
      let go (ch : Char) (c : Cursor) : Except Problem QuotedWord :=
        (readQuotedWord quote start steps c).map fun w => { w with text := ch :: w.text }
      if isSpacing ch then .ok ⟨[], .empty, c⟩
      else if ch = quote then
        if quote = '\'' ∧ rest.head? = some '\'' then go '\'' (c.skip 2) else .ok ⟨[], .empty, c⟩
      else if quote = '"' ∧ ch = '\\' then
        if rest.head?.any isBreak then .ok ⟨[], .escaped, (c.skip 1).skipBreak⟩
        else
          match readEscape start c with
          | .error p => .error p
          | .ok (ch, c) => go ch c
      else go ch (c.skip 1)

/-- The text of a scalar up to the closing quote, in at most so many steps. -/
def readQuotedText (quote : Char) (start : Mark) :
    Nat → Cursor → Except Problem (List Char × Cursor)
  | 0, c => c.fail .quotedScalar start .unexpectedEnd
  | steps + 1, c =>
    if c.atDocumentIndicator then c.fail .quotedScalar start .unexpectedDocument
    else if c.rest = [] then c.fail .quotedScalar start .unexpectedEnd
    else
      match readQuotedWord quote start (c.rest.length + 1) c with
      | .error p => .error p
      | .ok word =>
        if word.rest.looksAt quote then .ok (word.text, word.rest.skip 1)
        else
          match word.gap.read 0 start (word.rest.rest.length + 1) word.rest with
          | .error p => .error p
          | .ok (gap, c) =>
            (readQuotedText quote start steps c).map fun (more, c) =>
              (word.text ++ gap.text ++ more, c)

/-- The text of a quoted scalar that begins at the cursor. -/
def readQuoted (quote : Char) (c : Cursor) : Except Problem (List Char × Cursor) :=
  readQuotedText quote c.mark (c.rest.length + 1) (c.skip 1)

end CanonicalReply.Yaml
