import CanonicalReply.Json.Fault
import CanonicalReply.Text.Digits

/-!
# Reading JSON text

A reader takes what remains of a text and gives a value with what remains after it. A fault is
given with the mark at which it was found; `parse` turns the mark into a position.

The readers of values call each other on ever shorter rests. They carry a bound on the number of
steps, which `parse` chooses larger than any text needs, and the number of levels of nesting that
are still allowed.
-/

namespace CanonicalReply.Json

open Text (hexValue?)

/-- Something found in a text, or a fault with its mark. -/
abbrev Marked (α : Type) := Except (Fault × Mark) α

/-- The result of a reader: a value with the rest of the text, or a fault with its mark. -/
abbrev Reading (α : Type) := Marked (α × List Char)

/-- A fault in front of the rest of a text. -/
def failAt {α : Type} (fault : Fault) (rest : List Char) : Marked α :=
  .error (fault, ⟨rest, 0⟩)

/-- A fault behind so many more bytes of the rest of a text. -/
def failPast {α : Type} (taken : Nat) (fault : Fault) (rest : List Char) : Marked α :=
  .error (fault, ⟨rest, taken⟩)

/-- Whether a character may stand between the parts of a text. -/
def isSpace (c : Char) : Bool := c = ' ' || c = '\n' || c = '\t' || c = '\r'

/-- The rest of a text from its next meaningful character on. -/
def skipSpace (s : List Char) : List Char := s.dropWhile isSpace

/-- What remains behind a word of which the letters still due are given. -/
def readWord : List Char → List Char → Marked (List Char)
  | [], s => .ok s
  | _ :: _, [] => failAt .endInValue []
  | e :: expected, c :: rest =>
    if c = e then readWord expected rest else failPast 1 .expectedWord (c :: rest)

/-! ## Strings -/

/-- The number of bytes that a text takes. -/
def byteCount (s : List Char) : Nat := s.foldl (fun n c => n + c.utf8Size) 0

/-- Four hexadecimal digits. Without four more bytes the text ends too early. -/
def readHex4 (s : List Char) : Reading Nat :=
  match s with
  | a :: b :: c :: d :: rest =>
    match hexValue? a, hexValue? b, hexValue? c, hexValue? d with
    | some a, some b, some c, some d => .ok (((a * 16 + b) * 16 + c) * 16 + d, rest)
    | _, _, _, _ => failPast 4 .invalidEscape s
  | _ => if byteCount s < 4 then failAt .endInString [] else failPast 4 .invalidEscape s

/-- The character of an escape by number. A number above the basic plane takes a pair of
surrogates, the second in an escape of its own. -/
def readNumberedChar (s : List Char) : Reading Char :=
  match readHex4 s with
  | .error e => .error e
  | .ok (n, rest) =>
    if 0xDC00 ≤ n ∧ n ≤ 0xDFFF then failAt .loneSurrogate rest
    else if n < 0xD800 ∨ 0xDBFF < n then .ok (Char.ofNat n, rest)
    else
      match rest with
      | [] => failAt .endInString []
      | '\\' :: [] => failAt .endInString []
      | '\\' :: 'u' :: s =>
        match readHex4 s with
        | .error e => .error e
        | .ok (m, rest) =>
          if m < 0xDC00 ∨ 0xDFFF < m then failAt .loneSurrogate rest
          else .ok (Char.ofNat ((n - 0xD800) * 0x400 + (m - 0xDC00) + 0x10000), rest)
      | '\\' :: s => failPast 1 .unpairedSurrogate s
      | s => failPast 1 .unpairedSurrogate s

/-- The character of an escape whose backslash has been read. -/
def readEscape : List Char → Reading Char
  | [] => failAt .endInString []
  | '"' :: rest => .ok ('"', rest)
  | '\\' :: rest => .ok ('\\', rest)
  | '/' :: rest => .ok ('/', rest)
  | 'b' :: rest => .ok ('\x08', rest)
  | 'f' :: rest => .ok ('\x0c', rest)
  | 'n' :: rest => .ok ('\n', rest)
  | 'r' :: rest => .ok ('\r', rest)
  | 't' :: rest => .ok ('\t', rest)
  | 'u' :: rest => readNumberedChar rest
  | s => failPast 1 .invalidEscape s

/-- The characters of a string up to its closing quote, in at most so many steps. -/
def readStringChars : Nat → List Char → Reading (List Char)
  | 0, s => failAt .endInString s
  | _ + 1, [] => failAt .endInString []
  | _ + 1, '"' :: rest => .ok ([], rest)
  | steps + 1, '\\' :: rest =>
    match readEscape rest with
    | .error e => .error e
    | .ok (c, rest) =>
      match readStringChars steps rest with
      | .error e => .error e
      | .ok (cs, rest) => .ok (c :: cs, rest)
  | steps + 1, c :: rest =>
    if c.toNat < 0x20 then failPast 1 .controlCharacter (c :: rest)
    else
      match readStringChars steps rest with
      | .error e => .error e
      | .ok (cs, rest) => .ok (c :: cs, rest)

/-- A string whose opening quote has been read. -/
def readString (s : List Char) : Reading String :=
  match readStringChars (s.length + 1) s with
  | .error e => .error e
  | .ok (cs, rest) => .ok (String.ofList cs, rest)

/-! ## Numbers -/

/-- The digits of a literal as one number times a power of ten. -/
structure Literal where
  digits : Nat
  exponent : Int

/-- Append digits to a number as long as it fits 64 bits; the digits from the first one that does
not fit are returned. -/
def absorb (n : Nat) : List Char → Nat × List Char
  | [] => (n, [])
  | c :: rest =>
    let m := n * 10 + (c.toNat - '0'.toNat)
    if m < UInt64.size then absorb m rest else (n, c :: rest)

/-- A power of ten as a double. -/
def powerOfTen (k : Nat) : Binary64 := .ofRatio false (Nat.pow 10 k) 1

/-- The double of a literal: its digits times or divided by a power of ten, rounded after each
step; none if it is too large. A power below the smallest double's is taken in two steps. -/
def Literal.double? (l : Literal) : Option Binary64 :=
  let x := Binary64.ofRatio false l.digits 1
  if 0 ≤ l.exponent then
    if l.exponent ≤ 308 then x.mul? (powerOfTen l.exponent.toNat)
    else if l.digits = 0 then some .zero
    else none
  else
    let k := l.exponent.natAbs
    if k ≤ 308 then x.div? (powerOfTen k)
    else if k ≤ 616 then (x.div? (powerOfTen 308)).bind (·.div? (powerOfTen (k - 308)))
    else some .zero

/-- A literal as a number with its sign. -/
def finishDouble (negative : Bool) (l : Literal) (s : List Char) : Reading Number :=
  match l.double? with
  | none => failAt .numberOutOfRange s
  | some x => .ok (.double (if negative then x.neg else x), s)

/-- The number of the given digits. -/
def digitsValue (ds : List Char) : Nat :=
  ds.foldl (fun n c => n * 10 + (c.toNat - '0'.toNat)) 0

/-- The first so many digits that no longer fit a 32-bit exponent. -/
def exponentOverflow (ds : List Char) : Nat :=
  ((List.range (ds.length + 1)).find? fun k => Nat.pow 2 31 ≤ digitsValue (ds.take k)).getD
    ds.length

/-- The exponent of a literal, whose letter has been read. -/
def readExponent (negative : Bool) (l : Literal) (s : List Char) : Reading Number :=
  let down := s.head? == some '-'
  let s := if down || s.head? == some '+' then s.tail else s
  match s with
  | [] => failAt .endInValue []
  | c :: _ =>
    if !c.isDigit then failPast 1 .invalidNumber s
    else
      let ds := s.takeWhile Char.isDigit
      let rest := s.dropWhile Char.isDigit
      let e := digitsValue ds
      if Nat.pow 2 31 ≤ e then
        if l.digits ≠ 0 ∧ !down then failAt .numberOutOfRange (s.drop (exponentOverflow ds))
        else finishDouble negative ⟨0, 0⟩ rest
      else finishDouble negative ⟨l.digits, if down then l.exponent - e else l.exponent + e⟩ rest

/-- What may follow the digits of a literal, a fraction and an exponent. -/
def readFraction (negative : Bool) (l : Literal) (s : List Char) : Reading Number :=
  match s with
  | '.' :: rest =>
    let ds := rest.takeWhile Char.isDigit
    let s := rest.dropWhile Char.isDigit
    if ds.isEmpty then
      if s.isEmpty then failAt .endInValue [] else failPast 1 .invalidNumber s
    else
      let (n, dropped) := absorb l.digits ds
      let l : Literal := ⟨n, l.exponent - (ds.length - dropped.length : Nat)⟩
      match s with
      | 'e' :: rest | 'E' :: rest => readExponent negative l rest
      | s => finishDouble negative l s
  | 'e' :: rest | 'E' :: rest => readExponent negative l rest
  | s => finishDouble negative l s

/-- Whether digits are followed by something that makes a double of them. -/
def startsFraction (s : List Char) : Bool :=
  match s.head? with
  | some c => c = '.' || c = 'e' || c = 'E'
  | none => false

/-- A number whose sign has been read. An integer that fits 64 bits stays one; minus zero does
not, and neither does a negative one below the signed range. -/
def readNumber (negative : Bool) (s : List Char) : Reading Number :=
  match s with
  | [] => failAt .endInValue []
  | c :: more =>
    if !c.isDigit then failPast 1 .invalidNumber s
    else if c = '0' ∧ (more.head?.map Char.isDigit).getD false then failPast 1 .invalidNumber more
    else
      let ds := s.takeWhile Char.isDigit
      let rest := s.dropWhile Char.isDigit
      let (n, dropped) := absorb 0 ds
      if !dropped.isEmpty ∨ startsFraction rest then
        readFraction negative ⟨n, dropped.length⟩ rest
      else if !negative then .ok (.int n, rest)
      else if n = 0 ∨ Nat.pow 2 63 < n then finishDouble true ⟨n, 0⟩ rest
      else .ok (.int (-n), rest)

/-! ## Separators -/

/-- The rest at which the next item of an array begins; before all but the first stands a comma. -/
def itemStart (first : Bool) (s : List Char) : Marked (List Char) :=
  if first then .ok s
  else
    match s with
    | ',' :: rest =>
      match skipSpace rest with
      | [] => failAt .endInValue []
      | ']' :: rest => failPast 1 .trailingComma (']' :: rest)
      | s => .ok s
    | s => failPast 1 .expectedCommaOrListEnd s

/-- The rest behind the opening quote of the next key of an object; before all but the first stands
a comma. -/
def keyStart (first : Bool) (s : List Char) : Marked (List Char) :=
  if first then
    match s with
    | '"' :: rest => .ok rest
    | s => failPast 1 .keyNotString s
  else
    match s with
    | ',' :: rest =>
      match skipSpace rest with
      | [] => failAt .endInValue []
      | '"' :: rest => .ok rest
      | '\x7d' :: rest => failPast 1 .trailingComma ('\x7d' :: rest)
      | s => failPast 1 .keyNotString s
    | s => failPast 1 .expectedCommaOrObjectEnd s

/-- The rest behind the colon of a member. -/
def colonEnd (s : List Char) : Marked (List Char) :=
  match skipSpace s with
  | [] => failAt .endInObject []
  | ':' :: rest => .ok rest
  | s => failPast 1 .expectedColon s

/-! ## Values -/

mutual

/-- A value, at most `depth` levels deep. -/
def readValue : Nat → Nat → List Char → Reading Json
  | 0, _, s => failAt .endInValue s
  | steps + 1, depth, s =>
    match skipSpace s with
    | [] => failAt .endInValue []
    | 'n' :: rest => (readWord ['u', 'l', 'l'] rest).map fun r => (.null, r)
    | 't' :: rest => (readWord ['r', 'u', 'e'] rest).map fun r => (.bool true, r)
    | 'f' :: rest => (readWord ['a', 'l', 's', 'e'] rest).map fun r => (.bool false, r)
    | '"' :: rest => (readString rest).map fun r => (.str r.1, r.2)
    | '-' :: rest => (readNumber true rest).map fun r => (.num r.1, r.2)
    | '[' :: rest =>
      match depth with
      | 0 => failPast 1 .tooDeep ('[' :: rest)
      | depth + 1 => (readItems steps depth true rest).map fun r => (.arr r.1, r.2)
    | '\x7b' :: rest =>
      match depth with
      | 0 => failPast 1 .tooDeep ('\x7b' :: rest)
      | depth + 1 =>
        (readMembers steps depth true rest).map fun r => (.ofDict (.ofList r.1), r.2)
    | c :: rest =>
      if c.isDigit then (readNumber false (c :: rest)).map fun r => (.num r.1, r.2)
      else failPast 1 .expectedValue (c :: rest)

/-- The items of an array up to its closing bracket. -/
def readItems : Nat → Nat → Bool → List Char → Reading (List Json)
  | 0, _, _, s => failAt .endInList s
  | steps + 1, depth, first, s =>
    match skipSpace s with
    | [] => failAt .endInList []
    | ']' :: rest => .ok ([], rest)
    | c :: rest =>
      match itemStart first (c :: rest) with
      | .error e => .error e
      | .ok s =>
        match readValue steps depth s with
        | .error e => .error e
        | .ok (v, rest) => (readItems steps depth false rest).map fun r => (v :: r.1, r.2)

/-- The members of an object up to its closing brace. -/
def readMembers : Nat → Nat → Bool → List Char → Reading (List (String × Json))
  | 0, _, _, s => failAt .endInObject s
  | steps + 1, depth, first, s =>
    match skipSpace s with
    | [] => failAt .endInObject []
    | '\x7d' :: rest => .ok ([], rest)
    | c :: rest =>
      match keyStart first (c :: rest) with
      | .error e => .error e
      | .ok s =>
        match readString s with
        | .error e => .error e
        | .ok (k, rest) =>
          match colonEnd rest with
          | .error e => .error e
          | .ok rest =>
            match readValue steps depth rest with
            | .error e => .error e
            | .ok (v, rest) =>
              (readMembers steps depth false rest).map fun r => ((k, v) :: r.1, r.2)

end

/-! ## Whole texts -/

/-- The levels of nesting that a text may have. -/
def depthLimit : Nat := 127

/-- A bound on the steps that reading a text takes. -/
def stepLimit (s : List Char) : Nat := 2 * s.length + 4

/-- What a reader gives for a whole text: nothing but blanks may follow. -/
def readWhole {α : Type} (reader : List Char → Reading α) (text : List Char) : Except Error α :=
  let result : Marked α :=
    match reader text with
    | .error e => .error e
    | .ok (a, rest) =>
      match skipSpace rest with
      | [] => .ok a
      | rest => failPast 1 .trailingCharacters rest
  result.mapError fun (fault, mark) => ⟨fault, some (mark.position text)⟩

/-- Read a text as one value. -/
def parse (text : String) : Except Error Json :=
  readWhole (fun s => readValue (stepLimit s) depthLimit s) text.toList

end CanonicalReply.Json
