import CanonicalReply.Json.Reader

/-!
# Passing over a value

The value of a member that nobody asked for is passed over without being built. Its text still has
to follow the grammar, but numbers may be of any size, escapes may name any number, and nesting
may be of any depth.
-/

namespace CanonicalReply.Json

/-- What remains behind the digits of an exponent whose letter has been read. -/
def skipExponent (s : List Char) : Marked (List Char) :=
  let s := if s.head? == some '+' || s.head? == some '-' then s.tail else s
  match s with
  | [] => failAt .invalidNumber []
  | c :: rest =>
    if c.isDigit then .ok (rest.dropWhile Char.isDigit) else failPast 1 .invalidNumber s

/-- What remains behind the fraction and the exponent of a number, if it has them. -/
def skipFraction (s : List Char) : Marked (List Char) :=
  match s with
  | '.' :: rest =>
    let s := rest.dropWhile Char.isDigit
    if (rest.takeWhile Char.isDigit).isEmpty then failPast 1 .invalidNumber s
    else
      match s with
      | 'e' :: rest | 'E' :: rest => skipExponent rest
      | s => .ok s
  | 'e' :: rest | 'E' :: rest => skipExponent rest
  | s => .ok s

/-- What remains behind a number whose sign has been read. -/
def skipNumber (s : List Char) : Marked (List Char) :=
  match s with
  | [] => failAt .invalidNumber []
  | '0' :: rest =>
    if (rest.head?.map Char.isDigit).getD false then failPast 1 .invalidNumber rest
    else skipFraction rest
  | c :: rest =>
    if c.isDigit then skipFraction (rest.dropWhile Char.isDigit) else failPast 1 .invalidNumber s

/-- What remains behind an escape whose backslash has been read. -/
def skipEscape : List Char → Marked (List Char)
  | [] => failAt .endInString []
  | 'u' :: rest => (readHex4 rest).map (·.2)
  | c :: rest =>
    if c ∈ ['"', '\\', '/', 'b', 'f', 'n', 'r', 't'] then .ok rest
    else failPast 1 .invalidEscape (c :: rest)

/-- What remains behind a string whose opening quote has been read, in at most so many steps. -/
def skipString : Nat → List Char → Marked (List Char)
  | 0, s => failAt .endInString s
  | _ + 1, [] => failAt .endInString []
  | _ + 1, '"' :: rest => .ok rest
  | steps + 1, '\\' :: rest =>
    match skipEscape rest with
    | .error e => .error e
    | .ok rest => skipString steps rest
  | steps + 1, c :: rest =>
    if c.toNat < 0x20 then failAt .controlCharacter (c :: rest) else skipString steps rest

/-- What remains behind the key and the colon of a member. -/
def skipKey (s : List Char) : Marked (List Char) :=
  match skipSpace s with
  | [] => failAt .endInObject []
  | '"' :: rest =>
    match skipString (rest.length + 1) rest with
    | .error e => .error e
    | .ok rest => colonEnd rest
  | s => failPast 1 .keyNotString s

mutual

/-- What remains behind a value. -/
def skipValue : Nat → List Char → Marked (List Char)
  | 0, s => failAt .endInValue s
  | steps + 1, s =>
    match skipSpace s with
    | [] => failAt .endInValue []
    | 'n' :: rest => readWord ['u', 'l', 'l'] rest
    | 't' :: rest => readWord ['r', 'u', 'e'] rest
    | 'f' :: rest => readWord ['a', 'l', 's', 'e'] rest
    | '"' :: rest => skipString (rest.length + 1) rest
    | '-' :: rest => skipNumber rest
    | '[' :: rest => skipItems steps true rest
    | '\x7b' :: rest => skipMembers steps true rest
    | c :: rest =>
      if c.isDigit then skipNumber (c :: rest) else failPast 1 .expectedValue (c :: rest)

/-- What remains behind the items of an array and its closing bracket. -/
def skipItems : Nat → Bool → List Char → Marked (List Char)
  | 0, _, s => failAt .endInList s
  | steps + 1, first, s =>
    match skipSpace s with
    | [] => failAt .endInList []
    | ']' :: rest => .ok rest
    | c :: rest =>
      if first then
        match skipValue steps (c :: rest) with
        | .error e => .error e
        | .ok rest => skipItems steps false rest
      else if c = ',' then
        match skipValue steps rest with
        | .error e => .error e
        | .ok rest => skipItems steps false rest
      else failPast 1 .expectedCommaOrListEnd (c :: rest)

/-- What remains behind the members of an object and its closing brace. -/
def skipMembers : Nat → Bool → List Char → Marked (List Char)
  | 0, _, s => failAt .endInObject s
  | steps + 1, first, s =>
    match skipSpace s with
    | [] => failAt .endInObject []
    | '\x7d' :: rest => .ok rest
    | c :: rest =>
      if first || c = ',' then
        match skipKey (if first then c :: rest else rest) with
        | .error e => .error e
        | .ok rest =>
          match skipValue steps rest with
          | .error e => .error e
          | .ok rest => skipMembers steps false rest
      else failPast 1 .expectedCommaOrObjectEnd (c :: rest)

end

end CanonicalReply.Json
