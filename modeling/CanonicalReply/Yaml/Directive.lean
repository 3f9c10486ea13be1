import CanonicalReply.Yaml.Property

/-!
# Directives

A line that begins with a percent sign and stands before a document gives the version of the
language, or says what a tag's handle stands for.
-/

namespace CanonicalReply.Yaml

/-- What a directive says. -/
inductive Directive where
  | version (major minor : Nat)
  | handle (name expansion : List Char)
  deriving DecidableEq

/-- The name of a directive. -/
def readDirectiveName (start : Mark) (c : Cursor) : Except Problem (List Char × Cursor) :=
  let (name, c) := c.takeWhile isNameCharacter
  if name = [] then c.fail .directive start .expectedDirectiveName
  else if pauses c.rest then .ok (name, c)
  else c.fail .directive start .unexpectedNameCharacter

/-- One of the two numbers of a version, of at most nine digits. -/
def readVersionNumber (start : Mark) (c : Cursor) : Except Problem (Nat × Cursor) :=
  let (digits, next) := c.takeWhile Char.isDigit
  if 9 < digits.length then (c.skip 9).fail .versionDirective start .longVersion
  else
    match Text.numeral? 10 digits with
    | none => next.fail .versionDirective start .expectedVersion
    | some n => .ok (n, next)

/-- The version that a directive gives. -/
def readVersion (start : Mark) (c : Cursor) : Except Problem (Directive × Cursor) :=
  match readVersionNumber start (c.skipWhile isBlank) with
  | .error p => .error p
  | .ok (major, c) =>
    if c.looksAt '.' then
      (readVersionNumber start (c.skip 1)).map fun (minor, c) => (.version major minor, c)
    else c.fail .versionDirective start .expectedVersionDot

/-- The handle that a directive defines. -/
def readDefinedHandle (start : Mark) (c : Cursor) : Except Problem (List Char × Cursor) :=
  match readHandle .definedHandle start c with
  | .error p => .error p
  | .ok (handle, c) =>
    if handle = ['!'] ∨ isClosedHandle handle then .ok (handle, c)
    else c.fail .definedHandleEnd start .expectedExclamation

/-- The handle that a directive defines and what it stands for. -/
def readHandleDefinition (start : Mark) (c : Cursor) : Except Problem (Directive × Cursor) :=
  match readDefinedHandle start (c.skipWhile isBlank) with
  | .error p => .error p
  | .ok (handle, c) =>
    if !c.sees isBlank then c.fail .tagDirective start .expectedBlank
    else
      match readTagText isFullTagCharacter .tagDirectiveCharacters start []
          (c.skipWhile isBlank) with
      | .error p => .error p
      | .ok (expansion, c) =>
        if pauses c.rest then .ok (.handle handle expansion, c)
        else c.fail .tagDirective start .expectedBlankOrBreak

/-- What a directive of a given name says. -/
def readDirectiveValue (start : Mark) (name : List Char) (c : Cursor) :
    Except Problem (Directive × Cursor) :=
  if name = "YAML".toList then readVersion start c
  else if name = "TAG".toList then readHandleDefinition start c
  else c.fail .directive start .unknownDirective

/-- The directive that begins at the cursor, to the end of its line. -/
def readDirective (c : Cursor) : Except Problem (Directive × Cursor) :=
  let start := c.mark
  match readDirectiveName start (c.skip 1) with
  | .error p => .error p
  | .ok (name, c) =>
    match readDirectiveValue start name c with
    | .error p => .error p
    | .ok (directive, c) =>
      let c := (c.skipWhile isBlank).skipComment
      if endsLine c.rest then .ok (directive, c.skipBreak)
      else c.fail .directive start .expectedCommentOrBreak

end CanonicalReply.Yaml
