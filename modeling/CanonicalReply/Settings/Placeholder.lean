import CanonicalReply.Settings.Fault

/-!
# Placeholders for variables

A text of settings may name variables of the environment, each in braces behind a dollar sign. A
name begins with a capital letter or an underscore and goes on with these or digits. Placeholders
are found in the text as it is given, from left to right. Then, one after the other, the value of
each takes the place of all its occurrences in the text so far: a placeholder that stands in an
earlier value is replaced too, if its name comes later.
-/

namespace CanonicalReply.Settings.Placeholder

/-- The environment: variables with their values. -/
abbrev Environment := String → Option String

/-- Whether a character may begin a name. -/
def startsName (c : Char) : Bool := c.isUpper || c = '_'

/-- Whether a character may go on a name. -/
def goesOn (c : Char) : Bool := startsName c || c.isDigit

/-- The name of the placeholder with which a text begins, if it begins with one. -/
def nameAt? (s : List Char) : Option (List Char) :=
  match s with
  | '$' :: '\x7b' :: rest =>
    let name := rest.takeWhile goesOn
    if (name.head?.map startsName).getD false && (rest.drop name.length).head? == some '\x7d' then
      some name
    else none
  | _ => none

/-- The names of all placeholders of a text. -/
def names : List Char → List (List Char)
  | [] => []
  | c :: rest =>
    match nameAt? (c :: rest) with
    | some name => name :: names rest
    | none => names rest

/-- A placeholder as it stands in a text. -/
def written (name : List Char) : List Char := '$' :: '\x7b' :: (name ++ ['\x7d'])

/-- Replace every occurrence of a pattern. The first argument counts the characters of the last
occurrence that are still to be passed over. -/
def replaceFrom (pattern value : List Char) : Nat → List Char → List Char
  | _, [] => []
  | skip + 1, _ :: rest => replaceFrom pattern value skip rest
  | 0, c :: rest =>
    if pattern.isPrefixOf (c :: rest) then
      value ++ replaceFrom pattern value (pattern.length - 1) rest
    else c :: replaceFrom pattern value 0 rest

/-- Replace every occurrence of a pattern. -/
def replaceAll (pattern value s : List Char) : List Char := replaceFrom pattern value 0 s

/-- Put the values of the named variables in place, one after the other. -/
def fill (env : Environment) (text : List Char) (ns : List (List Char)) : List Char :=
  ns.foldl (fun s name =>
    match env (String.ofList name) with
    | some value => replaceAll (written name) value.toList s
    | none => s) text

/-- The text with the values of all variables that it names. The first one that is not set is a
fault. -/
def interpolate (env : Environment) (text : String) : Except LoadFault String :=
  let ns := names text.toList
  match ns.find? (fun name => (env (String.ofList name)).isNone) with
  | some name => .error (.unset (String.ofList name))
  | none => .ok (String.ofList (fill env text.toList ns))

end CanonicalReply.Settings.Placeholder
