/-!
# What can be wrong with settings

Settings that are well formed may still be refused, and a file of settings may not get that far.
-/

namespace CanonicalReply.Settings

/-- Why a setting is refused. -/
inductive Refusal where
  | missing
  | outOfRange (why : String)
  | invalidFormat (why : String)
  deriving DecidableEq

/-- The reason in words. -/
def Refusal.message : Refusal → String
  | missing => "required field is missing"
  | outOfRange why => s!"value out of range: {why}"
  | invalidFormat why => s!"invalid format: {why}"

/-- A setting that is refused. -/
structure Invalid where
  field : String
  refusal : Refusal
  /-- What the user may want to know beside the reason. -/
  hint : Option String
  deriving DecidableEq

namespace Invalid

/-- A setting that is refused without a hint. -/
def plain (field : String) (refusal : Refusal) : Invalid := ⟨field, refusal, none⟩

/-- The same with a hint, in place of an earlier one. -/
def withHint (i : Invalid) (hint : String) : Invalid := { i with hint := some hint }

/-- The refusal in words. -/
def message (i : Invalid) : String :=
  let base := s!"Validation failed at '{i.field}': {i.refusal.message}"
  match i.hint with
  | none => base
  | some hint => s!"{base} ({hint})"

end Invalid

/-- Why a file could not be read. -/
inductive ReadProblem where
  | noSuchFile
  | notText
  deriving DecidableEq

/-- The problem in words. -/
def ReadProblem.message : ReadProblem → String
  | noSuchFile => "No such file or directory (os error 2)"
  | notText => "stream did not contain valid UTF-8"

/-- Why a file gives no settings. -/
inductive LoadFault where
  | unreadable (path : String) (problem : ReadProblem)
  /-- The text is not what it ought to be; line and column are given where they are known. -/
  | malformed (path : String) (line column : Option Nat) (message : String)
  | invalid (why : Invalid)
  /-- The text names a variable that is not set. -/
  | unset (variableName : String)
  deriving DecidableEq

/-- The fault in words. -/
def LoadFault.message : LoadFault → String
  | unreadable path problem => s!"IO error reading config from '{path}': {problem.message}"
  | malformed path line column text =>
    s!"Parse error in '{path}' at line {line.getD 0}, column {column.getD 0}: {text}"
  | invalid why => s!"Validation error: {why.message}"
  | unset name => s!"Environment variable '{name}' not found"

end CanonicalReply.Settings
