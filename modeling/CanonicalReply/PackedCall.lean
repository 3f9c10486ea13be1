import CanonicalReply.Failure
import CanonicalReply.Json.RecordReader
import CanonicalReply.Reply.ToolCall

/-!
# Calls packed into one

Asked for several calls at once, a model sometimes makes one call of a function that does not exist
and packs the calls into its arguments. Repair puts the packed calls in the place of that call.
Calls packed inside packed calls are dropped.
-/

namespace CanonicalReply

open Json (RecordReader FieldReader readScalar readListOf readValue stepLimit)

/-- A call as it is packed into the arguments of another. -/
structure PackedUse where
  recipient : String
  parameters : Json
  deriving DecidableEq

namespace PackedUse

/-- A packed call of which not all fields have been read. -/
structure Draft where
  recipient : Option String
  parameters : Option Json

/-- How a packed call is read. -/
def reader : RecordReader Draft PackedUse where
  name := "PackedToolUse"
  start := ⟨none, none⟩
  fields := [
    { key := "recipient_name"
      isSet := fun d => d.recipient.isSome
      read := fun d _ s => (readScalar "a string" Json.Decoder.text s).map fun r =>
        ({ d with recipient := some r.1 }, r.2) },
    { key := "parameters"
      isSet := fun d => d.parameters.isSome
      read := fun d depth s => (readValue (stepLimit s) depth s).map fun r =>
        ({ d with parameters := some r.1 }, r.2) }]
  closed := false
  finish := fun missing d =>
    match d.recipient, d.parameters with
    | some recipient, some parameters => .ok ⟨recipient, parameters⟩
    | none, _ => .error (missing "recipient_name")
    | _, none => .error (missing "parameters")

/-- How the arguments of a call that packs others are read. -/
def listReader : RecordReader (Option (List PackedUse)) (List PackedUse) where
  name := "PackedToolUses"
  start := none
  fields := [
    { key := "tool_uses"
      isSet := Option.isSome
      read := fun _ depth s => (readListOf reader.read depth s).map fun r => (some r.1, r.2) }]
  closed := false
  finish := fun missing uses =>
    match uses with
    | some uses => .ok uses
    | none => .error (missing "tool_uses")

/-- The calls packed into the arguments of a call. -/
def parseAll (arguments : String) : Except Json.Error (List PackedUse) :=
  listReader.parse arguments

end PackedUse

namespace ToolCall

/-- The name of the function that does not exist. -/
def parallelName : String := "multi_tool_use.parallel"

/-- What a model puts in front of the names of functions inside packed calls. -/
def functionsPrefix : String := "functions."

/-- Whether other calls are packed into a call. -/
def isPacked (c : ToolCall) : Bool := c.function.name == parallelName

/-- A text without the given beginning, if it has it. -/
def dropBeginning (beginning s : String) : String :=
  if beginning.toList.isPrefixOf s.toList then String.ofList (s.toList.drop beginning.length)
  else s

/-- The name of the function that a packed call is for. -/
def packedName (u : PackedUse) : String := dropBeginning functionsPrefix u.recipient

/-- The id of the call at a position among those packed into the call with the given id. -/
def packedId (id : String) (position : Nat) : String := s!"{id}_{position}"

/-- The calls of a packed list from the given position on. One that packs others is left out, but
counts for the positions. -/
def ofPacked (id : String) : Nat → List PackedUse → List ToolCall
  | _, [] => []
  | i, u :: rest =>
    if packedName u = parallelName then ofPacked id (i + 1) rest
    else .ofFunction (packedId id i) (packedName u) u.parameters.compact :: ofPacked id (i + 1) rest

/-- The calls that stand for one call: those packed into it, or itself. -/
def unpack (c : ToolCall) : Except Failure (List ToolCall) :=
  if c.isPacked then
    match PackedUse.parseAll c.function.arguments with
    | .error e => .error (.badToolCall c.function.name e)
    | .ok uses => .ok (ofPacked c.id 0 uses)
  else .ok [c]

/-- Unpack every call; the first one that cannot be unpacked counts. -/
def unpackAll : List ToolCall → Except Failure (List ToolCall)
  | [] => .ok []
  | c :: rest =>
    match c.unpack with
    | .error e => .error e
    | .ok calls => (unpackAll rest).map (calls ++ ·)

/-- A list of calls after repair: the list that was given, or a new one. -/
inductive Repaired where
  | untouched (calls : List ToolCall)
  | expanded (calls : List ToolCall)
  deriving DecidableEq

/-- The calls. -/
def Repaired.calls : Repaired → List ToolCall
  | untouched calls => calls
  | expanded calls => calls

/-- Whether the list is a new one. -/
def Repaired.isExpanded : Repaired → Bool
  | untouched _ => false
  | expanded _ => true

/-- Put the calls that are packed into others in their place. -/
def repair (calls : List ToolCall) : Except Failure Repaired :=
  if calls.any isPacked then (unpackAll calls).map .expanded else .ok (.untouched calls)

end ToolCall

end CanonicalReply
