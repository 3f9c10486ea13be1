import CanonicalReply.Reply.Chunk
import CanonicalReply.Supply

/-!
# Tool calls as providers send them

Any part of a tool call may be missing. A whole call fills in what is missing; a part of a call in a
stream leaves it out.
-/

namespace CanonicalReply.Provider

open Json.Decoder (any text size record)
open Json.Fields (lenient)

/-- The first text that is there and not empty. -/
def firstNonEmpty (candidates : List (Option String)) : Option String :=
  (candidates.filterMap id).find? fun s => !s.isEmpty

/-- A function to call, as it is sent. The arguments ought to be a text. -/
structure Function where
  name : Option String
  arguments : Option Json
  deriving DecidableEq

/-- A tool call, as it is sent. -/
structure ToolCall where
  id : Option String
  kind : Option String
  function : Option Function
  index : Option Nat
  deriving DecidableEq

/-- Arguments as a text: a text stays as it is, and any other value is written. -/
def argumentText : Json → Option String
  | .null => none
  | .str s => some s
  | v => some v.compact

namespace Function

/-- Nothing is said about the function. -/
def blank : Function := ⟨none, none⟩

/-- Read what a provider sends. -/
def decode : Json.Decoder Function :=
  record ⟨"RawFunction", ["name", "arguments"]⟩
    (Function.mk <$> lenient "name" text <*> lenient "arguments" any)

/-- The whole call; what is missing is empty. -/
def toCall (f : Function) : FunctionCall :=
  ⟨f.name.getD "", (f.arguments.bind argumentText).getD ""⟩

/-- Part of the call. -/
def toDelta (f : Function) : FunctionDelta := ⟨f.name, f.arguments.bind argumentText⟩

end Function

namespace ToolCall

/-- Read what a provider sends. -/
def decode : Json.Decoder ToolCall :=
  record ⟨"RawToolCall", ["id", "type", "function", "index"]⟩
    (ToolCall.mk <$> lenient "id" text <*> lenient "type" text <*>
      lenient "function" Function.decode <*> lenient "index" size)

/-- The whole call. A missing or empty id is replaced by the given one. -/
def toCall (c : ToolCall) (freshId : String) : CanonicalReply.ToolCall :=
  ⟨(firstNonEmpty [c.id]).getD freshId, c.kind.getD "function",
    (c.function.getD .blank).toCall⟩

/-- Part of the call; a missing index is the given position. -/
def toDelta (c : ToolCall) (position : Nat) : ToolCallDelta :=
  ⟨c.index.getD position, c.id, c.kind, c.function.map Function.toDelta⟩

end ToolCall

end CanonicalReply.Provider
