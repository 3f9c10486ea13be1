import CanonicalReply.Json.Decoder

/-!
# Function calls and tool calls

A model asks its caller to run a function by naming it and giving the arguments as a text, which
ought to be JSON. A tool call is such a request with an id, under which the result is sent back.
-/

namespace CanonicalReply

open Json (objectOf)
open Json.Decoder (text record list)
open Json.Fields (required)

/-- A function to call, and the text of its arguments. -/
structure FunctionCall where
  name : String
  arguments : String
  deriving DecidableEq

/-- A request to run a tool. -/
structure ToolCall where
  id : String
  kind : String
  function : FunctionCall
  deriving DecidableEq

namespace FunctionCall

/-- The written form. -/
def toJson (f : FunctionCall) : Json :=
  objectOf [("name", some (.str f.name)), ("arguments", some (.str f.arguments))]

/-- Read the written form. -/
def decode : Json.Decoder FunctionCall :=
  record ⟨"FunctionCall", ["name", "arguments"]⟩
    (FunctionCall.mk <$> required "name" text <*> required "arguments" text)

end FunctionCall

namespace ToolCall

/-- A call of a function, the only kind of tool there is. -/
def ofFunction (id name arguments : String) : ToolCall := ⟨id, "function", ⟨name, arguments⟩⟩

/-- The written form. -/
def toJson (c : ToolCall) : Json :=
  objectOf [("id", some (.str c.id)), ("type", some (.str c.kind)),
    ("function", some c.function.toJson)]

/-- Read the written form. -/
def decode : Json.Decoder ToolCall :=
  record ⟨"ToolCall", ["id", "type", "function"]⟩
    (ToolCall.mk <$> required "id" text <*> required "type" text <*>
      required "function" FunctionCall.decode)

end ToolCall

end CanonicalReply
