import CanonicalReply.Reply.Completion

/-!
# Chunks of a stream

A streamed completion arrives in chunks, each with a partial message for every choice.
-/

namespace CanonicalReply

open Json (objectOf orNull)
open Json.Decoder (any text size int64 list record)
open Json.Fields (required optional)

/-- Part of a function call. -/
structure FunctionDelta where
  name : Option String
  arguments : Option String
  deriving DecidableEq

/-- Part of the tool call with the given index. -/
structure ToolCallDelta where
  index : Nat
  id : Option String
  kind : Option String
  function : Option FunctionDelta
  deriving DecidableEq

/-- Part of a message. -/
structure Delta where
  role : Option String
  content : Option Content
  functionCall : Option FunctionDelta
  toolCalls : Option (List ToolCallDelta)
  deriving DecidableEq

/-- Part of a choice. Its finish reason is the provider's. -/
structure ChunkChoice where
  index : Nat
  delta : Delta
  finishReason : Option String
  logprobs : Option Json
  enhancements : Option Json
  deriving DecidableEq

/-- One chunk of a streamed completion. -/
structure Chunk where
  id : String
  object : String
  created : Int64
  model : Option String
  choices : List ChunkChoice
  usage : Option Usage
  systemFingerprint : Option String
  deriving DecidableEq

namespace FunctionDelta

/-- The written form. -/
def toJson (f : FunctionDelta) : Json :=
  objectOf [("name", f.name.map .str), ("arguments", f.arguments.map .str)]

/-- Read the written form. -/
def decode : Json.Decoder FunctionDelta :=
  record ⟨"FunctionCallDelta", ["name", "arguments"]⟩
    (FunctionDelta.mk <$> optional "name" text <*> optional "arguments" text)

end FunctionDelta

namespace ToolCallDelta

/-- The written form. -/
def toJson (c : ToolCallDelta) : Json :=
  objectOf [("index", some (.ofNat c.index)), ("id", c.id.map .str), ("type", c.kind.map .str),
    ("function", c.function.map FunctionDelta.toJson)]

/-- Read the written form. -/
def decode : Json.Decoder ToolCallDelta :=
  record ⟨"ToolCallDelta", ["index", "id", "type", "function"]⟩
    (ToolCallDelta.mk <$> required "index" size <*> optional "id" text <*>
      optional "type" text <*> optional "function" FunctionDelta.decode)

end ToolCallDelta

namespace Delta

/-- The content, if it is a text. -/
def text? (d : Delta) : Option String := d.content.bind Content.text?

/-- The written form. -/
def toJson (d : Delta) : Json :=
  objectOf [("role", d.role.map .str), ("content", d.content.map Content.toJson),
    ("function_call", d.functionCall.map FunctionDelta.toJson),
    ("tool_calls", d.toolCalls.map fun calls => .arr (calls.map ToolCallDelta.toJson))]

/-- Read the written form. -/
def decode : Json.Decoder Delta :=
  record ⟨"Delta", ["role", "content", "function_call", "tool_calls"]⟩
    (Delta.mk <$> optional "role" text <*> optional "content" Content.decode <*>
      optional "function_call" FunctionDelta.decode <*>
      optional "tool_calls" (list ToolCallDelta.decode))

end Delta

namespace ChunkChoice

/-- The written form. -/
def toJson (c : ChunkChoice) : Json :=
  objectOf [("index", some (.ofNat c.index)), ("delta", some c.delta.toJson),
    ("finish_reason", c.finishReason.map .str), ("logprobs", c.logprobs),
    ("enhancements", c.enhancements)]

/-- Read the written form. -/
def decode : Json.Decoder ChunkChoice :=
  record ⟨"StreamingChoice", ["index", "delta", "finish_reason", "logprobs", "enhancements"]⟩
    (ChunkChoice.mk <$> required "index" size <*> required "delta" Delta.decode <*>
      optional "finish_reason" text <*> optional "logprobs" any <*> optional "enhancements" any)

end ChunkChoice

namespace Chunk

/-- What a chunk's `object` says. -/
def objectName : String := "chat.completion.chunk"

/-- A chunk without choices. -/
def blank (id : String) (created : Int64) : Chunk :=
  ⟨id, objectName, created, none, [], none, none⟩

/-- The written form. -/
def toJson (c : Chunk) : Json :=
  objectOf [("id", some (.str c.id)), ("object", some (.str c.object)),
    ("created", some (.ofSeconds c.created)), ("model", some (orNull (c.model.map .str))),
    ("choices", some (.arr (c.choices.map ChunkChoice.toJson))),
    ("usage", c.usage.map Usage.toJson), ("system_fingerprint", c.systemFingerprint.map .str)]

/-- Read the written form. -/
def decode : Json.Decoder Chunk :=
  record ⟨"StreamingResponse", Completion.keys⟩
    (Chunk.mk <$> required "id" text <*> required "object" text <*> required "created" int64 <*>
      optional "model" text <*> required "choices" (list ChunkChoice.decode) <*>
      optional "usage" Usage.decode <*> optional "system_fingerprint" text)

end Chunk

end CanonicalReply
