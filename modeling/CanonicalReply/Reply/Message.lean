import CanonicalReply.Reply.ToolCall

/-!
# Messages

The message of a choice carries the model's words: a text, a list of content parts, or whatever
else the provider sent.
-/

namespace CanonicalReply

open Json (objectOf orNull)
open Json.Decoder (any text record list)
open Json.Fields (required optional)

/-- The content of a message. -/
inductive Content where
  | text (value : String)
  | parts (items : List Json)
  /-- Any other shape, passed through. -/
  | other (value : Json)
  deriving DecidableEq

namespace Content

/-- The text, if the content is one. -/
def text? : Content → Option String
  | text s => some s
  | _ => none

/-- The written form. -/
def toJson : Content → Json
  | text s => .str s
  | parts items => .arr items
  | other v => v

/-- Every value is some content. -/
def ofJson : Json → Content
  | .str s => text s
  | .arr items => parts items
  | v => other v

/-- Read the written form. -/
def decode : Json.Decoder Content := fun v => .ok (ofJson v)

end Content

/-- A whole message. -/
structure Message where
  role : String
  content : Option Content
  functionCall : Option FunctionCall
  toolCalls : Option (List ToolCall)
  audio : Option Json
  deriving DecidableEq

namespace Message

/-- The role of a message that the model wrote. -/
def assistantRole : String := "assistant"

/-- A message of the model with a text and nothing else. -/
def assistant (content : String) : Message :=
  ⟨assistantRole, some (.text content), none, none, none⟩

/-- The content, if it is a text. -/
def text? (m : Message) : Option String := m.content.bind Content.text?

/-- The written form: the content is always shown, other absent parts are not. -/
def toJson (m : Message) : Json :=
  objectOf [("role", some (.str m.role)),
    ("content", some (orNull (m.content.map Content.toJson))),
    ("function_call", m.functionCall.map FunctionCall.toJson),
    ("tool_calls", m.toolCalls.map fun calls => .arr (calls.map ToolCall.toJson)),
    ("audio", m.audio)]

/-- Read the written form. -/
def decode : Json.Decoder Message :=
  record ⟨"Message", ["role", "content", "function_call", "tool_calls", "audio"]⟩
    (Message.mk <$> required "role" Json.Decoder.text <*> optional "content" Content.decode <*>
      optional "function_call" FunctionCall.decode <*>
      optional "tool_calls" (list ToolCall.decode) <*> optional "audio" any)

end Message

end CanonicalReply
