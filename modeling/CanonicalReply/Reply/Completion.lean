import CanonicalReply.Reply.Message
import CanonicalReply.Reply.SideChannel
import CanonicalReply.Reply.Usage

/-!
# Completions

A completion is the response to a chat request: one message for each choice that the model made.
-/

namespace CanonicalReply

open Json (objectOf orNull)
open Json.Decoder (any text size int64 list record openRecord)
open Json.Fields (required optional)

/-- One of the model's answers. -/
structure Choice where
  index : Nat
  finishReason : String
  message : Message
  logprobs : Option Json
  enhancements : Option Json
  deriving DecidableEq

/-- The response to a chat request. -/
structure Completion where
  id : String
  object : String
  /-- When it was made, in seconds since 1970. -/
  created : Int64
  /-- The model's name, perhaps with the provider's in front of it. -/
  model : Option String
  choices : List Choice
  usage : Option Usage
  systemFingerprint : Option String
  /-- What the provider sent beside the fields above. -/
  extra : Dict Json
  side : SideChannel
  headers : Option Headers
  deriving DecidableEq

/-- A position in a list as a number. -/
def Json.ofNat (n : Nat) : Json := .num (.int n)

/-- Seconds since 1970 as a number. -/
def Json.ofSeconds (t : Int64) : Json := .num (.int t.toInt)

namespace Choice

/-- The written form. -/
def toJson (c : Choice) : Json :=
  objectOf [("index", some (.ofNat c.index)), ("finish_reason", some (.str c.finishReason)),
    ("message", some c.message.toJson), ("logprobs", c.logprobs),
    ("enhancements", c.enhancements)]

/-- Read the written form. -/
def decode : Json.Decoder Choice :=
  record ⟨"Choice", ["index", "finish_reason", "message", "logprobs", "enhancements"]⟩
    (Choice.mk <$> required "index" size <*> required "finish_reason" text <*>
      required "message" Message.decode <*> optional "logprobs" any <*>
      optional "enhancements" any)

end Choice

namespace Completion

/-- The keys that have a field of their own. -/
def keys : List String :=
  ["id", "object", "created", "model", "choices", "usage", "system_fingerprint"]

/-- What a completion's `object` says. -/
def objectName : String := "chat.completion"

/-- A completion without choices. -/
def blank (id : String) (created : Int64) : Completion :=
  ⟨id, objectName, created, none, [], none, none, .empty, .empty, none⟩

/-- The members of the written form that have a field of their own. -/
def fieldMembers (c : Completion) : List (String × Option Json) :=
  [("id", some (.str c.id)), ("object", some (.str c.object)),
    ("created", some (.ofSeconds c.created)), ("model", some (orNull (c.model.map .str))),
    ("choices", some (.arr (c.choices.map Choice.toJson))), ("usage", c.usage.map Usage.toJson),
    ("system_fingerprint", c.systemFingerprint.map .str)]

/-- The written form: the fields, then the rest in key order. The side channel is not in it. -/
def toJson (c : Completion) : Json :=
  .obj ((c.fieldMembers.filterMap fun e => e.2.map (e.1, ·)) ++ c.extra.entries)

/-- Read the written form. -/
def decode : Json.Decoder Completion :=
  openRecord ⟨"ModelResponse", keys⟩
    ((fun id object created model choices usage fingerprint extra =>
        ⟨id, object, created, model, choices, usage, fingerprint, extra, .empty, none⟩) <$>
      required "id" text <*> required "object" text <*> required "created" int64 <*>
      optional "model" text <*> required "choices" (list Choice.decode) <*>
      optional "usage" Usage.decode <*> optional "system_fingerprint" text)

end Completion

end CanonicalReply
