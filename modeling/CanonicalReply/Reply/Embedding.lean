import CanonicalReply.Reply.SideChannel
import CanonicalReply.Reply.Usage

/-!
# Embeddings

The response to a request for embeddings: vectors, kept as the provider sent them.
-/

namespace CanonicalReply

open Json (objectOf orNull)
open Json.Decoder (any text list record)
open Json.Fields (required optional)

/-- The response to a request for embeddings. -/
structure Embedding where
  model : Option String
  object : String
  data : List Json
  usage : Option Usage
  side : SideChannel
  headers : Option Headers
  deriving DecidableEq

namespace Embedding

/-- An empty list of embeddings. -/
def blank : Embedding := ⟨none, "list", [], none, .empty, none⟩

/-- The written form, without the side channel. -/
def toJson (e : Embedding) : Json :=
  objectOf [("model", some (orNull (e.model.map .str))), ("object", some (.str e.object)),
    ("data", some (.arr e.data)), ("usage", e.usage.map Usage.toJson)]

/-- Read the written form. -/
def decode : Json.Decoder Embedding :=
  record ⟨"EmbeddingResponse", ["model", "object", "data", "usage"]⟩
    ((fun model object data usage => ⟨model, object, data, usage, .empty, none⟩) <$>
      optional "model" text <*> required "object" text <*> required "data" (list any) <*>
      optional "usage" Usage.decode)

end Embedding

end CanonicalReply
