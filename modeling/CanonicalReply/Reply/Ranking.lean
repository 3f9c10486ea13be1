import CanonicalReply.Reply.Completion

/-!
# Rankings

The response to a request to order documents by how well they answer a query.
-/

namespace CanonicalReply

open Json (objectOf orNull)
open Json.Decoder (any text size double object list record)
open Json.Fields (required optional defaulted)

/-- The score of the document with the given index. -/
structure RankedDocument where
  index : Nat
  score : Binary64
  document : Option Json
  deriving DecidableEq

/-- The response to a request to rank documents. -/
structure Ranking where
  id : String
  results : Option (List RankedDocument)
  /-- What the provider says about the request: billed units and the like. -/
  metadata : Dict Json
  side : SideChannel
  deriving DecidableEq

namespace RankedDocument

/-- The written form. -/
def toJson (d : RankedDocument) : Json :=
  objectOf [("index", some (.ofNat d.index)),
    ("relevance_score", some (SideChannel.doubleJson d.score)), ("document", d.document)]

/-- Read the written form. -/
def decode : Json.Decoder RankedDocument :=
  record ⟨"RerankResult", ["index", "relevance_score", "document"]⟩
    (RankedDocument.mk <$> required "index" size <*> required "relevance_score" double <*>
      optional "document" any)

end RankedDocument

namespace Ranking

/-- A ranking of nothing. -/
def blank (id : String) : Ranking := ⟨id, none, .empty, .empty⟩

/-- The written form, without the side channel; empty metadata is not shown. -/
def toJson (r : Ranking) : Json :=
  objectOf [("id", some (.str r.id)),
    ("results", r.results.map fun ds => .arr (ds.map RankedDocument.toJson)),
    ("meta", if r.metadata.isEmpty then none else some (.ofDict r.metadata))]

/-- Read the written form. -/
def decode : Json.Decoder Ranking :=
  record ⟨"RerankResponse", ["id", "results", "meta"]⟩
    ((fun id results metadata => ⟨id, results, metadata, .empty⟩) <$>
      required "id" text <*> optional "results" (list RankedDocument.decode) <*>
      defaulted "meta" object .empty)

end Ranking

end CanonicalReply
