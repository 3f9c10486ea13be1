import CanonicalReply.Reply.Completion

/-!
# Images

The response to a request for images: links or encoded pictures, kept as the provider sent them.
-/

namespace CanonicalReply

open Json (objectOf orNull)
open Json.Decoder (any int64 list record)
open Json.Fields (optional)

/-- The response to a request for images. -/
structure Images where
  created : Option Int64
  data : Option (List Json)
  side : SideChannel
  deriving DecidableEq

namespace Images

/-- No images, made at the given time. -/
def blank (created : Int64) : Images := ⟨some created, none, .empty⟩

/-- The written form, without the side channel. -/
def toJson (i : Images) : Json :=
  objectOf [("created", some (orNull (i.created.map .ofSeconds))),
    ("data", some (orNull (i.data.map .arr)))]

/-- Read the written form. -/
def decode : Json.Decoder Images :=
  record ⟨"ImageResponse", ["created", "data"]⟩
    ((fun created data => ⟨created, data, .empty⟩) <$> optional "created" int64 <*>
      optional "data" (list any))

end Images

end CanonicalReply
