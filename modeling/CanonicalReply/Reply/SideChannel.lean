import CanonicalReply.Json.Decoder

/-!
# The side channel

Beside what is written, a response carries what an observer of the call wants to know: the response
headers, how long the provider took, and parameters of the caller's own. None of it is part of the
written response. Side channels are laid over each other: what the later one has set, stands.
-/

namespace CanonicalReply

open Json (objectOf)
open Json.Decoder (text double dict openRecord)
open Json.Fields (optional)

/-- Header names with their values. -/
abbrev Headers := Dict String

/-- What is known about a call beside its response. -/
structure SideChannel where
  /-- Rate limits, and every header under the provider's name. -/
  additionalHeaders : Option Headers
  /-- The time that the provider took, in milliseconds. -/
  responseMs : Option Binary64
  /-- The caller's own parameters. -/
  extra : Dict Json
  deriving DecidableEq

namespace SideChannel

/-- Nothing is known. -/
def empty : SideChannel := ⟨none, none, .empty⟩

instance : Inhabited SideChannel := ⟨empty⟩

/-- The caller's parameters alone, whatever their names. -/
def ofParams (params : Dict Json) : SideChannel := ⟨none, none, params⟩

/-- Lay one side channel over another. -/
def overlay (base later : SideChannel) : SideChannel :=
  ⟨later.additionalHeaders.or base.additionalHeaders, later.responseMs.or base.responseMs,
    base.extra.overlay later.extra⟩

/-- Whether nothing is known. -/
def isEmpty (s : SideChannel) : Bool :=
  s.additionalHeaders.isNone && s.responseMs.isNone && s.extra.isEmpty

/-- Headers as an object. -/
def headersJson (h : Headers) : Json := .ofDict (h.map .str)

/-- A double as a number. -/
def doubleJson (x : Binary64) : Json := .num (.double x)

/-- The written form: what is set, then the parameters in key order. -/
def toJson (s : SideChannel) : Json :=
  .obj ((s.additionalHeaders.map fun h => ("additional_headers", headersJson h)).toList ++
    (s.responseMs.map fun x => ("response_ms", doubleJson x)).toList ++ s.extra.entries)

/-- Read the written form. -/
def decode : Json.Decoder SideChannel :=
  openRecord ⟨"HiddenParams", ["additional_headers", "response_ms"]⟩
    (SideChannel.mk <$> optional "additional_headers" (dict text) <*>
      optional "response_ms" double)

end SideChannel

end CanonicalReply
