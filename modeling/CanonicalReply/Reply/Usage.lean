import CanonicalReply.Json.Decoder

/-!
# Token usage

Three counts, and whatever else the provider reports beside them.
-/

namespace CanonicalReply

open Json.Decoder (nullable uint32 openRecord)
open Json.Fields (defaulted)

/-- How many tokens a request used. -/
structure Usage where
  promptTokens : UInt32
  completionTokens : UInt32
  totalTokens : UInt32
  extra : Dict Json
  deriving DecidableEq

namespace Usage

/-- The three counts alone. -/
def ofCounts (prompt completion total : UInt32) : Usage := ⟨prompt, completion, total, .empty⟩

/-- A count as a number. -/
def count (n : UInt32) : Json := .num (.int n.toNat)

/-- The written form: the counts, then the rest in key order. -/
def toJson (u : Usage) : Json :=
  .obj ([("prompt_tokens", count u.promptTokens), ("completion_tokens", count u.completionTokens),
    ("total_tokens", count u.totalTokens)] ++ u.extra.entries)

/-- A count that is null is zero. -/
def countOrZero : Json.Decoder UInt32 := fun v => (nullable uint32 v).map (·.getD 0)

/-- Read the written form; an absent count is zero too. -/
def decode : Json.Decoder Usage :=
  openRecord ⟨"Usage", ["prompt_tokens", "completion_tokens", "total_tokens"]⟩
    (Usage.mk <$> defaulted "prompt_tokens" countOrZero 0 <*>
      defaulted "completion_tokens" countOrZero 0 <*> defaulted "total_tokens" countOrZero 0)

end Usage

end CanonicalReply
