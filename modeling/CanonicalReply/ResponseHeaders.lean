import CanonicalReply.Reply.SideChannel

/-!
# Response headers

The headers of a provider's response are shown twice: those that tell the rate limits under their
own names, and all of them under the provider's name. Where both give one name, the rate limit
stands.
-/

namespace CanonicalReply.Headers

/-- The names of the headers that tell the rate limits. -/
def rateLimitNames : List String :=
  ["x-ratelimit-limit-requests", "x-ratelimit-remaining-requests", "x-ratelimit-limit-tokens",
    "x-ratelimit-remaining-tokens"]

/-- A header's name under a provider's. -/
def underProvider (provider name : String) : String := provider ++ "-" ++ name

/-- The headers that tell the rate limits. -/
def rateLimits (h : Headers) : Headers := h.filterKeys (rateLimitNames.contains ·)

/-- Every header under the provider's name. -/
def namespaced (provider : String) (h : Headers) : Headers :=
  .ofList (h.entries.map fun e => (underProvider provider e.1, e.2))

/-- The headers as they are shown. -/
def merged (provider : String) (h : Headers) : Headers :=
  (h.namespaced provider).overlay h.rateLimits

end CanonicalReply.Headers
