/-!
# Finish reasons

Every provider has its own words for why the model stopped. The ones that are known are mapped to
four: `stop`, `length`, `tool_calls` and `content_filter`. An unknown word is kept.
-/

namespace CanonicalReply.FinishReason

/-- The words of providers, each with the one that it means. An error is a stop like any other. -/
def meanings : List (String × String) :=
  [("stop_sequence", "stop"), ("COMPLETE", "stop"), ("eos_token", "stop"),
   ("FINISH_REASON_UNSPECIFIED", "stop"), ("STOP", "stop"), ("end_turn", "stop"),
   ("MAX_TOKENS", "length"), ("max_tokens", "length"),
   ("ERROR_TOXIC", "content_filter"), ("SAFETY", "content_filter"),
   ("RECITATION", "content_filter"), ("content_filtered", "content_filter"),
   ("ERROR", "stop"), ("tool_use", "tool_calls")]

/-- The reason of a choice whose message asks for nothing more. -/
def stop : String := "stop"

/-- What a provider's reason means. -/
def canonical (reason : String) : String := (meanings.lookup reason).getD reason

end CanonicalReply.FinishReason
