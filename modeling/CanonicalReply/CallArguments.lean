import CanonicalReply.Json

/-!
# The arguments of a call

Helpers on the arguments with which a provider was called: its metadata, the span under which the
call is traced, and messages that are sent back to a provider.
-/

namespace CanonicalReply.CallArguments

/-- Where the parameters of a single call stand. -/
def paramsKey : String := "litellm_params"

/-- Where metadata stand. -/
def metadataKey : String := "metadata"

/-- Where the span of the caller stands. -/
def spanKey : String := "litellm_parent_otel_span"

/-- The metadata among the parameters of a call. -/
def paramsMetadata? (arguments : Dict Json) : Option Json :=
  (arguments.get? paramsKey).bind (·.get? metadataKey)

/-- The metadata of a call; there are none unless they are an object. -/
def metadata (arguments : Dict Json) : Dict Json :=
  ((paramsMetadata? arguments).bind Json.dict?).getD .empty

/-- The span of the caller: in the metadata, in those among the parameters, or beside them. -/
def parentSpan? (arguments : Dict Json) : Option Json :=
  ((arguments.get? metadataKey).bind (·.get? spanKey)).or
    (((paramsMetadata? arguments).bind (·.get? spanKey)).or (arguments.get? spanKey))

/-! ## Indices of tool calls -/

/-- The key under which a streamed tool call tells its place. -/
def indexKey : String := "index"

/-- The key under which a message has its tool calls. -/
def toolCallsKey : String := "tool_calls"

/-- A tool call without its place. -/
def stripIndex : Json → Json
  | .obj members => .obj (members.filter fun e => e.1 ≠ indexKey)
  | v => v

/-- The calls of a message, if they are a list, without their places. -/
def stripCalls : Json → Json
  | .arr calls => .arr (calls.map stripIndex)
  | v => v

/-- A message whose tool calls are without their places. -/
def stripMessage : Json → Json
  | .obj members =>
    .obj (members.map fun e => (e.1, if e.1 = toolCallsKey then stripCalls e.2 else e.2))
  | v => v

/-- Messages and tool calls without the places of the tool calls, as providers want them. -/
def stripIndices (messages toolCalls : List Json) : List Json × List Json :=
  (messages.map stripMessage, toolCalls.map stripIndex)

end CanonicalReply.CallArguments
