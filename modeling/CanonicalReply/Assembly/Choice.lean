import CanonicalReply.PackedCall
import CanonicalReply.Provider.Choice
import CanonicalReply.Settings

/-!
# Assembling choices

A choice of a payload becomes a choice of the response: its tool calls are completed and unpacked,
and in JSON mode the arguments of a single call become the message.
-/

namespace CanonicalReply

namespace Choice

/-- The tool calls of a choice after repair, if repair is wanted, and whether repair put calls in
the place of others. -/
def effectiveCalls (s : Settings) (calls : Option (List ToolCall)) :
    Except Failure (Option (List ToolCall) × Bool) :=
  match calls with
  | none => .ok (none, false)
  | some calls =>
    if s.repair then (ToolCall.repair calls).map fun r => (some r.calls, r.isExpanded)
    else .ok (some calls, false)

/-- The text that becomes the message in JSON mode: the arguments of the single call. A call that
was not packed has to come with arguments. -/
def jsonContent (jsonMode : Bool) (m : Provider.Message) (calls : Option (List ToolCall))
    (expanded : Bool) : Option String :=
  match calls with
  | some [call] =>
    if jsonMode && (expanded || m.firstCallHasArguments) then some call.function.arguments
    else none
  | _ => none

/-- The message and the finish reason of a choice with the given calls. -/
def body (jsonMode : Bool) (c : Provider.Choice) (calls : Option (List ToolCall))
    (expanded : Bool) : Message × String :=
  match jsonContent jsonMode c.message calls expanded with
  | some content => (.assistant content, FinishReason.stop)
  | none =>
    ({ role := c.message.roleOrDefault, content := c.message.content,
       functionCall := c.message.functionCall.map Provider.Function.toCall,
       toolCalls := calls, audio := c.message.audio }, c.reasonOrDefault)

/-- The choice at a position of a payload. -/
def build (s : Settings) (supply : Supply) (jsonMode : Bool) (index : Nat) (v : Json) :
    Except Failure Choice :=
  match Failure.decoding .choice Provider.Choice.decode v with
  | .error e => .error e
  | .ok c =>
    match c.message.wholeToolCalls (supply.callId index) with
    | .error e => .error e
    | .ok calls =>
      (effectiveCalls s calls).map fun (calls, expanded) =>
        let (message, reason) := body jsonMode c calls expanded
        ⟨index, FinishReason.canonical reason, message, c.logprobs, c.enhancements⟩

end Choice

end CanonicalReply
