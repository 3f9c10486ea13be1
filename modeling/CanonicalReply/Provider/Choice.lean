import CanonicalReply.Failure
import CanonicalReply.FinishReason
import CanonicalReply.Provider.ToolCall

/-!
# Choices as providers send them

A choice has a message, of which any part may be missing. Some providers tell the finish reason in
another place than the others.
-/

namespace CanonicalReply.Provider

open Json.Decoder (any text list record)
open Json.Fields (required lenient)

/-- A message, as it is sent. Its tool calls are looked at one by one, later. -/
structure Message where
  role : Option String
  content : Option Content
  functionCall : Option Function
  toolCalls : Option (List Json)
  audio : Option Json
  deriving DecidableEq

/-- A choice, as it is sent. -/
structure Choice where
  message : Message
  finishReason : Option String
  /-- A reason, or an object whose `type` is the reason. -/
  finishDetails : Option Json
  logprobs : Option Json
  enhancements : Option Json
  deriving DecidableEq

namespace Message

/-- Read what a provider sends. -/
def decode : Json.Decoder Message :=
  record ⟨"RawMessage", ["role", "content", "function_call", "tool_calls", "audio"]⟩
    (Message.mk <$> lenient "role" text <*> lenient "content" Content.decode <*>
      lenient "function_call" Function.decode <*> lenient "tool_calls" (list any) <*>
      lenient "audio" any)

/-- The role; a message without one is the model's. -/
def roleOrDefault (m : Message) : String :=
  (firstNonEmpty [m.role]).getD CanonicalReply.Message.assistantRole

/-- Whether the first tool call comes with arguments, be they empty. -/
def firstCallHasArguments (m : Message) : Bool :=
  match (m.toolCalls.bind List.head?).bind (·.get? "function") with
  | none => false
  | some function =>
    match function.get? "arguments" with
    | none => false
    | some arguments => !arguments.isNull

/-- Every entry of a list with its position, for a function that may fail; the first entry for
which it fails counts. -/
def eachAt {α : Type} (f : Nat → Json → Except Failure α) :
    Nat → List Json → Except Failure (List α)
  | _, [] => .ok []
  | i, v :: rest =>
    match f i v with
    | .error e => .error e
    | .ok a => (eachAt f (i + 1) rest).map (a :: ·)

/-- The whole tool calls, if there are any; the function gives ids to those without one. -/
def wholeToolCalls (m : Message) (freshId : Nat → String) :
    Except Failure (Option (List CanonicalReply.ToolCall)) :=
  match m.toolCalls with
  | none => .ok none
  | some entries =>
    (eachAt (fun i v =>
      (Failure.decoding .toolCall ToolCall.decode v).map (·.toCall (freshId i))) 0 entries).map some

/-- The parts of the tool calls. There are none unless the list begins with an object. -/
def toolCallDeltas (m : Message) : Except Failure (Option (List ToolCallDelta)) :=
  match m.toolCalls with
  | none => .ok none
  | some entries =>
    if (entries.head?.map Json.isObject).getD false then
      (eachAt (fun i v =>
        (Failure.decoding .toolCallDelta ToolCall.decode v).map (·.toDelta i)) 0 entries).map some
    else .ok none

end Message

namespace Choice

/-- Read what a provider sends. -/
def decode : Json.Decoder Choice :=
  record ⟨"RawChoice", ["message", "finish_reason", "finish_details", "logprobs", "enhancements"]⟩
    (Choice.mk <$> required "message" Message.decode <*> lenient "finish_reason" text <*>
      lenient "finish_details" any <*> lenient "logprobs" any <*> lenient "enhancements" any)

/-- The reason that the details tell. -/
def detailsReason (c : Choice) : Option String :=
  match c.finishDetails with
  | some (.str s) => some s
  | some details => (details.get? "type").bind Json.text?
  | none => none

/-- The reason of a whole choice: the one that is sent, even if it is empty, or a reason that the
details tell, or that the model just stopped. -/
def reasonOrDefault (c : Choice) : String :=
  match c.finishReason with
  | some reason => reason
  | none => (firstNonEmpty [c.detailsReason]).getD FinishReason.stop

/-- The reason of a part of a choice: the one that is sent, or the one that the details tell. -/
def reasonOrDetails (c : Choice) : Option String := c.finishReason.or c.detailsReason

end Choice

end CanonicalReply.Provider
