import CanonicalReply.Provider.Choice
import CanonicalReply.Provider.Payload

/-!
# Replaying a payload as a stream

A whole payload can be given to a caller who asked for a stream: as one chunk with everything in
it. A chunk says what the provider said; roles and finish reasons are neither mapped nor filled in.

The stream comes in two forms. The blocking one gives the chunk. The cooperative one is polled: it
gives the chunk, then lets others run once, and then ends; its chunk carries no enhancements.
-/

namespace CanonicalReply

/-- The part of a choice that stands at a position of a payload. -/
def ChunkChoice.build (enhanced : Bool) (index : Nat) (v : Json) : Except Failure ChunkChoice :=
  match Failure.decoding .choice Provider.Choice.decode v with
  | .error e => .error e
  | .ok c =>
    c.message.toolCallDeltas.map fun calls =>
      { index, finishReason := c.reasonOrDetails, logprobs := c.logprobs,
        enhancements := if enhanced then c.enhancements else none,
        delta :=
          { role := c.message.role, content := c.message.content,
            functionCall := c.message.functionCall.map Provider.Function.toDelta,
            toolCalls := calls } }

namespace Chunk

/-- A chunk without choices under the given supply. -/
def fresh (supply : Supply) : Chunk := blank supply.completionId supply.now

/-- The chunk of a payload. -/
def ofPayload (enhanced : Bool) (supply : Supply) (payload : Option Payload) :
    Except Failure Chunk :=
  match payload with
  | none => .error (.malformed .noResponse)
  | some payload =>
    match Failure.decoding .chunkPayload Provider.Completion.decode (.ofDict payload) with
    | .error e => .error e
    | .ok raw =>
      match raw.choiceValues with
      | .error e => .error e
      | .ok values =>
        (Provider.Message.eachAt (ChunkChoice.build enhanced) 0 values).map fun choices =>
          let base := fresh supply
          { base with
            choices, usage := raw.zeroFilledUsage, id := raw.id.join.getD base.id,
            created := (raw.created.join.bind Provider.unixSeconds).getD base.created,
            systemFingerprint := raw.systemFingerprint.join, model := raw.model.join }

end Chunk

namespace Replay

/-- The blocking replay: all chunks of the stream. -/
def blocking (supply : Supply) (payload : Option Payload) : Except Failure (List Chunk) :=
  (Chunk.ofPayload true supply payload).map fun chunk => [chunk]

/-- What a poll of a cooperative stream gives. -/
inductive Poll where
  | chunk (value : Chunk)
  /-- Nothing yet: others may run. -/
  | pending
  /-- The stream is over. -/
  | finished
  deriving DecidableEq

/-- Where a cooperative stream stands. -/
inductive State where
  | holding (chunk : Chunk)
  | yielding
  | ended
  deriving DecidableEq

/-- One poll, and where the stream stands after it. -/
def State.poll : State → Poll × State
  | holding chunk => (.chunk chunk, .yielding)
  | yielding => (.pending, .ended)
  | ended => (.finished, .ended)

/-- What so many polls give. -/
def State.polls : State → Nat → List Poll
  | _, 0 => []
  | s, n + 1 => s.poll.1 :: s.poll.2.polls n

/-- The cooperative replay, ready to be polled. -/
def cooperative (supply : Supply) (payload : Option Payload) : Except Failure State :=
  (Chunk.ofPayload false supply payload).map .holding

end Replay

end CanonicalReply
