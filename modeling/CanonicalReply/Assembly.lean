import CanonicalReply.Assembly.Completion
import CanonicalReply.Assembly.PerField
import CanonicalReply.Assembly.Replay
import CanonicalReply.Provider.Error

/-!
# Assembling responses

`assemble` makes the response of a payload. An error that the provider reports comes first and is
given as it is; any other failure is wrapped once in a snapshot of the call.
-/

namespace CanonicalReply

/-- The kind of response that is wanted, with the caller's response so far. -/
inductive Request where
  | completion (target : Option Completion)
  | embedding (target : Option Embedding)
  | images (target : Option Images)
  | transcript (target : Option Transcript)
  | ranking (target : Option Ranking)
  deriving DecidableEq

namespace Request

/-- The kind. -/
def kind : Request → Kind
  | completion _ => .completion
  | embedding _ => .embedding
  | images _ => .images
  | transcript _ => .transcript
  | ranking _ => .ranking

/-- Whether the caller has a response already. -/
def hasTarget : Request → Bool
  | completion t => t.isSome
  | embedding t => t.isSome
  | images t => t.isSome
  | transcript t => t.isSome
  | ranking t => t.isSome

/-- A request of a kind without a response so far. -/
def ofKind : Kind → Request
  | .completion => completion none
  | .embedding => embedding none
  | .images => images none
  | .transcript => transcript none
  | .ranking => ranking none

end Request

/-- What an assembly gives. -/
inductive Response where
  | completion (value : Completion)
  /-- A completion as a stream. -/
  | stream (chunks : List Chunk)
  | embedding (value : Embedding)
  | images (value : Images)
  | transcript (value : Transcript)
  | ranking (value : Ranking)
  deriving DecidableEq

namespace Response

/-- The completion, if it is one. -/
def completion? : Response → Option Completion
  | completion c => some c
  | _ => none

/-- The chunks, if it is a stream. -/
def stream? : Response → Option (List Chunk)
  | stream chunks => some chunks
  | _ => none

/-- The embeddings, if it is embeddings. -/
def embedding? : Response → Option Embedding
  | embedding e => some e
  | _ => none

/-- The images, if it is images. -/
def images? : Response → Option Images
  | images i => some i
  | _ => none

/-- The transcript, if it is one. -/
def transcript? : Response → Option Transcript
  | transcript t => some t
  | _ => none

/-- The ranking, if it is one. -/
def ranking? : Response → Option Ranking
  | ranking r => some r
  | _ => none

/-- The request that goes on from a response. A stream is nothing to go on from. -/
def next? : Response → Option Request
  | completion c => some (.completion (some c))
  | stream _ => none
  | embedding e => some (.embedding (some e))
  | images i => some (.images (some i))
  | transcript t => some (.transcript (some t))
  | ranking r => some (.ranking (some r))

end Response

/-! ## Reported errors -/

/-- What is said of a reported error that comes without a message. -/
def unexplainedError : String := "Error in response object"

/-- Fail with the error that a payload reports, if it reports one. -/
def checkReported (s : Settings) (payload : Payload) : Except Failure Unit :=
  match Provider.ReportedError.ofPayload payload with
  | none => .ok ()
  | some e => .error (.reported (e.status.getD s.errorStatus) (e.message.getD unexplainedError))

/-! ## The assembly -/

/-- The response of a payload that reports no error. -/
def build (s : Settings) (supply : Supply) (payload : Option Payload) (request : Request)
    (o : Options) : Except Failure Response :=
  let side := o.sideChannel s.headerPrefix
  match request with
  | .completion target =>
    match payload with
    | none => .error (.malformed .noResponse)
    | some payload =>
      if o.stream then (Replay.blocking supply (some payload)).map .stream
      else (Completion.assemble s supply payload target o).map .completion
  | .embedding target =>
    (Embedding.assemble payload target side o.latency o.headers).map .embedding
  | .images target => (Images.assemble supply payload target side).map .images
  | .transcript target => (Transcript.assemble payload target side o.headers).map .transcript
  | .ranking target => (Ranking.assemble supply payload target).map .ranking

/-- The shape of a call. -/
def snapshot (s : Settings) (payload : Option Payload) (request : Request) (o : Options) :
    Snapshot :=
  let keys := (payload.map Dict.keys).getD []
  { kind := request.kind, stream := o.stream,
    payloadKeys := keys.take s.snapshotKeys.toNat,
    omittedKeys := keys.length - s.snapshotKeys.toNat,
    choiceCount :=
      ((payload.bind (·.get? "choices")).bind Json.items?).map List.length,
    hasTarget := request.hasTarget, hasHeaders := o.headers.isSome, backtrace := "" }

/-- The response of a payload, laid over the response that the caller has so far. -/
def assemble (s : Settings) (supply : Supply) (payload : Option Payload) (request : Request)
    (o : Options) : Except Failure Response :=
  match (payload.map (checkReported s)).getD (.ok ()) with
  | .error e => .error e
  | .ok () =>
    (build s supply payload request o).mapError (.assembly (snapshot s payload request o))

/-! ## Runs -/

/-- One step of a run: a request is replaced, if one is given, and a payload is assembled. -/
structure Step where
  supply : Supply
  request : Option Request
  payload : Option Payload
  options : Options

/-- The results of a run of steps. A response that is no stream is what the next step goes on
from; after a failure or a stream the next step goes on from what was there. -/
def run (s : Settings) : Request → List Step → List (Except Failure Response)
  | _, [] => []
  | request, step :: rest =>
    let request := step.request.getD request
    let result := assemble s step.supply step.payload request step.options
    let next := (result.toOption.bind Response.next?).getD request
    result :: run s next rest

end CanonicalReply
