import CanonicalReply.Json.Decoder

/-!
# How an assembly fails

A failure names its cause. One that arises inside an assembly is wrapped once, in a snapshot of the
call that shows its shape and none of the values that went into it.
-/

namespace CanonicalReply

/-- The kinds of responses. -/
inductive Kind where
  | completion
  | embedding
  | images
  | transcript
  | ranking
  deriving DecidableEq

namespace Kind

/-- The name of a kind. -/
def name : Kind → String
  | completion => "completion"
  | embedding => "embedding"
  | images => "image_generation"
  | transcript => "audio_transcription"
  | ranking => "rerank"

/-- All kinds. -/
def all : List Kind := [completion, embedding, images, transcript, ranking]

/-- The kind of the given name. -/
def ofName? (s : String) : Option Kind := all.find? (·.name = s)

end Kind

/-- What was being decoded when decoding failed. -/
inductive Subject where
  | completionPayload
  | chunkPayload
  | embeddingPayload
  | imagePayload
  | transcriptPayload
  | rankingPayload
  | choice
  | toolCall
  | toolCallDelta
  | usage
  | payload
  deriving DecidableEq

/-- The subject as a message names it. -/
def Subject.name : Subject → String
  | completionPayload => "completion payload"
  | chunkPayload => "streaming payload"
  | embeddingPayload => "embedding payload"
  | imagePayload => "image payload"
  | transcriptPayload => "transcription payload"
  | rankingPayload => "rerank payload"
  | choice => "choice"
  | toolCall => "tool call"
  | toolCallDelta => "tool call delta"
  | usage => "usage"
  | payload => "payload"

/-- Why a payload cannot be a response at all. -/
inductive Malformation where
  | noResponse
  | noChoices
  | choicesNotList
  /-- A reason in words of its own. -/
  | described (reason : String)
  deriving DecidableEq

/-- The reason in words. -/
def Malformation.message : Malformation → String
  | noResponse => "response object is missing"
  | noChoices => "'choices' is missing"
  | choicesNotList => "'choices' is not a list"
  | described reason => reason

/-- The shape of a call that failed. -/
structure Snapshot where
  kind : Kind
  stream : Bool
  /-- The first keys of the payload. -/
  payloadKeys : List String
  /-- The number of the other keys. -/
  omittedKeys : Nat
  /-- The number of choices, if they are a list. -/
  choiceCount : Option Nat
  hasTarget : Bool
  hasHeaders : Bool
  /-- Where the program stood, if that is known. -/
  backtrace : String
  deriving DecidableEq

/-- True or false, in words. -/
def boolWord (b : Bool) : String := if b then "true" else "false"

/-- The snapshot in words. -/
def Snapshot.message (s : Snapshot) : String :=
  let keys := ", ".intercalate s.payloadKeys
  let omitted := if s.omittedKeys = 0 then "" else s!" (+{s.omittedKeys} more)"
  let choices :=
    match s.choiceCount with
    | none => ""
    | some n => s!", choices={n}"
  let backtrace := if s.backtrace.isEmpty then "" else "\n" ++ s.backtrace
  s!"received_args: kind={s.kind.name}, stream={boolWord s.stream}, " ++
    s!"has_target={boolWord s.hasTarget}, has_headers={boolWord s.hasHeaders}, " ++
    s!"payload_keys=[{keys}]" ++ omitted ++ choices ++ backtrace

/-- Why there is no response. -/
inductive Failure where
  /-- The provider reported an error. -/
  | reported (status : UInt16) (message : String)
  | malformed (why : Malformation)
  /-- A part of the payload is not of the shape that it ought to have. -/
  | undecodable (what : Subject) (error : Json.Error)
  /-- The arguments of a call that packs several are not a list of calls. -/
  | badToolCall (name : String) (error : Json.Error)
  /-- A failure inside an assembly. -/
  | assembly (snapshot : Snapshot) (source : Failure)
  deriving DecidableEq

namespace Failure

/-- The failure in words. -/
def message : Failure → String
  | reported status text => s!"Upstream error ({status.toNat}): {text}"
  | malformed why => s!"Error in response object format: {why.message}"
  | undecodable what e => s!"Failed to decode {what.name}: {e.message}"
  | badToolCall name e => s!"Invalid arguments for tool call '{name}': {e.message}"
  | assembly snapshot source =>
    s!"Invalid response object: {source.message}\n\n{snapshot.message}"

/-- The failure inside all wrappers. -/
def rootCause : Failure → Failure
  | assembly _ source => source.rootCause
  | f => f

/-- The status of the error that the provider reported, if it is one. -/
def statusCode (f : Failure) : Option UInt16 :=
  match f.rootCause with
  | reported status _ => some status
  | _ => none

/-- Decode a part of a payload. -/
def decoding {α : Type} (what : Subject) (decode : Json.Decoder α) (v : Json) :
    Except Failure α :=
  (decode v).mapError fun fault => undecodable what ⟨fault, none⟩

end Failure

end CanonicalReply
