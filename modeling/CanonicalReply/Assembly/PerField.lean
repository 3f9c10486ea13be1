import CanonicalReply.Assembly.Options
import CanonicalReply.Provider.Payload
import CanonicalReply.Reply.Embedding
import CanonicalReply.Reply.Images
import CanonicalReply.Reply.Transcript
import CanonicalReply.Supply

/-!
# Assembling embeddings, images, transcripts and rankings

What a payload speaks of replaces the field of the response that the caller has; the other fields
stay. In transcripts and images, and for the model of embeddings, a null counts as speaking: it
takes the value away. Elsewhere a null is no different from an absent key.
-/

namespace CanonicalReply

/-- Decode a payload, if there is one. -/
def decodePayload {α : Type} (what : Subject) (decode : Json.Decoder α)
    (payload : Option Payload) : Except Failure α :=
  match payload with
  | none => .error (.malformed .noResponse)
  | some payload => Failure.decoding what decode (.ofDict payload)

namespace Embedding

/-- The embeddings after a payload. -/
def apply (e : Embedding) (raw : Provider.Embedding) (side : SideChannel)
    (latency : Option Binary64) (headers : Option Headers) : Embedding where
  model := raw.model.getD e.model
  object := raw.object.getD e.object
  data := raw.data.getD e.data
  usage := raw.usage.or e.usage
  side := { side with responseMs := latency.or side.responseMs }
  headers := headers.or e.headers

/-- The embeddings of a payload, laid over the caller's. The side channel is replaced by the given
one, into which the latency goes if there is one. -/
def assemble (payload : Option Payload) (target : Option Embedding) (side : SideChannel)
    (latency : Option Binary64) (headers : Option Headers) : Except Failure Embedding :=
  (decodePayload .embeddingPayload Provider.Embedding.decode payload).map fun raw =>
    (target.getD blank).apply raw side latency headers

end Embedding

namespace Images

/-- The images after a payload. A time that is no number is no time. -/
def apply (i : Images) (raw : Provider.Images) (side : SideChannel) : Images where
  created := (raw.created.map fun v => v.bind Provider.unixSeconds).getD i.created
  data := raw.data.getD i.data
  side := side

/-- The images of a payload, laid over the caller's. -/
def assemble (supply : Supply) (payload : Option Payload) (target : Option Images)
    (side : SideChannel) : Except Failure Images :=
  (decodePayload .imagePayload Provider.Images.decode payload).map fun raw =>
    (target.getD (blank supply.now)).apply raw side

end Images

namespace Transcript

/-- The transcript after a payload. -/
def apply (t : Transcript) (raw : Provider.Transcript) (side : SideChannel)
    (headers : Option Headers) : Transcript where
  text := raw.text.getD t.text
  language := raw.language.getD t.language
  task := raw.task.getD t.task
  duration := raw.duration.getD t.duration
  words := raw.words.getD t.words
  segments := raw.segments.getD t.segments
  side := side
  headers := headers.or t.headers

/-- The transcript of a payload, laid over the caller's. -/
def assemble (payload : Option Payload) (target : Option Transcript) (side : SideChannel)
    (headers : Option Headers) : Except Failure Transcript :=
  (decodePayload .transcriptPayload Provider.Transcript.decode payload).map fun raw =>
    (target.getD blank).apply raw side headers

end Transcript

namespace Ranking

/-- The ranking after a payload. Its side channel stays as it is. -/
def apply (r : Ranking) (raw : Provider.Ranking) : Ranking where
  id := raw.id.getD r.id
  results := raw.results.or r.results
  metadata := raw.metadata.getD r.metadata
  side := r.side

/-- A ranking of nothing under the given supply. -/
def fresh (supply : Supply) : Ranking := blank supply.rankingId

/-- The ranking of a payload, laid over the caller's. -/
def assemble (supply : Supply) (payload : Option Payload) (target : Option Ranking) :
    Except Failure Ranking :=
  (decodePayload .rankingPayload Provider.Ranking.decode payload).map
    ((target.getD (fresh supply)).apply ·)

end Ranking

end CanonicalReply
