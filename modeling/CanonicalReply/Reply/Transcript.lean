import CanonicalReply.Reply.SideChannel

/-!
# Transcripts

The response to a request to write down what is said in a recording.
-/

namespace CanonicalReply

open Json (objectOf orNull)
open Json.Decoder (any double list record)
open Json.Fields (optional)

/-- What is said in a recording. -/
structure Transcript where
  text : Option String
  language : Option String
  task : Option String
  /-- The length of the recording in seconds. -/
  duration : Option Binary64
  words : Option (List Json)
  segments : Option (List Json)
  side : SideChannel
  headers : Option Headers
  deriving DecidableEq

namespace Transcript

/-- Nothing is said. -/
def blank : Transcript := ⟨none, none, none, none, none, none, .empty, none⟩

/-- The written form, without the side channel. -/
def toJson (t : Transcript) : Json :=
  objectOf [("text", some (orNull (t.text.map .str))), ("language", t.language.map .str),
    ("task", t.task.map .str), ("duration", t.duration.map SideChannel.doubleJson),
    ("words", t.words.map .arr), ("segments", t.segments.map .arr)]

/-- Read the written form. -/
def decode : Json.Decoder Transcript :=
  record ⟨"TranscriptionResponse", ["text", "language", "task", "duration", "words", "segments"]⟩
    ((fun text language task duration words segments =>
        ⟨text, language, task, duration, words, segments, .empty, none⟩) <$>
      optional "text" Json.Decoder.text <*> optional "language" Json.Decoder.text <*>
      optional "task" Json.Decoder.text <*> optional "duration" double <*>
      optional "words" (list any) <*> optional "segments" (list any))

end Transcript

end CanonicalReply
