import CanonicalReply.Failure
import CanonicalReply.Reply.Ranking
import CanonicalReply.Reply.Usage

/-!
# Payloads as providers send them

A payload is an object. What is decoded of it tells an absent key from a null where that makes a
difference: there `some none` is a null.
-/

namespace CanonicalReply

/-- What a provider sends. -/
abbrev Payload := Dict Json

namespace Provider

open Json.Decoder (any text size double list object record openRecord)
open Json.Fields (lenient presence)

/-! ## Completions -/

/-- The payload of a completion. -/
structure Completion where
  choices : Option Json
  usage : Option Json
  id : Option (Option String)
  created : Option (Option Json)
  model : Option (Option String)
  systemFingerprint : Option (Option String)
  object : Option Json
  /-- What is sent beside the fields above. -/
  extra : Dict Json
  deriving DecidableEq

/-- A time as a number: the integer part of seconds since 1970, within 64 bits. -/
def unixSeconds : Json → Option Int64
  | .num (.int n) => some (Int64.ofInt (min n Int64.maxValue.toInt))
  | .num (.double x) =>
    some (Int64.ofInt (max (min x.truncate Int64.maxValue.toInt) Int64.minValue.toInt))
  | _ => none

namespace Completion

/-- Read what a provider sends. -/
def decode : Json.Decoder Completion :=
  openRecord
    ⟨"RawCompletion",
      ["choices", "usage", "id", "created", "model", "system_fingerprint", "object"]⟩
    (Completion.mk <$> lenient "choices" any <*> lenient "usage" any <*> presence "id" text <*>
      presence "created" any <*> presence "model" text <*> presence "system_fingerprint" text <*>
      lenient "object" any)

/-- The choices, which have to be a list. -/
def choiceValues (c : Completion) : Except Failure (List Json) :=
  match c.choices with
  | some (.arr choices) => .ok choices
  | some _ => .error (.malformed .choicesNotList)
  | none => .error (.malformed .noChoices)

/-- The usage, if there is one, decoded strictly. -/
def decodedUsage (c : Completion) : Except Failure (Option Usage) :=
  match c.usage with
  | none => .ok none
  | some v => (Failure.decoding .usage Usage.decode v).map some

/-- A count of a usage; zero stands for anything that is no count. -/
def countOrZero (usage : Json) (key : String) : UInt32 :=
  match usage.get? key with
  | some (.num (.int (.ofNat n))) => if n < UInt32.size then UInt32.ofNat n else 0
  | _ => 0

/-- The counts of the usage, if there is one. -/
def zeroFilledUsage (c : Completion) : Option Usage :=
  c.usage.map fun v =>
    .ofCounts (countOrZero v "prompt_tokens") (countOrZero v "completion_tokens")
      (countOrZero v "total_tokens")

end Completion

/-! ## Other kinds -/

/-- The payload of images. -/
structure Images where
  created : Option (Option Json)
  data : Option (Option (List Json))
  deriving DecidableEq

/-- Read what a provider sends. -/
def Images.decode : Json.Decoder Images :=
  record ⟨"RawImage", ["created", "data"]⟩
    (Images.mk <$> presence "created" any <*> presence "data" (list any))

/-- The payload of a transcript. -/
structure Transcript where
  text : Option (Option String)
  language : Option (Option String)
  task : Option (Option String)
  duration : Option (Option Binary64)
  words : Option (Option (List Json))
  segments : Option (Option (List Json))
  deriving DecidableEq

/-- Read what a provider sends. -/
def Transcript.decode : Json.Decoder Transcript :=
  record ⟨"RawTranscription", ["text", "language", "task", "duration", "words", "segments"]⟩
    (Transcript.mk <$> presence "text" Json.Decoder.text <*>
      presence "language" Json.Decoder.text <*> presence "task" Json.Decoder.text <*>
      presence "duration" double <*> presence "words" (list any) <*>
      presence "segments" (list any))

/-- The payload of embeddings. -/
structure Embedding where
  model : Option (Option String)
  object : Option String
  data : Option (List Json)
  usage : Option Usage
  deriving DecidableEq

/-- Read what a provider sends. -/
def Embedding.decode : Json.Decoder Embedding :=
  record ⟨"RawEmbedding", ["model", "object", "data", "usage"]⟩
    (Embedding.mk <$> presence "model" Json.Decoder.text <*>
      lenient "object" Json.Decoder.text <*> lenient "data" (list any) <*>
      lenient "usage" Usage.decode)

/-- The payload of a ranking. -/
structure Ranking where
  id : Option String
  results : Option (List RankedDocument)
  metadata : Option (Dict Json)
  deriving DecidableEq

/-- Read what a provider sends. -/
def Ranking.decode : Json.Decoder Ranking :=
  record ⟨"RawRerank", ["id", "results", "meta"]⟩
    (Ranking.mk <$> lenient "id" Json.Decoder.text <*>
      lenient "results" (list RankedDocument.decode) <*> lenient "meta" object)

end Provider

end CanonicalReply
