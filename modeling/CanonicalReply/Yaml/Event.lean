import CanonicalReply.Yaml.Token

/-!
# Events

The structure of a text as a sequence of events: documents, collections and scalars as they begin
and end, in the order in which they stand in the text.
-/

namespace CanonicalReply.Yaml

/-- A scalar node. -/
structure Scalar where
  text : String
  style : Style
  tag : Option String
  deriving DecidableEq

/-- A part of the structure. -/
inductive Event where
  | streamEnd
  | documentStart
  | documentEnd
  | reference (name : List Char)
  | scalar (anchor : Option (List Char)) (content : Scalar)
  | sequenceStart (anchor : Option (List Char))
  | sequenceEnd
  | mappingStart (anchor : Option (List Char))
  | mappingEnd
  deriving DecidableEq

/-- The events of a text with their places, up to the end of the text or to a problem. -/
structure Events where
  all : List (Event × Mark)
  problem : Option Problem

/-- One more event in front. -/
def Events.after (event : Event) (mark : Mark) (es : Events) : Events :=
  { es with all := (event, mark) :: es.all }

end CanonicalReply.Yaml
