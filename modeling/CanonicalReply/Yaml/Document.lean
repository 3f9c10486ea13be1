import CanonicalReply.Yaml.Event.Parser

/-!
# Documents

A document is a sequence of parts: scalars, and the beginnings and ends of collections. A reference
to an anchor holds the anchor's number. Numbers go by how many names there have been, so that an
anchor whose name is used again, or that comes next after that, can take the number of another; the
last one that takes a number has it.
-/

namespace CanonicalReply.Yaml

/-- A part of a document. -/
inductive Part where
  | reference (number : Nat)
  | scalar (content : Scalar)
  | sequenceStart
  | sequenceEnd
  | mappingStart
  | mappingEnd
  deriving DecidableEq

/-- The first document of a text, as far as it could be read. -/
structure Document where
  /-- Its parts with their places. There are none if the text holds no document. -/
  parts : List (Part × Mark)
  /-- For each number of an anchor the part that has it; later ones first. -/
  anchored : List (Nat × Part × Mark)
  /-- Why the document ends too early. -/
  problem : Option Problem
  /-- Whether the text ends with the document. -/
  isLast : Bool

namespace Document

/-- What has been seen of anchors: their names with their numbers, and what they stand for. -/
structure Anchors where
  names : List (List Char × Nat)
  parts : List (Nat × Part × Mark)

namespace Anchors

/-- No anchors. -/
def empty : Anchors := ⟨[], []⟩

/-- The number that a name has now. -/
def number? (as : Anchors) (name : List Char) : Option Nat := as.names.lookup name

/-- With an anchor in front of a part. -/
def note (as : Anchors) (anchor : Option (List Char)) (part : Part) (mark : Mark) : Anchors :=
  match anchor with
  | none => as
  | some name =>
    let number := as.names.length
    ⟨(name, number) :: as.names.filter (·.1 ≠ name), (number, part, mark) :: as.parts⟩

end Anchors

/-- One more part in front. -/
def after (part : Part) (mark : Mark) (d : Document) : Document :=
  { d with parts := (part, mark) :: d.parts }

/-- The document that the events begin, `problem` being what ends them. -/
def collect (problem : Option Problem) : Anchors → List (Event × Mark) → Document
  | as, [] => ⟨[], as.parts, problem, false⟩
  | as, (event, mark) :: rest =>
    match event with
    | .streamEnd => ⟨[], as.parts, none, true⟩
    | .documentStart => collect problem as rest
    | .documentEnd => ⟨[], as.parts, none, rest.head?.any (·.1 = .streamEnd)⟩
    | .reference name =>
      match as.number? name with
      | none => ⟨[], as.parts, some (.bare .unknownAnchor mark), false⟩
      | some number => (collect problem as rest).after (.reference number) mark
    | .scalar anchor content =>
      (collect problem (as.note anchor (.scalar content) mark) rest).after (.scalar content) mark
    | .sequenceStart anchor =>
      (collect problem (as.note anchor .sequenceStart mark) rest).after .sequenceStart mark
    | .sequenceEnd => (collect problem as rest).after .sequenceEnd mark
    | .mappingStart anchor =>
      (collect problem (as.note anchor .mappingStart mark) rest).after .mappingStart mark
    | .mappingEnd => (collect problem as rest).after .mappingEnd mark

/-- The first document of some events. -/
def first (es : Events) : Document := collect es.problem .empty es.all

/-- The part that a reference stands for; any other part stands for itself. -/
def resolve (d : Document) : Part × Mark → Part × Mark
  | (.reference number, mark) => (d.anchored.lookup number).getD (.reference number, mark)
  | part => part

end Document

end CanonicalReply.Yaml
