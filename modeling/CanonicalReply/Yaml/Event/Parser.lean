import CanonicalReply.Yaml.Event

/-!
# From tokens to events

A stack of goals holds what is still to come; its top decides what the next tokens mean, and each
step takes it off, gives one event and puts on what has to follow.
-/

namespace CanonicalReply.Yaml

/-- What may have to come. Of a collection the place is kept where it began. -/
inductive Goal where
  /-- A document, which needs no sign of its beginning if it is the first one. -/
  | document (first : Bool)
  /-- What stands behind the sign that begins a document. -/
  | documentContent
  | documentEnd
  | node
  | blockItem (start : Mark)
  /-- An item of a sequence that is not indented below its key. -/
  | flatItem
  | blockKey (start : Mark)
  | blockValue
  | flowItem (start : Mark) (first : Bool)
  /-- The key, the value and the end of a mapping of one pair without braces. -/
  | pairKey
  | pairValue
  | pairEnd
  | flowKey (start : Mark) (first : Bool)
  | flowValue
  /-- The value of a key that has none. -/
  | noValue
  deriving DecidableEq

/-- A handle of tags and what it stands for. -/
structure Handle where
  name : List Char
  expansion : List Char
  deriving DecidableEq

/-- The handles that need no definition. -/
def standardHandles : List Handle :=
  [⟨['!'], ['!']⟩, ⟨['!', '!'], "tag:yaml.org,2002:".toList⟩]

/-- The state of the parser. -/
structure Parser where
  tokens : Tokens
  goals : List Goal
  handles : List Handle

/-- An event with its place, and the state behind it. -/
abbrev Step := Except Problem (Event × Mark × Parser)

namespace Parser

/-- Ready to read tokens. -/
def start (tokens : Tokens) : Parser := ⟨tokens, [.document true], []⟩

/-- The next token. Behind the last one comes the end of the text, or a problem. -/
def peek (p : Parser) : Except Problem Token :=
  match p.tokens.all with
  | token :: _ => .ok token
  | [] => p.tokens.ending.map (⟨.streamEnd, ·⟩)

/-- Behind the next token. -/
def skip (p : Parser) : Parser := { p with tokens := { p.tokens with all := p.tokens.all.tail } }

/-- With more goals in front. -/
def expect (p : Parser) (goals : List Goal) : Parser := { p with goals := goals ++ p.goals }

/-- Give an event. -/
def give (p : Parser) (event : Event) (mark : Mark) : Step := .ok (event, mark, p)

/-- Give a scalar that is not written. -/
def giveEmpty (p : Parser) (mark : Mark) : Step := p.give (.scalar none ⟨"", .plain, none⟩) mark

/-! ## Nodes -/

/-- What stands in front of a node. -/
structure Properties where
  anchor : Option (List Char)
  tag : Option (WrittenTag × Mark)

namespace Properties

/-- Nothing. -/
def none : Properties := ⟨.none, .none⟩

end Properties

/-- Read an anchor and a tag, in any order and each at most once. -/
def readProperties : Nat → Properties → Parser → Except Problem (Properties × Parser)
  | 0, ps, p => .ok (ps, p)
  | more + 1, ps, p =>
    match p.peek with
    | .error e => .error e
    | .ok token =>
      match token.kind with
      | .anchor name =>
        if ps.anchor.isSome then .ok (ps, p)
        else readProperties more { ps with anchor := some name } p.skip
      | .tag content =>
        if ps.tag.isSome then .ok (ps, p)
        else readProperties more { ps with tag := some (content, token.mark) } p.skip
      | _ => .ok (ps, p)

/-- A tag in full, for a node that begins at `start`. -/
def resolveTag (handles : List Handle) (start : Mark) :
    Option (WrittenTag × Mark) → Except Problem (Option (List Char))
  | none => .ok none
  | some (tag, mark) =>
    if tag.handle = [] then .ok (some tag.rest)
    else
      match handles.find? (·.name = tag.handle) with
      | some handle => .ok (some (handle.expansion ++ tag.rest))
      | none => .error (.during .node start .undefinedHandle mark)

/-- The tag that a written scalar has, unless it only says that it has none. -/
def scalarTag (tag : Option (List Char)) : Option String :=
  if tag = some ['!'] then none else tag.map String.ofList

/-- A node that is not a reference, behind its properties. -/
def nodeContent (p : Parser) (isBlock isFlat : Bool) (start : Mark) (anchor : Option (List Char))
    (tag : Option (List Char)) (token : Token) : Step :=
  match token.kind, isBlock, isFlat with
  | .blockEntry, _, true => (p.expect [.flatItem]).give (.sequenceStart anchor) start
  | .scalar style text, _, _ =>
    p.skip.give (.scalar anchor ⟨String.ofList text, style, scalarTag tag⟩) start
  | .flowSequenceStart, _, _ =>
    (p.skip.expect [.flowItem token.mark true]).give (.sequenceStart anchor) start
  | .flowMappingStart, _, _ =>
    (p.skip.expect [.flowKey token.mark true]).give (.mappingStart anchor) start
  | .blockSequenceStart, true, _ =>
    (p.skip.expect [.blockItem token.mark]).give (.sequenceStart anchor) start
  | .blockMappingStart, true, _ =>
    (p.skip.expect [.blockKey token.mark]).give (.mappingStart anchor) start
  | _, _, _ =>
    if anchor.isSome || tag.isSome then
      p.give (.scalar anchor ⟨"", .plain, tag.map String.ofList⟩) start
    else
      .error (.during (if isBlock then .blockNode else .flowNode) start .expectedContent token.mark)

/-- A node. `isBlock` says whether a block may stand here, `isFlat` whether the items of one may
stand here without being indented. -/
def node (p : Parser) (isBlock isFlat : Bool) : Step :=
  match p.peek with
  | .error e => .error e
  | .ok first =>
    match first.kind with
    | .reference name => p.skip.give (.reference name) first.mark
    | _ =>
      match readProperties 2 .none p with
      | .error e => .error e
      | .ok (ps, p) =>
        match p.peek with
        | .error e => .error e
        | .ok token =>
          match resolveTag p.handles first.mark ps.tag with
          | .error e => .error e
          | .ok tag => p.nodeContent isBlock isFlat first.mark ps.anchor tag token

/-- A node, or an empty scalar if a token comes that ends its place. -/
def nodeUnless (ends : TokenKind → Bool) (p : Parser) (isBlock isFlat : Bool) (goals : List Goal)
    (empty : Token → Mark) : Step :=
  match p.peek with
  | .error e => .error e
  | .ok token =>
    if ends token.kind then (p.expect goals).giveEmpty (empty token)
    else (p.expect goals).node isBlock isFlat

/-! ## Documents -/

/-- Whether a token cannot stand inside a document. -/
def endsDocument : TokenKind → Bool
  | .directive _ | .documentStart | .documentEnd | .streamEnd => true
  | _ => false

/-- Past the signs that end documents, in at most so many steps. -/
def skipDocumentEnds : Nat → Parser → Except Problem Parser
  | 0, p => .ok p
  | steps + 1, p =>
    match p.peek with
    | .error e => .error e
    | .ok token => if token.kind = .documentEnd then skipDocumentEnds steps p.skip else .ok p

/-- Read the directives in front of a document, in at most so many steps. -/
def readDirectives : Nat → Bool → Parser → Except Problem Parser
  | 0, _, p => .ok p
  | steps + 1, versioned, p =>
    match p.peek with
    | .error e => .error e
    | .ok token =>
      match token.kind with
      | .directive (.version major minor) =>
        if versioned then .error (.bare .duplicateVersion token.mark)
        else if major ≠ 1 ∨ (minor ≠ 1 ∧ minor ≠ 2) then
          .error (.bare .incompatibleVersion token.mark)
        else readDirectives steps true p.skip
      | .directive (.handle name expansion) =>
        if p.handles.any (·.name == name) then .error (.bare .duplicateHandle token.mark)
        else
          readDirectives steps versioned
            { p.skip with handles := p.handles ++ [⟨name, expansion⟩] }
      | _ => .ok p

/-- A document that begins without a sign. -/
def bareDocument (p : Parser) (mark : Mark) : Step :=
  ({ p with handles := standardHandles }.expect [.node, .documentEnd]).give .documentStart mark

/-- A document that begins with a sign, or the end of the text. -/
def markedDocument (p : Parser) (mark : Mark) : Step :=
  match readDirectives (p.tokens.all.length + 1) false p with
  | .error e => .error e
  | .ok p =>
    match p.peek with
    | .error e => .error e
    | .ok token =>
      if token.kind = .documentStart then
        ({ p.skip with handles := p.handles ++ standardHandles }.expect
          [.documentContent, .documentEnd]).give .documentStart mark
      else .error (.bare .expectedDocumentStart token.mark)

/-- The beginning of a document, or the end of the text. -/
def document (p : Parser) (first : Bool) : Step :=
  match if first then .ok p else skipDocumentEnds (p.tokens.all.length + 1) p with
  | .error e => .error e
  | .ok p =>
    match p.peek with
    | .error e => .error e
    | .ok token =>
      match token.kind with
      | .streamEnd => p.give .streamEnd token.mark
      | .directive _ | .documentStart => p.markedDocument token.mark
      | _ => if first then p.bareDocument token.mark else p.markedDocument token.mark

/-- The end of a document. What its directives defined is forgotten. -/
def documentEnd (p : Parser) : Step :=
  match p.peek with
  | .error e => .error e
  | .ok token =>
    let p := if token.kind = .documentEnd then p.skip else p
    ({ p with handles := [] }.expect [.document false]).give .documentEnd token.mark

/-! ## Blocks -/

/-- Whether a token ends the place of an item of a block. -/
def endsItem : TokenKind → Bool
  | .blockEntry | .blockEnd => true
  | _ => false

/-- Whether a token ends the place of a key or value of a block. -/
def endsEntry : TokenKind → Bool
  | .key _ | .value | .blockEnd => true
  | _ => false

/-- An item of a block, or the block's end. -/
def blockItem (p : Parser) (start : Mark) : Step :=
  match p.peek with
  | .error e => .error e
  | .ok token =>
    match token.kind with
    | .blockEntry => p.skip.nodeUnless endsItem true false [.blockItem start] fun _ => token.behind
    | .blockEnd => p.skip.give .sequenceEnd token.mark
    | _ => .error (.during .blockCollection start .expectedDash token.mark)

/-- An item of a sequence that is not indented, or the sequence's end. -/
def flatItem (p : Parser) : Step :=
  match p.peek with
  | .error e => .error e
  | .ok token =>
    match token.kind with
    | .blockEntry =>
      p.skip.nodeUnless (fun kind => endsItem kind || endsEntry kind) true false [.flatItem]
        fun _ => token.behind
    | _ => p.give .sequenceEnd token.mark

/-- A key of a block, or the block's end. -/
def blockKey (p : Parser) (start : Mark) : Step :=
  match p.peek with
  | .error e => .error e
  | .ok token =>
    match token.kind with
    | .key _ =>
      p.skip.nodeUnless endsEntry true true [.blockValue, .blockKey start] fun _ => token.behind
    | .blockEnd => p.skip.give .mappingEnd token.mark
    | _ => .error (.during .blockMapping start .expectedKey token.mark)

/-- The value of a key of a block, which may be missing. -/
def blockValue (p : Parser) : Step :=
  match p.peek with
  | .error e => .error e
  | .ok token =>
    match token.kind with
    | .value => p.skip.nodeUnless endsEntry true true [] fun _ => token.behind
    | _ => p.giveEmpty token.mark

/-! ## Flow collections -/

/-- Past the comma in front of every part but the first. -/
def skipComma (p : Parser) (first : Bool) (activity : Activity) (start : Mark) (flaw : Flaw) :
    Except Problem Parser :=
  if first then .ok p
  else
    match p.peek with
    | .error e => .error e
    | .ok token =>
      if token.kind = .flowEntry then .ok p.skip
      else .error (.during activity start flaw token.mark)

/-- Whether a token ends the place of a value in a flow sequence. -/
def endsFlowItem : TokenKind → Bool
  | .flowEntry | .flowSequenceEnd => true
  | _ => false

/-- Whether a token ends the place of a value in a flow mapping. -/
def endsFlowValue : TokenKind → Bool
  | .flowEntry | .flowMappingEnd => true
  | _ => false

/-- Whether a token ends the place of a key. -/
def endsFlowKey (ends : TokenKind → Bool) (kind : TokenKind) : Bool :=
  kind = .value || ends kind

/-- The end of a flow collection, if it comes next. -/
def flowEnd? (p : Parser) (kind : TokenKind) (event : Event) : Except Problem (Option Step) :=
  p.peek.map fun token =>
    if token.kind = kind then some (p.skip.give event token.mark) else none

/-- An item of a flow sequence, or the sequence's end. An item that begins like a key is a mapping
of one pair. -/
def flowItem (p : Parser) (start : Mark) (first : Bool) : Step :=
  match p.flowEnd? .flowSequenceEnd .sequenceEnd with
  | .error e => .error e
  | .ok (some step) => step
  | .ok none =>
    match p.skipComma first .flowSequence start .expectedCommaOrBracket with
    | .error e => .error e
    | .ok p =>
      match p.peek with
      | .error e => .error e
      | .ok token =>
        match token.kind with
        | .key _ =>
          (p.skip.expect [.pairKey, .pairValue, .pairEnd, .flowItem start false]).give
            (.mappingStart none) token.mark
        | .flowSequenceEnd => p.skip.give .sequenceEnd token.mark
        | _ => (p.expect [.flowItem start false]).node false false

/-- The key of a single pair. A token that ends its place is passed over. -/
def pairKey (p : Parser) : Step :=
  match p.peek with
  | .error e => .error e
  | .ok token =>
    if endsFlowKey endsFlowItem token.kind then p.skip.giveEmpty token.behind
    else p.node false false

/-- The value of a key in a flow collection, which may be missing. -/
def flowValue (p : Parser) (ends : TokenKind → Bool) : Step :=
  match p.peek with
  | .error e => .error e
  | .ok token =>
    match token.kind with
    | .value => p.skip.nodeUnless ends false false [] Token.mark
    | _ => p.giveEmpty token.mark

/-- A key of a flow mapping, or the mapping's end. -/
def flowKey (p : Parser) (start : Mark) (first : Bool) : Step :=
  match p.flowEnd? .flowMappingEnd .mappingEnd with
  | .error e => .error e
  | .ok (some step) => step
  | .ok none =>
    match p.skipComma first .flowMapping start .expectedCommaOrBrace with
    | .error e => .error e
    | .ok p =>
      match p.peek with
      | .error e => .error e
      | .ok token =>
        match token.kind with
        | .key _ =>
          p.skip.nodeUnless (endsFlowKey endsFlowValue) false false
            [.flowValue, .flowKey start false] Token.mark
        | .flowMappingEnd => p.skip.give .mappingEnd token.mark
        | _ => (p.expect [.noValue, .flowKey start false]).node false false

/-! ## All events -/

/-- Reach the goal on top. -/
def reach (p : Parser) : Goal → Step
  | .document first => p.document first
  | .documentContent => p.nodeUnless endsDocument true false [] Token.mark
  | .documentEnd => p.documentEnd
  | .node => p.node true false
  | .blockItem start => p.blockItem start
  | .flatItem => p.flatItem
  | .blockKey start => p.blockKey start
  | .blockValue => p.blockValue
  | .flowItem start first => p.flowItem start first
  | .pairKey => p.pairKey
  | .pairValue => p.flowValue endsFlowItem
  | .pairEnd =>
    match p.peek with
    | .error e => .error e
    | .ok token => p.give .mappingEnd token.mark
  | .flowKey start first => p.flowKey start first
  | .flowValue => p.flowValue endsFlowValue
  | .noValue =>
    match p.peek with
    | .error e => .error e
    | .ok token => p.giveEmpty token.mark

/-- The events that remain, in at most so many steps. -/
def run : Nat → Parser → Events
  | 0, _ => ⟨[], none⟩
  | steps + 1, p =>
    match p.goals with
    | [] => ⟨[], none⟩
    | goal :: goals =>
      match { p with goals := goals }.reach goal with
      | .error e => ⟨[], some e⟩
      | .ok (event, mark, p) => (run steps p).after event mark

end Parser

/-- The events of a sequence of tokens. No token takes part in more than four. -/
def Tokens.events (ts : Tokens) : Events := (Parser.start ts).run (4 * ts.all.length + 8)

end CanonicalReply.Yaml
