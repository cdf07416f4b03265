import MqAssembler.Yaml.Token

/-! # From tokens to events

Events tell the structure of the one document of a text: scalars, aliases, and the starts and ends
of collections. A scalar and a collection may be anchored to a name and may have a tag.

## Implementation notes

The grammar needs one token of lookahead. What is still expected is kept on a stack of goals, and
each step settles the topmost one. An absent node counts as an empty plain scalar; its place is
behind the indicator that announces it in block context, and that of the next token otherwise. The
place of a node with an anchor or a tag is that of the first of them. -/

namespace MqAssembler.Yaml

/-- A step of the structure of a document. -/
inductive Event where
  | scalar (anchor : Option String) (tag : Option Tag) (style : ScalarStyle) (text : String)
      (place : Position)
  | reference (name : String) (place : Position)
  | sequenceStart (anchor : Option String) (tag : Option Tag) (place : Position)
  | mappingStart (anchor : Option String) (tag : Option Tag) (place : Position)
  /-- The end of the innermost collection. -/
  | collectionEnd
deriving DecidableEq, Repr

/-- What is expected next. -/
inductive Goal where
  /-- A node, in block or flow context; `bare` allows a sequence without
  indentation of its own. -/
  | node (block bare : Bool)
  | blockSequence
  /-- Entries of a sequence without indentation of its own. -/
  | bareEntries
  | blockKey
  | blockValue
  | flowSequence (first : Bool)
  | pairKey
  | pairValue
  | pairEnd
  | flowKey (first : Bool)
  | flowValue
  | flowNoValue
deriving DecidableEq, Repr

/-- The outcome of settling one goal. -/
structure Settled where
  events : List Event
  goals : List Goal
  tokens : List Token

namespace Event

/-- An absent node. -/
def empty (place : Position) : Event := .scalar none none .plain "" place

end Event

namespace Goal

/-- The anchor and the tag in front of a node, in either order, and the tokens behind them. -/
def properties : List Token → Option String × Option Tag.Written × List Token
  | ⟨.anchor name, _, _⟩ :: ⟨.tag written, _, _⟩ :: rest => (some name, some written, rest)
  | ⟨.tag written, _, _⟩ :: ⟨.anchor name, _, _⟩ :: rest => (some name, some written, rest)
  | ⟨.anchor name, _, _⟩ :: rest => (some name, none, rest)
  | ⟨.tag written, _, _⟩ :: rest => (none, some written, rest)
  | tokens => (none, none, tokens)

/-- Settles the goal of a node at `place`, behind its anchor and its tag. The neutral tag counts as
none on a scalar that is there. -/
def settleNode (block bare : Bool) (anchor : Option String) (tag : Option Tag)
    (place : Position) : List Token → Option Settled
  | [] => none
  | t :: rest =>
      match t.kind with
      | .scalar style text =>
          some ⟨[.scalar anchor (tag.filter (· ≠ .neutral)) style text place], [], rest⟩
      | .flowSequence => some ⟨[.sequenceStart anchor tag place], [.flowSequence true], rest⟩
      | .flowMapping => some ⟨[.mappingStart anchor tag place], [.flowKey true], rest⟩
      | kind =>
          if bare && kind == .blockEntry then
            some ⟨[.sequenceStart anchor tag place], [.bareEntries], t :: rest⟩
          else if block && kind == .blockSequence then
            some ⟨[.sequenceStart anchor tag place], [.blockSequence], rest⟩
          else if block && kind == .blockMapping then
            some ⟨[.mappingStart anchor tag place], [.blockKey], rest⟩
          else if anchor.isSome || tag.isSome then
            some ⟨[.scalar anchor tag .plain "" place], [], t :: rest⟩
          else none

/-- Either a node or, if the next token is one of `absent`, an absent node at `place`. -/
def orAbsent (absent : List TokenKind) (node : Goal) (next : Goal) (place : Token → Position) :
    List Token → Option Settled
  | [] => none
  | t :: rest =>
      if t.kind ∈ absent then some ⟨[.empty (place t)], [next], t :: rest⟩
      else some ⟨[], [node, next], t :: rest⟩

/-- Settles a goal by the next tokens. A tag with an unknown handle is refused. -/
def settle (handles : Tag.Handles) (goal : Goal) : List Token → Option Settled
  | [] => none
  | t :: rest =>
      match goal with
      | .node block bare =>
          match t.kind with
          | .reference name => some ⟨[.reference name t.start], [], rest⟩
          | _ => do
              let (anchor, written, tokens) := properties (t :: rest)
              let tag ← written.mapM (·.resolve handles)
              settleNode block bare anchor tag t.start tokens
      | .blockSequence =>
          match t.kind with
          | .blockEntry =>
              orAbsent [.blockEntry, .blockEnd] (.node true false) .blockSequence
                (fun _ => t.stop) rest
          | .blockEnd => some ⟨[.collectionEnd], [], rest⟩
          | _ => none
      | .bareEntries =>
          match t.kind with
          | .blockEntry =>
              orAbsent [.blockEntry, .key, .value, .blockEnd] (.node true false) .bareEntries
                (fun _ => t.stop) rest
          | _ => some ⟨[.collectionEnd], [], t :: rest⟩
      | .blockKey =>
          match t.kind with
          | .key =>
              orAbsent [.key, .value, .blockEnd] (.node true true) .blockValue
                (fun _ => t.stop) rest
          | .blockEnd => some ⟨[.collectionEnd], [], rest⟩
          | _ => none
      | .blockValue =>
          match t.kind with
          | .value =>
              orAbsent [.key, .value, .blockEnd] (.node true true) .blockKey (fun _ => t.stop) rest
          | _ => some ⟨[.empty t.start], [.blockKey], t :: rest⟩
      | .flowSequence first =>
          match t.kind with
          | .flowSequenceEnd => some ⟨[.collectionEnd], [], rest⟩
          | .flowEntry => if first then flowItem (t :: rest) else flowItem rest
          | _ => if first then flowItem (t :: rest) else none
      | .pairKey =>
          match t.kind with
          | .value | .flowEntry | .flowSequenceEnd => some ⟨[.empty t.stop], [.pairValue], rest⟩
          | _ => some ⟨[], [.node false false, .pairValue], t :: rest⟩
      | .pairValue =>
          match t.kind with
          | .value =>
              orAbsent [.flowEntry, .flowSequenceEnd] (.node false false) .pairEnd Token.start rest
          | _ => some ⟨[.empty t.start], [.pairEnd], t :: rest⟩
      | .pairEnd => some ⟨[.collectionEnd], [.flowSequence false], t :: rest⟩
      | .flowKey first =>
          match t.kind with
          | .flowMappingEnd => some ⟨[.collectionEnd], [], rest⟩
          | .flowEntry => if first then flowPair (t :: rest) else flowPair rest
          | _ => if first then flowPair (t :: rest) else none
      | .flowValue =>
          match t.kind with
          | .value =>
              orAbsent [.flowEntry, .flowMappingEnd] (.node false false) (.flowKey false)
                Token.start rest
          | _ => some ⟨[.empty t.start], [.flowKey false], t :: rest⟩
      | .flowNoValue => some ⟨[.empty t.start], [.flowKey false], t :: rest⟩
where
  /-- An entry of a flow sequence, or its end behind a comma. -/
  flowItem : List Token → Option Settled
    | [] => none
    | t :: rest =>
        match t.kind with
        | .key => some ⟨[.mappingStart none none t.start], [.pairKey], rest⟩
        | .flowSequenceEnd => some ⟨[.collectionEnd], [], rest⟩
        | _ => some ⟨[], [.node false false, .flowSequence false], t :: rest⟩
  /-- An entry of a flow mapping, or its end behind a comma. -/
  flowPair : List Token → Option Settled
    | [] => none
    | t :: rest =>
        match t.kind with
        | .key =>
            orAbsent [.value, .flowEntry, .flowMappingEnd] (.node false false) .flowValue
              Token.start rest
        | .flowMappingEnd => some ⟨[.collectionEnd], [], rest⟩
        | _ => some ⟨[], [.node false false, .flowNoValue], t :: rest⟩

/-- Settles all goals. `events` holds the events so far, latest first. A token gives rise to at
most a few goals, so that `fuel` need only exceed their number by a constant factor. -/
def settleAll (handles : Tag.Handles) :
    Nat → List Goal → List Event → List Token → Option (List Event × List Token)
  | _, [], events, tokens => some (events.reverse, tokens)
  | 0, _ :: _, _, _ => none
  | fuel + 1, goal :: goals, events, tokens => do
      let s ← goal.settle handles tokens
      settleAll handles fuel (s.goals ++ goals) (s.events.reverse ++ events) s.tokens

end Goal

namespace Event

/-- Reads the directives in front of a document, which tell what the handles of tags stand for:
at most one version, and only a known one, and at most one directive for each handle. -/
def directives (versioned : Bool) (handles : Tag.Handles) :
    List Token → Option (Tag.Handles × List Token)
  | ⟨.version major minor, _, _⟩ :: rest =>
      if versioned then none
      else if major = 1 ∧ (minor = 1 ∨ minor = 2) then directives true handles rest
      else none
  | ⟨.tagDirective handle beginning, _, _⟩ :: rest =>
      if (handles.lookup handle).isSome then none
      else directives versioned ((handle, beginning) :: handles) rest
  | tokens => some (handles ++ Tag.defaultHandles, tokens)

/-- Drops the document end markers in front of some tokens. -/
def skipEnds (tokens : List Token) : List Token :=
  tokens.dropWhile fun t => t.kind == .documentEnd

/-- Whether nothing follows a document but end markers. -/
def isLast (tokens : List Token) : Bool :=
  match skipEnds tokens with
  | [t] => t.kind == .streamEnd
  | _ => false

/-- The events of the root node in front of some tokens, which must end the text. -/
def rootEvents (handles : Tag.Handles) (tokens : List Token) : Option (List Event) := do
  let (events, rest) ← Goal.settleAll handles (4 * tokens.length + 4) [.node true false] [] tokens
  if isLast rest then some events else none

/-- The events of a text with at most one document. A text without one has no events. -/
def ofTokens (tokens : List Token) : Option (List Event) :=
  match tokens with
  | [] => none
  | t :: _ =>
      match t.kind with
      | .streamEnd => some []
      | .version _ _ | .tagDirective _ _ | .documentStart => do
          match ← directives false [] tokens with
          | (handles, d :: rest) =>
              if d.kind == .documentStart then explicitRoot handles rest else none
          | (_, []) => none
      | _ => rootEvents Tag.defaultHandles tokens
where
  /-- The root node behind a document start marker, which may be absent. -/
  explicitRoot (handles : Tag.Handles) : List Token → Option (List Event)
    | [] => none
    | t :: rest =>
        match t.kind with
        | .version _ _ | .tagDirective _ _ | .documentStart | .documentEnd | .streamEnd =>
            if isLast (t :: rest) then some [.empty t.start] else none
        | _ => rootEvents handles (t :: rest)

end Event

end MqAssembler.Yaml
