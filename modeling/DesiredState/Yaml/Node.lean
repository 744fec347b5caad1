import DesiredState.Yaml.Token

/-!
# YAML nodes

The tokens as a tree. What is missing (a key, a value, an item) is a plain scalar without text. A
text holds at most one document. A reader has room for so many open collections only.

* `Node.enter`: the room inside one more collection.
* `Node.ofTokens`: the document of a list of tokens, if there is one.
-/

namespace DesiredState.Yaml

/-- A scalar, a sequence or a mapping. -/
inductive Node
  | scalar (text : Text) (isPlain : Bool)
  | sequence (items : List Node)
  | mapping (entries : List (Node × Node))

namespace Node

/-- What stands for something missing. -/
def empty : Node := .scalar [] true

/-- Where a node stands. A sequence that is the value of a key need not be further right. -/
inductive Position
  | flow
  | block
  | blockValue
  deriving DecidableEq

/-- The most collections that may be open while a text is read. -/
def maxOpen : Nat := 490

/-- What is read inside one more collection, if there is room for it. -/
def enter {α : Type} (room : Nat) (read : Nat → Except Fault α) : Except Fault α :=
  match room with
  | 0 => .error .tooDeep
  | room + 1 => read room

/-- A node that may be missing. -/
def orEmpty (isMissing : Bool) (read : List Token → Except Fault (Node × List Token))
    (ts : List Token) : Except Fault (Node × List Token) :=
  if isMissing then .ok (empty, ts) else read ts

/-- The next token satisfies a test. -/
def nextIs (p : Token → Bool) : List Token → Bool
  | [] => false
  | t :: _ => p t

/-- The token ends the key or value of a block mapping. -/
def endsBlockPart (t : Token) : Bool := t = .key || t = .value || t = .blockEnd

/-- The token ends an item of a flow collection. -/
def endsFlowItem (t : Token) : Bool :=
  t = .flowEntry || t = .flowSequenceEnd || t = .flowMappingEnd

mutual

/-- The node at the beginning of the tokens. -/
def read : (fuel room : Nat) → Position → List Token → Except Fault (Node × List Token)
  | 0, _, _, _ => .error (.malformed "nodes are nested too deep")
  | fuel + 1, room, position, ts =>
    match ts with
    | .scalar text isPlain :: ts => .ok (.scalar text isPlain, ts)
    | .flowSequenceStart :: ts => enter room fun room => do
      let (items, ts) ← flowItems fuel room true ts
      return (.sequence items, ts)
    | .flowMappingStart :: ts => enter room fun room => do
      let (entries, ts) ← flowEntries fuel room true ts
      return (.mapping entries, ts)
    | .blockSequenceStart :: ts =>
      if position = .flow then .error (.malformed "expected a node")
      else enter room fun room => do
        let (items, ts) ← blockItems fuel room ts
        match ts with
        | .blockEnd :: ts => return (.sequence items, ts)
        | _ => throw (.malformed "expected the end of a block sequence")
    | .blockMappingStart :: ts =>
      if position = .flow then .error (.malformed "expected a node")
      else enter room fun room => do
        let (entries, ts) ← blockEntries fuel room ts
        return (.mapping entries, ts)
    | .blockEntry :: ts =>
      if position = .blockValue then enter room fun room => do
        let (items, ts) ← valueItems fuel room (.blockEntry :: ts)
        return (.sequence items, ts)
      else .error (.malformed "expected a node")
    | _ => .error (.malformed "expected a node")

/-- The items of a block sequence. -/
def blockItems : (fuel room : Nat) → List Token → Except Fault (List Node × List Token)
  | 0, _, _ => .error (.malformed "nodes are nested too deep")
  | fuel + 1, room, ts =>
    match ts with
    | .blockEntry :: ts => do
      let missing := nextIs (fun t => t = .blockEntry || t = .blockEnd) ts
      let (item, ts) ← orEmpty missing (read fuel room .block) ts
      let (items, ts) ← blockItems fuel room ts
      return (item :: items, ts)
    | ts => .ok ([], ts)

/-- The items of a block sequence that is the value of a key. -/
def valueItems : (fuel room : Nat) → List Token → Except Fault (List Node × List Token)
  | 0, _, _ => .error (.malformed "nodes are nested too deep")
  | fuel + 1, room, ts =>
    match ts with
    | .blockEntry :: ts => do
      let missing := nextIs (fun t => t = .blockEntry || endsBlockPart t) ts
      let (item, ts) ← orEmpty missing (read fuel room .block) ts
      let (items, ts) ← valueItems fuel room ts
      return (item :: items, ts)
    | ts => .ok ([], ts)

/-- The entries of a block mapping, up to its end. -/
def blockEntries : (fuel room : Nat) → List Token → Except Fault (List (Node × Node) × List Token)
  | 0, _, _ => .error (.malformed "nodes are nested too deep")
  | fuel + 1, room, ts =>
    match ts with
    | .key :: ts => do
      let (key, ts) ← orEmpty (nextIs endsBlockPart ts) (read fuel room .blockValue) ts
      let (value, ts) ← match ts with
        | .value :: ts => orEmpty (nextIs endsBlockPart ts) (read fuel room .blockValue) ts
        | ts => pure (empty, ts)
      let (entries, ts) ← blockEntries fuel room ts
      return ((key, value) :: entries, ts)
    | .blockEnd :: ts => .ok ([], ts)
    | _ => .error (.malformed "expected the end of a block mapping")

/-- The items of a flow sequence, up to its end. A key in front of an item makes it a mapping of
one entry. -/
def flowItems : (fuel room : Nat) → (isFirst : Bool) → List Token →
    Except Fault (List Node × List Token)
  | 0, _, _, _ => .error (.malformed "nodes are nested too deep")
  | fuel + 1, room, isFirst, ts =>
    match ts with
    | .flowSequenceEnd :: ts => .ok ([], ts)
    | ts => do
      let ts ← if isFirst then pure ts
        else match ts with
          | .flowEntry :: ts => pure ts
          | _ => throw (.malformed "expected ',' or ']'")
      match ts with
      | .flowSequenceEnd :: ts => return ([], ts)
      | .key :: ts =>
        let (entry, ts) ← enter room fun room => do
          let missing := nextIs (fun t => t = .value || t = .flowEntry || t = .flowSequenceEnd) ts
          let (key, ts) ← orEmpty missing (read fuel room .flow) ts
          let (value, ts) ← match ts with
            | .value :: ts =>
              let missing := nextIs (fun t => t = .flowEntry || t = .flowSequenceEnd) ts
              orEmpty missing (read fuel room .flow) ts
            | ts => pure (empty, ts)
          return ((key, value), ts)
        let (items, ts) ← flowItems fuel room false ts
        return (.mapping [entry] :: items, ts)
      | ts =>
        let (item, ts) ← read fuel room .flow ts
        let (items, ts) ← flowItems fuel room false ts
        return (item :: items, ts)

/-- The entries of a flow mapping, up to its end. -/
def flowEntries : (fuel room : Nat) → (isFirst : Bool) → List Token →
    Except Fault (List (Node × Node) × List Token)
  | 0, _, _, _ => .error (.malformed "nodes are nested too deep")
  | fuel + 1, room, isFirst, ts =>
    match ts with
    | .flowMappingEnd :: ts => .ok ([], ts)
    | ts => do
      let ts ← if isFirst then pure ts
        else match ts with
          | .flowEntry :: ts => pure ts
          | _ => throw (.malformed "expected ',' or a closing brace")
      match ts with
      | .flowMappingEnd :: ts => return ([], ts)
      | .key :: ts =>
        let missing := nextIs (fun t => t = .value || t = .flowEntry || t = .flowMappingEnd) ts
        let (key, ts) ← orEmpty missing (read fuel room .flow) ts
        let (value, ts) ← match ts with
          | .value :: ts =>
            let missing := nextIs (fun t => t = .flowEntry || t = .flowMappingEnd) ts
            orEmpty missing (read fuel room .flow) ts
          | ts => pure (empty, ts)
        let (entries, ts) ← flowEntries fuel room false ts
        return ((key, value) :: entries, ts)
      | ts =>
        let (key, ts) ← read fuel room .flow ts
        let (entries, ts) ← flowEntries fuel room false ts
        return ((key, empty) :: entries, ts)

end

/-- The tokens behind the marks for the end of a document. -/
def skipEnds (ts : List Token) : List Token := ts.dropWhile (· = .documentEnd)

/-- The document of a list of tokens, if there is one. -/
def ofTokens (ts : List Token) : Except Fault (Option Node) := do
  let fuel := 4 * ts.length + 4
  let content : List Token → Except Fault (Node × List Token) := fun ts =>
    orEmpty (ts.isEmpty || nextIs (fun t => t = .documentStart || t = .documentEnd) ts)
      (read fuel maxOpen .block) ts
  match ts with
  | [] => return none
  | .documentStart :: ts =>
    let (node, ts) ← content ts
    if (skipEnds ts).isEmpty then return some node
    else throw (.malformed "expected a single document")
  | ts =>
    let (node, ts) ← read fuel maxOpen .block ts
    if (skipEnds ts).isEmpty then return some node
    else throw (.malformed "expected a single document")

end Node

end DesiredState.Yaml
