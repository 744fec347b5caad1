import DesiredState.Data.Value
import DesiredState.Yaml.Date
import DesiredState.Yaml.Node
import DesiredState.Yaml.Number

/-!
# What YAML means

Nodes as data. A scalar between quotes or in a block is a text. A plain one is null, a truth
value, a number or a date if it is written like one, and else a text. In a mapping the last of
several equal keys gives the value and the first its place; the entries of a mapping under the
plain key `<<` come before the others. Of several things that are wrong, what is less deep inside
is met first.

* `Data.ofYaml`: the data of a text.
* `Yaml.Fault.message`: what is wrong with a text.
-/

namespace DesiredState

namespace Yaml

/-- The texts are a word in lower case, capitalised, and in upper case. -/
def isAnyCase (word : String) (t : Text) : Bool :=
  let lower := Text.ofString word
  t = lower || t = Text.asciiUpper lower ||
    t = Text.asciiUpper (lower.take 1) ++ lower.drop 1

/-- The words for yes. -/
def isTrue (t : Text) : Bool := ["yes", "true", "on"].any (isAnyCase · t)

/-- The words for no. -/
def isFalse (t : Text) : Bool := ["no", "false", "off"].any (isAnyCase · t)

/-- Nothing, and the words for it. -/
def isNull (t : Text) : Bool := t.isEmpty || t = "~" || isAnyCase "null" t

/-- What a plain scalar means. -/
def ofPlain (t : Text) : Except Fault Data :=
  if isNull t then .ok .null
  else if isTrue t then .ok (.bool true)
  else if isFalse t then .ok (.bool false)
  else
    match real? t, whole? t with
    | some x, _ => x.map .float
    | none, some n => n.map .int
    | none, none =>
      match Date.ofText? t with
      | some date =>
        match date.fault? with
        | some reason => .error (.noDate reason)
        | none => .ok (.date t)
      | none =>
        if t = "=" || t = "<<" then .error (.malformed "no value") else .ok (.str t)

/-- The node is the plain key under which entries are merged. -/
def isMergeKey : Node → Bool
  | .scalar t true => t = "<<"
  | _ => false

/-- The node is the plain key for a default value, which is a text. -/
def isDefaultKey : Node → Bool
  | .scalar t true => t = "="
  | _ => false

mutual

/-- The entries of a mapping: those that are merged into it, and its own. -/
def parted : List (Node × Node) → Except Fault (List (Node × Node) × List (Node × Node))
  | [] => .ok ([], [])
  | (key, value) :: entries => do
    let (before, own) ← parted entries
    if isMergeKey key then return ((← merged value) ++ before, own)
    else return (before, (key, value) :: own)

/-- The entries that a node adds to a mapping. -/
def merged : Node → Except Fault (List (Node × Node))
  | .mapping entries => (parted entries).map fun (before, own) => before ++ own
  | .sequence nodes => mergedItems nodes
  | _ => .error (.malformed "expected a mapping or a list of mappings for merging")

/-- The entries that several nodes add to a mapping; those of the last come first. -/
def mergedItems : List Node → Except Fault (List (Node × Node))
  | [] => .ok []
  | .mapping entries :: nodes => do
    let (before, own) ← parted entries
    return (← mergedItems nodes) ++ before ++ own
  | _ => .error (.malformed "expected a mapping for merging")

end

/-- The key of an entry. Lists and dictionaries are not keys. -/
def keyOf : Data → Except Fault Key
  | .scalar s => .ok (.scalar s)
  | .date written => .ok (.date written)
  | _ => .error (.malformed "found a key that is a collection")

mutual

/-- What a node means. -/
def ofNode : (fuel : Nat) → Node → Except Fault Data
  | 0, _ => .error (.malformed "nodes are nested too deep")
  | _ + 1, .scalar t isPlain => if isPlain then ofPlain t else .ok (.str t)
  | fuel + 1, .sequence nodes => (ofNodes fuel nodes).map .list
  | fuel + 1, .mapping entries => do
    let (before, own) ← parted entries
    return .dict (← ofEntries fuel [] (before ++ own))

/-- What each node means. -/
def ofNodes : (fuel : Nat) → List Node → Except Fault (List Data)
  | 0, _ => .error (.malformed "nodes are nested too deep")
  | _ + 1, [] => .ok []
  | fuel + 1, node :: nodes => do
    let item ← ofNode fuel node
    return item :: (← ofNodes fuel nodes)

/-- The entries `es` with more entries set. -/
def ofEntries : (fuel : Nat) → (es : List (Key × Data)) → List (Node × Node) →
    Except Fault (List (Key × Data))
  | 0, _, _ => .error (.malformed "nodes are nested too deep")
  | _ + 1, es, [] => .ok es
  | fuel + 1, es, (key, value) :: entries => do
    let key ← if isDefaultKey key then pure (.str "=") else do keyOf (← ofNode fuel key)
    let value ← ofNode fuel value
    ofEntries fuel (Data.set key value es) entries

end

/-- What is wrong with a scalar. -/
def scalarFault? : Node → Option Fault
  | .scalar t true =>
    match ofPlain t with
    | .ok _ => none
    | .error f => some f
  | _ => none

/-- What is wrong with a key. -/
def keyFault? (key : Node) : Option Fault :=
  if isDefaultKey key then none
  else
    match key with
    | .scalar .. => scalarFault? key
    | _ => some (.malformed "found a key that is a collection")

/-- What is wrong with the keys and values of entries, each key before its value. -/
def entriesFault? (entries : List (Node × Node)) : Option Fault :=
  entries.findSome? fun (key, value) => (keyFault? key).or (scalarFault? value)

/-- The collections of some nodes. -/
def collections (nodes : List Node) : List Node :=
  nodes.filter fun node =>
    match node with
    | .scalar .. => false
    | _ => true

/-- What is wrong first with nodes that wait. Those inside a collection wait behind all others. -/
def firstFault? : (fuel : Nat) → (waiting : List Node) → Option Fault
  | 0, _ | _, [] => none
  | fuel + 1, .scalar t isPlain :: waiting =>
    (scalarFault? (.scalar t isPlain)).or (firstFault? fuel waiting)
  | fuel + 1, .sequence nodes :: waiting =>
    (nodes.findSome? scalarFault?).or (firstFault? fuel (waiting ++ collections nodes))
  | fuel + 1, .mapping entries :: waiting =>
    match parted entries with
    | .error f => some f
    | .ok (before, own) =>
      let entries := before ++ own
      (entriesFault? entries).or
        (firstFault? fuel (waiting ++ collections (entries.map Prod.snd)))

/-- The data of a node. -/
def read (fuel : Nat) (node : Node) : Except Fault Data :=
  match ofNode fuel node with
  | .ok data => .ok data
  | .error f => .error ((firstFault? fuel [node]).getD f)

/-- What is wrong with a text. -/
def Fault.message : Fault → Text
  | .malformed reason => ("malformed YAML: " : Text) ++ reason
  | .excess digits => Numeral.excessMessage digits
  | .noDigits base =>
    ("invalid literal for int() with base " : Text) ++ Text.decimal base ++ ": ''"
  | .notPoint value =>
    if (Fault.notPoint value).isOverflow then "Python int too large to convert to C int"
    else "chr() arg not in range(0x110000)"
  | .noDate reason => reason
  | .tooLarge => "int too large to convert to float"
  | .tooDeep => "maximum recursion depth exceeded"

end Yaml

/-- The data of a text; a text without a document is null. -/
def Data.ofYaml (t : Text) : Except Yaml.Fault Data := do
  let ts ← Yaml.tokens t
  match ← Yaml.Node.ofTokens ts with
  | none => return .null
  | some node => Yaml.read (8 * t.length + 8) node

end DesiredState
