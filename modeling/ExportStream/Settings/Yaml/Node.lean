import ExportStream.Settings.Yaml.Scalar
import ExportStream.Settings.Yaml.Token
/-!
# Nodes of YAML texts

The tree that the tokens of a text describe. A node can get a name, and is then repeated wherever
that name is met; the name stands for the last node that got it.

`Node.ofTokens?` answers the only node of a text, and `Node.value?` the value of a setting that a
node describes.
-/

namespace ExportStream.Settings.Yaml

/-- A node of a text. -/
inductive Node where
  /-- A text that is not what its tag says, or a node that is repeated within itself. -/
  | unfit
  /-- What a text stands for. -/
  | scalar (s : Scalar)
  /-- A sequence of nodes. -/
  | list (items : List Node)
  /-- Nodes under keys. -/
  | table (entries : List (Node × Node))

namespace Node

/-- A node where nothing is written. -/
def absent : Node := .scalar .absent

/-- Are the nodes keys that stand for the same? -/
def isSameKey : Node → Node → Bool
  | .scalar s, .scalar t => s = t
  | _, _ => false

/-- Puts nodes into pairs of a key and what is under it, behind those that are known; of a pair that
is begun the key is given. What is unfit is no key, and is passed over. No key may come twice. -/
def pairUp (known : List (Node × Node)) (begun : Option Node) : List Node →
    Option (List (Node × Node))
  | [] => some known
  | n :: ns =>
    match begun with
    | none => pairUp known (if n matches .unfit then none else some n) ns
    | some k =>
      if known.any fun e => isSameKey e.1 k then none else pairUp (known ++ [(k, n)]) none ns

/-- The table with nodes that are keys and values by turns. -/
def ofPairs? (ns : List Node) : Option Node := (pairUp [] none ns).map .table

mutual

/-- The value of a setting that a node describes. -/
def value? : Node → Option Value
  | .unfit => some .nothing
  | .scalar s => s.value?
  | .list items => (values? items).map .list
  | .table entries => (fields? [] entries).map .table

/-- The values that nodes describe. -/
def values? : List Node → Option (List Value)
  | [] => some []
  | n :: ns => do return (← n.value?) :: (← values? ns)

/-- The named values that pairs describe, upon those that are known. -/
def fields? (known : List (String × Value)) : List (Node × Node) →
    Option (List (String × Value))
  | [] => some known
  | (.scalar k, n) :: rest => do fields? (Value.setField (← k.name?) (← n.value?) known) rest
  | _ :: _ => none

end

/-! ### The state of reading -/

/-- A row of tokens that is being read. -/
structure Reading where
  /-- The tokens that are left. -/
  tokens : List Token
  /-- What handles of tags stand for. -/
  handles : List (String × String) := []
  /-- Which of the named nodes a name stands for. -/
  names : List (String × Nat) := []
  /-- The named nodes that are read. -/
  nodes : List (Nat × Node) := []

/-- A step of reading. -/
abbrev Step := StateT Reading Option

namespace Step

/-- The next token. -/
def front : Step (Option Token) := do return (← get).tokens.head?

/-- Passes the next token. -/
def pass : Step Unit := modify fun r => { r with tokens := r.tokens.drop 1 }

/-- Gives a name to the node that comes next. -/
def register (name : String) : Step Nat := do
  let r ← get
  let place := r.names.length
  set { r with names := (name, place) :: r.names }
  return place

/-- A named node is read. -/
def keep (place : Option Nat) (n : Node) : Step Node := do
  if let some place := place then modify fun r => { r with nodes := (place, n) :: r.nodes }
  return n

/-- The node that has a name. -/
def lookUp (name : String) : Step Node := do
  let r ← get
  match r.names.lookup name with
  | some place => return (r.nodes.lookup place).getD .unfit
  | none => failure

/-- A tag with what its handle stands for. -/
def resolve (t : Tag) : Step Tag := do
  match (← get).handles.lookup t.handle with
  | some beginning => return { t with handle := beginning }
  | none =>
    if t.handle = "!!" then return { t with handle := Scalar.coreHandle }
    else if isClosedHandle t.handle.toList then failure
    else return t

/-- The tag that comes next, if one does. -/
def takeTag : Step (Option Tag) := do
  match ← front with
  | some (.tag t) =>
    pass
    return some (← resolve t)
  | _ => return none

/-- The name that the next node gets, if it gets one. -/
def takeName : Step (Option Nat) := do
  match ← front with
  | some (.anchor name) =>
    pass
    return some (← register name)
  | _ => return none

/-- The name and the tag of the next node, in either order. -/
def takeProperties : Step (Option Nat × Option Tag) := do
  match ← takeName with
  | some place => return (some place, ← takeTag)
  | none =>
    match ← takeTag with
    | some t => return (← takeName, some t)
    | none => return (none, none)

end Step

/-! ### Nodes -/

/-- A text, which may have a tag. -/
def ofText (tag : Option Tag) (plain : Bool) (s : String) : Node :=
  (Scalar.ofText? tag plain s).elim .unfit .scalar

/-- Is nothing written in front of a token of a table that indentation shows? -/
def closesPart : Option Token → Bool
  | some .key | some .value | some .blockEnd => true
  | _ => false

/-- Is nothing written in front of a token of a list that indentation shows? -/
def closesItem : Option Token → Bool
  | some .item | some .blockEnd => true
  | _ => false

/-- Is nothing written in front of a token within brackets of either kind? -/
def closesEntry : Option Token → Bool
  | some .value | some .comma | some .bracketClose | some .braceClose => true
  | _ => false

mutual

/-- A node. Marks of indentation begin one where `block` says so, and items of a list without an
indentation of its own where `loose` does. The fuel bounds its parts. -/
def read : (fuel : Nat) → (block loose : Bool) → Step Node
  | 0, _, _ => failure
  | fuel + 1, block, loose => do
    if let some (.alias name) ← Step.front then
      Step.pass
      Step.lookUp name
    else
      let (place, tag) ← Step.takeProperties
      match ← Step.front, block, loose with
      | some (.text plain s), _, _ =>
        Step.pass
        Step.keep place (ofText tag plain s)
      | some .bracketOpen, _, _ =>
        Step.pass
        Step.keep place (.list (← readItems fuel true))
      | some .braceOpen, _, _ =>
        Step.pass
        readTable place (← readEntries fuel true)
      | some .listStart, true, _ =>
        Step.pass
        Step.keep place (.list (← readBlockItems fuel true))
      | some .tableStart, true, _ =>
        Step.pass
        readTable place (← readBlockEntries fuel)
      | some .item, _, true => Step.keep place (.list (← readBlockItems fuel false))
      | _, _, _ =>
        if place.isNone && tag.isNone then failure else Step.keep place (ofText tag true "")
where
  /-- A table, which may have a name. -/
  readTable (place : Option Nat) (ns : List Node) : Step Node :=
    match ofPairs? ns with
    | some n => Step.keep place n
    | none => failure

/-- The items of a list that indentation shows, up to the mark of its end if it has one. -/
def readBlockItems : (fuel : Nat) → (closed : Bool) → Step (List Node)
  | 0, _ => failure
  | fuel + 1, closed => do
    match ← Step.front with
    | some .item =>
      Step.pass
      let next ← Step.front
      let empty := closesItem next || (!closed && closesPart next)
      let n ← if empty then pure absent else read fuel true false
      return n :: (← readBlockItems fuel closed)
    | some .blockEnd =>
      if closed then Step.pass
      return []
    | _ => if closed then failure else return []

/-- The keys and values of a table that indentation shows, and the mark of its end. -/
def readBlockEntries : (fuel : Nat) → Step (List Node)
  | 0 => failure
  | fuel + 1 => do
    match ← Step.front with
    | some .blockEnd =>
      Step.pass
      return []
    | some .key =>
      Step.pass
      let k ← if closesPart (← Step.front) then pure absent else read fuel true true
      readBlockValue fuel k
    | some .value => readBlockValue fuel absent
    | _ => failure

/-- The value of a key in a table that indentation shows, and the entries behind it. -/
def readBlockValue : (fuel : Nat) → Node → Step (List Node)
  | 0, _ => failure
  | fuel + 1, k => do
    let v ←
      if let some .value ← Step.front then
        Step.pass
        if closesPart (← Step.front) then pure absent else read fuel true true
      else pure absent
    return k :: v :: (← readBlockEntries fuel)

/-- The value of a key in brackets. -/
def readValue : (fuel : Nat) → Step Node
  | 0 => failure
  | fuel + 1 => do
    if let some .value ← Step.front then
      Step.pass
      match ← Step.front with
      | some .comma | some .bracketClose | some .braceClose => return absent
      | _ => read fuel false false
    else return absent

/-- The items of a list in brackets, and the closing one; a comma stands before all of them but the
first, and may stand behind the last. -/
def readItems : (fuel : Nat) → (first : Bool) → Step (List Node)
  | 0, _ => failure
  | fuel + 1, first => do
    if let some .bracketClose ← Step.front then
      Step.pass
      return []
    else
      if !first then
        if let some .comma ← Step.front then Step.pass else failure
      match ← Step.front with
      | some .bracketClose =>
        Step.pass
        return []
      | some .key =>
        Step.pass
        let k ← read fuel false false
        let v ← readValue fuel
        match ofPairs? [k, v] with
        | some n => return n :: (← readItems fuel false)
        | none => failure
      | _ =>
        let n ← read fuel false false
        return n :: (← readItems fuel false)

/-- The keys and values of a table in braces, and the closing one. A key may stand alone. -/
def readEntries : (fuel : Nat) → (first : Bool) → Step (List Node)
  | 0, _ => failure
  | fuel + 1, first => do
    if let some .braceClose ← Step.front then
      Step.pass
      return []
    else
      if !first then
        if let some .comma ← Step.front then Step.pass else failure
      match ← Step.front with
      | some .braceClose =>
        Step.pass
        return []
      | some .key =>
        Step.pass
        let k ← if closesEntry (← Step.front) then pure absent else read fuel false false
        let v ← readValue fuel
        return k :: v :: (← readEntries fuel false)
      | some .value =>
        let v ← readValue fuel
        return absent :: v :: (← readEntries fuel false)
      | _ =>
        let k ← read fuel false false
        return k :: absent :: (← readEntries fuel false)

end

/-! ### Documents -/

/-- What the directives at the front say, the last one alone counting for the handles of tags. The
version may be given once. -/
def readDirectives (versionMet : Bool) : List Token → Step Unit
  | .directive d :: ts => do
    let isVersion := d matches .version
    if versionMet && isVersion then failure
    let handles := match d with
      | .handle name beginning => [(name, beginning)]
      | _ => []
    modify fun r => { r with tokens := ts, handles }
    readDirectives (versionMet || isVersion) ts
  | _ => return ()

/-- Is nothing written in front of a token of a document? -/
def closesDocument : Option Token → Bool
  | none | some (.directive _) | some .documentStart | some .documentEnd => true
  | _ => false

/-- The node of a document. One with a mark may be empty, and has to be marked if directives stand
before it. -/
def readDocument (fuel : Nat) : Step Node := do
  if closesDocument (← Step.front) then
    readDirectives false (← get).tokens
    match ← Step.front with
    | some .documentStart =>
      Step.pass
      if closesDocument (← Step.front) then return absent else read fuel true false
    | _ => failure
  else read fuel true false

/-- The tokens without the marks at their front that a document is at its end. -/
def dropEnds (ts : List Token) : List Token :=
  ts.dropWhile fun t => t matches .documentEnd

/-- The node that tokens describe, which is an empty table if there are none. A text with more than
one document describes none. -/
def ofTokens? (ts : List Token) : Option Node :=
  match dropEnds ts with
  | [] => some (.table [])
  | ts => do
    let (n, r) ← (readDocument (2 * ts.length + 2)).run { tokens := ts }
    if (dropEnds r.tokens).isEmpty then some n else none

end Node

end ExportStream.Settings.Yaml
