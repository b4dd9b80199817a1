import Stencil.Yaml.Tag
import Stencil.Yaml.Token

/-!
# YAML nodes

* **Nodes** (`Node`): scalars, sequences and mappings, each with its tag. Nodes are known by their numbers: what holds a
  node holds its number, and an alias is the number of the node that it names.
* **Reading** (`Nodes.ofTokens`): the one document of a list of tokens; none when there is no document. A collection has
  its name before its parts are read, so a part may be an alias of the whole.
-/

namespace Stencil.Yaml

/-- What a node holds. -/
inductive Content where
  | scalar (text : Text)
  | sequence (items : List Nat)
  | mapping (entries : List (Nat × Nat))

/-- A node of a document. -/
structure Node where
  tag : Tag
  content : Content

/-- The nodes of a document, by their numbers. -/
abbrev Nodes := Array Node

/-- A reading of nodes on its way. -/
structure Reading where
  /-- The tokens left, and the fault after them. -/
  stream : TokenStream
  /-- The named nodes. -/
  anchors : List (Text × Nat)
  /-- What the handles of tags stand for. -/
  handles : List (Text × Text)
  nodes : Nodes

/-- The mark of a tag. -/
def tagMark : Text := ['!']

/-- The handles that every document has. -/
def standardHandles : List (Text × Text) := [(tagMark, tagMark), (tagMark ++ tagMark, Tag.standardStart)]

/-- A step of a reading. -/
abbrev Read := StateT Reading (Except Fault)

namespace Read

/-- A reading that finds no document. -/
def fail {α : Type} : Read α := throw .malformed

/-! ## Tokens -/

/-- The next token; none at the end. -/
def peek : Read (Option Token) := do
  match (← get).stream with
  | ⟨t :: _, _⟩ => return some t
  | ⟨[], some fault⟩ => throw fault
  | ⟨[], none⟩ => return none

/-- Passes over the next token. -/
def skip : Read Unit := modify fun r => { r with stream := { r.stream with tokens := r.stream.tokens.drop 1 } }

/-- Passes over the next token if it is a given one. -/
def skipIf (t : Token) : Read Bool := do
  if (← peek) = some t then
    skip
    return true
  else return false

/-- Whether the next token is one of some. -/
def atAny (ts : List Token) : Read Bool := do
  match ← peek with
  | some t => return ts.contains t
  | none => return false

/-! ## Nodes -/

/-- Adds a node, and gives its number. -/
def add (n : Node) : Read Nat := do
  let r ← get
  set { r with nodes := r.nodes.push n }
  return r.nodes.size

/-- Binds a name to a node. -/
def bind (anchor : Option Text) (id : Nat) : Read Unit := do
  match anchor with
  | some name => modify fun r => { r with anchors := (name, id) :: r.anchors }
  | none => return

/-- The node of an alias. -/
def named (name : Text) : Read Nat := do
  match (← get).anchors.lookup name with
  | some id => return id
  | none => fail

/-- Refuses a name that is in use. -/
def checkNew (anchor : Option Text) : Read Unit := do
  match anchor with
  | some name => if ((← get).anchors.lookup name).isSome then fail
  | none => return

/-- Adds a scalar. An open one takes its type from its text. -/
def scalar (tag : Option Text) (isOpen : Bool) (t : Text) : Read Nat :=
  let type := match tag with
    | some name => if name = tagMark then Tag.ofText t else Tag.ofName name
    | none => if isOpen then Tag.ofText t else .text
  add ⟨type, .scalar t⟩

/-- Adds the node where nothing is written. -/
def absent : Read Nat := scalar none true []

/-- Adds a collection, which has its name before its parts are read. -/
def collection (anchor : Option Text) (tag : Tag) (parts : Read Content) : Read Nat := do
  let id ← add ⟨tag, .sequence []⟩
  bind anchor id
  let content ← parts
  modify fun r => { r with nodes := r.nodes.setIfInBounds id ⟨tag, content⟩ }
  return id

/-! ## Properties -/

/-- The anchor at the place, if there is one. -/
def anchor? : Read (Option Text) := do
  match ← peek with
  | some (.anchor name) =>
    skip
    return some name
  | _ => return none

/-- The handle and the ending of the tag at the place, if there is one. -/
def tag? : Read (Option (Option Text × Text)) := do
  match ← peek with
  | some (.tag handle ending) =>
    skip
    return some (handle, ending)
  | _ => return none

/-- The name of a tag. -/
def tagName (handle : Option Text) (ending : Text) : Read Text := do
  match handle with
  | none => return ending
  | some h =>
    match (← get).handles.lookup h with
    | some start => return start ++ ending
    | none => fail

/-- The anchor and the name of the tag at the place, in either order. -/
def properties : Read (Option Text × Option Text) := do
  let first ← anchor?
  let tag ← tag?
  let anchor ← if first.isNone && tag.isSome then anchor? else pure first
  match tag with
  | some (handle, ending) => return (anchor, some (← tagName handle ending))
  | none => return (anchor, none)

/-- How a node starts, after its properties. -/
inductive Start where
  | scalar (isOpen : Bool) (t : Text)
  | flowSequence
  | flowMapping
  | blockSequence
  | blockMapping
  /-- A block sequence without indentation. -/
  | flushSequence

/-- How the node at the place starts. Block collections are read where `block` is set, and a sequence without
indentation where `flush` is. Where nothing is written, properties make a scalar. -/
def start (block flush : Bool) (anchor tag : Option Text) : Read Start := do
  let next ← peek
  match next, block, flush with
  | some .blockEntry, _, true => return .flushSequence
  | some (.scalar plain t), _, _ =>
    skip
    return .scalar (plain && tag.isNone) t
  | some .flowSequenceStart, _, _ =>
    skip
    return .flowSequence
  | some .flowMappingStart, _, _ =>
    skip
    return .flowMapping
  | some .blockSequenceStart, true, _ =>
    skip
    return .blockSequence
  | some .blockMappingStart, true, _ =>
    skip
    return .blockMapping
  | _, _, _ => if anchor.isSome || tag.isSome then return .scalar tag.isNone [] else fail

/-- The type of a collection: that of its name, or a given one. -/
def collectionTag (tag : Option Text) (given : Tag) : Tag :=
  match tag with
  | some name => if name = tagMark then given else Tag.ofName name
  | none => given

/-! ## Collections -/

mutual

/-- A node. -/
def node (block flush : Bool) : Nat → Read Nat
  | 0 => fail
  | fuel + 1 => do
    match ← peek with
    | some (.alias name) =>
      skip
      named name
    | _ =>
      let (anchor, tag) ← properties
      let found ← start block flush anchor tag
      checkNew anchor
      let sequence := collection anchor (collectionTag tag .sequence)
      let mapping := collection anchor (collectionTag tag .mapping)
      match found with
      | .scalar isOpen t =>
        let id ← scalar tag isOpen t
        bind anchor id
        return id
      | .flowSequence => sequence do return .sequence (← flowItems true fuel)
      | .flowMapping => mapping do return .mapping (← flowEntries true fuel)
      | .blockSequence => sequence do return .sequence (← blockItems fuel)
      | .blockMapping => mapping do return .mapping (← blockEntries fuel)
      | .flushSequence => sequence do return .sequence (← flushItems fuel)

/-- The items of a block sequence, up to its end. -/
def blockItems : Nat → Read (List Nat)
  | 0 => fail
  | fuel + 1 => do
    if ← skipIf .blockEntry then
      let item ← if ← atAny [.blockEntry, .blockEnd] then absent else node true false fuel
      return item :: (← blockItems fuel)
    else if ← skipIf .blockEnd then return []
    else fail

/-- The items of a sequence that is not indented. -/
def flushItems : Nat → Read (List Nat)
  | 0 => fail
  | fuel + 1 => do
    if ← skipIf .blockEntry then
      let item ← if ← atAny [.blockEntry, .key, .value, .blockEnd] then absent else node true false fuel
      return item :: (← flushItems fuel)
    else return []

/-- The entries of a block mapping, up to its end. -/
def blockEntries : Nat → Read (List (Nat × Nat))
  | 0 => fail
  | fuel + 1 => do
    if ← skipIf .key then
      let key ← if ← atAny [.key, .value, .blockEnd] then absent else node true true fuel
      let v ←
        if ← skipIf .value then
          if ← atAny [.key, .value, .blockEnd] then absent else node true true fuel
        else absent
      return (key, v) :: (← blockEntries fuel)
    else if ← skipIf .blockEnd then return []
    else fail

/-- The entry of a flow collection after its key mark; `close` ends the collection. -/
def flowEntry (close : Token) : Nat → Read (Nat × Nat)
  | 0 => fail
  | fuel + 1 => do
    let key ← if ← atAny [.value, .flowEntry, close] then absent else node false false fuel
    if ← skipIf .value then
      return (key, ← if ← atAny [.flowEntry, close] then absent else node false false fuel)
    else return (key, ← absent)

/-- The items of a flow sequence, up to its end. A key makes an item a mapping of one entry. -/
def flowItems (first : Bool) : Nat → Read (List Nat)
  | 0 => fail
  | fuel + 1 => do
    if ← skipIf .flowSequenceEnd then return []
    else
      if !first then
        if !(← skipIf .flowEntry) then fail
      if ← skipIf .flowSequenceEnd then return []
      else
        let item ←
          if ← skipIf .key then
            collection none .mapping do return .mapping [← flowEntry .flowSequenceEnd fuel]
          else node false false fuel
        return item :: (← flowItems false fuel)

/-- The entries of a flow mapping, up to its end. -/
def flowEntries (first : Bool) : Nat → Read (List (Nat × Nat))
  | 0 => fail
  | fuel + 1 => do
    if ← skipIf .flowMappingEnd then return []
    else
      if !first then
        if !(← skipIf .flowEntry) then fail
      if ← skipIf .flowMappingEnd then return []
      else
        let entry ←
          if ← skipIf .key then flowEntry .flowMappingEnd fuel
          else do
            let key ← node false false fuel
            pure (key, ← absent)
        return entry :: (← flowEntries false fuel)

end

/-! ## Documents -/

/-- Passes over the directives of a document and takes over their handles. -/
def directives (seenVersion : Bool) (own : List (Text × Text)) : Nat → Read Unit
  | 0 => fail
  | fuel + 1 => do
    match ← peek with
    | some (.directive d) =>
      skip
      match d with
      | .version major => if seenVersion || major ≠ 1 then fail else directives true own fuel
      | .handle handle start =>
        if (own.lookup handle).isSome then fail else directives seenVersion ((handle, start) :: own) fuel
      | .other => directives seenVersion own fuel
    | _ => modify fun r => { r with handles := own ++ standardHandles }

/-- Passes over the marks for the end of a document. -/
def skipEnds : Nat → Read Unit
  | 0 => return
  | fuel + 1 => do if ← skipIf .documentEnd then skipEnds fuel

/-- The directives and the mark before a document. -/
def documentStart (fuel : Nat) : Read Unit := do
  directives false [] fuel
  if !(← skipIf .documentStart) then fail

/-- The only document, or none. -/
def document (fuel : Nat) : Read (Option Nat) := do
  let explicitContent : Read Nat := do
    documentStart fuel
    match ← peek with
    | none | some (.directive _) | some .documentStart | some .documentEnd => absent
    | _ => node true false fuel
  let root ← do
    match ← peek with
    | none => return none
    | some (.directive _) | some .documentStart => explicitContent
    | _ => node true false fuel
  let _ ← skipIf .documentEnd
  skipEnds fuel
  if (← peek).isSome then
    documentStart fuel
    fail
  return some root

end Read

/-- The only document of some tokens, by its root, with all nodes. -/
def Nodes.ofTokens (s : TokenStream) : Except Fault (Option Nat × Nodes) := do
  let (root, r) ← (Read.document (4 * s.tokens.length + 4)).run ⟨s, [], standardHandles, #[]⟩
  return (root, r.nodes)

end Stencil.Yaml
