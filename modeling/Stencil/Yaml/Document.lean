import Stencil.Yaml.Merge
import Stencil.Yaml.Scalar

/-!
# YAML documents

* **Objects** (`Object`): what the nodes of a document stand for. A container holds the numbers of its parts.
* **Making** (`Objects.ofNodes`): the root is made first, and then, one container after another, the parts of containers
  in the order in which the containers were met. The first fault in this order counts.
* **Documents** (`Document.ofText`): the value of the one document of a text, null when there is none, and whether it
  counts as nothing. `read` gives the value alone.
-/

namespace Stencil.Yaml

/-- What a node stands for. -/
inductive Object where
  | scalar (s : Scalar)
  | list (items : List Nat)
  | tuple (items : List Nat)
  | record (entries : List (Scalar × Nat))
  | set (keys : List Scalar)

/-- The objects of a document, by the numbers of their nodes; none for a node without one. -/
abbrev Objects := Array (Option Object)

/-- The making of objects on its way. -/
structure Workshop where
  nodes : Nodes
  objects : Objects
  /-- The containers whose parts are still to be made, the latest first. -/
  waiting : List Nat

/-- A step of the making. -/
abbrev Make := StateT Workshop (Except Fault)

namespace Make

/-- The content of a node. -/
def content (id : Nat) : Make Content := do
  match (← get).nodes.content? id with
  | some content => return content
  | none => throw .malformed

/-- The items of a node that is a sequence. -/
def items (id : Nat) : Make (List Nat) := do
  match ← content id with
  | .sequence items => return items
  | _ => throw .malformed

/-- The text of a scalar, or of the value of a mapping as a whole. -/
def textOf : Nat → Nat → Make Text
  | 0, _ => throw .malformed
  | depth + 1, id => do
    match ← content id with
    | .scalar t => return t
    | .sequence _ => throw .malformed
    | .mapping entries =>
      let nodes := (← get).nodes
      match entries.find? fun (k, _) => nodes.tagOf k = .whole with
      | some (_, v) => textOf depth v
      | none => throw .malformed

/-- The scalar of a node of a type. A time is read from a scalar alone. -/
def scalarOf (tag : Tag) (id : Nat) : Make Scalar := do
  if tag = .merge ∨ tag = .whole ∨ tag = .other then throw .malformed
  let t ← textOf ((← get).nodes.size + 1) id
  match tag, ← content id with
  | .timestamp, .mapping _ => throw .timeInMapping
  | _, _ => Scalar.read tag id t

/-- Sets the object of a node. -/
def put (id : Nat) (o : Object) : Make Unit :=
  modify fun w => { w with objects := w.objects.setIfInBounds id (some o) }

/-- Makes the object of a node, unless it is made. The parts of a container wait. -/
def make (id : Nat) : Make Unit := do
  let w ← get
  if (w.objects[id]?.bind fun o => o).isSome then return
  let tag := w.nodes.tagOf id
  if tag.isCollection then
    put id (.list [])
    modify fun w => { w with waiting := id :: w.waiting }
  else put id (.scalar (← scalarOf tag id))

/-- Makes a key. A container is no key. -/
def key (id : Nat) : Make Scalar := do
  make id
  match (← get).objects[id]? with
  | some (some (.scalar s)) => return s
  | _ => throw .malformed

/-- Makes the entries of a mapping with all that it merges. -/
def entries (id : Nat) : Make (List (Scalar × Nat)) := do
  match (← get).nodes.entries? id with
  | none => throw .malformed
  | some _ =>
    let (found, nodes) ← (← get).nodes.flatten id
    modify fun w => { w with nodes }
    found.mapM fun (k, v) => do
      let k ← key k
      make v
      return (k, v)

/-- Makes the only entry of a mapping, as an object of its own, and gives its number. -/
def pair (id : Nat) : Make Nat := do
  match (← get).nodes.entries? id with
  | some [(k, v)] =>
    make k
    make v
    let w ← get
    set { w with objects := w.objects.push (some (.tuple [k, v])) }
    return w.objects.size
  | _ => throw .malformed

/-- Gives a key a value among entries: in place when it is there, at the end when it is not. -/
def insertEntry (k : Scalar) (v : Nat) : List (Scalar × Nat) → List (Scalar × Nat)
  | [] => [(k, v)]
  | (k', v') :: rest => if k'.sameKey k then (k', v) :: rest else (k', v') :: insertEntry k v rest

/-- Entries, each inserted after those before it. -/
def recordOf (entries : List (Scalar × Nat)) : List (Scalar × Nat) :=
  entries.foldl (fun acc (k, v) => insertEntry k v acc) []

/-- Makes the parts of a container. -/
def fill (id : Nat) : Make Unit := do
  match (← get).nodes.tagOf id with
  | .mapping => put id (.record (recordOf (← entries id)))
  | .set => put id (.set ((recordOf (← entries id)).map (·.1)))
  | .sequence =>
    let parts ← items id
    parts.forM make
    put id (.list parts)
  | _ => put id (.list (← (← items id).mapM pair))

/-- Makes the parts of all containers that wait, and then of those met meanwhile. -/
def fillAll : Nat → Make Unit
  | 0 => return
  | rounds + 1 => do
    let w ← get
    if !w.waiting.isEmpty then
      set { w with waiting := [] }
      w.waiting.reverse.forM fill
      fillAll rounds

end Make

/-- The objects of a document, by its root. -/
def Objects.ofNodes (nodes : Nodes) (root : Nat) : Except Fault Objects := do
  let making : Make Unit := do
    Make.make root
    Make.fillAll (nodes.size + 1)
  let (_, w) ← making.run ⟨nodes, Array.replicate nodes.size none, []⟩
  return w.objects

/-! ## Values -/

namespace Object

/-- Whether the object counts as nothing. -/
def isEmpty : Object → Bool
  | scalar s => s.isEmpty
  | list items => items.isEmpty
  | tuple items => items.isEmpty
  | record entries => entries.isEmpty
  | set keys => keys.isEmpty

/-- The integer that a key is. -/
def integer? : Scalar → Option Int
  | .plain (.int n) => some n
  | _ => none

/-- The keys of a set in the order of its text: integers from the least one on. -/
def inOrder (keys : List Scalar) : List Scalar :=
  match keys.mapM integer? with
  | some ns => (ns.mergeSort fun n m => decide (n ≤ m)).map fun n => .plain (.int n)
  | none => keys

/-- The text of a set. -/
def setText (keys : List Scalar) : Text :=
  if keys.isEmpty then "set()".text
  else '{' :: (Text.join ", ".text ((inOrder keys).map Scalar.quoted) ++ "\x7d".text)

/-- The value of an object, given those of its parts. -/
def value? (part : Nat → Option Value) : Object → Option Value
  | scalar s => some s.toValue
  | list items => (items.mapM part).map .list
  | tuple items => (items.mapM part).map .tuple
  | record entries => do return .record (← entries.mapM fun (k, id) => do return (k.toValue, ← part id))
  | set keys => some (.foreign (setText keys))

end Object

namespace Objects

/-- The object of a number. -/
def get? (objects : Objects) (id : Nat) : Option Object := objects[id]?.bind fun o => o

/-- The value of an object whose parts are nested at most so deep. -/
def tree? (objects : Objects) : Nat → Nat → Option Value
  | 0, _ => none
  | depth + 1, id => (objects.get? id).bind (Object.value? (tree? objects depth))

/-- The value of an object that does not hold itself. -/
def flatValue? (objects : Objects) (id : Nat) : Option Value := objects.tree? (objects.size + 1) id

/-- The numbers of the objects that hold themselves, and of those that hold such objects. -/
def knotted (objects : Objects) : List Nat :=
  (List.range objects.size).filter fun id => (objects.get? id).isSome && (objects.flatValue? id).isNone

/-- The value of an object. -/
def value (objects : Objects) (id : Nat) : Value :=
  match objects.flatValue? id with
  | some v => v
  | none =>
    let ids := objects.knotted
    let part (id : Nat) : Option Value :=
      if ids.contains id then some (.part (ids.idxOf id)) else objects.flatValue? id
    let parts := ids.map fun id => ((objects.get? id).bind (Object.value? part)).getD .null
    .knot parts (ids.idxOf id)

end Objects

/-! ## Documents -/

/-- The value of a document. -/
structure Document where
  value : Value
  /-- Whether the value counts as nothing. -/
  isEmpty : Bool

/-- The document of a text. -/
def Document.ofText (t : Text) : Except Fault Document := do
  match ← Nodes.ofTokens (TokenStream.ofText t) with
  | (none, _) => return ⟨.null, true⟩
  | (some root, nodes) =>
    let objects ← Objects.ofNodes nodes root
    return ⟨objects.value root, ((objects.get? root).map Object.isEmpty).getD true⟩

/-- The value of a text. -/
def read (t : Text) : Except Fault Value := (Document.ofText t).map (·.value)

end Stencil.Yaml
