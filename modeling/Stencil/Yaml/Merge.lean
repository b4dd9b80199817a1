import Stencil.Yaml.Node

/-!
# Merged mappings

* **Merging** (`Nodes.flatten`): the entries of the mappings that a mapping merges come before its own. Each of these
  mappings has its own merges done first, and keeps them done.
* A key for the value of a mapping as a whole becomes a text when its mapping is flattened, wherever it stands.
-/

namespace Stencil.Yaml

namespace Nodes

/-- The tag of a node. -/
def tagOf (nodes : Nodes) (id : Nat) : Tag := (nodes[id]?.map (·.tag)).getD .other

/-- What a node holds. -/
def content? (nodes : Nodes) (id : Nat) : Option Content := nodes[id]?.map (·.content)

/-- The entries of a mapping. -/
def entries? (nodes : Nodes) (id : Nat) : Option (List (Nat × Nat)) :=
  match nodes.content? id with
  | some (.mapping entries) => some entries
  | _ => none

/-- Gives a mapping other entries. -/
def setEntries (nodes : Nodes) (id : Nat) (entries : List (Nat × Nat)) : Nodes :=
  nodes.modify id fun n => { n with content := .mapping entries }

/-- Makes a key for a whole a text. -/
def settleKey (nodes : Nodes) (id : Nat) : Nodes :=
  nodes.modify id fun n => if n.tag = .whole then { n with tag := .text } else n

/-- The number of entries of all mappings. -/
def entryCount (nodes : Nodes) : Nat :=
  nodes.foldl (fun count n => match n.content with
    | .mapping entries => count + entries.length
    | _ => count) 0

end Nodes

/-- A step that may change nodes. -/
abbrev Merging := StateT Nodes (Except Fault)

namespace Merging

/-- The present entries of a mapping. -/
def entries (id : Nat) : Merging (List (Nat × Nat)) := do
  match (← get).entries? id with
  | some entries => return entries
  | none => throw .malformed

mutual

/-- Takes the entries that merge out of a mapping, the first one first, and gives the entries that they merge. -/
def takeMerged : Nat → Nat → Merging (List (Nat × Nat))
  | 0, _ => throw .malformed
  | fuel + 1, id => do
    let own ← entries id
    let nodes ← get
    let merges (e : Nat × Nat) : Bool := nodes.tagOf e.1 = .merge
    match own.find? merges with
    | none => return []
    | some (_, v) =>
      modify fun nodes => nodes.setEntries id (own.eraseP merges)
      let here ← mergedBy fuel v
      return here ++ (← takeMerged fuel id)

/-- The entries that a value of a merging key merges: those of a mapping, or of the mappings of a sequence from the last
one on. -/
def mergedBy : Nat → Nat → Merging (List (Nat × Nat))
  | 0, _ => throw .malformed
  | fuel + 1, id => do
    match Nodes.content? (← get) id with
    | some (.mapping _) =>
      flatten fuel id
      entries id
    | some (.sequence items) =>
      let parts ← items.mapM fun item => do
        let _ ← entries item
        flatten fuel item
        entries item
      return parts.reverse.flatten
    | _ => throw .malformed

/-- Puts the merged entries of a mapping before its own. -/
def flatten : Nat → Nat → Merging Unit
  | 0, _ => throw .malformed
  | fuel + 1, id => do
    let merged ← takeMerged fuel id
    let all := merged ++ (← entries id)
    modify fun nodes => all.foldl (fun nodes e => nodes.settleKey e.1) (nodes.setEntries id all)

end

end Merging

/-- The nodes with a mapping flattened, and its entries. An entry that merges takes no more than three steps. -/
def Nodes.flatten (nodes : Nodes) (id : Nat) : Except Fault (List (Nat × Nat) × Nodes) := do
  let (_, nodes) ← (Merging.flatten (3 * nodes.entryCount + 3) id).run nodes
  return ((nodes.entries? id).getD [], nodes)

end Stencil.Yaml
