import Stencil.Files.Path
import Stencil.Text.Bytes
import Stencil.Text.Quoted

/-!
# Files

* **Trees** (`FileTree`): the files and directories below a directory. What lies above an entry is a directory. Unless
  the directory is the root of all paths, its own surroundings are not known.
* **Finding** (`FileTree.find`): a path is followed name by name, each time in a directory.
* **Reading** (`FileTree.readText`): the text of a file, with all line ends as newlines.
-/

namespace Stencil

/-- What a name in a directory stands for. -/
inductive Entry where
  | file (bytes : List UInt8)
  | directory

/-- The files and directories below a directory, with the names that lead to them. -/
structure FileTree where
  entries : List (List Text × Entry)
  /-- Whether the directory is the root of all paths. -/
  atRoot : Bool

/-- Why a file is not read. -/
inductive FileError where
  | notFound
  | notDirectory
  | isDirectory
  | nameTooLong
  deriving DecidableEq, Repr

/-- The number of an error. -/
def FileError.number : FileError → Nat
  | notFound => 2
  | notDirectory => 20
  | isDirectory => 21
  | nameTooLong => 36

/-- The words for an error. -/
def FileError.words : FileError → Text
  | notFound => "No such file or directory".text
  | notDirectory => "Not a directory".text
  | isDirectory => "Is a directory".text
  | nameTooLong => "File name too long".text

/-- The wording of an error about a path. -/
def FileError.message (e : FileError) (shown : Text) : Text :=
  "[Errno ".text ++ Text.ofNat e.number ++ "] ".text ++ e.words ++ ": ".text ++ Text.quoted shown

/-- A place that a path leads to: below the known directory, or outside of it. -/
inductive Place where
  | inside (parts : List Text)
  | outside
  deriving DecidableEq, Repr

namespace FileTree

/-- The entry that names lead to. -/
def entry? (tree : FileTree) (parts : List Text) : Option Entry :=
  match tree.entries.lookup parts with
  | some entry => some entry
  | none =>
    if parts.isEmpty || tree.entries.any (fun (k, _) => parts.isPrefixOf k) then some .directory else none

/-- The path that names lead along. -/
def pathOf (tree : FileTree) (parts : List Text) : Path := ⟨if tree.atRoot then ['/'] else [], parts⟩

/-- The place where paths from the root start. -/
def root (tree : FileTree) : Place := if tree.atRoot then .inside [] else .outside

/-- The entry at a place. Outside nothing but directories is known. -/
def at? (tree : FileTree) : Place → Option Entry
  | .inside parts => tree.entry? parts
  | .outside => some .directory

/-- The most bytes that a name has. -/
def nameLimit : Nat := 255

/-- The most bytes that the text of a path has. -/
def pathLimit : Nat := 4095

/-- A name of bytes that are no text is shown with a half for each such byte. -/
def isStrayByte : Point → Bool
  | .char _ => false
  | .half n => 0x480 ≤ n.val ∧ n.val < 0x500

theorem isStrayByte_iff {p : Point} : isStrayByte p = true ↔ 0xDC80 ≤ p.toNat ∧ p.toNat < 0xDD00 := by
  cases p with
  | char c =>
    have hc := Point.toNat_char_lt_or c
    rw [isStrayByte, Point.toNat_char]
    exact iff_of_false Bool.false_ne_true (by omega)
  | half n =>
    have hn : (Point.half n).toNat = 0xD800 + n := rfl
    simp only [isStrayByte, decide_eq_true_eq]
    omega

/-- The bytes of a point in a name. -/
def pointSize : Point → Nat
  | .char c => c.utf8Size
  | .half _ => 1

/-- The bytes of a name. -/
def byteCount (t : Text) : Nat := t.foldl (fun count p => count + pointSize p) 0

/-- What keeps the text of a path from being one of bytes. -/
def pathFault? (text : Text) : Option Text.EncodeFault := Text.encodeFault? isStrayByte text

/-- One step from a directory. -/
def step (tree : FileTree) (place : Place) (name : Text) : Except FileError Place :=
  if name = [Point.char '.', '.'] then
    match place with
    | .inside (part :: parts) => .ok (.inside (part :: parts).dropLast)
    | _ => .ok tree.root
  else if byteCount name > nameLimit then .error .nameTooLong
  else match place with
    | .inside parts =>
      if (tree.entry? (parts ++ [name])).isSome then .ok (.inside (parts ++ [name])) else .error .notFound
    | .outside => .error .notFound

/-- Follows names from a place. -/
def follow (tree : FileTree) : Place → List Text → Except FileError Place
  | place, [] => .ok place
  | place, name :: names =>
    match tree.at? place with
    | some .directory => do follow tree (← tree.step place name) names
    | _ => .error .notDirectory

/-- The place of a path, which starts at a directory unless it starts at the root. -/
def find (tree : FileTree) (base : List Text) (p : Path) : Except FileError Place :=
  tree.follow (if p.isAbsolute then tree.root else .inside base) p.parts

/-- Whether a path leads to anything. -/
def exists? (tree : FileTree) (base : List Text) (p : Path) : Bool := (tree.find base p).isOk

/-- Whether a path leads to a file. -/
def isFile (tree : FileTree) (base : List Text) (p : Path) : Bool :=
  match (tree.find base p).toOption.bind tree.at? with
  | some (.file _) => true
  | _ => false

/-- Whether a path leads to a directory, given its text. A path or a name that is too long leads nowhere and is an
error; the null character and halves that stand for no bytes are in no name. -/
def isDirectory (tree : FileTree) (base : List Text) (p : Path) (text : Text) : Except FileError Bool :=
  if (pathFault? text).isSome || p.hasNull then .ok false
  else if byteCount text > pathLimit then .error .nameTooLong
  else match tree.find base p with
    | .ok place =>
      match tree.at? place with
      | some .directory => .ok true
      | _ => .ok false
    | .error .nameTooLong => .error .nameTooLong
    | .error _ => .ok false

/-- The bytes of a file. -/
def read (tree : FileTree) (base : List Text) (p : Path) : Except FileError (List UInt8) := do
  match tree.at? (← tree.find base p) with
  | some (.file bytes) => return bytes
  | some .directory => throw .isDirectory
  | none => throw .notFound

/-- The names in a directory. -/
def namesIn (tree : FileTree) (parts : List Text) : List Text :=
  (tree.entries.filterMap fun (k, _) => if parts.isPrefixOf k then (k.drop parts.length).head? else none).eraseDups

/-- The names in the directory of a path. -/
def listing (tree : FileTree) (base : List Text) (p : Path) : List Text :=
  match tree.find base p with
  | .ok (.inside parts) => tree.namesIn parts
  | _ => []

end FileTree

/-- Why the text of a file is not known. -/
inductive ReadError where
  | file (e : FileError) (shown : Text)
  /-- The bytes are no text. -/
  | undecodable
  /-- The path holds the null character. -/
  | nullInPath
  /-- The path holds halves that stand for no bytes. -/
  | unencodable (f : Text.EncodeFault)
  deriving DecidableEq, Repr

/-- The wording of an error. -/
def ReadError.message : ReadError → Text
  | file e shown => e.message shown
  | undecodable => "the bytes are not a text in UTF-8".text
  | nullInPath => "embedded null byte".text
  | unencodable f => f.message

namespace FileTree

/-- The text of a file, with all line ends as newlines. Errors show the text of the path as given. -/
def readText (tree : FileTree) (base : List Text) (p : Path) (shown : Text) : Except ReadError Text := do
  if let some f := pathFault? shown then throw (.unencodable f)
  if p.hasNull then throw .nullInPath
  if byteCount shown > pathLimit then throw (.file .nameTooLong shown)
  let bytes ← (tree.read base p).mapError (.file · shown)
  match Text.ofUtf8? bytes with
  | some t => return Text.normaliseNewlines t
  | none => throw .undecodable

end FileTree

end Stencil
