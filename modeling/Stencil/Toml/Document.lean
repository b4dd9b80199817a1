import Stencil.Toml.Scalar

/-!
# TOML documents

* **Values** (`value`): scalars, arrays and inline tables.
* **Tables**: entries go into the table whose header stands before them. A table is opened by one header only, and what
  was written as an array or an inline table is sealed (`Seals`).
* **Documents** (`Toml.read`): the table of all entries.
-/

namespace Stencil.Toml

/-! ## Keys -/

/-- The names on the way to an entry. -/
abbrev Key := List Text

/-- The characters of a key without quotes. -/
def isBareChar (c : Point) : Bool := c.isAlphanum || c = '-' || c = '_'

/-- One name of a key, and what follows it. -/
def keyPart (t : Text) : Except Fault (Text × Text) :=
  match t with
  | '\'' :: _ => literalString false t
  | '"' :: _ => basicString false t
  | _ =>
    let name := t.takeWhile isBareChar
    if name.isEmpty then .error .malformed else .ok (name, t.drop name.length)

/-- A key of names with points between them, and what follows it. -/
def key : Nat → Text → Except Fault (Key × Text)
  | 0, _ => .error .malformed
  | fuel + 1, t => do
    let (name, rest) ← keyPart t
    match rest.dropWhile isSpace with
    | '.' :: rest =>
      let (names, rest) ← key fuel (rest.dropWhile isSpace)
      return (name :: names, rest)
    | rest => return ([name], rest)

/-! ## Nested tables -/

/-- Gives a name a value. -/
def put (fields : Fields) (name : Text) (v : Value) : Fields :=
  Fields.insertWith (fun k k' => k.text? == k'.text?) (.str name) v fields

/-- Changes the table at the end of a key, making the tables on the way. An array of tables leads to its last one where
`throughArrays` is set. -/
def changeAt (throughArrays : Bool) (change : Fields → Option Fields) : Key → Fields → Option Fields
  | [], fields => change fields
  | name :: names, fields => do
    match fields.get? name with
    | none => return put fields name (.record (← changeAt throughArrays change names []))
    | some (.record inner) => return put fields name (.record (← changeAt throughArrays change names inner))
    | some (.list items) =>
      guard throughArrays
      match items.getLast? with
      | some (.record inner) =>
        return put fields name (.list (items.dropLast ++ [.record (← changeAt throughArrays change names inner)]))
      | _ => none
    | some _ => none

/-- Adds an entry to the table at the end of a key. A name is given one value. -/
def addEntry (throughArrays : Bool) (parent : Key) (name : Text) (v : Value) (fields : Fields) : Option Fields :=
  changeAt throughArrays (fun inner => if inner.has name then none else some (put inner name v)) parent fields

/-- Adds a table to the array at the end of a key. -/
def addTable (parent : Key) (name : Text) (fields : Fields) : Option Fields :=
  changeAt true (fun inner =>
    match inner.get? name with
    | none => some (put inner name (.list [.record []]))
    | some (.list items) => some (put inner name (.list (items ++ [.record []])))
    | some _ => none) parent fields

/-! ## Seals -/

/-- What can no longer be changed under a key. -/
inductive Seal where
  /-- The table itself cannot be opened by a header. -/
  | opened
  /-- Nothing at the key or below it can be changed. -/
  | frozen
  deriving DecidableEq

/-- The seals so far. -/
abbrev Seals := List (Key × Seal)

/-- Whether a key or one above it is frozen. -/
def Seals.isFrozen (s : Seals) (k : Key) : Bool := s.any fun (k', mark) => mark = .frozen && k'.isPrefixOf k

/-- Whether the table of a key has been opened. -/
def Seals.isOpened (s : Seals) (k : Key) : Bool := s.contains (k, .opened)

/-- The seals without those at a key and below it. -/
def Seals.release (s : Seals) (k : Key) : Seals := s.filter fun (k', _) => !k.isPrefixOf k'

/-- The seals with a value under a key. -/
def Seals.withValue (s : Seals) (k : Key) : Value → Seals
  | .record _ | .list _ => (k, .frozen) :: s
  | _ => s

/-! ## Values -/

/-- What follows a comment that may stand at the head of a text. -/
def skipComment (t : Text) : Except Fault Text :=
  match t with
  | '#' :: rest =>
    let comment := rest.takeWhile (· ≠ Point.char '\n')
    if comment.any isControl then .error .malformed else .ok (rest.drop comment.length)
  | _ => .ok t

/-- What follows white space, newlines and comments. -/
def skipGap : Nat → Text → Except Fault Text
  | 0, t => .ok t
  | fuel + 1, t => do
    let rest ← skipComment (t.dropWhile isSpaceOrNewline)
    if rest.length = t.length then return rest else skipGap fuel rest

/-- What follows white space, newlines and comments. -/
def afterGap (t : Text) : Except Fault Text := skipGap (t.length + 1) t

/-- The words for truth values. -/
def boolWords : List (Text × Value) := [("true".text, .bool true), ("false".text, .bool false)]

mutual

/-- The value at the head of a text, and what follows it. -/
def value : Nat → Text → Except Fault (Value × Text)
  | 0, _ => .error .malformed
  | fuel + 1, t =>
    match t with
    | '"' :: _ => (basicString true t).map fun (s, rest) => (.str s, rest)
    | '\'' :: _ => (literalString true t).map fun (s, rest) => (.str s, rest)
    | '[' :: rest => do
      let (items, rest) ← items fuel (← afterGap rest)
      return (.list items, rest)
    | '{' :: rest => do
      let (fields, rest) ← inlineTable fuel (rest.dropWhile isSpace)
      return (.record fields, rest)
    | _ =>
      match word? boolWords t with
      | some part => .ok part
      | none => ((time? t).or (number? t)).getD (.error .malformed)

/-- The values of an array up to its end, from one of them or the end on. -/
def items : Nat → Text → Except Fault (List Value × Text)
  | 0, _ => .error .malformed
  | fuel + 1, t =>
    match t with
    | ']' :: rest => .ok ([], rest)
    | _ => do
      let (v, rest) ← value fuel t
      match ← afterGap rest with
      | ']' :: rest => return ([v], rest)
      | ',' :: rest =>
        let (vs, rest) ← items fuel (← afterGap rest)
        return (v :: vs, rest)
      | _ => .error .malformed

/-- An inline table from its first entry or its end on. -/
def inlineTable : Nat → Text → Except Fault (Fields × Text)
  | 0, _ => .error .malformed
  | fuel + 1, t =>
    match t with
    | '}' :: rest => .ok ([], rest)
    | _ => inlineEntries fuel [] [] t

/-- The entries of an inline table up to its end, after those read. -/
def inlineEntries : Nat → Seals → Fields → Text → Except Fault (Fields × Text)
  | 0, _, _, _ => .error .malformed
  | fuel + 1, seals, fields, t => do
    let (names, v, rest) ← entry fuel t
    if seals.isFrozen names then throw .malformed
    match addEntry false names.dropLast (names.getLast?.getD []) v fields with
    | none => .error .malformed
    | some fields =>
      match rest.dropWhile isSpace with
      | '}' :: rest => return (fields, rest)
      | ',' :: rest => inlineEntries fuel (seals.withValue names v) fields (rest.dropWhile isSpace)
      | _ => .error .malformed

/-- A key and its value, and what follows them. -/
def entry : Nat → Text → Except Fault (Key × Value × Text)
  | 0, _ => .error .malformed
  | fuel + 1, t => do
    let (names, rest) ← key (t.length + 1) t
    match rest with
    | '=' :: rest =>
      let (v, rest) ← value fuel (rest.dropWhile isSpace)
      return (names, v, rest)
    | _ => .error .malformed

end

/-! ## Documents -/

/-- A document on its way. -/
structure Draft where
  table : Fields
  seals : Seals
  /-- The tables that entries opened under the present header; sealed at the next one. -/
  pending : List Key
  header : Key

namespace Draft

/-- The document before its first line. -/
def empty : Draft := ⟨[], [], [], []⟩

/-- Seals the tables that entries opened. -/
def sealPending (d : Draft) : Draft :=
  { d with seals := d.pending.map (·, .opened) ++ d.seals, pending := [] }

/-- The keys above an entry of a header, from the first name of the entry on. -/
def containers (header names : Key) : List Key :=
  (List.range (names.length - 1)).map fun i => header ++ names.take (i + 1)

/-- Adds an entry. -/
def addEntry (d : Draft) (names : Key) (v : Value) : Option Draft := do
  let above := containers d.header names
  let parent := d.header ++ names.dropLast
  guard (above.all fun k => !d.seals.isOpened k)
  guard !(d.seals.isFrozen parent)
  let table ← Toml.addEntry true parent (names.getLast?.getD []) v d.table
  return { d with
    table
    seals := d.seals.withValue (d.header ++ names) v
    pending := above ++ d.pending }

/-- Opens a table. -/
def openTable (d : Draft) (names : Key) : Option Draft := do
  guard !(d.seals.isOpened names || d.seals.isFrozen names)
  let table ← changeAt true some names d.table
  return { d with table, seals := (names, .opened) :: d.seals, header := names }

/-- Opens the next table of an array. -/
def openArray (d : Draft) (names : Key) : Option Draft := do
  guard !(d.seals.isFrozen names)
  let table ← addTable names.dropLast (names.getLast?.getD []) d.table
  return { d with table, seals := (names, .opened) :: d.seals.release names, header := names }

end Draft

/-- The result of a step that may not be allowed. -/
def allowed {α : Type} (step : Option α) : Except Fault α :=
  match step with
  | some a => .ok a
  | none => .error .malformed

/-- The header of an array of tables after its two brackets, and what follows it. -/
def arrayHeader (d : Draft) (t : Text) : Except Fault (Draft × Text) := do
  let (names, rest) ← key (t.length + 1) (t.dropWhile isSpace)
  let d ← allowed (d.sealPending.openArray names)
  let rest ← allowed (Text.after? [']', ']'] rest)
  return (d, rest)

/-- The header of a table after its bracket, and what follows it. -/
def tableHeader (d : Draft) (t : Text) : Except Fault (Draft × Text) := do
  let (names, rest) ← key (t.length + 1) (t.dropWhile isSpace)
  let d ← allowed (d.sealPending.openTable names)
  let rest ← allowed (Text.after? [']'] rest)
  return (d, rest)

/-- Whether a key may start with a character. -/
def startsKey (c : Point) : Bool := isBareChar c || c = '"' || c = '\''

/-- What a line adds to a document, and what follows it on the line. -/
def statement (d : Draft) (t : Text) : Except Fault (Draft × Text) :=
  match t with
  | [] => .ok (d, [])
  | '\n' :: _ => .ok (d, t)
  | '#' :: _ => .ok (d, t)
  | '[' :: '[' :: rest => arrayHeader d rest
  | '[' :: rest => tableHeader d rest
  | c :: _ =>
    if startsKey c then do
      let (names, v, rest) ← entry (2 * t.length + 2) t
      return (← allowed (d.addEntry names v), rest)
    else .error .malformed

/-- The document of all lines of a text, after those read. -/
def lines (d : Draft) : Nat → Text → Except Fault Draft
  | 0, _ => .error .malformed
  | fuel + 1, t => do
    let (d, rest) ← statement d (t.dropWhile isSpace)
    match ← skipComment (rest.dropWhile isSpace) with
    | [] => return d
    | '\n' :: rest => lines d fuel rest
    | _ => .error .malformed

/-- The table of a document. -/
def read (t : Text) : Except Fault Fields := (lines .empty (t.length + 1) t).map (·.table)

end Stencil.Toml
