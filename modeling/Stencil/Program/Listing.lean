import Stencil.Template.Engine
import Stencil.Terminal.Table

/-!
# Listing templates

* **Rows** (`Registry.listing`): one for each registered template and each customization, with the origin that its name
  has.
* **Tables** (`listingTable`, `variableTable`): the rows, and the variables that a template declares.
-/

namespace Stencil

/-- Where a template comes from. -/
inductive Origin where
  | builtIn
  | custom
  deriving DecidableEq, Repr

/-- The word for an origin. -/
def Origin.word : Origin → Text
  | builtIn => "builtin".text
  | custom => "custom".text

/-- What a listing says about a template. -/
structure ListingRow where
  name : Text
  kind : Kind
  origin : Origin
  declared : List Text
  deriving DecidableEq, Repr

/-- The origin of a name: a customized name is custom, whatever template bears it. -/
def Registry.origin (r : Registry) (name : Text) : Origin :=
  if (r.getCustom? name).isSome then .custom else .builtIn

/-- The rows of a listing, in the order of the list of templates. -/
def Registry.listing (r : Registry) : List ListingRow :=
  r.list.map fun t => ⟨t.name, t.kind, r.origin t.name, t.declared.map (·.name)⟩

/-- The table of a listing. -/
def listingTable (rows : List ListingRow) : Table where
  title := "Templates".text
  headers := ["Name".text, "Kind".text, "Origin".text, "Variables".text]
  rows := rows.map fun row => [row.name, row.kind.name, row.origin.word, Text.join ", ".text row.declared]
  unbroken := [0]

/-- The table of the variables of a template. -/
def variableTable (t : Template) : Table where
  title := []
  headers := ["Variable".text, "Type".text, "Required".text, "Description".text]
  rows := t.declared.map fun v => [v.name, v.type, (if v.required then "yes" else "no").text, v.description]
  unbroken := [0]

end Stencil
