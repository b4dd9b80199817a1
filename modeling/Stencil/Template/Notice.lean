import Stencil.Text.Basic

/-!
# Notices

* **Notices** (`Notice`): what an engine reports while it works, beside its results. Each has a level, the topic that it
  belongs to, and a wording.
-/

namespace Stencil

/-- How much a notice matters. -/
inductive Level where
  | debug
  | warning
  deriving DecidableEq, Repr

/-- The word for a level. -/
def Level.word : Level → Text
  | debug => "DEBUG".text
  | warning => "WARNING".text

/-- What an engine reports. -/
inductive Notice where
  | registered (name kind : Text)
  | customized (name : Text)
  | removed (name : Text)
  /-- A text did not settle within a number of passes. -/
  | passesSpent (budget : Nat)
  | renderFailed (name why : Text)
  | fallbackFailed (name why : Text)
  deriving DecidableEq, Repr

namespace Notice

/-- The level of a notice. -/
def level : Notice → Level
  | renderFailed .. | fallbackFailed .. => .warning
  | _ => .debug

/-- The topic of a notice. -/
def topic : Notice → Text
  | registered .. | customized _ | removed _ => "docsync.templates.registry".text
  | passesSpent _ => "docsync.templates.directives".text
  | renderFailed .. | fallbackFailed .. => "docsync.templates.engine".text

/-- The wording of a notice. -/
def message : Notice → Text
  | registered name kind => "registered template ".text ++ name ++ " (".text ++ kind ++ ")".text
  | customized name => "customized template ".text ++ name
  | removed name => "removed customization ".text ++ name
  | passesSpent budget => "directive pass budget of ".text ++ Text.ofNat budget ++ " exhausted".text
  | renderFailed name why => "render of ".text ++ name ++ " failed: ".text ++ why
  | fallbackFailed name why => "fallback render of ".text ++ name ++ " failed: ".text ++ why

/-- The line that reports a notice. -/
def line (n : Notice) : Text :=
  n.level.word ++ " ".text ++ n.topic ++ ": ".text ++ n.message ++ "\n".text

end Notice

end Stencil
