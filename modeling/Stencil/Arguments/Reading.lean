import Stencil.Arguments.Grammar
import Stencil.Text.Digit
import Stencil.Text.Quoted

/-!
# Reading a command line

* **Tokens** (`ArgumentGrammar.token`): each argument is an operand, the separator, an option by its name or the only
  name that it begins, or an unknown option. After the separator there are only operands.
* **Clusters** (`ArgumentGrammar.cluster`): short options may stand in one argument, the last one with its value.
* **Reading** (`ArgumentGrammar.read`): the operands go to their names in order, whatever options stand between them.
  Reading ends at the first error or request for help (`ReadingEnd`); missing operands are reported before arguments
  that nothing takes.
-/

namespace Stencil

/-! ## Errors -/

/-- What is wrong with the arguments of a program. -/
inductive ArgumentError where
  /-- An argument begins the names of several options. -/
  | ambiguous (argument : Text) (names : List Text)
  /-- An option has no value. -/
  | valueMissing (o : OptionDecl)
  /-- An option that takes no value has one. -/
  | valueUnused (o : OptionDecl) (given : Text)
  /-- The value of an option is not one of its choices. -/
  | notAChoice (o : OptionDecl) (given : Text)
  /-- Some operands are missing. -/
  | operandsMissing (names : List Text)
  /-- Nothing takes some arguments. -/
  | unrecognised (arguments : List Text)
  deriving DecidableEq, Repr

namespace ArgumentError

/-- An error about an option. -/
def about (o : OptionDecl) (problem : Text) : Text := "argument ".text ++ o.label ++ ": ".text ++ problem

/-- The values that an option may have. -/
def choices (o : OptionDecl) : List Text :=
  match o.kind with
  | .choice values => values
  | _ => []

/-- The wording of an error. -/
def message : ArgumentError → Text
  | ambiguous argument names =>
    "ambiguous option: ".text ++ argument ++ " could match ".text ++ Text.join ", ".text names
  | valueMissing o => about o "expected one argument".text
  | valueUnused o given => about o ("ignored explicit argument ".text ++ Text.quoted given)
  | notAChoice o given =>
    about o ("invalid choice: ".text ++ Text.quoted given ++ " (choose from ".text
      ++ Text.join ", ".text ((choices o).map Text.quoted) ++ ")".text)
  | operandsMissing names => "the following arguments are required: ".text ++ Text.join ", ".text names
  | unrecognised arguments => "unrecognized arguments: ".text ++ Text.join [' '] arguments

end ArgumentError

/-- Why reading ends before the arguments do. -/
inductive ReadingEnd where
  | help
  | error (e : ArgumentError)
  deriving DecidableEq, Repr

/-! ## Tokens -/

/-- An argument, classified. -/
inductive Token where
  | operand (t : Text)
  | separator
  /-- An option by one of its names, perhaps with a text attached to it. -/
  | option (name : Text) (o : OptionDecl) (attached : Option Text)
  | unknown (source : Text)
  deriving DecidableEq, Repr

/-- The argument after which there are only operands. -/
def separatorText : Text := ['-', '-']

/-- Whether a name is long. -/
def isLongName (name : Text) : Bool := separatorText.isPrefixOf name

/-- Whether a text is a negative number, perhaps with a newline after it. -/
def isNegativeNumber : Text → Bool
  | '-' :: cs =>
    let digits := cs.takeWhile Text.isDigit
    let ends (t : Text) : Bool := t.isEmpty || t == [Point.char '\n']
    match cs.dropWhile Text.isDigit with
    | '.' :: fraction => !(fraction.takeWhile Text.isDigit).isEmpty && ends (fraction.dropWhile Text.isDigit)
    | rest => !digits.isEmpty && ends rest
  | _ => false

/-- The text before the first equals sign, and the text after it. -/
def cutAtEquals (t : Text) : Text × Option Text :=
  match Text.cutAt? ['='] t with
  | some (name, value) => (name, some value)
  | none => (t, none)

namespace ArgumentGrammar

/-- The options that a long name may begin, or a short name with what follows it may mean. -/
def candidates (g : ArgumentGrammar) (argument : Text) : List (Text × OptionDecl × Option Text) :=
  if isLongName argument then
    let (start, attached) := cutAtEquals argument
    g.names.filterMap fun (name, o) => if start.isPrefixOf name then some (name, o, attached) else none
  else
    g.names.filterMap fun (name, o) =>
      if name = argument.take 2 then some (name, o, some (argument.drop 2))
      else if argument.isPrefixOf name then some (name, o, none)
      else none

/-- The option that an argument names in full, perhaps before an equals sign. -/
def named? (g : ArgumentGrammar) (argument : Text) : Option Token :=
  match g.option? argument with
  | some o => some (.option argument o none)
  | none =>
    match cutAtEquals argument with
    | (name, some attached) => (g.option? name).map fun o => .option name o (some attached)
    | _ => none

/-- The token of an argument. -/
def token (g : ArgumentGrammar) (argument : Text) : Except ArgumentError Token :=
  match argument with
  | '-' :: _ :: _ =>
    match g.named? argument with
    | some t => .ok t
    | none =>
      match g.candidates argument with
      | [(name, o, attached)] => .ok (.option name o attached)
      | [] =>
        if isNegativeNumber argument || argument.contains ' ' then .ok (.operand argument)
        else .ok (.unknown argument)
      | several => .error (.ambiguous argument (several.map (·.1)))
  | _ => .ok (.operand argument)

/-- The tokens of arguments. -/
def tokens (g : ArgumentGrammar) : List Text → Except ArgumentError (List Token)
  | [] => .ok []
  | argument :: arguments =>
    if argument = separatorText then .ok (.separator :: arguments.map .operand)
    else do
      let t ← g.token argument
      return t :: (← g.tokens arguments)

end ArgumentGrammar

/-! ## Clusters -/

/-- What one argument with options stands for. -/
structure Cluster where
  /-- The options that are complete, with their values. -/
  given : List (OptionDecl × Option Text)
  /-- The last option, if nothing is attached to it. -/
  last : Option OptionDecl
  deriving DecidableEq, Repr

/-- The value in an attached text: the separator stands for no value. -/
def attachedValue (t : Text) : Option Text := if t = separatorText then none else some t

namespace ArgumentGrammar

/-- What an option with an attached text stands for. A text attached to a short option without a value holds more short
options, each by its letter. -/
def cluster (g : ArgumentGrammar) (name : Text) (o : OptionDecl) (t : Text) : Except ArgumentError Cluster :=
  if o.takesValue then .ok ⟨[(o, attachedValue t)], none⟩
  else if isLongName name then .error (.valueUnused o t)
  else match t with
    | [] => .error (.valueUnused o [])
    | c :: cs =>
      match g.option? ['-', c], cs with
      | none, _ => .error (.valueUnused o (c :: cs))
      | some next, [] => .ok ⟨[(o, none)], some next⟩
      | some next, c' :: cs' => do
        let more ← g.cluster ['-', c] next (c' :: cs')
        return { more with given := (o, none) :: more.given }
termination_by t.length

/-- What an option with or without an attached text stands for. -/
def clusterOf (g : ArgumentGrammar) (name : Text) (o : OptionDecl) : Option Text → Except ArgumentError Cluster
  | none => .ok ⟨[], some o⟩
  | some attached => g.cluster name o attached

end ArgumentGrammar

/-! ## Findings -/

/-- An option or an operand that was given. -/
structure Finding where
  key : Text
  value : Option Text
  deriving DecidableEq, Repr

/-- Everything that was given, in order. -/
abbrev Findings := List Finding

namespace Findings

/-- Whether an option was given. -/
def has (fs : Findings) (key : Text) : Bool := fs.any (·.key == key)

/-- The value of an option or an operand where it was given last. -/
def value? (fs : Findings) (key : Text) : Option Text := (fs.reverse.find? (·.key == key)).bind (·.value)

end Findings

/-- What reading gives: what was given, the arguments that nothing takes, and the operands without a value. -/
structure Reading where
  found : Findings
  extras : List Text
  missing : List Text
  deriving DecidableEq, Repr

/-- A given option. A request for help and a value that is no choice end the reading. -/
def takeOption (o : OptionDecl) (value : Option Text) : Except ReadingEnd Finding :=
  match o.kind, value with
  | .help, _ => .error .help
  | .choice values, some given =>
    if values.contains given then .ok ⟨o.key, some given⟩ else .error (.error (.notAChoice o given))
  | _, _ => .ok ⟨o.key, value⟩

/-- Options given in one argument. -/
def takeOptions (given : List (OptionDecl × Option Text)) : Except ReadingEnd Findings :=
  given.mapM fun (o, value) => takeOption o value

namespace Reading

/-- A reading after more findings and extras. -/
def after (found : Findings) (extras : List Text) (r : Reading) : Reading :=
  { r with found := found ++ r.found, extras := extras ++ r.extras }

end Reading

/-! ## Reading -/

/-- The operand that comes next. -/
def nextOperand? : List Token → Option Text
  | .operand t :: _ => some t
  | _ => none

/-- What the options of a cluster give, and the number of operands that they use: a value that is not attached is the
operand that comes next. -/
def Cluster.take (c : Cluster) (next : Option Text) : Except ReadingEnd (Findings × Nat) :=
  match c.last with
  | none => do return (← takeOptions c.given, 0)
  | some last =>
    if last.takesValue then
      match next with
      | some t => do return (← takeOptions (c.given ++ [(last, some t)]), 1)
      | none => .error (.error (.valueMissing last))
    else do return (← takeOptions (c.given ++ [(last, none)]), 0)

namespace ArgumentGrammar

/-- Reads tokens, given the names of the operands to come and whether an operand came just before. The separator belongs
to an operand beside it that has a name. -/
def readTokens (g : ArgumentGrammar) : List Text → Bool → List Token → Except ReadingEnd Reading
  | names, _, [] => .ok ⟨[], [], names⟩
  | names, bound, .separator :: ts => do
    let absorbed := bound || (!names.isEmpty && (nextOperand? ts).isSome)
    return (← g.readTokens names false ts).after [] (if absorbed then [] else [separatorText])
  | [], _, .operand t :: ts => do
    return (← g.readTokens [] false ts).after [] [t]
  | name :: names, _, .operand t :: ts => do
    return (← g.readTokens names true ts).after [⟨name, some t⟩] []
  | names, _, .unknown source :: ts => do
    return (← g.readTokens names false ts).after [] [source]
  | names, _, .option name o attached :: ts => do
    let cluster ← (g.clusterOf name o attached).mapError .error
    let (found, used) ← cluster.take (nextOperand? ts)
    return (← g.readTokens names false (ts.drop used)).after found []
termination_by _ _ ts => ts.length
decreasing_by
  all_goals simp only [List.length_cons, List.length_drop]
  all_goals omega

/-- Reads the arguments of a program. -/
def read (g : ArgumentGrammar) (arguments : List Text) : Except ReadingEnd Findings := do
  let ts ← (g.tokens arguments).mapError .error
  let reading ← g.readTokens g.operands false ts
  if !reading.missing.isEmpty then throw (.error (.operandsMissing reading.missing))
  if !reading.extras.isEmpty then throw (.error (.unrecognised reading.extras))
  return reading.found

/-- What is written about an error in the arguments. -/
def errorText (g : ArgumentGrammar) (e : ArgumentError) : Text :=
  g.usage ++ g.program ++ ": error: ".text ++ e.message ++ "\n".text

end ArgumentGrammar

end Stencil
