import Stencil.Terminal.Action.Pattern
import Stencil.Terminal.Action.Quoted

/-!
# The grammar of expressions

* **Rules** (`Rule.pattern`): what matches each rule of expressions. Operators bind as their rules contain each other.
* **Faults** (`badExpressions`, `badArguments`, …): what is known to be wrong, by the place where it is met.
-/

namespace Stencil.Action

open Pattern

/-- An argument that is not by name. -/
def plainItem : Pattern := .first [Rule.assignment, .all [Rule.expression, .notAhead ":="]]

/-- The end of a parameter. -/
def parameterEnd : Pattern := .first [",", .ahead ":"]

/-- The value of a parameter that is not given. -/
def parameterDefault : Pattern :=
  .first [.all ["=", Rule.expression], wrongAs .missingDefault (.all ["=", .ahead (.first [")", ","])])]

/-- A parameter without a value. -/
def plainParameter : Pattern := .all [.name, parameterEnd]

/-- A parameter with a value. -/
def defaultParameter : Pattern := .all [.name, parameterDefault, parameterEnd]

/-- A parameter, perhaps with a value. -/
def anyParameter : Pattern := .all [.name, .optional parameterDefault, parameterEnd]

/-- Parameters without values up to a slash. -/
def plainBeforeSlash : Pattern := .all [.some plainParameter, "/", parameterEnd]

/-- Parameters, the last of which have values, up to a slash. -/
def defaultBeforeSlash : Pattern := .all [.many plainParameter, .some defaultParameter, "/", parameterEnd]

/-- The parameter for all arguments by name. -/
def doubleStarParameter : Pattern :=
  .first
    [wrongAs .doubleStarDefault (.all ["**", .name, "="]),
     wrongAs .afterDoubleStar (.all ["**", .name, ",", .first [.name, "*", "**", "/"]]),
     .all ["**", plainParameter]]

/-- The parameters from a star on. -/
def starParameters : Pattern :=
  let single : Pattern := .first [plainParameter, ","]
  .first
    [wrongAs .bareStar (.all ["*", .first [":", .all [",", .first [":", "**"]]]]),
     wrongAs .starDefault (.all ["*", .name, "="]),
     wrongAs .starTwice (.all ["*", single, .many anyParameter, "*", single]),
     .all ["*", plainParameter, .many anyParameter, .optional doubleStarParameter],
     .all ["*", ",", .some anyParameter, .optional doubleStarParameter],
     doubleStarParameter]

/-- What is wrong with parameters. -/
def badParameters : List Pattern :=
  let beforeSlash : Pattern := .first [plainBeforeSlash, defaultBeforeSlash]
  [wrongAs .plainAfterDefault
     (.all [.many plainParameter, .first [defaultBeforeSlash, .some defaultParameter], plainParameter]),
   wrongAs .parameterBrackets (.all [.many plainParameter, "(", enclosed .name, ")"]),
   wrongAs .slashFirst (.all ["/", ","]),
   wrongAs .slashTwice (.all [beforeSlash, .many anyParameter, "/"]),
   wrongAs .slashAfterStar
     (.all
       [.optional beforeSlash, .many anyParameter, "*", .first [",", plainParameter], .many anyParameter, "/"]),
   wrongAs .missingSlashComma (.all [.some anyParameter, "/", "*"])]

/-- The parameters of a function without a name. -/
def parameters : Pattern :=
  .first
    (badParameters ++
      [.all [plainBeforeSlash, .many plainParameter, .many defaultParameter, .optional starParameters],
       .all [defaultBeforeSlash, .many defaultParameter, .optional starParameters],
       .all [.some plainParameter, .many defaultParameter, .optional starParameters],
       .all [.some defaultParameter, .optional starParameters],
       starParameters])

/-- The signs and words that compare. -/
def comparisons : List (List String) :=
  [["=="], ["!="], ["<="], ["<"], [">="], [">"], ["not", "in"], ["in"], ["is", "not"], ["is"]]

/-- A comparison after its first operand. -/
def compared : Pattern := .first (comparisons.map fun signs => .all (signs.map .sign ++ [.rule .union]))

/-- What is wrong with a pair. -/
def badPairs : List Pattern :=
  [rejectedAs .spreadAsValue (.all [Rule.expression, ":", "*", Rule.union]),
   rejectedAs .missingValue (.all [Rule.expression, ":", .ahead (.first ["\x7d", ","])])]

/-- What is wrong with a filter between brackets. -/
def badFilters (opening targets : List Pattern) : List Pattern :=
  [wrongAs .spreadInFilter (.all [.first opening, Rule.spread, Rule.clauses]),
   wrongAs .openTarget (.all [.first targets, Rule.starItem, ",", Rule.starItems, Rule.clauses]),
   wrongAs .openTarget (.all [.first targets, Rule.starItem, ",", Rule.clauses])]

/-- What is wrong with an argument by name. -/
def badKeys : List Pattern :=
  [.wrong (named .assigned) (.all [.first ["True", "False", "None"], "="]),
   wrongAs .assignedName (.all [.name, "=", Rule.expression, Rule.clauses]),
   wrongAs .assignedArgument (.all [.notAhead (.all [.name, "="]), Rule.expression, "="])]

/-- Arguments that are not by name. -/
def positionalItems : Pattern := listed (.first [Rule.spread, .all [plainItem, .notAhead "="]])

/-- What is wrong with arguments. -/
def badArguments : List Pattern :=
  let before : Pattern := .first [.all [positionalItems, ",", Rule.keyed], Rule.keyed]
  let generator : Pattern := .all [Rule.expression, Rule.clauses]
  [wrongAs .spreadAfterKeys (.all [before, ",", listed (.all [Rule.spread, .notAhead "="])]),
   wrongAs .openGenerator (.all [generator, ",", .optional (.first [Rule.positional, generator])]),
   wrongAs .assignedName (.all [.name, "=", Rule.expression, Rule.clauses]),
   .wrong openGenerator? (.all [Rule.positional, Rule.clauses]),
   wrongAs .openGenerator (.all [Rule.positional, ",", Rule.expression, Rule.clauses]),
   .wrong misplaced? (.all [Rule.positional, ",", Rule.positional])]

/-- An expression without a name for its value. -/
def plainExpression : Pattern :=
  .first [.all [Rule.disjunction, .optional (.all ["if", Rule.disjunction, "else", Rule.expression])], Rule.lambda]

/-- What is wrong with an expression. -/
def badExpressions : List Pattern :=
  [.wrong missingComma?
     (.all
       [.notAhead (.first [.all [.name, .kind .quoted], .softKeyword]), Rule.disjunction, .quietly plainExpression]),
   wrongAs .missingElse (.all [Rule.disjunction, "if", Rule.disjunction, .notAhead (.first ["else", ":"])]),
   .wrong missingCall? (.all [.name, .notAhead "(", Rule.starExpressions])]

/-- What is wrong with an expression that may have a name for its value. -/
def badItems : List Pattern :=
  let fixed : Pattern := .first [Rule.tuple, Rule.generator, "True", "None", "False"]
  let last : Pattern := .notAhead (.first ["=", ":="])
  [.wrong (named .assignedExpression) (.all [Rule.expression, ":=", Rule.expression]),
   wrongAs .assignedName (.all [.name, "=", Rule.union, last]),
   .wrong (named .assignedHere) (.all [.notAhead fixed, Rule.union, "=", Rule.union, last])]

/-- What follows a part of a target that is not its last one. -/
def targetAhead : Pattern := .ahead (.first ["(", "."])

/-- A clause that goes over values, after some words. -/
def clauseAfter (words : List Pattern) (other : Pattern) : Pattern :=
  .decided (.all (words ++ [.rule .targets, .sign "in"]))
    (.all [Rule.disjunction, .many (.all ["if", Rule.disjunction])]) other

/-- What matches a rule. -/
def Rule.pattern : Rule → Pattern
  | whole => .all [expressions, .many (.kind .lineEnd), .kind .finish]
  | expressions => enclosed expression
  | expression => .first (badExpressions ++ [plainExpression])
  | yieldForm => .first [.all ["yield", "from", expression], .all ["yield", .optional starExpressions]]
  | starExpressions => enclosed starExpression
  | starExpression => .first [.all ["*", union], expression]
  | starItems => enclosed starItem
  | starItem => .first [.all ["*", union], item]
  | assignment => .all [.name, ":=", expression]
  | item => .first ([.rule assignment] ++ badItems ++ [.all [expression, .notAhead ":="]])
  | disjunction => operated conjunction ["or"]
  | conjunction => operated inversion ["and"]
  | inversion => .first [.all ["not", inversion], comparison]
  | comparison => .all [union, .many compared]
  | union => operated exclusion ["|"]
  | exclusion => operated intersection ["^"]
  | intersection => operated shift ["&"]
  | shift => operated sum ["<<", ">>"]
  | sum => operated term ["+", "-"]
  | term => operated factor ["*", "/", "//", "%", "@"]
  | factor => .first [.all [.first ["+", "-", "~"], factor], power]
  | power => .all [awaited, .optional (.all ["**", factor])]
  | awaited => .first [.all ["await", primary], primary]
  | primary => .all [atom, .many (.first [member, generator, call])]
  | member => .all [".", .name]
  | call => .all ["(", .optional arguments, ")"]
  | atom =>
    .first
      [.name, "True", "False", "None", quotedTexts, .checked longNumber? (.kind .number),
       .all [.ahead "(", .first [tuple, group, generator]],
       .all [.ahead "\x7b", .first [dictionary, set, dictionaryFilter, setFilter]],
       "..."]
  | group =>
    .first
      [.all ["(", .first [yieldForm, item], ")"],
       wrongAs .spreadInGroup (.all ["(", spread, ")"]),
       wrongAs .doubleSpreadInGroup (.all ["(", "**", expression, ")"])]
  | tuple => .all ["(", .optional (.all [starItem, ",", .optional starItems]), ")"]
  | generator => .first (.all ["(", plainItem, clauses, ")"] :: badFilters ["(", "\x7b"] ["\x7b"])
  | set => .all ["\x7b", starItems, "\x7d"]
  | dictionary =>
    .first
      [.all ["\x7b", .optional pairs, "\x7d"],
       .all
         ["\x7b",
          .first
            (.all [listed pairOrSpread, ",",
                .first (rejectedAs .missingColon (.all [expression, .notAhead ":"]) :: badPairs)]
              :: badPairs)]]
  | setFilter => .first (.all ["\x7b", item, clauses, "\x7d"] :: badFilters ["(", "\x7b"] ["\x7b"])
  | dictionaryFilter =>
    .first
      [.all ["\x7b", pair, clauses, "\x7d"],
       wrongAs .doubleSpreadInFilter (.all ["\x7b", "**", union, clauses, "\x7d"])]
  | pair => .all [expression, ":", expression]
  | pairs => enclosed pairOrSpread
  | pairOrSpread => .first [.all ["**", union], pair]
  | clauses => .some clause
  | clause =>
    clauseAfter ["async", "for"]
      (clauseAfter ["for"] (.wrong badTargets? (.all [.optional "async", "for", starExpressions])))
  | quotedTexts => .checked (badTexts? none) (.some (.kind .quoted))
  | lambda => .all ["lambda", .optional lambdaParameters, ":", expression]
  | lambdaParameters => parameters
  | arguments => .first (.all [positional, .optional ",", .ahead ")"] :: badArguments)
  | positional => .first [.all [positionalItems, .optional (.all [",", keyed])], keyed]
  | keyed =>
    .first
      [.all [listed keyOrSpread, ",", listed keyOrDoubleSpread], listed keyOrSpread, listed keyOrDoubleSpread]
  | spread => .first [.all ["*", expression], rejectedAs .bareSpread "*"]
  | keyOrSpread => .first (badKeys ++ [.all [.name, "=", expression], .rule spread])
  | keyOrDoubleSpread => .first (badKeys ++ [.all [.name, "=", expression], .all ["**", expression]])
  | targets => .first [.all [target, .notAhead ","], enclosed target]
  | target => .first [.all ["*", .notAhead "*", target], targetAtom]
  | targetAtom =>
    .first
      [.all [targetBase, ".", .name, .notAhead (.first ["(", "."])],
       .name,
       .all ["(", targetAtom, ")"],
       .all ["(", .optional (.all [target, ",", .optional (enclosed target)]), ")"]]
  | targetBase => .all [atom, targetAhead, .many (.all [.first [member, generator, call], targetAhead])]

/-- The rules whose matches are remembered. What is found without looking for faults is remembered too. -/
def Rule.isRemembered : Rule → Bool
  | expression | starExpression | disjunction | conjunction | inversion | union | exclusion | intersection | shift | sum
  | term | factor | awaited | primary | quotedTexts | arguments | target | targetAtom | targetBase => true
  | _ => false

end Stencil.Action
