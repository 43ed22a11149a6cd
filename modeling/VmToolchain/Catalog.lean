import VmToolchain.Json.Document
import VmToolchain.Operator
import VmToolchain.PrimitiveType
import VmToolchain.Text.Basic

/-! The catalog of types and operators. -/

namespace VmToolchain.Catalog

/-- A row of the table of types. -/
def typeLine (type : PrimitiveType) : String :=
  "  " ++ Text.padRight 8 type.symbol ++ " " ++ type.category.name ++ "\n"

/-- A row of the table of operators. A call has a pair of quotes for its symbol. -/
def operatorLine (op : Operator) : String :=
  let symbol := if op.symbol = "" then "\"\"" else op.symbol
  let arity := match op.arity with
    | some arity => arity.repr
    | none => "n"
  "  " ++ Text.padRight 13 op.name ++ " " ++ Text.padRight 2 symbol ++ "  arity " ++ arity ++ "  "
    ++ Text.padRight 6 (if op.isLexical then "lexer" else "parser") ++ " "
    ++ (if op.hasRules then "folds" else "no rules") ++ "\n"

/-- The catalog as a table. -/
def text : String :=
  "types:\n" ++ String.join (PrimitiveType.all.map typeLine)
    ++ "\noperators:\n" ++ String.join (Operator.all.map operatorLine)

/-- A type with its category. -/
def typeJson (type : PrimitiveType) : Json String :=
  .object [("name", .text type.symbol), ("category", .text type.category.jsonName)]

/-- An arity that varies is left out. -/
def operatorJson (op : Operator) : Json String :=
  .object
    ([ ("kind", .text op.name), ("symbol", .text op.symbol),
       ("matched_by_lexer", .bool op.isLexical), ("infix", .bool op.isInfix) ]
      ++ (op.arity.map (fun arity => ("arity", .ofInt arity))).toList
      ++ [("has_rules", .bool op.hasRules)])

/-- The catalog as a JSON document. -/
def json : Json String :=
  .object
    [ ("types", .list (PrimitiveType.all.map typeJson)),
      ("operators", .list (Operator.all.map operatorJson)) ]

end VmToolchain.Catalog
