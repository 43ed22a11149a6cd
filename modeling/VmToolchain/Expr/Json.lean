import VmToolchain.Expr.Basic
import VmToolchain.Json.Reader

/-! Expressions as JSON. A node is an object with one field, named for the kind of node. The node's
parts are an object or the list of their values in declaration order; reading takes both, writing
gives the object.
-/

namespace VmToolchain

namespace Constant

def toJson : Constant → Json String
  | .int value => .ofInt value.toInt
  | .str value => .text value

/-- The integer that a number stands for: digits alone, within 64 bits, and no negative zero. -/
def integerOf? (literal : String) : Option Int64 :=
  let magnitude? (digits : List Char) : Option Nat :=
    if digits.isEmpty || !digits.all Char.isDigit then none
    else some (digits.foldl (fun n c => 10 * n + (c.toNat - 48)) 0)
  match literal.toList with
  | '-' :: digits => do
      let n ← magnitude? digits
      if 0 < n ∧ n ≤ 0x8000000000000000 then some (Int64.ofInt (-n)) else none
  | digits => do
      let n ← magnitude? digits
      if n < 0x8000000000000000 then some (Int64.ofInt n) else none

def ofJson? : Json (Option String) → Option Constant
  | .number literal => (integerOf? literal).map .int
  | .text content => content.map .str
  | _ => none

end Constant

namespace Json

/-- The parts of a node, in the order of their names: from an object, where other fields are
skipped and no part may occur twice, or from a list, where the last ones may be missing.
-/
def parts? (names : List String)
    : Json (Option String) → Option (List (Option (Json (Option String))))
  | .object fields =>
      if fields.all (fun field => field.1.isSome)
          && names.all (fun name => (fields.filter (fun field => field.1 == some name)).length ≤ 1)
      then
        some (names.map (fun name => (fields.find? (fun field => field.1 == some name)).map (·.2)))
      else none
  | .list items =>
      if items.length ≤ names.length then
        some (items.map some ++ List.replicate (names.length - items.length) none)
      else none
  | _ => none

/-- A name from a closed set: a string, or an object with that name as its one field, which is null.
The object needs one more level of nesting.
-/
def choice? (levels : Nat) : Json (Option String) → Option String
  | .text name => name
  | .object [(some name, .null)] => if 0 < levels then some name else none
  | _ => none

/-- The strings of a list of strings. -/
def strings? : Json (Option String) → Option (List String)
  | .list items => items.mapM (fun item =>
      match item with
      | .text content => content
      | _ => none)
  | _ => none

end Json

namespace Expr

/-- The declared type of a variable; null and a missing part declare none. -/
def declaredType? (levels : Nat) : Option (Json (Option String)) → Option (Option PrimitiveType)
  | none => some none
  | some .null => some none
  | some json => do
      let name ← json.choice? levels
      return some (← PrimitiveType.ofSymbol? name)

/-- The expression that a document describes, where at most the given number of objects and lists
may be open at once. Parts of the document that are skipped do not count.
-/
def ofJson? : Nat → Json (Option String) → Option Expr
  | _ + 1, .object [(some "literal", body)] => (Constant.ofJson? body).map .literal
  | levels + 2, .object [(some "variable", body)] => do
      match ← body.parts? ["name", "ty"] with
      | [some (.text name), type] => return .var (← name) (← declaredType? levels type)
      | _ => none
  | levels + 3, .object [(some "apply", body)] => do
      match ← body.parts? ["op", "operands"] with
      | [some op, some (.list operands)] =>
          let name ← op.choice? (levels + 1)
          return .apply (← Operator.ofName? name) (← operands.mapM (ofJson? levels))
      | _ => none
  | levels + 3, .object [(some "call", body)] => do
      match ← body.parts? ["callee", "args"] with
      | [some callee, some (.list args)] =>
          return .call (← ofJson? (levels + 1) callee) (← args.mapM (ofJson? levels))
      | _ => none
  | levels + 3, .object [(some "lambda", body)] => do
      match ← body.parts? ["params", "body"] with
      | [some params, some inner] =>
          return .lambda (← params.strings?) (← ofJson? (levels + 1) inner)
      | _ => none
  | _, _ => none

/-- The number of objects and lists that a document may have open at once. -/
def maxNesting : Nat := 127

/-- The expression that the bytes are the JSON text of. -/
def parse? (bytes : List UInt8) : Option Expr :=
  (Json.parse? bytes).bind (ofJson? maxNesting)

mutual

def toJson : Expr → Json String
  | .literal value => .object [("literal", value.toJson)]
  | .var name none => .object [("variable", .object [("name", .text name)])]
  | .var name (some type) =>
      .object [("variable", .object [("name", .text name), ("ty", .text type.symbol)])]
  | .apply op operands =>
      .object [("apply", .object [("op", .text op.name), ("operands", .list (toJsonAll operands))])]
  | .call callee args =>
      .object [("call", .object [("callee", callee.toJson), ("args", .list (toJsonAll args))])]
  | .lambda params body =>
      .object [("lambda",
        .object [("params", .list (params.map .text)), ("body", body.toJson)])]

def toJsonAll : List Expr → List (Json String)
  | [] => []
  | e :: rest => e.toJson :: toJsonAll rest

end

/-- The compact JSON text of the expression. -/
def jsonText (e : Expr) : String :=
  e.toJson.render

end Expr

end VmToolchain
