import VmToolchain.Proofs.Evaluation.Values
import VmToolchain.Proofs.Folding.Rewriting
import VmToolchain.Proofs.Json.Numerals

/-! Expressions and their JSON texts. An expression is read back from its text where the text does
not nest too deep. What is read from any text does not nest too deep, and folding deepens nothing.
-/

namespace VmToolchain

open Json

-----------------------------------------------------------------------------------------
-- Names and constants
-----------------------------------------------------------------------------------------

theorem Operator.ofName?_name (op : Operator) : ofName? op.name = some op := by
  cases op <;> rfl

theorem PrimitiveType.ofSymbol?_symbol (type : PrimitiveType)
    : ofSymbol? type.symbol = some type := by
  cases type <;> rfl

theorem Json.strings?_texts (names : List String)
    : strings? (.list (names.map (fun name => .text (some name)))) = some names := by
  rw [strings?]
  induction names with
  | nil => rfl
  | cons name rest ih => simp [ih]

theorem Json.nestingOfItems_texts (names : List String)
    : nestingOfItems (names.map (fun name => .text (some name))) = 0 := by
  induction names with
  | nil => rfl
  | cons name rest ih => simp [nestingOfItems, nesting, ih]

namespace Constant

/-- A constant is read back as it was, a number as an integer and a string as a string. -/
theorem ofJson?_asRead (constant : Constant) : ofJson? constant.toJson.asRead = some constant := by
  cases constant with
  | int value =>
      rw [toJson, Json.ofInt, asRead, ofJson?, integerOf?_repr]
      rfl
  | str value => rfl

theorem isSpelled_toJson (constant : Constant) : constant.toJson.IsSpelled := by
  cases constant with
  | int value => exact isSpelled_ofInt value.toInt
  | str value => exact .text value

theorem nesting_asRead (constant : Constant) : constant.toJson.asRead.nesting = 0 := by
  cases constant with
  | int value => rfl
  | str value => rfl

end Constant

namespace Expr

-----------------------------------------------------------------------------------------
-- The document of an expression
-----------------------------------------------------------------------------------------

/-- The JSON document of the expression, as it is read. -/
def document (e : Expr) : Json (Option String) :=
  e.toJson.asRead

theorem toJsonAll_eq_map (es : List Expr) : toJsonAll es = es.map toJson := by
  induction es with
  | nil => rfl
  | cons e rest ih => rw [toJsonAll, ih, List.map_cons]

theorem document_apply (op : Operator) (operands : List Expr)
    : (Expr.apply op operands).document
      = .object [(some "apply", .object [(some "op", .text (some op.name)),
          (some "operands", .list (operands.map document))])] := by
  simp [document, toJson, asRead, fieldsAsRead, toJsonAll_eq_map, itemsAsRead_eq_map]

theorem document_call (callee : Expr) (args : List Expr)
    : (Expr.call callee args).document
      = .object [(some "call", .object [(some "callee", callee.document),
          (some "args", .list (args.map document))])] := by
  simp [document, toJson, asRead, fieldsAsRead, toJsonAll_eq_map, itemsAsRead_eq_map]

theorem document_lambda (params : List String) (body : Expr)
    : (Expr.lambda params body).document
      = .object [(some "lambda", .object [
          (some "params", .list (params.map (fun name => .text (some name)))),
          (some "body", body.document)])] := by
  simp [document, toJson, asRead, fieldsAsRead, itemsAsRead_eq_map]

-----------------------------------------------------------------------------------------
-- Nesting
-----------------------------------------------------------------------------------------

theorem nesting_literal (value : Constant) : (Expr.literal value).document.nesting = 1 := by
  simp [document, toJson, asRead, fieldsAsRead, nesting, nestingOfFields, Constant.nesting_asRead]

theorem nesting_var (name : String) (type : Option PrimitiveType)
    : (Expr.var name type).document.nesting = 2 := by
  cases type with
  | none => rfl
  | some type => rfl

theorem nesting_apply (op : Operator) (operands : List Expr)
    : (Expr.apply op operands).document.nesting = nestingOfItems (operands.map document) + 3 := by
  simp [document_apply, nesting, nestingOfFields]

theorem nesting_call (callee : Expr) (args : List Expr)
    : (Expr.call callee args).document.nesting
      = max callee.document.nesting (nestingOfItems (args.map document) + 1) + 2 := by
  simp [document_call, nesting, nestingOfFields]

theorem nesting_lambda (params : List String) (body : Expr)
    : (Expr.lambda params body).document.nesting = max 1 body.document.nesting + 2 := by
  simp [document_lambda, nesting, nestingOfFields, nestingOfItems_texts]

-----------------------------------------------------------------------------------------
-- Reading a document back
-----------------------------------------------------------------------------------------

theorem ofJson?_literal (levels : Nat) (value : Constant)
    : ofJson? (levels + 1) (Expr.literal value).document = some (.literal value) := by
  simp [document, toJson, asRead, fieldsAsRead, ofJson?, Constant.ofJson?_asRead]

theorem ofJson?_var (levels : Nat) (name : String) (type : Option PrimitiveType)
    : ofJson? (levels + 2) (Expr.var name type).document = some (.var name type) := by
  cases type with
  | none => simp [document, toJson, asRead, fieldsAsRead, ofJson?, parts?, declaredType?]
  | some type =>
      simp [document, toJson, asRead, fieldsAsRead, ofJson?, parts?, declaredType?, choice?,
        PrimitiveType.ofSymbol?_symbol]

theorem ofJson?_apply (levels : Nat) (op : Operator) (operands : List Expr)
    : ofJson? (levels + 3) (Expr.apply op operands).document
      = ((operands.map document).mapM (ofJson? levels)).bind
          (fun operands => some (.apply op operands)) := by
  simp [document_apply, ofJson?, parts?, choice?, Operator.ofName?_name]

theorem ofJson?_call (levels : Nat) (callee : Expr) (args : List Expr)
    : ofJson? (levels + 3) (Expr.call callee args).document
      = (ofJson? (levels + 1) callee.document).bind (fun callee =>
          ((args.map document).mapM (ofJson? levels)).bind (fun args =>
            some (.call callee args))) := by
  simp [document_call, ofJson?, parts?]

theorem ofJson?_lambda (levels : Nat) (params : List String) (body : Expr)
    : ofJson? (levels + 3) (Expr.lambda params body).document
      = (ofJson? (levels + 1) body.document).bind (fun body => some (.lambda params body)) := by
  simp [document_lambda, ofJson?, parts?, strings?_texts]

/-- The expression is read from its document where the limit allows the document's nesting. -/
def ReadsWithin (e : Expr) : Prop :=
  ∀ levels, ofJson? levels e.document = if e.document.nesting ≤ levels then some e else none

theorem mapM_ofJson? {es : List Expr} (each : ∀ e ∈ es, e.ReadsWithin) (levels : Nat)
    : (es.map document).mapM (ofJson? levels)
      = if nestingOfItems (es.map document) ≤ levels then some es else none := by
  induction es with
  | nil => rfl
  | cons e rest ih =>
      obtain ⟨reads, each⟩ := List.forall_mem_cons.mp each
      simp only [List.map_cons, List.mapM_cons, nestingOfItems, Nat.max_le]
      rw [reads, ih each]
      by_cases first : e.document.nesting ≤ levels
      · by_cases later : nestingOfItems (rest.map document) ≤ levels
        · simp [first, later]
        · simp [first, later]
      · simp [first]

/-- Applications, calls and lambdas need three levels. -/
theorem ofJson?_of_lt {levels : Nat} (few : levels < 3) {key : String}
    (notLiteral : key ≠ "literal") (notVariable : key ≠ "variable") (body : Json (Option String))
    : ofJson? levels (.object [(some key, body)]) = none := by
  match levels with
  | 0 | 1 | 2 => simp [ofJson?, notLiteral, notVariable]

/-- Every expression is read back within the limit, by induction on the tree. -/
theorem readsWithin (e : Expr) : e.ReadsWithin := by
  induction e using treeInduction with
  | literal value =>
      intro levels
      rw [nesting_literal]
      match levels with
      | 0 => rfl
      | levels + 1 => rw [ofJson?_literal, if_pos (Nat.le_add_left 1 levels)]
  | var name type =>
      intro levels
      rw [nesting_var]
      match levels with
      | 0 | 1 => cases type <;> simp [document, toJson, asRead, fieldsAsRead, ofJson?]
      | levels + 2 => rw [ofJson?_var, if_pos (Nat.le_add_left 2 levels)]
  | apply op operands each =>
      intro levels
      rw [nesting_apply]
      rcases Nat.lt_or_ge levels 3 with few | enough
      · have deeper : ¬nestingOfItems (operands.map document) + 3 ≤ levels := by omega
        rw [document_apply, ofJson?_of_lt few (by decide) (by decide), if_neg deeper]
      · obtain ⟨levels, rfl⟩ := Nat.exists_eq_add_of_le' enough
        rw [ofJson?_apply, mapM_ofJson? each]
        by_cases within : nestingOfItems (operands.map document) ≤ levels
        · simp [within]
        · simp [within]
  | call callee args reads each =>
      intro levels
      rw [nesting_call]
      rcases Nat.lt_or_ge levels 3 with few | enough
      · have deeper : ¬max callee.document.nesting (nestingOfItems (args.map document) + 1) + 2
            ≤ levels := by
          omega
        rw [document_call, ofJson?_of_lt few (by decide) (by decide), if_neg deeper]
      · obtain ⟨levels, rfl⟩ := Nat.exists_eq_add_of_le' enough
        have fits : max callee.document.nesting (nestingOfItems (args.map document) + 1) + 2
              ≤ levels + 3
            ↔ callee.document.nesting ≤ levels + 1
              ∧ nestingOfItems (args.map document) ≤ levels := by
          omega
        rw [ofJson?_call, mapM_ofJson? each, reads]
        simp only [fits]
        by_cases first : callee.document.nesting ≤ levels + 1
        · by_cases later : nestingOfItems (args.map document) ≤ levels
          · simp [first, later]
          · simp [first, later]
        · simp [first]
  | lambda params body reads =>
      intro levels
      rw [nesting_lambda]
      rcases Nat.lt_or_ge levels 3 with few | enough
      · have deeper : ¬max 1 body.document.nesting + 2 ≤ levels := by omega
        rw [document_lambda, ofJson?_of_lt few (by decide) (by decide), if_neg deeper]
      · obtain ⟨levels, rfl⟩ := Nat.exists_eq_add_of_le' enough
        have fits : max 1 body.document.nesting + 2 ≤ levels + 3
            ↔ body.document.nesting ≤ levels + 1 := by
          omega
        rw [ofJson?_lambda, reads]
        simp only [fits]
        by_cases within : body.document.nesting ≤ levels + 1
        · simp [within]
        · simp [within]

-----------------------------------------------------------------------------------------
-- Reading a text back
-----------------------------------------------------------------------------------------

theorem isSpelled_toJsonAll {es : List Expr} (each : ∀ e ∈ es, e.toJson.IsSpelled)
    : (Json.list (toJsonAll es)).IsSpelled := by
  rw [toJsonAll_eq_map]
  exact .list (List.forall_mem_map.mpr each)

/-- All numbers in the document of an expression are integers. -/
theorem isSpelled_toJson (e : Expr) : e.toJson.IsSpelled := by
  induction e using treeInduction with
  | literal value => exact .single value.isSpelled_toJson
  | var name type =>
      cases type with
      | none => exact .single (.single (.text name))
      | some type => exact .single (.pair (.text name) (.text type.symbol))
  | apply op operands each =>
      exact .single (.pair (.text op.name) (isSpelled_toJsonAll each))
  | call callee args spelled each =>
      exact .single (.pair spelled (isSpelled_toJsonAll each))
  | lambda params body spelled =>
      have names : (Json.list (params.map .text)).IsSpelled :=
        .list (List.forall_mem_map.mpr (fun name _ => .text name))
      exact .single (.pair names spelled)

theorem parse?_of_nesting (e : Expr)
    : parse? (Text.utf8 e.jsonText) = if e.document.nesting ≤ maxNesting then some e else none := by
  rw [parse?, jsonText, (parse?_render e.isSpelled_toJson).2, Option.bind_some]
  exact e.readsWithin maxNesting

/-- An expression is read back from its compact text where the text never has more than 127 objects
and lists open at once, and else the text is refused. The text of a constant alone is read as that
constant, so that no integer is taken for a string or a string for an integer.
-/
theorem jsonText_reads_back_within_limit (e : Expr) (constant : Constant)
    : (∃ tokens,
        tokens? (Text.utf8 e.jsonText) = some tokens
        ∧ parse? (Text.utf8 e.jsonText) = if mostOpen 0 tokens ≤ 127 then some e else none)
      ∧ (Json.parse? (Text.utf8 constant.toJson.render)).bind Constant.ofJson? = some constant := by
  constructor
  · refine ⟨e.document.tokens, (parse?_render e.isSpelled_toJson).1, ?_⟩
    rw [mostOpen_tokens]
    exact e.parse?_of_nesting
  · rw [(parse?_render constant.isSpelled_toJson).2]
    exact constant.ofJson?_asRead

-----------------------------------------------------------------------------------------
-- Accepted texts
-----------------------------------------------------------------------------------------

theorem nestingOfItems_le_of_mapM {levels : Nat} {items : List (Json (Option String))}
    {es : List Expr}
    (each : ∀ {json e}, ofJson? levels json = some e → e.document.nesting ≤ levels)
    (h : items.mapM (ofJson? levels) = some es)
    : nestingOfItems (es.map document) ≤ levels := by
  induction items generalizing es with
  | nil =>
      cases h
      exact Nat.zero_le levels
  | cons item rest ih =>
      rw [List.mapM_cons] at h
      obtain ⟨e, first, h⟩ := Option.bind_eq_some_iff.mp h
      obtain ⟨later, found, h⟩ := Option.bind_eq_some_iff.mp h
      cases h
      exact Nat.max_le.mpr ⟨each first, ih found⟩

/-- In whatever form an expression is read, its own document nests no deeper than the limit. -/
theorem nesting_le_of_ofJson? {levels : Nat} {json : Json (Option String)} {e : Expr}
    (h : ofJson? levels json = some e)
    : e.document.nesting ≤ levels := by
  induction levels using Nat.strongRecOn generalizing json e with
  | ind levels ih =>
      unfold ofJson? at h
      -- The kinds of nodes in the order in which they are tried. The parts may come from an object
      -- or a list, but the levels left for them are the same.
      split at h
      · obtain ⟨constant, _, rfl⟩ := Option.map_eq_some_iff.mp h
        rw [nesting_literal]
        omega
      · obtain ⟨parts, _, h⟩ := Option.bind_eq_some_iff.mp h
        split at h
        · obtain ⟨name, _, h⟩ := Option.bind_eq_some_iff.mp h
          obtain ⟨type, _, h⟩ := Option.bind_eq_some_iff.mp h
          cases h
          rw [nesting_var]
          omega
        · contradiction
      · obtain ⟨parts, _, h⟩ := Option.bind_eq_some_iff.mp h
        split at h
        · obtain ⟨name, _, h⟩ := Option.bind_eq_some_iff.mp h
          obtain ⟨op, _, h⟩ := Option.bind_eq_some_iff.mp h
          obtain ⟨operands, found, h⟩ := Option.bind_eq_some_iff.mp h
          cases h
          have each := nestingOfItems_le_of_mapM (ih _ (by omega)) found
          rw [nesting_apply]
          omega
        · contradiction
      · obtain ⟨parts, _, h⟩ := Option.bind_eq_some_iff.mp h
        split at h
        · obtain ⟨callee, first, h⟩ := Option.bind_eq_some_iff.mp h
          obtain ⟨args, found, h⟩ := Option.bind_eq_some_iff.mp h
          cases h
          have head := ih _ (by omega) first
          have each := nestingOfItems_le_of_mapM (ih _ (by omega)) found
          rw [nesting_call]
          omega
        · contradiction
      · obtain ⟨parts, _, h⟩ := Option.bind_eq_some_iff.mp h
        split at h
        · obtain ⟨params, _, h⟩ := Option.bind_eq_some_iff.mp h
          obtain ⟨body, inner, h⟩ := Option.bind_eq_some_iff.mp h
          cases h
          have inside := ih _ (by omega) inner
          rw [nesting_lambda]
          omega
        · contradiction
      · contradiction

theorem nestingOfItems_mono {left right : List Expr}
    (h : List.Forall₂ (fun left right => left.document.nesting ≤ right.document.nesting) left right)
    : nestingOfItems (left.map document) ≤ nestingOfItems (right.map document) := by
  induction h with
  | nil => exact Nat.le_refl _
  | cons head _ ih =>
      simp only [List.map_cons, nestingOfItems]
      omega

/-- Folding deepens no document. -/
theorem nesting_congruence (policy : Policy)
    : FoldCongruence policy
        (fun folded e => folded.document.nesting ≤ e.document.nesting) where
  refl e := Nat.le_refl _
  trans := Nat.le_trans
  call {_ _ _ _} callee args := by
    have each := nestingOfItems_mono args
    rw [nesting_call, nesting_call]
    omega
  apply {_ _ _} _ operands := by
    have each := nestingOfItems_mono operands
    rw [nesting_apply, nesting_apply]
    omega
  collapse {_ _ _} _ _ _ := by
    rw [nesting_literal, nesting_apply]
    omega

/-- An expression that was read from any text is read back from its compact text, and so is what it
folds to.
-/
theorem accepted_text_normalises {bytes : List UInt8} {e : Expr} (h : parse? bytes = some e)
    : parse? (Text.utf8 e.jsonText) = some e
      ∧ ∀ policy folded,
          (fold policy e).result = .ok folded
          → parse? (Text.utf8 folded.jsonText) = some folded := by
  obtain ⟨json, _, found⟩ := Option.bind_eq_some_iff.mp h
  have within : e.document.nesting ≤ maxNesting := nesting_le_of_ofJson? found
  constructor
  · rw [parse?_of_nesting, if_pos within]
  · intro policy folded folds
    have shallower := (nesting_congruence policy).related_of_fold e folds
    rw [parse?_of_nesting, if_pos (Nat.le_trans shallower within)]

/-- A sum with blanks, an escaped key, a field that is skipped, the operands before the operator,
and the operator as an object.
-/
def looseSum : String :=
  " \x7b\"\\u0061pply\": \x7b\"note\": [1e5, \x7b\x7d],\n"
    ++ "\"operands\": [\x7b\"literal\": 2\x7d, \x7b\"literal\": -3\x7d],"
    ++ " \"op\": \x7b\"PLUS\": null\x7d\x7d\x7d "

theorem accepted_text_normalises_of_loose_sum
    : parse? (Text.utf8 looseSum) = some (.apply .plus [.int 2, .int (-3)])
      ∧ parse? (Text.utf8 (Expr.apply .plus [.int 2, .int (-3)]).jsonText)
        = some (.apply .plus [.int 2, .int (-3)])
      ∧ parse? (Text.utf8 (Expr.int (-1)).jsonText) = some (.int (-1)) := by
  have read : parse? (Text.utf8 looseSum) = some (.apply .plus [.int 2, .int (-3)]) := rfl
  have folds : (fold .strict (.apply .plus [.int 2, .int (-3)])).result = .ok (.int (-1)) := rfl
  obtain ⟨again, folded⟩ := accepted_text_normalises read
  exact ⟨read, again, folded .strict _ folds⟩

end Expr

end VmToolchain
