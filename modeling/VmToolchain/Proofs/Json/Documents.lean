import VmToolchain.Json.Reader
import VmToolchain.Proofs.Json.Lexing

/-! Reading documents back from their text. The text of a document has the tokens of the document,
and reading these tokens gives the document, whatever containers are open around it.
-/

namespace VmToolchain.Json

open Text Lexer

variable {τ : Type}

/-- Induction on a document, the hypotheses for items and fields told by membership. -/
@[elab_as_elim]
theorem treeInduction {motive : Json τ → Prop} (null : motive .null)
    (bool : ∀ value, motive (.bool value)) (number : ∀ literal, motive (.number literal))
    (text : ∀ content, motive (.text content))
    (list : ∀ items, (∀ item ∈ items, motive item) → motive (.list items))
    (object : ∀ fields, (∀ field ∈ fields, motive field.2) → motive (.object fields))
    (json : Json τ)
    : motive json := by
  cases json with
  | null => exact null
  | bool value => exact bool value
  | number literal => exact number literal
  | text content => exact text content
  | list items =>
      exact list items (fun item member => treeInduction null bool number text list object item)
  | object fields =>
      refine object fields (fun field member => ?_)
      obtain ⟨key, value⟩ := field
      have part : sizeOf value < sizeOf (key, value) := by
        rw [Prod.mk.sizeOf_spec]
        omega
      have smaller := Nat.lt_trans part (List.sizeOf_lt_of_mem member)
      exact treeInduction null bool number text list object value
termination_by sizeOf json

-----------------------------------------------------------------------------------------
-- The tokens of a document
-----------------------------------------------------------------------------------------

mutual

/-- The tokens of the document. -/
def tokens : Json τ → List (Token τ)
  | .null => [.null]
  | .bool value => [.bool value]
  | .number literal => [.number literal]
  | .text content => [.text content]
  | .list [] => [.openList, .closeList]
  | .list (item :: rest) => .openList :: (item.tokens ++ (laterItemTokens rest ++ [.closeList]))
  | .object [] => [.openObject, .closeObject]
  | .object ((key, value) :: rest) =>
      .openObject :: .text key :: .colon
        :: (value.tokens ++ (laterFieldTokens rest ++ [.closeObject]))

/-- The items behind the first one. -/
def laterItemTokens : List (Json τ) → List (Token τ)
  | [] => []
  | item :: rest => .comma :: (item.tokens ++ laterItemTokens rest)

/-- The fields behind the first one. -/
def laterFieldTokens : List (τ × Json τ) → List (Token τ)
  | [] => []
  | (key, value) :: rest => .comma :: .text key :: .colon :: (value.tokens ++ laterFieldTokens rest)

end

/-- A value is due behind the bracket that opens a list, unless the list ends there. -/
theorem readTokens?_openList (containers : List (OpenContainer τ)) (json : Json τ)
    (rest : List (Token τ))
    : readTokens? containers none (.openList :: (json.tokens ++ rest))
      = readTokens? (.list [] :: containers) none (json.tokens ++ rest) := by
  unfold tokens
  split <;> rfl

/-- Reading the tokens of a value finishes the value. -/
def ReadsBack (json : Json τ) : Prop :=
  ∀ containers rest,
    readTokens? containers none (json.tokens ++ rest) = readTokens? containers (some json) rest

theorem readTokens?_laterItems {items : List (Json τ)} (each : ∀ item ∈ items, item.ReadsBack)
    (earlier : List (Json τ)) (item : Json τ) (outer : List (OpenContainer τ))
    (rest : List (Token τ))
    : readTokens? (.list earlier :: outer) (some item)
          (laterItemTokens items ++ .closeList :: rest)
      = readTokens? outer (some (.list (earlier.reverse ++ item :: items))) rest := by
  induction items generalizing earlier item with
  | nil => simp [laterItemTokens, readTokens?]
  | cons next later ih =>
      obtain ⟨reads, each⟩ := List.forall_mem_cons.mp each
      rw [laterItemTokens, List.cons_append, List.append_assoc, readTokens?, reads, ih each]
      simp

theorem readTokens?_laterFields {fields : List (τ × Json τ)}
    (each : ∀ field ∈ fields, field.2.ReadsBack) (earlier : List (τ × Json τ)) (key : τ)
    (value : Json τ) (outer : List (OpenContainer τ)) (rest : List (Token τ))
    : readTokens? (.object earlier key :: outer) (some value)
          (laterFieldTokens fields ++ .closeObject :: rest)
      = readTokens? outer (some (.object (earlier.reverse ++ (key, value) :: fields))) rest := by
  induction fields generalizing earlier key value with
  | nil => simp [laterFieldTokens, readTokens?]
  | cons next later ih =>
      obtain ⟨nextKey, nextValue⟩ := next
      obtain ⟨reads, each⟩ := List.forall_mem_cons.mp each
      simp only [laterFieldTokens, List.cons_append, List.append_assoc]
      rw [readTokens?, reads, ih each]
      simp

/-- Every value is read back from its tokens. -/
theorem readsBack (json : Json τ) : json.ReadsBack := by
  induction json using treeInduction with
  | null | bool value | number literal | text content =>
      intro containers rest
      rfl
  | list items each =>
      intro containers rest
      cases items with
      | nil => rfl
      | cons item later =>
          obtain ⟨reads, each⟩ := List.forall_mem_cons.mp each
          simp only [tokens, List.cons_append, List.append_assoc, List.nil_append]
          rw [readTokens?_openList, reads, readTokens?_laterItems each]
          rfl
  | object fields each =>
      intro containers rest
      cases fields with
      | nil => rfl
      | cons field later =>
          obtain ⟨key, value⟩ := field
          obtain ⟨reads, each⟩ := List.forall_mem_cons.mp each
          simp only [tokens, List.cons_append, List.append_assoc, List.nil_append]
          rw [readTokens?, reads, readTokens?_laterFields each]
          rfl

theorem readTokens?_tokens (json : Json τ) : readTokens? [] none json.tokens = some json := by
  have reads := json.readsBack [] []
  rw [List.append_nil] at reads
  exact reads

-----------------------------------------------------------------------------------------
-- The text of a document
-----------------------------------------------------------------------------------------

mutual

/-- The document as it is read, where every string has a text. -/
def asRead : Json String → Json (Option String)
  | .null => .null
  | .bool value => .bool value
  | .number literal => .number literal
  | .text content => .text (some content)
  | .list items => .list (itemsAsRead items)
  | .object fields => .object (fieldsAsRead fields)

def itemsAsRead : List (Json String) → List (Json (Option String))
  | [] => []
  | item :: rest => item.asRead :: itemsAsRead rest

def fieldsAsRead : List (String × Json String) → List (Option String × Json (Option String))
  | [] => []
  | (key, value) :: rest => (some key, value.asRead) :: fieldsAsRead rest

end

theorem itemsAsRead_eq_map (items : List (Json String)) : itemsAsRead items = items.map asRead := by
  induction items with
  | nil => rfl
  | cons item rest ih => rw [itemsAsRead, ih, List.map_cons]

/-- The numbers of the document are written as numbers are. -/
inductive IsSpelled : Json String → Prop where
  | null : IsSpelled .null
  | bool (value : Bool) : IsSpelled (.bool value)
  | number {literal : String} (numeral : isNumber literal.toList = true)
      (letters : literal.toList.all isWordChar = true) : IsSpelled (.number literal)
  | text (content : String) : IsSpelled (.text content)
  | list {items : List (Json String)} (each : ∀ item ∈ items, IsSpelled item)
      : IsSpelled (.list items)
  | object {fields : List (String × Json String)} (each : ∀ field ∈ fields, IsSpelled field.2)
      : IsSpelled (.object fields)

theorem IsSpelled.single {key : String} {value : Json String} (h : value.IsSpelled)
    : (Json.object [(key, value)]).IsSpelled :=
  .object (List.forall_mem_singleton.mpr h)

theorem IsSpelled.pair {first second : String} {left right : Json String} (hl : left.IsSpelled)
    (hr : right.IsSpelled)
    : (Json.object [(first, left), (second, right)]).IsSpelled :=
  .object (List.forall_mem_cons.mpr ⟨hl, List.forall_mem_singleton.mpr hr⟩)

/-- Behind any text that ends between tokens, the text of the document has its tokens. -/
def Lexes (json : Json String) : Prop :=
  ∀ {out : String} {earlier : List (Token (Option String))},
    Between out earlier → tokens? (utf8 (json.write out)) = some (earlier ++ json.asRead.tokens)

theorem tokens?_writeItems {item : Json String} {items : List (Json String)} (first : item.Lexes)
    (each : ∀ item ∈ items, item.Lexes) {out : String} {earlier : List (Token (Option String))}
    (h : Between out earlier)
    : tokens? (utf8 (writeItems out (item :: items)))
      = some (earlier ++ (item.asRead.tokens ++ laterItemTokens (itemsAsRead items))) := by
  induction items generalizing item out earlier with
  | nil => simpa [writeItems, itemsAsRead, laterItemTokens] using first h
  | cons next later ih =>
      obtain ⟨second, each⟩ := List.forall_mem_cons.mp each
      have comma : Between (item.write out ++ ",") (earlier ++ item.asRead.tokens ++ [.comma]) :=
        between_push (first h) rfl
      simpa [writeItems, itemsAsRead, laterItemTokens] using ih second each comma

theorem between_key {out : String} {earlier : List (Token (Option String))}
    (h : Between out earlier) (key : String)
    : Between (writeLiteral out key ++ ":") (earlier ++ [.text (some key)] ++ [.colon]) := by
  have name := between_writeLiteral (tokens?_of_between h) key
  exact between_push (tokens?_of_between name) rfl

theorem tokens?_writeFields {key : String} {value : Json String}
    {fields : List (String × Json String)} (first : value.Lexes)
    (each : ∀ field ∈ fields, field.2.Lexes) {out : String}
    {earlier : List (Token (Option String))} (h : Between out earlier)
    : tokens? (utf8 (writeFields out ((key, value) :: fields)))
      = some (earlier ++ .text (some key) :: .colon
          :: (value.asRead.tokens ++ laterFieldTokens (fieldsAsRead fields))) := by
  have written := first (between_key h key)
  induction fields generalizing key value out earlier with
  | nil => simpa [writeFields, fieldsAsRead, laterFieldTokens] using written
  | cons next later ih =>
      obtain ⟨nextKey, nextValue⟩ := next
      obtain ⟨second, each⟩ := List.forall_mem_cons.mp each
      have comma : Between (value.write (writeLiteral out key ++ ":") ++ ",")
          (earlier ++ [.text (some key)] ++ [.colon] ++ value.asRead.tokens ++ [.comma]) :=
        between_push written rfl
      simpa [writeFields, fieldsAsRead, laterFieldTokens]
        using ih second each comma (second (between_key comma nextKey))

/-- None of the three words is a number. -/
theorem wordToken?_of_isNumber {word : List Char} (numeral : isNumber word = true)
    : wordToken? word = some (.number (String.ofList word) : Token τ) := by
  have other (reserved : List Char) (h : isNumber reserved = false) : word ≠ reserved := by
    intro same
    rw [same, h] at numeral
    contradiction
  rw [wordToken?, if_neg (other _ rfl), if_neg (other _ rfl), if_neg (other _ rfl), if_pos numeral]

/-- The text of a document has the document's tokens, by induction on the document. -/
theorem IsSpelled.lexes {json : Json String} (h : json.IsSpelled) : json.Lexes := by
  induction h with
  | null =>
      intro out earlier between
      exact tokens?_append_word between (by decide) rfl
  | bool value =>
      intro out earlier between
      cases value with
      | false => exact tokens?_append_word between (by decide) rfl
      | true => exact tokens?_append_word between (by decide) rfl
  | @number literal numeral letters =>
      intro out earlier between
      have word : wordToken? literal.toList = some (.number literal : Token (Option String)) := by
        rw [wordToken?_of_isNumber numeral, String.ofList_toList]
      exact tokens?_append_word between letters word
  | text content =>
      intro out earlier between
      exact tokens?_of_between (between_writeLiteral (tokens?_of_between between) content)
  | @list items each ih =>
      intro out earlier between
      have opened : Between (out ++ "[") (earlier ++ [.openList]) :=
        between_push (tokens?_of_between between) rfl
      cases items with
      | nil =>
          have closed : Between (out ++ "[" ++ "]") _ :=
            between_push (tokens?_of_between opened) rfl
          simpa [write, writeItems, asRead, itemsAsRead, tokens] using tokens?_of_between closed
      | cons item later =>
          obtain ⟨first, rest⟩ := List.forall_mem_cons.mp ih
          have closed : Between (writeItems (out ++ "[") (item :: later) ++ "]") _ :=
            between_push (tokens?_writeItems first rest opened) rfl
          simpa [write, asRead, itemsAsRead, tokens] using tokens?_of_between closed
  | @object fields each ih =>
      intro out earlier between
      have opened : Between (out ++ "\x7b") (earlier ++ [.openObject]) :=
        between_push (tokens?_of_between between) rfl
      cases fields with
      | nil =>
          have closed : Between (out ++ "\x7b" ++ "\x7d") _ :=
            between_push (tokens?_of_between opened) rfl
          simpa [write, writeFields, asRead, fieldsAsRead, tokens] using tokens?_of_between closed
      | cons field later =>
          obtain ⟨key, value⟩ := field
          obtain ⟨first, rest⟩ := List.forall_mem_cons.mp ih
          have closed : Between (writeFields (out ++ "\x7b") ((key, value) :: later) ++ "\x7d") _ :=
            between_push (tokens?_writeFields first rest opened) rfl
          simpa [write, asRead, fieldsAsRead, tokens] using tokens?_of_between closed

/-- A document is read back from its text. -/
theorem parse?_render {json : Json String} (h : json.IsSpelled)
    : tokens? (utf8 json.render) = some json.asRead.tokens
      ∧ Json.parse? (utf8 json.render) = some json.asRead := by
  have lexed : tokens? (utf8 json.render) = some json.asRead.tokens := h.lexes between_empty
  refine ⟨lexed, ?_⟩
  rw [parse?, lexed, Option.bind_some, readTokens?_tokens]

-----------------------------------------------------------------------------------------
-- Nesting
-----------------------------------------------------------------------------------------

/-- The most objects and lists that the tokens have open at once, some being open before them. -/
def mostOpen (opened : Nat) : List (Token τ) → Nat
  | [] => opened
  | .openList :: rest | .openObject :: rest => mostOpen (opened + 1) rest
  | .closeList :: rest | .closeObject :: rest => max opened (mostOpen (opened - 1) rest)
  | _ :: rest => mostOpen opened rest

mutual

/-- The most objects and lists of the document that lie within each other. -/
def nesting : Json τ → Nat
  | .null | .bool _ | .number _ | .text _ => 0
  | .list items => nestingOfItems items + 1
  | .object fields => nestingOfFields fields + 1

def nestingOfItems : List (Json τ) → Nat
  | [] => 0
  | item :: rest => max item.nesting (nestingOfItems rest)

def nestingOfFields : List (τ × Json τ) → Nat
  | [] => 0
  | (_, value) :: rest => max value.nesting (nestingOfFields rest)

end

theorem le_mostOpen (opened : Nat) (tokens : List (Token τ)) : opened ≤ mostOpen opened tokens := by
  induction tokens generalizing opened with
  | nil => exact Nat.le_refl opened
  | cons token rest ih =>
      cases token with
      | openList | openObject => exact Nat.le_of_succ_le (ih (opened + 1))
      | closeList | closeObject => exact Nat.le_max_left opened _
      | comma | colon | null | bool _ | number _ | text _ => exact ih opened

/-- The tokens of a value open what the value nests, on top of what is open around it. -/
def OpensNesting (json : Json τ) : Prop :=
  ∀ opened rest,
    mostOpen opened (json.tokens ++ rest) = max (opened + json.nesting) (mostOpen opened rest)

theorem mostOpen_laterItems {items : List (Json τ)} (each : ∀ item ∈ items, item.OpensNesting)
    (opened : Nat) (rest : List (Token τ))
    : mostOpen (opened + 1) (laterItemTokens items ++ .closeList :: rest)
      = max (opened + 1 + nestingOfItems items) (mostOpen opened rest) := by
  induction items with
  | nil => rfl
  | cons item later ih =>
      obtain ⟨opens, each⟩ := List.forall_mem_cons.mp each
      simp only [laterItemTokens, List.cons_append, List.append_assoc, mostOpen, nestingOfItems]
      rw [opens, ih each]
      omega

theorem mostOpen_laterFields {fields : List (τ × Json τ)}
    (each : ∀ field ∈ fields, field.2.OpensNesting) (opened : Nat) (rest : List (Token τ))
    : mostOpen (opened + 1) (laterFieldTokens fields ++ .closeObject :: rest)
      = max (opened + 1 + nestingOfFields fields) (mostOpen opened rest) := by
  induction fields with
  | nil => rfl
  | cons field later ih =>
      obtain ⟨key, value⟩ := field
      obtain ⟨opens, each⟩ := List.forall_mem_cons.mp each
      change value.OpensNesting at opens
      simp only [laterFieldTokens, List.cons_append, List.append_assoc, mostOpen, nestingOfFields]
      rw [opens, ih each]
      omega

theorem opensNesting (json : Json τ) : json.OpensNesting := by
  induction json using treeInduction with
  | null | bool value | number literal | text content =>
      intro opened rest
      exact (Nat.max_eq_right (le_mostOpen opened rest)).symm
  | list items each =>
      intro opened rest
      cases items with
      | nil => rfl
      | cons item later =>
          obtain ⟨opens, each⟩ := List.forall_mem_cons.mp each
          simp only [tokens, List.cons_append, List.append_assoc, List.nil_append, mostOpen,
            nesting, nestingOfItems]
          rw [opens, mostOpen_laterItems each]
          omega
  | object fields each =>
      intro opened rest
      cases fields with
      | nil => rfl
      | cons field later =>
          obtain ⟨key, value⟩ := field
          obtain ⟨opens, each⟩ := List.forall_mem_cons.mp each
          change value.OpensNesting at opens
          simp only [tokens, List.cons_append, List.append_assoc, List.nil_append, mostOpen,
            nesting, nestingOfFields]
          rw [opens, mostOpen_laterFields each]
          omega

theorem mostOpen_tokens (json : Json τ) : mostOpen 0 json.tokens = json.nesting := by
  have opens := json.opensNesting 0 []
  rw [List.append_nil] at opens
  simpa [mostOpen] using opens

end VmToolchain.Json
