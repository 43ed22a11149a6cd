import VmToolchain.Json.Token

/-! Documents from tokens. The containers that are still open are kept in a list, so that nesting
is limited by memory alone.
-/

namespace VmToolchain.Json

/-- A container that is still open, with what it holds so far in reverse. -/
inductive OpenContainer (τ : Type) where
  | list (items : List (Json τ))
  | object (fields : List (τ × Json τ)) (key : τ)

/-- Reads on with the given containers open, the innermost first. With no finished value a value
is due; with a finished value, what may follow it.
-/
def readTokens? {τ : Type} (containers : List (OpenContainer τ)) (finished : Option (Json τ))
    (tokens : List (Token τ)) : Option (Json τ) :=
  match finished, containers, tokens with
  | none, _, .null :: rest => readTokens? containers (some .null) rest
  | none, _, .bool value :: rest => readTokens? containers (some (.bool value)) rest
  | none, _, .number literal :: rest => readTokens? containers (some (.number literal)) rest
  | none, _, .text content :: rest => readTokens? containers (some (.text content)) rest
  | none, _, .openList :: .closeList :: rest => readTokens? containers (some (.list [])) rest
  | none, _, .openList :: rest => readTokens? (.list [] :: containers) none rest
  | none, _, .openObject :: .closeObject :: rest => readTokens? containers (some (.object [])) rest
  | none, _, .openObject :: .text key :: .colon :: rest =>
      readTokens? (.object [] key :: containers) none rest
  | some value, [], [] => some value
  | some value, .list items :: outer, .comma :: rest =>
      readTokens? (.list (value :: items) :: outer) none rest
  | some value, .list items :: outer, .closeList :: rest =>
      readTokens? outer (some (.list (value :: items).reverse)) rest
  | some value, .object fields key :: outer, .comma :: .text next :: .colon :: rest =>
      readTokens? (.object ((key, value) :: fields) next :: outer) none rest
  | some value, .object fields key :: outer, .closeObject :: rest =>
      readTokens? outer (some (.object ((key, value) :: fields).reverse)) rest
  | _, _, _ => none

/-- The document that the bytes are the text of. The text of a string is missing where its literal
spells none.
-/
def parse? (bytes : List UInt8) : Option (Json (Option String)) :=
  (tokens? bytes).bind (readTokens? [] none)

end VmToolchain.Json
