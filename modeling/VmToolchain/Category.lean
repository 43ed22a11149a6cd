/-! Type categories: what the type rules know about a value. -/

namespace VmToolchain

/-- The kind of type a value has, as far as it is known. -/
inductive Category where
  | integral
  | stringLike
  | unknown
deriving DecidableEq, Repr

namespace Category

/-- All categories, in the order in which they are listed. -/
def all : List Category :=
  [.integral, .stringLike, .unknown]

/-- The name shown in messages and listings. -/
def name : Category → String
  | .integral => "integral"
  | .stringLike => "string-like"
  | .unknown => "unknown"

/-- The name used in JSON. -/
def jsonName : Category → String
  | .integral => "integral"
  | .stringLike => "string_like"
  | .unknown => "unknown"

/-- Whether values of the category are integers. -/
def isIntegral (category : Category) : Bool :=
  category == .integral

/-- Whether the category tells anything. -/
def isKnown (category : Category) : Bool :=
  category != .unknown

end Category

end VmToolchain
