import VmToolchain.ConstantPool.Basic
import VmToolchain.ModuleFile.Builder

/-! Building a constant pool: each constant is kept once, in the order of first use. -/

namespace VmToolchain

/-- The largest number of constants, whose count is still a number of 32 bits. -/
def maxConstants : Nat := 4294967295

/-- Why a pool cannot be put into a module. -/
inductive EmitError where
  | tooManyConstants (count : Nat)
  | moduleFile (error : ModuleError)
deriving DecidableEq, Repr

/-- The message shown for the error. -/
def EmitError.message : EmitError → String
  | .tooManyConstants count =>
      "too many constants: " ++ count.repr ++ " (max " ++ maxConstants.repr ++ ")"
  | .moduleFile error => error.message

/-- The distinct constants so far; the position of a constant is its id. -/
structure PoolBuilder where
  constants : List Constant
  nodup : constants.Nodup

namespace PoolBuilder

def empty : PoolBuilder :=
  ⟨[], .nil⟩

def size (builder : PoolBuilder) : Nat :=
  builder.constants.length

/-- The id of a constant, if it is there. -/
def get? (builder : PoolBuilder) (constant : Constant) : Option Nat :=
  builder.constants.idxOf? constant

/-- The id of a constant, which is added if it is new. -/
def intern (builder : PoolBuilder) (constant : Constant) : Nat × PoolBuilder :=
  if h : constant ∈ builder.constants then (builder.constants.idxOf constant, builder)
  else
    (builder.size,
      ⟨builder.constants ++ [constant],
        List.nodup_append.mpr
          ⟨builder.nodup, by simp, fun a ha b hb => by
            rw [List.mem_singleton] at hb
            subst hb
            exact fun he => h (he ▸ ha)⟩⟩)

/-- The id of a value's constant; a value that is not known has none and adds none. -/
def internValue (builder : PoolBuilder) (value : TypedValue) : Option Nat × PoolBuilder :=
  match value.constant? with
  | some constant =>
      let (id, builder) := builder.intern constant
      (some id, builder)
  | none => (none, builder)

/-- Adds the constants that are new, in order. -/
def internAll (builder : PoolBuilder) (constants : List Constant) : PoolBuilder :=
  constants.foldl (fun builder constant => (builder.intern constant).2) builder

/-- The number of bytes of the payload, as it is laid out. -/
def encodedSize (builder : PoolBuilder) : Nat :=
  ConstantPool.encodedSize builder.constants

/-- Whether the pool can be the payload of a chunk: the count must have 32 bits and the payload must
not be too large.
-/
def validate (builder : PoolBuilder) : Except EmitError Unit :=
  if maxConstants < builder.size then .error (.tooManyConstants builder.size)
  else if maxPayload < builder.encodedSize then
    .error (.moduleFile (.payloadTooLarge builder.encodedSize))
  else .ok ()

/-- The pool as a payload. -/
def encode (builder : PoolBuilder) : List UInt8 :=
  ConstantPool.encode builder.constants

/-- Adds the pool to a module, if it can be a payload. -/
def writeInto (builder : PoolBuilder) : Building EmitError Unit := do
  liftExcept builder.validate
  (ModuleBuilder.push .constantPool builder.encode).adapt .moduleFile

end PoolBuilder

end VmToolchain
