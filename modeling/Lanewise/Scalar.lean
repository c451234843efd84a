/-
# Native scalars

A value of the host program together with its native category. Numbers written
without a declared width are the two untyped categories, which count as `int32`
and `float32`.

Key definitions: `Scalar.dtype`, `Scalar.toInt64`, `Scalar.toBinary64`, `Scalar.isTruthy`.
-/
import Lanewise.DType.Basic
import Lanewise.Binary64.Basic

namespace Lanewise

/-- A native value in its category. -/
inductive Scalar where
  | bool (value : Bool)
  | uint8 (value : UInt8)
  | uint16 (value : UInt16)
  | uint32 (value : UInt32)
  | uint64 (value : UInt64)
  | int8 (value : Int8)
  | int16 (value : Int16)
  | int32 (value : Int32)
  | int64 (value : Int64)
  | float32 (value : Binary32)
  | float64 (value : Binary64)
  | untypedInt (value : Int64)
  | untypedFloat (value : Binary64)
deriving DecidableEq, Repr

namespace Scalar

/-- The type that a literal of this value gets. -/
def dtype : Scalar → DType
  | bool _ => .bool 1
  | uint8 _ => .uint 8
  | uint16 _ => .uint 16
  | uint32 _ => .uint 32
  | uint64 _ => .uint 64
  | int8 _ => .int 8
  | int16 _ => .int 16
  | int32 _ | untypedInt _ => .int 32
  | int64 _ => .int 64
  | float32 _ | untypedFloat _ => .float 32
  | float64 _ => .float 64

theorem dtype_valid (v : Scalar) : v.dtype.Valid := by
  cases v <;> dsimp only [dtype] <;> decide

/-- The float that the value is, as a double; integers and booleans are none. -/
def float? : Scalar → Option Binary64
  | float32 x => some x.widen
  | float64 x | untypedFloat x => some x
  | _ => none

/-- The value is a float, of either width or untyped. -/
def isFloat (v : Scalar) : Bool := v.float?.isSome

/-- The value as a 64-bit integer. Floats lose their fraction, and an unsigned
word of 64 bits keeps its bits. -/
def toInt64 : Scalar → Int64
  | bool b => if b then 1 else 0
  | uint8 v => Int64.ofNat v.toNat
  | uint16 v => Int64.ofNat v.toNat
  | uint32 v => Int64.ofNat v.toNat
  | uint64 v => Int64.ofNat v.toNat
  | int8 v => v.toInt64
  | int16 v => v.toInt64
  | int32 v => v.toInt64
  | int64 v | untypedInt v => v
  | float32 x => x.widen.toInt64
  | float64 x | untypedFloat x => x.toInt64

/-- The value as a double, integers by way of `toInt64`. -/
def toBinary64 (v : Scalar) : Binary64 :=
  v.float?.getD (.ofInt v.toInt64.toInt)

/-- The value is not zero; no fraction is lost first. -/
def isTruthy (v : Scalar) : Bool :=
  match v.float? with
  | some x => !x.isZero
  | none => v.toInt64 ≠ 0

example : (uint64 0xffffffffffffffff).toInt64 = -1 := by decide

end Scalar

end Lanewise
