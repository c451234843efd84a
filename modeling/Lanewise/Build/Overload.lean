/-
# Operators on builds

Builds are written with the usual operators: `(x + 1) * y` is the build of a
product whose left operand is the build of a sum. The operands are built from
left to right. Here `%` is the remainder of a division towards minus infinity,
and `~~~` the bitwise complement.
-/
import Lanewise.Build.Operator

namespace Lanewise.Build

instance : Coe Expr (BuildM Expr) := ⟨pure⟩

instance (n : Nat) : OfNat (BuildM Expr) n := ⟨constant (.untypedInt (Int64.ofNat n))⟩

/-- The builder `f` on operands that are themselves builds. -/
def onBuilds (f : Expr → Expr → BuildM Expr) (a b : BuildM Expr) : BuildM Expr := do
  let x ← a
  let y ← b
  f x y

instance : Add (BuildM Expr) := ⟨onBuilds (binary .add)⟩

instance : Sub (BuildM Expr) := ⟨onBuilds (binary .sub)⟩

instance : Mul (BuildM Expr) := ⟨onBuilds (binary .mul)⟩

instance : Div (BuildM Expr) := ⟨onBuilds (binary .div)⟩

instance : Mod (BuildM Expr) := ⟨onBuilds (binary .floorMod)⟩

instance : Neg (BuildM Expr) := ⟨fun a => a >>= neg⟩

instance : AndOp (BuildM Expr) := ⟨onBuilds (bitwise .and)⟩

instance : OrOp (BuildM Expr) := ⟨onBuilds (bitwise .or)⟩

instance : XorOp (BuildM Expr) := ⟨onBuilds (bitwise .xor)⟩

instance : ShiftLeft (BuildM Expr) := ⟨onBuilds (bitwise .shiftLeft)⟩

instance : ShiftRight (BuildM Expr) := ⟨onBuilds (bitwise .shiftRight)⟩

instance : Complement (BuildM Expr) := ⟨fun a => a >>= bitwiseNot⟩

end Lanewise.Build
