/-
# The shortest decimal that reads back

A double stands for all numbers that round to it: an interval between the
midpoints to its neighbours, which belong to it when its mantissa is even. The
shortest decimal in that interval lies on the coarsest decimal grid that meets
the interval. It is looked for from a grid too coarse for the interval
downwards; on each grid only the two points next to the double itself can be
the nearest.

Key definitions: `Decimal.Around`, `Decimal.Around.hit?`, `Decimal.shortest`.
-/
import Lanewise.Decimal.Basic

namespace Lanewise.Decimal

/-- A number `value` and the ends `low` and `high` of what rounds to it, all as
multiples of `2 ^ exponent`. -/
structure Around where
  low : Nat
  value : Nat
  high : Nat
  /-- The ends belong to the interval. -/
  closed : Bool
  exponent : Int

namespace Around

/-- The numbers that round to `mantissa * 2 ^ exponent`. The neighbour below
the lowest mantissa of a binade, `narrow`, is only half as far away. -/
def ofDouble (mantissa : Nat) (exponent : Int) (narrow : Bool) : Around where
  low := 4 * mantissa - if narrow then 1 else 2
  value := 4 * mantissa
  high := 4 * mantissa + 2
  closed := mantissa % 2 = 0
  exponent := exponent - 2

/-- `n * 2 ^ exponent`, multiplied by the powers of two and ten that make this
and `10 ^ place` whole; `unit` is `10 ^ place` after the same. -/
def scaled (a : Around) (place : Int) (n : Nat) : Nat :=
  n * Nat.pow 2 a.exponent.toNat * Nat.pow 10 (-place).toNat

@[inherit_doc scaled]
def unit (a : Around) (place : Int) : Nat :=
  Nat.pow 2 (-a.exponent).toNat * Nat.pow 10 place.toNat

/-- The multiple of `10 ^ place` just below the value, or the one above it. -/
def below (a : Around) (place : Int) : Nat := a.scaled place a.value / a.unit place

/-- The `n`-th multiple of `10 ^ place` rounds to the value. -/
def contains (a : Around) (place : Int) (n : Nat) : Bool :=
  let x := n * a.unit place
  let low := a.scaled place a.low
  let high := a.scaled place a.high
  if a.closed then low ≤ x && x ≤ high else low < x && x < high

/-- Of the two multiples of `10 ^ place` around the value the nearer one; when
both are as near, the larger one. -/
def nearest (a : Around) (place : Int) : Nat :=
  let n := a.below place
  if 2 * a.scaled place a.value < (2 * n + 1) * a.unit place then n else n + 1

/-- The multiple of `10 ^ place` that stands for the value, if one does. -/
def hit? (a : Around) (place : Int) : Option Nat :=
  let n := a.below place
  match a.contains place n, a.contains place (n + 1) with
  | true, true => some (a.nearest place)
  | true, false => some n
  | false, true => some (n + 1)
  | false, false => none

/-- A place such that the unit of every higher one is above the interval. -/
def topPlace (a : Around) : Int :=
  ((a.high.log2 : Int) + 1 + a.exponent) * 30103 / 100000 + 1

/-- The first hit on the grids from `place` downwards, of which `n` are tried. -/
def search (a : Around) : Nat → Int → Decimal
  | 0, place => ⟨a.nearest place, place⟩
  | n + 1, place =>
    match a.hit? place with
    | some m => ⟨m, place⟩
    | none => a.search n (place - 1)

end Around

/-- The shortest decimal that rounds to `mantissa * 2 ^ exponent`, a positive
double. Seventeen digits always do, and the search starts at most two places
above the first of them. -/
def shortest (mantissa : Nat) (exponent : Int) (narrow : Bool) : Decimal :=
  let a := Around.ofDouble mantissa exponent narrow
  a.search 20 a.topPlace

example : shortest 0x1999999999999a (-56) false = ⟨1, -1⟩ := by decide +kernel

example : shortest 1 (-1074) false = ⟨5, -324⟩ := by decide +kernel

end Lanewise.Decimal
