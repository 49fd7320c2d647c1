import Mathlib.Algebra.Group.Int

namespace Rdk.Go

-- A Go `float64`, kept as its IEEE 754 bit pattern. The comparisons are here; the arithmetic
-- the code performs is in `Rdk.Go.Arith`.
structure F64 where
  bits : UInt64
  deriving DecidableEq, Repr

namespace F64

def magnitude (x : F64) : Nat := x.bits.toNat % 2 ^ 63

def negative (x : F64) : Bool := 2 ^ 63 ≤ x.bits.toNat

-- All exponent bits set and a nonzero significand.
def isNaN (x : F64) : Bool := 0x7FF0000000000000 < x.magnitude

-- The position on the extended real line: both zeros sit at `2 ^ 63`, and for values that
-- are not NaN the IEEE order is the order of `key`.
def key (x : F64) : Nat := if x.negative then 2 ^ 63 - x.magnitude else 2 ^ 63 + x.magnitude

-- Go's `<` on `float64`: false as soon as one side is NaN.
def lt (x y : F64) : Bool := !x.isNaN && !y.isNaN && decide (x.key < y.key)

-- Go's `==` on `float64`: NaN equals nothing, and `-0 == +0`.
def eq (x y : F64) : Bool := !x.isNaN && !y.isNaN && decide (x.key = y.key)

def ofBits (n : Nat) : F64 := ⟨UInt64.ofNat n⟩

def zero : F64 := ofBits 0

def one : F64 := ofBits 0x3FF0000000000000

def two : F64 := ofBits 0x4000000000000000

def nan : F64 := ofBits 0x7FF8000000000000

example : lt zero one = true ∧ eq (ofBits 0x8000000000000000) zero = true ∧ eq nan nan = false := by
  decide

end F64

-- The value a Go `int32` holds after an operation whose exact result is `x`.
def wrapInt32 (x : Int) : Int := (x + 2 ^ 31) % 2 ^ 32 - 2 ^ 31

theorem wrapInt32_of_lt {x : Int} (h₁ : -2 ^ 31 ≤ x) (h₂ : x < 2 ^ 31) : wrapInt32 x = x := by
  unfold wrapInt32
  omega

end Rdk.Go
