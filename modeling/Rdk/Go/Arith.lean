import Rdk.Go.Float64

namespace Rdk.Go

-- The value a Go `int64` holds after an operation whose exact result is `x`.
def wrapInt64 (x : Int) : Int := (x + 2 ^ 63) % 2 ^ 64 - 2 ^ 63

-- The value of the conversion `int8(x)`.
def wrapInt8 (x : Int) : Int := (x + 2 ^ 7) % 2 ^ 8 - 2 ^ 7

-- The value of the conversion `int16(x)`.
def wrapInt16 (x : Int) : Int := (x + 2 ^ 15) % 2 ^ 16 - 2 ^ 15

-- `math.MaxInt64`.
def maxInt64 : Int := 2 ^ 63 - 1

-- The number of binary digits of `n`, for `n ≤ fuel`, taken eight at a time while there are
-- more than eight.
def bitLengthAux : Nat → Nat → Nat
  | 0, _ => 0
  | fuel + 1, n =>
    if n < 2 then n
    else if n < 2 ^ 8 then bitLengthAux fuel (n / 2) + 1
    else bitLengthAux fuel (n / 2 ^ 8) + 8

def bitLength (n : Nat) : Nat := bitLengthAux n n

-- `p / r` rounded to the nearest integer, ties to even.
def rne (p r : Nat) : Nat :=
  let q := p / r
  if 2 * (p % r) < r then q
  else if r < 2 * (p % r) then q + 1
  else if q % 2 = 0 then q else q + 1

namespace F64

-- What a bit pattern stands for. A finite value is `(-1) ^ neg * m * 2 ^ e`; zeros have `m = 0`.
inductive Val
  | nan
  | inf (neg : Bool)
  | fin (neg : Bool) (m : Nat) (e : Int)
  deriving DecidableEq, Repr

def expField (x : F64) : Nat := x.magnitude / 2 ^ 52

def fracField (x : F64) : Nat := x.magnitude % 2 ^ 52

-- IEEE 754 binary64: the exponent field 2047 holds the infinities and NaNs, 0 the zeros and the
-- subnormals, whose significand has no hidden bit.
def decode (x : F64) : Val :=
  if expField x = 2047 then (if fracField x = 0 then .inf x.negative else .nan)
  else if expField x = 0 then .fin x.negative (fracField x) (-1074)
  else .fin x.negative (2 ^ 52 + fracField x) ((expField x : Int) - 1075)

-- The float with sign `neg` and the bits `mag` below the sign.
def withSign (neg : Bool) (mag : Nat) : F64 := ofBits (if neg then 2 ^ 63 + mag else mag)

def infBits : Nat := 0x7FF0000000000000

def posInf : F64 := ofBits infBits

-- Whether `d * 2 ^ c ≤ n`. Powers of two are shifts here and below, which compute at any size.
def scaleLe (d : Nat) (c : Int) (n : Nat) : Bool :=
  if 0 ≤ c then d <<< c.toNat ≤ n else d ≤ n <<< (-c).toNat

-- The bits below the sign of `n / d * 2 ^ e` (`n, d > 0`) rounded to nearest, ties to even:
-- the unit in the last place is `2 ^ q`, with `q` the exponent of the leading bit less 52 but
-- at least that of the subnormals. A carry into the next binade moves the exponent up, and a
-- result past the largest finite value is infinity.
def roundBits (n d : Nat) (e : Int) : Nat :=
  let c : Int := (bitLength n : Int) - bitLength d
  let lead : Int := (if scaleLe d c n then c else c - 1) + e
  let q : Int := max (lead - 52) (-1074)
  let m := rne (n <<< (e - q).toNat) (d <<< (q - e).toNat)
  min ((q + 1074).toNat * 2 ^ 52 + m) infBits

-- The signed integer of a sign and a magnitude.
def sval (neg : Bool) (n : Nat) : Int := if neg then -(n : Int) else n

-- IEEE 754 addition, rounding to nearest. Which NaN comes out is left to the platform: the model
-- returns `nan`. An exact zero sum is `+0`, unless both operands are `-0`.
def add (x y : F64) : F64 :=
  match x.decode, y.decode with
  | .nan, _ => nan
  | _, .nan => nan
  | .inf sx, .inf sy => if sx = sy then x else nan
  | .inf _, .fin _ _ _ => x
  | .fin _ _ _, .inf _ => y
  | .fin sx mx ex, .fin sy my ey =>
    if mx = 0 then (if my = 0 then withSign (sx && sy) 0 else y)
    else if my = 0 then x
    else
      let e := min ex ey
      let s := sval sx (mx <<< (ex - e).toNat) + sval sy (my <<< (ey - e).toNat)
      if s = 0 then zero else withSign (decide (s < 0)) (roundBits s.natAbs 1 e)

-- Negation flips the sign bit, of a NaN too.
def neg (x : F64) : F64 := withSign (!x.negative) x.magnitude

def sub (x y : F64) : F64 := add x (neg y)

-- IEEE 754 multiplication, rounding to nearest.
def mul (x y : F64) : F64 :=
  match x.decode, y.decode with
  | .nan, _ => nan
  | _, .nan => nan
  | .inf sx, .inf sy => withSign (sx != sy) infBits
  | .inf sx, .fin sy my _ => if my = 0 then nan else withSign (sx != sy) infBits
  | .fin sx mx _, .inf sy => if mx = 0 then nan else withSign (sx != sy) infBits
  | .fin sx mx ex, .fin sy my ey =>
    if mx = 0 ∨ my = 0 then withSign (sx != sy) 0
    else withSign (sx != sy) (roundBits (mx * my) 1 (ex + ey))

-- IEEE 754 division, rounding to nearest.
def div (x y : F64) : F64 :=
  match x.decode, y.decode with
  | .nan, _ => nan
  | _, .nan => nan
  | .inf _, .inf _ => nan
  | .inf sx, .fin sy _ _ => withSign (sx != sy) infBits
  | .fin sx _ _, .inf sy => withSign (sx != sy) 0
  | .fin sx mx ex, .fin sy my ey =>
    if my = 0 then (if mx = 0 then nan else withSign (sx != sy) infBits)
    else if mx = 0 then withSign (sx != sy) 0
    else withSign (sx != sy) (roundBits mx my (ex - ey))

-- `math.IsInf(x, 1)`.
def isPosInf (x : F64) : Bool := x.decode = .inf false

-- `math.Signbit`.
def signbit (x : F64) : Bool := x.negative

-- `math.Max`: its special cases first, then `if x > y { return x }; return y`.
def max (x y : F64) : F64 :=
  if x.isPosInf || y.isPosInf then posInf
  else if x.isNaN || y.isNaN then nan
  else if eq x zero && eq x y then (if x.signbit then y else x)
  else if lt y x then x
  else y

-- The conversion of a float to `int64`: the value truncated toward zero, or `none` where the
-- Go specification leaves the result to the implementation (NaN, infinities and values out of
-- range).
def toInt64 (x : F64) : Option Int :=
  match x.decode with
  | .fin neg m e =>
    let t := sval neg (if 0 ≤ e then m <<< e.toNat else m >>> (-e).toNat)
    if -2 ^ 63 ≤ t ∧ t < 2 ^ 63 then some t else none
  | _ => none

-- The float nearest to `n`.
def ofNat (n : Nat) : F64 := if n = 0 then zero else ofBits (roundBits n 1 0)

example : ofNat 1 = one ∧ ofNat 2 = two ∧ ofNat 1000 = ofBits 0x408F400000000000 := by decide

-- What `decode` reads: the sign, and the bits below it.
theorem magnitude_lt (x : F64) : x.magnitude < 2 ^ 63 := Nat.mod_lt _ (by decide)

theorem withSign_toNat {s : Bool} {m : Nat} (hm : m < 2 ^ 63) :
    (withSign s m).bits.toNat = if s then 2 ^ 63 + m else m :=
  UInt64.toNat_ofNat_of_lt (by split <;> simp only [UInt64.size] <;> omega)

@[simp]
theorem magnitude_withSign {s : Bool} {m : Nat} (hm : m < 2 ^ 63) :
    (withSign s m).magnitude = m := by
  rw [magnitude, withSign_toNat hm]
  split <;> omega

@[simp]
theorem negative_withSign {s : Bool} {m : Nat} (hm : m < 2 ^ 63) :
    (withSign s m).negative = s := by
  rw [negative, withSign_toNat hm]
  cases s
  · simpa using hm
  · simp

-- The value with the other sign.
def Val.neg : Val → Val
  | .nan => .nan
  | .inf s => .inf (!s)
  | .fin s m e => .fin (!s) m e

theorem decode_neg (x : F64) : (neg x).decode = x.decode.neg := by
  have hm := magnitude_lt x
  simp only [decode, neg, expField, fracField, magnitude_withSign hm, negative_withSign hm]
  split_ifs <;> rfl

@[simp]
theorem decode_zero : zero.decode = .fin false 0 (-1074) := by decide

@[simp]
theorem decode_nan : nan.decode = .nan := by decide

theorem withSign_false_zero : withSign false 0 = zero := rfl

theorem isNaN_of_decode_nan {x : F64} (h : x.decode = .nan) : x.isNaN = true := by
  simp only [decode, expField, fracField] at h
  split_ifs at h with hexp hfrac
  simp only [isNaN, decide_eq_true_eq]
  omega

-- Every NaN bit pattern decodes to NaN, whatever its sign and payload.
theorem decode_of_isNaN {x : F64} (h : x.isNaN = true) : x.decode = .nan := by
  have hm := magnitude_lt x
  simp only [isNaN, decide_eq_true_eq] at h
  have hexp : x.expField = 2047 := by unfold expField; omega
  have hfrac : x.fracField ≠ 0 := by unfold fracField; omega
  simp [decode, hexp, hfrac]

theorem mul_self_of_isNaN {x : F64} (h : x.isNaN = true) : mul x x = nan := by
  simp [mul, decode_of_isNaN h]

-- Adding `+0` on either side gives the same.
theorem add_zero_comm (d : F64) : add d zero = add zero d := by
  unfold add
  rw [decode_zero]
  rcases d.decode with _ | s | ⟨s, m, e⟩
  · rfl
  · rfl
  · by_cases hm : m = 0 <;> simp [hm]

-- `(+0 + d) - d` is `+0` for every `d` that is not NaN or infinite, and NaN otherwise.
theorem sub_add_zero_self (d : F64) :
    sub (add zero d) d = zero ∨ (sub (add zero d) d).decode = .nan := by
  unfold sub
  rcases hd : d.decode with _ | s | ⟨s, m, e⟩
  · right
    simp [add, hd]
  · -- the sum is `d`, and `d + (-d)` is an invalid sum of infinities
    right
    have hsum : add zero d = d := by simp [add, hd]
    simp [hsum, add, hd, decode_neg, Val.neg]
  · left
    by_cases hm : m = 0
    · have hsum : add zero d = zero := by simp [add, hd, hm, withSign_false_zero]
      simp [hsum, add, decode_neg, hd, Val.neg, hm, withSign_false_zero]
    · -- the sum is `d`, and `d + (-d)` cancels exactly
      have hsum : add zero d = d := by simp [add, hd, hm]
      have hcancel : ∀ k : Nat, sval s k + sval (!s) k = 0 := by
        intro k; cases s <;> simp [sval]
      simp [hsum, add, hd, decode_neg, Val.neg, hm, hcancel]

-- `+0 * d` is a zero, or NaN.
theorem mul_zero_left (d : F64) :
    (∃ s, mul zero d = withSign s 0) ∨ (mul zero d).decode = .nan := by
  unfold mul
  rcases d.decode with _ | s | ⟨s, m, e⟩
  · exact .inr (by simp)
  · exact .inr (by simp)
  · exact .inl ⟨false != s, by simp⟩

theorem isPosInf_iff {x : F64} :
    x.isPosInf = true ↔ x.negative = false ∧ x.magnitude = infBits := by
  have hm := magnitude_lt x
  simp only [isPosInf, decode, expField, fracField, infBits]
  split_ifs <;> simp <;> omega

theorem eq_posInf {x : F64} (h : x.isPosInf = true) : x = posInf := by
  obtain ⟨hneg, hmag⟩ := isPosInf_iff.mp h
  simp only [negative, magnitude, decide_eq_false_iff_not, Nat.not_le] at hneg hmag
  have hbits : x.bits.toNat = infBits := by rw [← hmag, Nat.mod_eq_of_lt hneg]
  exact congrArg F64.mk (UInt64.toNat.inj (hbits.trans (UInt64.toNat_ofNat_of_lt (by decide)).symm))

-- Nothing that is not NaN lies above +Inf.
theorem key_le {x : F64} (hx : x.isNaN = false) : x.key ≤ 2 ^ 63 + infBits := by
  simp only [isNaN, decide_eq_false_iff_not, Nat.not_lt] at hx
  unfold key infBits at *
  split <;> omega

theorem key_of_isPosInf {x : F64} (h : x.isPosInf = true) : x.key = 2 ^ 63 + infBits := by
  obtain ⟨hneg, hmag⟩ := isPosInf_iff.mp h
  simp [key, hneg, hmag]

-- `math.Max` returns the larger of two operands that compare.
theorem max_of_lt {x y : F64} (h : lt y x = true) : max x y = x := by
  simp only [lt, Bool.and_eq_true, Bool.not_eq_true', decide_eq_true_eq] at h
  obtain ⟨⟨hy, hx⟩, hkey⟩ := h
  have hyinf : y.isPosInf = false := Bool.eq_false_iff.mpr fun hinf =>
    absurd hkey (by rw [key_of_isPosInf hinf]; exact Nat.not_lt.mpr (key_le hx))
  unfold max
  by_cases hxinf : x.isPosInf = true
  · simp only [hxinf, Bool.true_or, if_true]
    exact (eq_posInf hxinf).symm
  · have hne : eq x y = false := by simp [eq, hx, hy]; omega
    simp [hxinf, hyinf, hx, hy, hne, lt, hkey]

-- `math.Abs`: the sign bit cleared.
def abs (x : F64) : F64 := withSign false x.magnitude

-- Flipping the sign of both factors changes no product, NaN included.
theorem mul_neg_neg (x y : F64) : mul (neg x) (neg y) = mul x y := by
  unfold mul
  rw [decode_neg, decode_neg]
  rcases x.decode with _ | s | ⟨s, m, e⟩ <;> rcases y.decode with _ | t | ⟨t, n, f⟩ <;>
    simp [Val.neg]

-- Not below `+0`: the sign bit clear, or NaN.
def NonNeg (x : F64) : Prop := x.negative = false ∨ x.decode = .nan

theorem negative_of_decode_fin {x : F64} {s : Bool} {m : Nat} {e : Int}
    (h : x.decode = .fin s m e) : x.negative = s := by
  unfold decode at h
  split_ifs at h <;> cases h <;> rfl

theorem roundBits_lt (n d : Nat) (e : Int) : roundBits n d e < 2 ^ 63 :=
  lt_of_le_of_lt (Nat.min_le_right _ _) (by decide)

theorem nonNeg_mul_self (x : F64) : NonNeg (mul x x) := by
  unfold mul
  rcases x.decode with _ | s | ⟨s, m, e⟩
  · exact .inr (by simp)
  · exact .inl (by simp [negative_withSign (show infBits < 2 ^ 63 by decide)])
  · left
    dsimp only
    split_ifs
    · simp [negative_withSign (show 0 < 2 ^ 63 by decide)]
    · simp [negative_withSign (roundBits_lt _ _ _)]

theorem nonNeg_add {x y : F64} (hx : NonNeg x) (hy : NonNeg y) : NonNeg (add x y) := by
  unfold add
  rcases hdx : x.decode with _ | sx | ⟨sx, mx, ex⟩ <;>
    rcases hdy : y.decode with _ | sy | ⟨sy, my, ey⟩
  -- a NaN operand
  iterate 4 exact .inr decode_nan
  · dsimp only
    split
    · exact hx
    · exact .inr decode_nan
  · exact hx
  · exact .inr decode_nan
  · exact hy
  · -- two finite values with their sign bits clear
    have hsx : sx = false := by
      rcases hx with hx | hx <;> simp_all [negative_of_decode_fin hdx]
    have hsy : sy = false := by
      rcases hy with hy | hy <;> simp_all [negative_of_decode_fin hdy]
    subst hsx hsy
    dsimp only
    split_ifs with hmx hmy hmy' hs
    · exact .inl (by simp [negative_withSign (show 0 < 2 ^ 63 by decide)])
    · exact hy
    · exact hx
    · exact .inl rfl
    · left
      rw [negative_withSign (roundBits_lt _ _ _)]
      simp only [sval, Bool.false_eq_true, if_false, decide_eq_false_iff_not, Int.not_lt]
      exact Int.add_nonneg (Int.natCast_nonneg _) (Int.natCast_nonneg _)

theorem lt_zero_of_nonNeg {g : F64} (hg : NonNeg g) : lt g zero = false := by
  rcases hg with hg | hg
  · have hkey : ¬g.key < zero.key := by
      rw [show zero.key = 2 ^ 63 by decide]
      simp [key, hg]
    simp [lt, hkey]
  · simp [lt, isNaN_of_decode_nan hg]

example : div (ofNat 1) (ofNat 3) = ofBits 0x3FD5555555555555 ∧
    add (div (ofNat 1) (ofNat 10)) (div (ofNat 2) (ofNat 10)) = ofBits 0x3FD3333333333334 := by
  decide

end F64

end Rdk.Go
