set_option autoImplicit false

namespace FactorGraph

class Scalar (α : Type) extends
    Zero α, One α, Add α, Sub α, Mul α, Div α, Neg α, LT α, LE α, BEq α, NatCast α,
    OfScientific α where
  decidableLT : DecidableLT α
  decidableLE : DecidableLE α
  sqrt : α → α
  sin : α → α
  cos : α → α
  atan2 : α → α → α
  pi : α
  isFinite : α → Bool

attribute [reducible, instance] Scalar.decidableLT Scalar.decidableLE

namespace Scalar

variable {α : Type} [Scalar α]

-- The distance from one to the next machine number, `2⁻⁵²`.
def epsilon : α := 1 / 4503599627370496.0

-- The least machine number of full precision, `2⁻¹⁰²²`.
def leastNormal : α := 2.2250738585072014e-308

def abs (a : α) : α := if a < 0 then -a else a

-- The larger of two numbers. One that does not compare with itself is passed over.
def max (a b : α) : α := if a ≤ b then b else if a ≤ a then a else b

def min (a b : α) : α := if a ≤ b then a else if b ≤ b then b else a

-- The sum from the left. The empty sum is the zero that adds nothing to a signed zero.
def total : List α → α
  | [] => -0
  | a :: rest => rest.foldl (· + ·) a

end Scalar

instance : Scalar Float where
  zero := 0.0
  one := 1.0
  decidableLT := inferInstance
  decidableLE := inferInstance
  natCast := Float.ofNat
  sqrt := Float.sqrt
  sin := Float.sin
  cos := Float.cos
  atan2 := Float.atan2
  pi := 3.141592653589793
  isFinite := Float.isFinite

end FactorGraph
