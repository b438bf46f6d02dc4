set_option autoImplicit false

namespace FactorGraph.Decimal

structure Binary where
  negative : Bool
  mantissa : Nat
  exponent : Int

def Binary.ofFloat? (x : Float) : Option Binary :=
  let bits := x.toBits.toNat
  let fraction : Nat := bits % Nat.pow 2 52
  let biased : Nat := bits / Nat.pow 2 52 % Nat.pow 2 11
  let negative := decide (Nat.pow 2 63 ≤ bits)
  if biased = 2047 then none
  else if biased = 0 then some ⟨negative, fraction, -1074⟩
  else some ⟨negative, fraction + Nat.pow 2 52, (biased : Int) - 1075⟩

def roundQuotient (num den : Nat) : Nat :=
  let q := num / den
  let twice := 2 * (num % den)
  if twice < den then q
  else if den < twice then q + 1
  else if q % 2 = 0 then q else q + 1

def ratioPower (base : Nat) (e : Int) : Nat × Nat := (Nat.pow base e.toNat, Nat.pow base (-e).toNat)

def Binary.shifted (b : Binary) (shift : Int) : Nat × Nat :=
  let two := ratioPower 2 b.exponent
  let ten := ratioPower 10 shift
  (b.mantissa * two.1 * ten.1, two.2 * ten.2)

def Binary.units (b : Binary) (shift : Int) : Nat :=
  let r := b.shifted shift
  roundQuotient r.1 r.2

def Binary.magnitude (b : Binary) : Int :=
  let guess := (((b.mantissa.log2 : Int) + b.exponent) * 1233).fdiv 4096
  let below (k : Int) : Bool :=
    let r := b.shifted (-k)
    decide (r.1 < r.2)
  if below guess then guess - 1 else if below (guess + 1) then guess else guess + 1

end FactorGraph.Decimal
