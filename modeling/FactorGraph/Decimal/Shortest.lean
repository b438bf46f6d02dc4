import FactorGraph.Decimal.Places

set_option autoImplicit false

namespace FactorGraph.Decimal

-- Whether `digits · 10 ^ power` reads back as `b`. The ends of the rounding interval belong to it
-- when the mantissa is even; below a power of two the interval is half as long.
def Binary.readsBack (b : Binary) (digits : Nat) (power : Int) : Bool :=
  let two := ratioPower 2 (b.exponent - 2)
  let ten := ratioPower 10 power
  let candidate := digits * ten.1 * two.2
  let unit := two.1 * ten.2
  let narrow := decide (b.mantissa = Nat.pow 2 52 ∧ -1074 < b.exponent)
  let low := (4 * b.mantissa - (if narrow then 1 else 2)) * unit
  let high := (4 * b.mantissa + 2) * unit
  if b.mantissa % 2 = 0 then decide (low ≤ candidate ∧ candidate ≤ high)
  else decide (low < candidate ∧ candidate < high)

def Binary.neighbours (b : Binary) (power : Int) : List Nat :=
  let r := b.shifted (-power)
  let q := r.1 / r.2
  if 2 * (r.1 % r.2) < r.2 then [q, q + 1] else [q + 1, q]

def Binary.search (b : Binary) (top : Int) : (fuel count : Nat) → Nat × Int
  | 0, _ => (b.units (16 - top), top - 16)
  | fuel + 1, count =>
      let power := top - (count - 1 : Nat)
      match (b.neighbours power).find? (b.readsBack · power) with
      | some digits => (digits, power)
      | none => b.search top fuel (count + 1)

def trim : (fuel : Nat) → Nat × Int → Nat × Int
  | 0, d => d
  | fuel + 1, (digits, power) =>
      if digits % 10 = 0 then trim fuel (digits / 10, power + 1) else (digits, power)

def Binary.shortest (b : Binary) : Nat × Int :=
  if b.mantissa = 0 then (0, 0) else trim 20 (b.search b.magnitude 17 1)

def positional (least : Nat) (digits : Nat) (power : Int) : String :=
  let places := Nat.max least (-power).toNat
  withPoint places (digits * Nat.pow 10 (power + places).toNat)

def plain (x : Float) : String :=
  match Binary.ofFloat? x with
  | none => special x
  | some b =>
      let d := b.shortest
      signed b.negative (positional 0 d.1 d.2)

-- The shortest decimal, with a point at least; magnitudes below `1e-4` and from `1e16` on are
-- written with an exponent.
def general (x : Float) : String :=
  match Binary.ofFloat? x with
  | none => special x
  | some b =>
      let d := b.shortest
      let places := (toString d.1).length - 1
      let top := d.2 + places
      signed b.negative
        (if d.1 ≠ 0 ∧ (top < -4 ∨ 16 ≤ top) then withPoint places d.1 ++ "e" ++ toString top
         else positional 1 d.1 d.2)

end FactorGraph.Decimal
