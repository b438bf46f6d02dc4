import FactorGraph.Decimal.Binary

set_option autoImplicit false

namespace FactorGraph.Decimal

def padLeft (width : Nat) (fill : Char) (s : String) : String :=
  String.ofList (List.replicate (width - s.length) fill) ++ s

def special (x : Float) : String :=
  if x.isNaN then "NaN" else if x < 0 then "-inf" else "inf"

def signed (negative : Bool) (digits : String) : String :=
  if negative then "-" ++ digits else digits

def withPoint (places : Nat) (digits : Nat) : String :=
  if places = 0 then toString digits
  else
    let whole := toString (digits / Nat.pow 10 places)
    whole ++ "." ++ padLeft places '0' (toString (digits % Nat.pow 10 places))

def fixed (places : Nat) (x : Float) : String :=
  match Binary.ofFloat? x with
  | none => special x
  | some b => signed b.negative (withPoint places (b.units places))

def Binary.leading (b : Binary) (places : Nat) : Nat × Int :=
  if b.mantissa = 0 then (0, 0)
  else
    let k := b.magnitude
    let digits := b.units (places - k)
    if digits = Nat.pow 10 (places + 1) then (Nat.pow 10 places, k + 1) else (digits, k)

def scientific (places : Nat) (x : Float) : String :=
  match Binary.ofFloat? x with
  | none => special x
  | some b =>
      let lead := b.leading places
      signed b.negative (withPoint places lead.1 ++ "e" ++ toString lead.2)

end FactorGraph.Decimal
