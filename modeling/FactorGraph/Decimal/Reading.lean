import FactorGraph.Decimal.Binary

set_option autoImplicit false

namespace FactorGraph.Decimal

def wholeOf (cs : List Char) : Nat :=
  (cs.filter Char.isDigit).foldl (fun n c => 10 * n + (c.toNat - '0'.toNat)) 0

def exponentOf : List Char → Int
  | '-' :: cs => -(wholeOf cs : Int)
  | cs => wholeOf cs

def readMagnitude (cs : List Char) : Float :=
  let mantissa := cs.takeWhile (· ≠ 'e')
  let places := (mantissa.dropWhile (· ≠ '.')).tail.length
  let power : Int := exponentOf (cs.dropWhile (· ≠ 'e')).tail - places
  Float.ofScientific (wholeOf mantissa) (decide (power < 0)) power.natAbs

def read (s : String) : Float :=
  match s.toList with
  | '-' :: cs => -(readMagnitude cs)
  | cs => readMagnitude cs

end FactorGraph.Decimal
