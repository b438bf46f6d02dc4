import FactorGraph.Random.ChaCha
import FactorGraph.Scalar

set_option autoImplicit false

namespace FactorGraph

structure Source (α σ : Type) where
  draw : α → σ → α × σ

def Source.uniform {α σ : Type} [Scalar α] (source : Source α σ) (amplitude : α) : StateM σ α :=
  fun state => if 0 < amplitude then source.draw amplitude state else (0, state)

structure Generator where
  key : ChaCha.Key
  counter : UInt64
  pending : List UInt32

namespace Generator

def ofSeed (seed : UInt64) : Generator := ⟨ChaCha.keyOfSeed seed, 0, []⟩

def next (g : Generator) : UInt64 × Generator :=
  let join (low high : UInt32) : UInt64 := low.toUInt64 ||| (high.toUInt64 <<< 32)
  match g.pending with
  | low :: high :: rest => (join low high, { g with pending := rest })
  | _ =>
      let block := (ChaCha.start g.key g.counter).block
      match block with
      | low :: high :: rest => (join low high, ⟨g.key, g.counter + 1, rest⟩)
      | _ => (0, ⟨g.key, g.counter + 1, []⟩)

-- The highest 52 bits of a number as a fraction `v`, carried to `2 a v - a`.
def draw {α : Type} [Scalar α] (amplitude : α) (g : Generator) : α × Generator :=
  let (bits, g) := g.next
  let fraction : α := ((bits >>> 12).toNat : α) / 4503599627370496.0
  (fraction * (2.0 * amplitude) + -amplitude, g)

def source {α : Type} [Scalar α] : Source α Generator := ⟨draw⟩

end Generator

end FactorGraph
