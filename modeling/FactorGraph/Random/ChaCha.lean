set_option autoImplicit false

namespace FactorGraph.ChaCha

structure Row where
  a : UInt32
  b : UInt32
  c : UInt32
  d : UInt32

namespace Row

def zipWith (f : UInt32 → UInt32 → UInt32) (r s : Row) : Row :=
  ⟨f r.a s.a, f r.b s.b, f r.c s.c, f r.d s.d⟩

def add (r s : Row) : Row := zipWith (· + ·) r s

def mix (bits : UInt32) (r s : Row) : Row :=
  zipWith (fun x y => ((x ^^^ y) <<< bits) ||| ((x ^^^ y) >>> (32 - bits))) r s

def turn (r : Row) : Row := ⟨r.b, r.c, r.d, r.a⟩

def toList (r : Row) : List UInt32 := [r.a, r.b, r.c, r.d]

end Row

structure State where
  r0 : Row
  r1 : Row
  r2 : Row
  r3 : Row

namespace State

def columnRound (s : State) : State :=
  let a := s.r0.add s.r1
  let d := Row.mix 16 s.r3 a
  let c := s.r2.add d
  let b := Row.mix 12 s.r1 c
  let a := a.add b
  let d := Row.mix 8 d a
  let c := c.add d
  let b := Row.mix 7 b c
  ⟨a, b, c, d⟩

def doubleRound (s : State) : State :=
  let s := s.columnRound
  let s := columnRound ⟨s.r0, s.r1.turn, s.r2.turn.turn, s.r3.turn.turn.turn⟩
  ⟨s.r0, s.r1.turn.turn.turn, s.r2.turn.turn, s.r3.turn⟩

def rounds : Nat → State → State
  | 0, s => s
  | n + 1, s => rounds n s.doubleRound

def block (s : State) : List UInt32 :=
  let t := s.rounds 6
  (t.r0.add s.r0).toList ++ (t.r1.add s.r1).toList ++ (t.r2.add s.r2).toList
    ++ (t.r3.add s.r3).toList

end State

structure Key where
  low : Row
  high : Row

def start (key : Key) (counter : UInt64) : State :=
  ⟨⟨0x61707865, 0x3320646e, 0x79622d32, 0x6b206574⟩, key.low, key.high,
   ⟨counter.toUInt32, (counter >>> 32).toUInt32, 0, 0⟩⟩

def seedStep (state : UInt64) : UInt64 × UInt32 :=
  let state := state * 6364136223846793005 + 11634580027462260723
  let word := (((state >>> 18) ^^^ state) >>> 27).toUInt32
  let turn := (state >>> 59).toUInt32
  (state, (word >>> turn) ||| (word <<< ((32 - turn) % 32)))

def rowOfSeed (state : UInt64) : UInt64 × Row :=
  let (state, a) := seedStep state
  let (state, b) := seedStep state
  let (state, c) := seedStep state
  let (state, d) := seedStep state
  (state, ⟨a, b, c, d⟩)

def keyOfSeed (seed : UInt64) : Key :=
  let (state, low) := rowOfSeed seed
  let (_, high) := rowOfSeed state
  ⟨low, high⟩

end FactorGraph.ChaCha
