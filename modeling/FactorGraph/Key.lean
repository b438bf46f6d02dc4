import FactorGraph.SortedMap

set_option autoImplicit false

namespace FactorGraph

structure Key where
  symbol : Char
  index : Nat
deriving DecidableEq

namespace Key

instance : LT Key := ⟨fun a b => a.symbol < b.symbol ∨ a.symbol = b.symbol ∧ a.index < b.index⟩

instance : DecidableLT Key := fun a b =>
  inferInstanceAs (Decidable (a.symbol < b.symbol ∨ a.symbol = b.symbol ∧ a.index < b.index))

instance : StrictOrder Key where
  irrefl a h := by
    rcases h with h | h
    · exact Char.lt_irrefl _ h
    · exact Nat.lt_irrefl _ h.2
  trans {a b c} h k := by
    rcases h with h | ⟨hs, hi⟩ <;> rcases k with k | ⟨ks, ki⟩
    · exact .inl (Char.lt_trans h k)
    · exact .inl (ks ▸ h)
    · exact .inl (hs ▸ k)
    · exact .inr ⟨hs.trans ks, Nat.lt_trans hi ki⟩
  connected a b h k := by
    have hs : a.symbol = b.symbol :=
      Char.le_antisymm (Char.not_lt.mp fun l => k (.inl l)) (Char.not_lt.mp fun l => h (.inl l))
    have hi : a.index = b.index :=
      StrictOrder.connected _ _ (fun l => h (.inr ⟨hs, l⟩)) (fun l => k (.inr ⟨hs.symm, l⟩))
    cases a
    cases b
    simp_all

def text (key : Key) : String := String.singleton key.symbol ++ toString key.index

def listText (keys : List Key) : String := ", ".intercalate (keys.map text)

def ofText? (s : String) : Option Key :=
  match s.toList with
  | [] => none
  | symbol :: digits =>
      if digits.isEmpty || !digits.all Char.isDigit then none
      else some ⟨symbol, digits.foldl (fun n c => 10 * n + (c.toNat - '0'.toNat)) 0⟩

end Key

abbrev KeyMap (ν : Type) := SortedMap Key ν

end FactorGraph
