import FactorGraph.Document

set_option autoImplicit false

namespace FactorGraph.Document

def hexDigit (n : Nat) : Char := "0123456789abcdef".toList.getD n '0'

def escape (c : Char) : List Char :=
  if c = '"' ∨ c = '\\' then ['\\', c]
  else if c.toNat < 32 then ['\\', 'u', '0', '0', hexDigit (c.toNat / 16), hexDigit (c.toNat % 16)]
  else [c]

def quoted (s : String) : String := "\"" ++ String.ofList (s.toList.flatMap escape) ++ "\""

mutual

def json : Document String → String
  | null => "null"
  | truth b => if b then "true" else "false"
  | count n => toString n
  | number token => token
  | text s => quoted s
  | list items => "[" ++ ",".intercalate (jsonItems items) ++ "]"
  | record fields => "\x7b" ++ ",".intercalate (jsonFields fields) ++ "\x7d"

def jsonItems : List (Document String) → List String
  | [] => []
  | item :: rest => json item :: jsonItems rest

def jsonFields : List (String × Document String) → List String
  | [] => []
  | (name, item) :: rest => (quoted name ++ ":" ++ json item) :: jsonFields rest

end

end FactorGraph.Document
