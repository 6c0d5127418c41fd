import ShardBalance.Json.Quoted
import ShardBalance.Json.Numeral

/-!
JSON values as written: texts keep their escapes, numbers their digits, objects the order and repetition
of their members.
-/

namespace ShardBalance

inductive Json where
  | null
  | bool (b : Bool)
  | number (n : Json.Numeral)
  | string (s : Json.Quoted)
  | array (items : List Json)
  | object (members : List (Json.Quoted × Json))

namespace Json

inductive Token where
  | openArray | closeArray | openObject | closeObject | comma | colon
  | null
  | bool (b : Bool)
  | number (n : Numeral)
  | string (s : Quoted)
  deriving DecidableEq, Repr

def Token.chars : Token → List Char
  | openArray => ['[']
  | closeArray => [']']
  | openObject => ['\x7b']
  | closeObject => ['\x7d']
  | comma => [',']
  | colon => [':']
  | null => "null".toList
  | bool true => "true".toList
  | bool false => "false".toList
  | number n => n.chars
  | string s => '"' :: s.chars ++ ['"']

def text (s : String) : Json := .string (.ofText s)

def nat (n : Nat) : Json := .number (.ofNat n)

def record (members : List (String × Json)) : Json := .object (members.map fun m => (.ofText m.1, m.2))

def option {α : Type} (write : α → Json) : Option α → Json
  | none => .null
  | some a => write a

end Json
end ShardBalance
