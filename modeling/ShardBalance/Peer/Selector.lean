import ShardBalance.Identity
import ShardBalance.Text.Blank
import ShardBalance.Text.Decimal
import ShardBalance.Text.Search

/-!
How a caller names a peer: by its number, or by a part of its address.
-/

namespace ShardBalance

inductive Selector where
  | id (peer : PeerId)
  | address (part : String)
  deriving DecidableEq, Repr

namespace Selector

def text : Selector → String
  | id peer => toString peer
  | address part => part

/-- A text that claims to be a peer's number and is none. -/
structure Malformed where
  text : String
  deriving DecidableEq

def Malformed.message (e : Malformed) : String := s!"Invalid peer id '{e.text}'"

def idMark : List Char := "id:".toList

def addressMark : List Char := "addr:".toList

/-- A number after `id:`, blanks around it aside. -/
def markedId (s : List Char) : Except Malformed Selector :=
  let s := Text.trim s
  match (Text.plusDigits? s).bind Text.word64? with
  | some peer => .ok (id peer)
  | none => .error ⟨String.ofList s⟩

/-- Digits alone are a peer's number, if there is such a number. -/
def unmarked (s : List Char) : Selector :=
  match (Text.digits? s).bind Text.word64? with
  | some peer => id peer
  | none => address (String.ofList s)

def ofChars (s : List Char) : Except Malformed Selector :=
  let s := Text.trim s
  match Text.after? idMark s with
  | some number => markedId number
  | none =>
    match Text.after? addressMark s with
    | some part => .ok (address (String.ofList part))
    | none => .ok (unmarked s)

def parse (s : String) : Except Malformed Selector := ofChars s.toList

end Selector
end ShardBalance
