import ShardBalance.Json.Basic

/-!
Writing JSON: without any blanks, or one item a line.
-/

namespace ShardBalance.Json

mutual

def tokens : Json → List Token
  | .null => [.null]
  | .bool b => [.bool b]
  | .number n => [.number n]
  | .string s => [.string s]
  | .array items => .openArray :: itemTokens items
  | .object members => .openObject :: memberTokens members

def itemTokens : List Json → List Token
  | [] => [.closeArray]
  | v :: l => tokens v ++ moreItemTokens l

def moreItemTokens : List Json → List Token
  | [] => [.closeArray]
  | v :: l => .comma :: tokens v ++ moreItemTokens l

def memberTokens : List (Quoted × Json) → List Token
  | [] => [.closeObject]
  | (k, v) :: l => .string k :: .colon :: tokens v ++ moreMemberTokens l

def moreMemberTokens : List (Quoted × Json) → List Token
  | [] => [.closeObject]
  | (k, v) :: l => .comma :: .string k :: .colon :: tokens v ++ moreMemberTokens l

end

def render (v : Json) : String := String.ofList (v.tokens.flatMap Token.chars)

def indent (depth : Nat) : String := String.ofList (List.replicate (2 * depth) ' ')

/-- Blocks between brackets, one a line. -/
def block (depth : Nat) (opening closing : String) (blocks : List String) : String :=
  match blocks with
  | [] => opening ++ closing
  | _ =>
    let lines := blocks.map (indent (depth + 1) ++ ·)
    opening ++ "\n" ++ String.intercalate ",\n" lines ++ "\n" ++ indent depth ++ closing

mutual

/-- Written with two blanks more at the head of a line for each container around it. -/
def layout (depth : Nat) : Json → String
  | .array items => block depth "[" "]" (itemLayouts (depth + 1) items)
  | .object members => block depth "\x7b" "\x7d" (memberLayouts (depth + 1) members)
  | .null => "null"
  | .bool b => if b then "true" else "false"
  | .number n => String.ofList n.chars
  | .string s => String.ofList (Token.string s).chars

def itemLayouts (depth : Nat) : List Json → List String
  | [] => []
  | v :: l => layout depth v :: itemLayouts depth l

def memberLayouts (depth : Nat) : List (Quoted × Json) → List String
  | [] => []
  | (k, v) :: l =>
    (String.ofList (Token.string k).chars ++ ": " ++ layout depth v) :: memberLayouts depth l

end

def pretty (v : Json) : String := layout 0 v

end ShardBalance.Json
