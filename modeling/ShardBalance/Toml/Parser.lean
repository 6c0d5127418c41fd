import ShardBalance.Toml.Scalar
import ShardBalance.Toml.Table
import ShardBalance.Toml.Text

/-!
Reading TOML documents.
-/

namespace ShardBalance.Toml

def isBareKeyChar (c : Char) : Bool := c.isAlphanum || c = '_' || c = '-'

def simpleKey? (s : List Char) : Option (String × List Char) :=
  match s with
  | '"' :: s => (basicText s).map fun r => (String.ofList r.1, r.2)
  | '\'' :: s => (literalText s).map fun r => (String.ofList r.1, r.2)
  | s =>
    let key := s.takeWhile isBareKeyChar
    if key.isEmpty then none else some (String.ofList key, s.drop key.length)

/-- The most keys that dots may join, and the most containers that may be nested. -/
def depthLimit : Nat := 79

/-- Keys joined by dots, at most `fuel` of them, with blanks around the dots, and the blanks after them. -/
def keyPath? (fuel : Nat) (s : List Char) : Option (List String × List Char) :=
  match fuel with
  | 0 => none
  | fuel + 1 => do
    let (key, s) ← simpleKey? (skipBlank s)
    match skipBlank s with
    | '.' :: s => (keyPath? fuel s).map fun r => (key :: r.1, r.2)
    | s => some ([key], s)

/-- The rest after a comment, up to the end of its line. -/
def skipComment? : List Char → Option (List Char)
  | '#' :: s =>
    match s.dropWhile isPlain with
    | [] => some []
    | '\n' :: s => some ('\n' :: s)
    | _ => none
  | s => some s

/-- The rest after blanks, line breaks and comments; `fuel` bounds the number of lines. -/
def skipLines (fuel : Nat) (s : List Char) : Option (List Char) :=
  match fuel with
  | 0 => none
  | fuel + 1 => do
    match ← skipComment? (skipBlank s) with
    | '\n' :: s => skipLines fuel s
    | s => some s

/-- The rest after the end of a line, before which only a comment may stand. -/
def endLine? (s : List Char) : Option (List Char) := do
  match ← skipComment? (skipBlank s) with
  | [] => some []
  | '\n' :: s => some s
  | _ => none

def splitLast? : List String → Option (List String × String)
  | [] => none
  | path => path.getLast?.map (path.dropLast, ·)

mutual

/-- A value within at most `depth` more containers. Every step takes at least one character, so `fuel`
may be the number of characters and one more. -/
def value? (fuel depth : Nat) (s : List Char) : Option (Toml × List Char) :=
  match fuel with
  | 0 => none
  | fuel + 1 =>
    match s with
    | '"' :: _ | '\'' :: _ => (text? s).map fun r => (.text (String.ofList r.1), r.2)
    | '[' :: s => if depth = 0 then none else items? fuel (depth - 1) [] s
    | '\x7b' :: s =>
      if depth = 0 then none
      else
        match skipBlank s with
        | '\x7d' :: s => some (.table [], s)
        | s => members? fuel (depth - 1) [] s
    | s => word? s

/-- The items of an array, given those before, last first. -/
def items? (fuel depth : Nat) (before : List Toml) (s : List Char) : Option (Toml × List Char) :=
  match fuel with
  | 0 => none
  | fuel + 1 => do
    match ← skipLines (s.length + 1) s with
    | ']' :: s => some (.array before.reverse, s)
    | s =>
      let (v, s) ← value? fuel depth s
      match ← skipLines (s.length + 1) s with
      | ']' :: s => some (.array (v :: before).reverse, s)
      | ',' :: s => items? fuel depth (v :: before) s
      | _ => none

/-- The entries of a table on one line, given those before. -/
def members? (fuel depth : Nat) (before : Node.Entries) (s : List Char) : Option (Toml × List Char) :=
  match fuel with
  | 0 => none
  | fuel + 1 => do
    let (path, s) ← keyPath? depthLimit s
    let (path, key) ← splitLast? path
    let s ← expect? (· == '=') s
    let (v, s) ← value? fuel depth (skipBlank s)
    let entries ← Node.bindKey? v key path before
    match skipBlank s with
    | '\x7d' :: s => some (.table (Node.entriesToToml entries), s)
    | ',' :: s => members? fuel depth entries s
    | _ => none

end

inductive Statement where
  | bind (path : List String) (key : String) (v : Toml)
  | header (path : List String) (key : String)
  | repeated (path : List String) (key : String)

def statement? (s : List Char) : Option (Statement × List Char) :=
  match s with
  | '[' :: '[' :: s => do
    let (path, s) ← keyPath? depthLimit s
    let (path, key) ← splitLast? path
    let s ← expect? (· == ']') (← expect? (· == ']') s)
    return (.repeated path key, s)
  | '[' :: s => do
    let (path, s) ← keyPath? depthLimit s
    let (path, key) ← splitLast? path
    return (.header path key, ← expect? (· == ']') s)
  | s => do
    let (path, s) ← keyPath? depthLimit s
    let (path, key) ← splitLast? path
    let s ← expect? (· == '=') s
    let (v, s) ← value? (s.length + 1) depthLimit (skipBlank s)
    return (.bind path key v, s)

/-- All statements of a document; each ends a line, so `fuel` may be the number of characters and one more. -/
def statements? (fuel : Nat) (s : List Char) : Option (List Statement) :=
  match fuel with
  | 0 => none
  | fuel + 1 => do
    match ← skipLines (s.length + 1) s with
    | [] => some []
    | s =>
      let (first, s) ← statement? s
      return first :: (← statements? fuel (← endLine? s))

/-- A header, if any, and what is bound under it. -/
structure Section where
  header : Option Statement
  bindings : List Statement

def sections : List Statement → List Section
  | [] => [⟨none, []⟩]
  | .bind path key v :: rest =>
    match sections rest with
    | ⟨none, bindings⟩ :: more => ⟨none, .bind path key v :: bindings⟩ :: more
    | more => ⟨none, [.bind path key v]⟩ :: more
  | h :: rest =>
    match sections rest with
    | ⟨none, bindings⟩ :: more => ⟨none, []⟩ :: ⟨some h, bindings⟩ :: more
    | more => ⟨none, []⟩ :: ⟨some h, []⟩ :: more

def fill? (bindings : List Statement) (entries : Node.Entries) : Option Node.Entries :=
  bindings.foldlM (fun entries b =>
    match b with
    | .bind path key v => Node.bindKey? v key path entries
    | _ => none) entries

def addSection? (root : Node.Entries) (sec : Section) : Option Node.Entries :=
  match sec.header with
  | some (.header path key) => Node.atPath? (Node.openHeader? (fill? sec.bindings) key) path root
  | some (.repeated path key) => Node.atPath? (Node.repeatHeader? (fill? sec.bindings) key) path root
  | _ => fill? sec.bindings root

/-- A mark of the byte order at the head of a text does not count. -/
def dropMark : List Char → List Char
  | '\ufeff' :: s => s
  | s => s

def parse (s : String) : Option Toml := do
  let s := normalize (dropMark s.toList)
  let all ← statements? (s.length + 1) s
  let entries ← (sections all).foldlM addSection? []
  return .table (Node.entriesToToml entries)

end ShardBalance.Toml
