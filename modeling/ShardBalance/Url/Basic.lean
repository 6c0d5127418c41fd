import ShardBalance.Url.Host
import ShardBalance.Url.Path

/-!
URLs and their text.
-/

namespace ShardBalance

structure Url.Authority where
  /-- Percent-encoded, as are all texts in a URL. -/
  user : List Char
  password : List Char
  host : Url.Host
  /-- None where it is the usual one of the scheme. -/
  port : Option Nat
  deriving DecidableEq, Repr

inductive Url.Path where
  | plain (s : List Char)
  | segments (l : Url.Segments)
  deriving DecidableEq, Repr

structure Url where
  scheme : List Char
  authority : Option Url.Authority
  path : Url.Path
  query : Option (List Char)
  fragment : Option (List Char)
  deriving DecidableEq, Repr

namespace Url

def isFile (scheme : List Char) : Bool := scheme == "file".toList

def defaultPort? (scheme : List Char) : Option Nat :=
  match String.ofList scheme with
  | "http" | "ws" => some 80
  | "https" | "wss" => some 443
  | "ftp" => some 21
  | _ => none

/-- Schemes whose URLs always have a host and a path; files may lack the host. -/
def isSpecial (scheme : List Char) : Bool := isFile scheme || (defaultPort? scheme).isSome

namespace Authority

def credentials (a : Authority) : List Char :=
  if a.user.isEmpty && a.password.isEmpty then []
  else a.user ++ (if a.password.isEmpty then [] else ':' :: a.password) ++ ['@']

def text (a : Authority) : List Char :=
  "//".toList ++ a.credentials ++ a.host.text.toList ++
    match a.port with
    | none => []
    | some p => ':' :: Nat.toDigits 10 p

end Authority

/-- Segments that begin with an empty one would be read as a host, and so get a dot in front. -/
def pathText (hasAuthority : Bool) : Path → List Char
  | .plain s => s
  | .segments ([] :: s :: l) =>
    (if hasAuthority then [] else "/.".toList) ++ Segments.text ([] :: s :: l)
  | .segments l => Segments.text l

def queryText (u : Url) : List Char :=
  match u.query with
  | none => []
  | some q => '?' :: q

def target (u : Url) : List Char := pathText u.authority.isSome u.path ++ u.queryText

def chars (u : Url) : List Char :=
  u.scheme ++ [':'] ++ (u.authority.map Authority.text).getD [] ++ u.target ++
    match u.fragment with
    | none => []
    | some f => '#' :: f

def text (u : Url) : String := String.ofList u.chars

/-- The URL with segments added to its path; none where the path has no segments. -/
def extend? (u : Url) (added : List (List Char)) : Option Url :=
  match u.path with
  | .plain _ => none
  | .segments l =>
    let push := Segments.push (isSpecial u.scheme) (isFile u.scheme)
    some { u with path := .segments (added.foldl push (Segments.popIfEmpty l)) }

end Url
end ShardBalance
