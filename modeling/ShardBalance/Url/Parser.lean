import ShardBalance.Url.Basic

/-!
Reading URLs, by the rules of browsers: blanks and control characters at the ends and line breaks anywhere
do not count, and in URLs of special schemes a backslash is a slash.
-/

namespace ShardBalance.Url

def isSchemeChar (c : Char) : Bool := c.isAlphanum || c == '+' || c == '-' || c == '.'

/-- The scheme in small letters, and what follows its colon. -/
def splitScheme? (s : List Char) : Option (List Char × List Char) :=
  match s.head?, s.dropWhile isSchemeChar with
  | some c, ':' :: rest => if c.isAlpha then some ((s.takeWhile isSchemeChar).map Char.toLower, rest) else none
  | _, _ => none

/-- Whether `c` ends the host and what stands around it. -/
def endsAuthority (special : Bool) (c : Char) : Bool :=
  c == '/' || c == '?' || c == '#' || (special && c == '\\')

def endsPath (c : Char) : Bool := c == '?' || c == '#'

/-- The credentials before the last at sign, if there is one, and the rest. -/
def splitCredentials (s : List Char) : Option (List Char) × List Char :=
  match s.reverse.dropWhile (· != '@') with
  | [] => (none, s)
  | _ :: before => (some before.reverse, (s.reverse.takeWhile (· != '@')).reverse)

/-- The host at the head of a text and what follows it; a colon within brackets belongs to the host. -/
def spanHost (inside : Bool) : List Char → List Char × List Char
  | [] => ([], [])
  | c :: s =>
    if c == ':' && !inside then ([], c :: s)
    else
      let inside := if c == '[' then true else if c == ']' then false else inside
      let (host, rest) := spanHost inside s
      (c :: host, rest)

def readPort (scheme s : List Char) : Except Malformed (Option Nat) :=
  let digits := s.takeWhile Char.isDigit
  let n := Nat.ofDigitChars 10 digits 0
  let after := s.drop digits.length
  if 65535 < n then .error .port
  else if !after.isEmpty && after.head? != some '\\' then .error .port
  else if digits.isEmpty ∨ defaultPort? scheme = some n then .ok none
  else .ok (some n)

/-- What stands between the slashes and the path; what follows a port is left for the path. `followed`
tells whether anything comes after the authority. -/
def readAuthority (scheme : List Char) (followed : Bool) (s : List Char) :
    Except Malformed (Authority × List Char) := do
  let special := isSpecial scheme
  let (credentials, s) := splitCredentials s
  if credentials = some [] ∧ s = [] ∧ followed then throw .emptyHost
  let (hostText, s) := spanHost false s
  if hostText.isEmpty ∧ special then throw .emptyHost
  let host ← if special then Host.ofChars hostText else Host.opaqueOfChars hostText
  if host.isEmpty ∧ s.head? = some ':' then throw .emptyHost
  let port ← match s with
    | ':' :: s => readPort scheme s
    | _ => pure none
  let rest := match s with
    | ':' :: s => s.drop (s.takeWhile Char.isDigit).length
    | s => s
  let credentials := credentials.getD []
  let user := credentials.takeWhile (· != ':')
  let password := (credentials.drop user.length).drop 1
  let encode := Percent.encode Percent.inUserinfo
  let a : Authority := ⟨encode user, encode password, host, port⟩
  if host.isEmpty ∧ !a.credentials.isEmpty then throw .emptyHost
  return (a, rest)

def pathAfterAuthority (special file : Bool) (s : List Char) : Path :=
  match s with
  | [] => .segments (if special then [[]] else [])
  | c :: rest =>
    let s := if c == '/' || (special && c == '\\') then rest else s
    .segments (Segments.ofChars special file s)

structure Head where
  authority : Option Authority
  path : Path

def isSlash (c : Char) : Bool := c == '/' || c == '\\'

/-- A URL of a special scheme other than that of files; any number of slashes may precede the host. -/
def specialHead (scheme s : List Char) : Except Malformed Head := do
  let s := s.dropWhile isSlash
  let after := s.dropWhile (!endsAuthority true ·)
  let (a, rest) ← readAuthority scheme (!after.isEmpty) (s.takeWhile (!endsAuthority true ·))
  let path := rest ++ after
  return ⟨some a, pathAfterAuthority true false path⟩

/-- A URL whose scheme is not special. -/
def otherHead (scheme : List Char) (followed : Bool) (s : List Char) : Except Malformed Head := do
  match s with
  | '/' :: '/' :: s =>
    let after := s.dropWhile (!endsAuthority false ·)
    let (a, rest) ← readAuthority scheme (followed || !after.isEmpty) (s.takeWhile (!endsAuthority false ·))
    let path := rest ++ after
    return ⟨some a, pathAfterAuthority false false path⟩
  | '/' :: s => return ⟨none, .segments (Segments.ofChars false false s)⟩
  | s => return ⟨none, .plain (Percent.encode Percent.isControl s)⟩

/-- The host of a file, which is none for this machine. -/
def fileHost (s : List Char) : Except Malformed Host := do
  if s.isEmpty then return .name ""
  let host ← Host.ofChars s
  return if host = .name "localhost" then .name "" else host

/-- The URL of a file. A path that begins with a drive leaves no host. -/
def fileHead (s : List Char) : Except Malformed Head := do
  match s with
  | a :: b :: rest =>
    if isSlash a && isSlash b then
      let hostText := rest.takeWhile (!isSlash ·)
      let isDrive := Segments.isDrive hostText
      let host ← if isDrive then pure (.name "") else fileHost hostText
      let after := if isDrive then rest else rest.dropWhile (!isSlash ·)
      let path := Segments.read true true (if host.isEmpty then after else after.drop 1)
      let host := if path.onDrive then .name "" else host
      return ⟨some ⟨[], [], host, none⟩, .segments (Segments.trimFile true path)⟩
    else noHost s
  | s => noHost s
where
  noHost (s : List Char) : Except Malformed Head :=
    let s := if (s.head?.map isSlash).getD false then s.drop 1 else s
    .ok ⟨some ⟨[], [], .name "", none⟩, .segments (Segments.ofChars true true s)⟩

/-- A text without blanks and control characters at its ends, and without tabs and line breaks. -/
def strip (s : List Char) : List Char :=
  let inner := (s.dropWhile (·.toNat ≤ 0x20)).reverse.dropWhile (·.toNat ≤ 0x20)
  inner.reverse.filter (!Segments.isLineBreakOrTab ·)

def ofChars (s : List Char) : Except Malformed Url := do
  match splitScheme? (strip s) with
  | none => throw .noScheme
  | some (scheme, s) =>
    let special := isSpecial scheme
    let headText := s.takeWhile (!endsPath ·)
    let tail := s.dropWhile (!endsPath ·)
    let head ←
      if isFile scheme then fileHead headText
      else if special then specialHead scheme headText
      else otherHead scheme (!tail.isEmpty) headText
    let (query, tail) := match tail with
      | '?' :: t =>
        (some (Percent.encode (Percent.inQuery special) (t.takeWhile (· != '#'))), t.dropWhile (· != '#'))
      | t => (none, t)
    let fragment := match tail with
      | '#' :: t => some (Percent.encode Percent.inFragment t)
      | _ => none
    return ⟨scheme, head.authority, head.path, query, fragment⟩

def parse (s : String) : Except Malformed Url := ofChars s.toList

end ShardBalance.Url
