import ShardBalance.Url.Percent

/-!
Paths in URLs. A segment of one dot stands for nothing and one of two dots takes the segment before it
away, also where dots are percent-encoded.
-/

namespace ShardBalance.Url

/-- The segments between slashes, the first slash standing before the first of them. -/
abbrev Segments := List (List Char)

namespace Segments

def isDot (s : List Char) : Bool := s == ['.'] || s.map Char.toLower == ['%', '2', 'e']

def isDoubleDot (s : List Char) : Bool :=
  let s := s.map Char.toLower
  s == "..".toList || s == "%2e.".toList || s == ".%2e".toList || s == "%2e%2e".toList

def isDrive : List Char → Bool
  | [c, d] => c.isAlpha && (d == ':' || d == '|')
  | _ => false

/-- Takes the last segment away, unless it is a drive. -/
def shorten (l : Segments) : Segments :=
  match l.getLast? with
  | some s => if isDrive s then l else l.dropLast
  | none => l

/-- A drive's second character is a colon. -/
def withColon (s : List Char) : List Char := if isDrive s then s.take 1 ++ [':'] else s

/-- Adds a segment that is `last` or followed by a slash. In the path of a file the first segment may be a
drive, which then has its colon. -/
def add (file last : Bool) (l : Segments) (s : List Char) : Segments :=
  if isDoubleDot s then
    if last then shorten l ++ [[]] else shorten l
  else if isDot s then
    if last then l ++ [[]] else l
  else l ++ [if file && l.isEmpty then withColon s else s]

def addAll (file : Bool) (l : Segments) : Segments → Segments
  | [] => l
  | [s] => add file true l s
  | s :: rest => addAll file (add file false l s) rest

def onDrive (l : Segments) : Bool := (l.head?.map isDrive).getD false

/-- The path of a file has no empty segments at its head. -/
def trimFile (file : Bool) (l : Segments) : Segments :=
  if file then
    match l.dropWhile List.isEmpty with
    | [] => [[]]
    | l => l
  else l

/-- The segments of a path given without its first slash, empty ones at the head of the path of a file
included. -/
def read (special file : Bool) (s : List Char) : Segments :=
  let parts := s.splitOnP fun c => c == '/' || (special && c == '\\')
  addAll file [] (parts.map (Percent.encode Percent.inPath))

def ofChars (special file : Bool) (s : List Char) : Segments := trimFile file (read special file s)

/-- Drops a last segment that is empty, unless it is the only one. -/
def popIfEmpty (l : Segments) : Segments :=
  match l with
  | [] | [_] => l
  | _ => if l.getLast? = some [] then l.dropLast else l

def isLineBreakOrTab (c : Char) : Bool := c = '\t' || c = '\n' || c = '\r'

def encodeSegment (special : Bool) (s : List Char) : List Char :=
  Percent.encode (Percent.inSegment special) (s.filter (!isLineBreakOrTab ·))

/-- Adds a segment given by itself; one or two dots add nothing. -/
def push (special file : Bool) (l : Segments) (s : List Char) : Segments :=
  if s = ['.'] ∨ s = ['.', '.'] then l
  else
    let before := if l = [[]] then [] else l
    trimFile file (add file true before (encodeSegment special s))

def text (l : Segments) : List Char := l.flatMap fun s => '/' :: s

end Segments
end ShardBalance.Url
