import ShardBalance.Wire.Settings

/-!
Files of settings: where they lie, and what is read from them.
-/

namespace ShardBalance

inductive FileContent where
  | missing
  /-- Something that cannot be read as text, and why. -/
  | unreadable (cause : String)
  | text (s : String)
  deriving DecidableEq, Repr

namespace Path

/-- A path as seen from a directory: absolute ones stay what they are. -/
def join (directory path : String) : String :=
  if path.startsWith "/" then path
  else if directory.isEmpty || directory.endsWith "/" then directory ++ path
  else directory ++ "/" ++ path

/-- Replaces a tilde that stands for the home directory; only one before a slash, or alone, does. -/
def expandHome (home : Option String) (path : String) : Option String :=
  match path.toList with
  | ['~'] => home
  | '~' :: '/' :: rest => home.map (join · (String.ofList rest))
  | _ => some path

def settings (home : Option String) : String := join (join (home.getD ".") ".quiver") "config.toml"

end Path

def ConnectionSettings.load : FileContent → Except ClientFailure ConnectionSettings
  | .missing => .error (.io "No such file or directory (os error 2)")
  | .unreadable cause => .error (.io cause)
  | .text s => ofText s

namespace Settings

inductive LoadFailure where
  | noHome
  | unreadable (path : String)
  | invalid (path : String)
  deriving DecidableEq, Repr

def LoadFailure.message : LoadFailure → String
  | noHome => "Cannot determine home directory"
  | unreadable path => s!"Failed to read config file {path}"
  | invalid path => s!"Invalid config file {path}"

/-- The settings in the file at a path; where there is none, the defaults. -/
def load (path : String) : FileContent → Except LoadFailure Settings
  | .missing => .ok default
  | .unreadable _ => .error (.unreadable path)
  | .text s =>
    match ofText? s with
    | some settings => .ok settings
    | none => .error (.invalid path)

end Settings
end ShardBalance
