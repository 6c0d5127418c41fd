import ShardBalance.Text.CombiningClass
import ShardBalance.Text.Decomposition

/-!
Texts with as few characters as possible for the same letters and marks: marks stand in the order of their
classes, and where a character stands for a letter and a mark it takes their place. However the letters and
marks of a text are written, its composed form is one.
-/

namespace ShardBalance.Text

/-- Puts a character before a text, behind marks of lower classes if it is a mark itself. -/
def placeMark (c : Char) : List Char → List Char
  | [] => [c]
  | d :: s =>
    if 0 < combiningClass d ∧ combiningClass d < combiningClass c then d :: placeMark c s else c :: d :: s

/-- Orders marks by their classes; those of one class keep their order. -/
def orderMarks (s : List Char) : List Char := s.foldr placeMark []

/-- Characters that are not used where what they stand for is written. -/
def neverComposed : List Span := Table.spans "
  344 958-95f 9dc-9dd 9df a33 a36 a59-a5b a5e b5c-b5d f43 f4d f52 f57 f5c f69 f73 f75-f76 f78 f81 f93
  f9d fa2 fa7 fac fb9 2adc fb1d fb1f fb2a-fb36 fb38-fb3c fb3e fb40-fb41 fb43-fb44 fb46-fb4e 1d15e-1d164
  1d1bb-1d1c0"

/-- The characters that stand for two others. -/
def compositions : List ((Char × Char) × Char) :=
  decompositions.filterMap fun e =>
    match e.2 with
    | [a, b] => if neverComposed.any (·.contains e.1) then none else some ((a, b), e.1)
    | _ => none

def composed? (a b : Char) : Option Char := (Hangul.joined? a b).or (compositions.lookup (a, b))

/-- Composes `first` with the characters after it. Those in `passed`, the last one first, stay between; a mark
is kept from `first` by one of the same or a higher class that stays. -/
def composeFrom (first : Char) (passed : List Char) : List Char → List Char
  | [] => first :: passed.reverse
  | c :: s =>
    let free := match passed with
      | [] => true
      | d :: _ => combiningClass d < combiningClass c
    match if free then composed? first c else none with
    | some both => composeFrom both passed s
    | none =>
      if combiningClass c = 0 then first :: passed.reverse ++ composeFrom c [] s
      else composeFrom first (c :: passed) s

/-- The composed form of a text. Characters below U+0300 are composed as they stand. -/
def compose (s : List Char) : List Char :=
  if s.all (·.toNat < 0x300) then s
  else
    match orderMarks (s.flatMap decompose) with
    | [] => []
    | c :: s => composeFrom c [] s

end ShardBalance.Text
