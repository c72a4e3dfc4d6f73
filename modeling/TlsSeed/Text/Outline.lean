/-! # Outlines of values

An outline is the shape in which a value is shown to a programmer: a name with fields, a name with
arguments, a list, a map, or a piece of text. It is printed on one line or with one entry a line.
-/

namespace TlsSeed.Text

/-- The shape of a shown value. -/
inductive Outline where
  | text (s : String)
  | fields (name : String) (entries : List (String × Outline))
  | call (name : String) (args : List Outline)
  | list (items : List Outline)
  | map (entries : List (String × Outline))

namespace Outline

def option : Option Outline → Outline
  | none => text "None"
  | some o => call "Some" [o]

mutual

/-- The outline on one line. -/
def flat : Outline → String
  | text s => s
  | fields name [] => name
  | fields name entries => name ++ " \x7b " ++ ", ".intercalate (flatEntries entries) ++ " \x7d"
  | call name args => name ++ "(" ++ ", ".intercalate (flatItems args) ++ ")"
  | list items => "[" ++ ", ".intercalate (flatItems items) ++ "]"
  | map entries => "\x7b" ++ ", ".intercalate (flatEntries entries) ++ "\x7d"

def flatItems : List Outline → List String
  | [] => []
  | o :: os => flat o :: flatItems os

def flatEntries : List (String × Outline) → List String
  | [] => []
  | (key, o) :: os => (key ++ ": " ++ flat o) :: flatEntries os

end

/-- The blanks before a line at a depth: four for each level. -/
def margin (depth : Nat) : String :=
  String.ofList (List.replicate (4 * depth) ' ')

mutual

/-- The outline with one entry a line, each with a comma after it. The depth is that of the line on
which the outline begins. -/
def tall (depth : Nat) : Outline → String
  | text s => s
  | fields name [] => name
  | fields name entries => name ++ " \x7b\n" ++ tallEntries depth entries ++ margin depth ++ "\x7d"
  | call name args => name ++ "(\n" ++ tallItems depth args ++ margin depth ++ ")"
  | list [] => "[]"
  | list items => "[\n" ++ tallItems depth items ++ margin depth ++ "]"
  | map [] => "\x7b\x7d"
  | map entries => "\x7b\n" ++ tallEntries depth entries ++ margin depth ++ "\x7d"

def tallItems (depth : Nat) : List Outline → String
  | [] => ""
  | o :: os => margin (depth + 1) ++ tall (depth + 1) o ++ ",\n" ++ tallItems depth os

def tallEntries (depth : Nat) : List (String × Outline) → String
  | [] => ""
  | (key, o) :: os =>
    margin (depth + 1) ++ key ++ ": " ++ tall (depth + 1) o ++ ",\n" ++ tallEntries depth os

end

/-- The outline over several lines. -/
def pretty (o : Outline) : String :=
  o.tall 0

end Outline

end TlsSeed.Text
