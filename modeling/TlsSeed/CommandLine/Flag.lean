import TlsSeed.Text.Similarity
import TlsSeed.Text.Utf8

/-! # Flags

An argument that begins with a hyphen, and is not the hyphen alone, is a flag. The program knows
two, each with a short and a long form. A long form may carry a value after an equals sign, and of
a cluster of short forms only the first letter counts.
-/

namespace TlsSeed.CommandLine

open Text

/-- The flags that the program knows. -/
inductive Known where
  | help | version
  deriving DecidableEq, Repr

namespace Known

def all : List Known :=
  [help, version]

def name : Known → String
  | help => "help"
  | version => "version"

def letter : Known → Char
  | help => 'h'
  | version => 'V'

def long (k : Known) : String :=
  "--" ++ k.name

end Known

/-- What a flag asks for. -/
inductive Flag where
  /-- A flag that is known, in its long or its short form. -/
  | known (k : Known) (inFull : Bool)
  /-- A flag that is known, with a value that it has no use for. -/
  | valued (k : Known) (value : Bytes)
  /-- A flag that is not known, with its hyphens, and the flag that may have been meant. -/
  | unknown (name : String) (similar : Option Known)
  deriving DecidableEq, Repr

namespace Flag

def hyphen : UInt8 := 0x2D

def equals : UInt8 := 0x3D

/-- The argument after which no argument is a flag. -/
def separator : Bytes := [hyphen, hyphen]

/-- The flag that a name not known may have been meant for. -/
def similar? (name : String) : Option Known :=
  (Similarity.closest? name (Known.all.map Known.name)).bind fun s =>
    Known.all.find? (·.name == s)

/-- The flag of the long form with a name and, after an equals sign, a value. -/
def ofLong (name : Bytes) (value : Option Bytes) : Flag :=
  match Known.all.find? fun k => Utf8.encode k.name == name, value with
  | some k, none => known k true
  | some k, some v => valued k v
  | none, _ => unknown ("--" ++ Utf8.lossy name) (similar? (Utf8.lossy name))

/-- The flag of the short form that a cluster begins with. -/
def ofShort (cluster : Bytes) : Flag :=
  match Utf8.pieces cluster with
  | .char c :: _ =>
    match Known.all.find? (·.letter == c) with
    | some k => known k false
    | none => unknown ("-" ++ String.singleton c) none
  -- No character comes first that could be told alone, so the cluster is told as a whole.
  | _ => unknown ("-" ++ Utf8.lossy cluster) none

/-- The flag that an argument is, if it is one. -/
def ofArgument? : Bytes → Option Flag
  | a :: b :: rest =>
    if a != hyphen then none
    else if b == hyphen then
      some (ofLong (rest.takeWhile (· != equals))
        ((rest.dropWhile (· != equals)).tail? ))
    else some (ofShort (b :: rest))
  | _ => none

end Flag

end TlsSeed.CommandLine
