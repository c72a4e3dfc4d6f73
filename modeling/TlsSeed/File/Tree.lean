import TlsSeed.File.Fault

/-! # File trees

Directories hold named files, directories, symbolic links, and devices that keep nothing. A path is
followed step by step from the root or from the directory where the program runs, and a link puts
its own steps in front of those that are left.
-/

namespace TlsSeed.File

open Text

abbrev Name := Bytes

abbrev Path := Bytes

/-- What stands under a name. -/
inductive Node where
  | file (content : Bytes)
  | directory (entries : List (Name × Node))
  | link (target : Path)
  /-- Swallows what is written to it, and reads as an empty file. -/
  | sink

namespace Node

def entry? (name : Name) : Node → Option Node
  | directory entries => entries.lookup name
  | _ => none

/-- What stands at the end of a row of names. -/
def at? : Node → List Name → Option Node
  | node, [] => some node
  | node, name :: names => (node.entry? name).bind (·.at? names)

/-- The entries with what stands under a name replaced, added or left out. -/
def setEntry (name : Name) (new : Option Node) (entries : List (Name × Node)) :
    List (Name × Node) :=
  let others := entries.filter (·.1 != name)
  match new with
  | some node => others ++ [(name, node)]
  | none => others

/-- The tree with what stands at the end of a row of names replaced, added or left out. A tree that
lacks a directory on the way stays as it is. -/
def set (new : Option Node) : Node → List Name → Node
  | directory entries, [name] => directory (setEntry name new entries)
  | directory entries, name :: names =>
    match entries.lookup name with
    | some node => directory (setEntry name (some (node.set new names)) entries)
    | none => directory entries
  | node, _ => node

end Node

namespace Path

def separator : UInt8 := 0x2F

def stay : Name := [0x2E]

def up : Name := [0x2E, 0x2E]

def isAbsolute (p : Path) : Bool :=
  p.head? == some separator

/-- The steps of a path. A separator at its end asks for a directory, as a last step that stays
does. -/
def steps (p : Path) : List Name :=
  (p.splitOn separator).filter (!·.isEmpty) ++
    if p.getLast? == some separator then [stay] else []

end Path

/-- Where a path leads: to something, or to a free name in a directory. -/
inductive Place where
  | taken (names : List Name)
  | free (names : List Name)
  deriving DecidableEq, Repr

/-- A tree and the directory where the program runs. -/
structure Tree where
  root : Node
  here : List Name

namespace Tree

/-- The longest name, in bytes. -/
def maxName : Nat := 255

/-- The longest path, in bytes. -/
def maxPath : Nat := 4095

/-- How many links one path may lead through. -/
def maxLinks : Nat := 40

/-- Follows steps from a place that is no link. A link's target goes on with the steps that are
left, in the way that is given. -/
def follow (root : Node) (onLink : List Name → List Name → Except Int Place) :
    List Name → List Name → Except Int Place
  | dir, [] => .ok (.taken dir)
  | dir, name :: rest =>
    match root.at? dir with
    | some (.directory entries) =>
      if name = Path.stay then follow root onLink dir rest
      else if name = Path.up then follow root onLink dir.dropLast rest
      else if maxName < name.length then .error ErrorNumber.nameTooLong
      else match entries.lookup name with
        | some (.link target) =>
          onLink (if Path.isAbsolute target then [] else dir) (Path.steps target ++ rest)
        | some _ => follow root onLink (dir ++ [name]) rest
        | none => if rest.isEmpty then .ok (.free (dir ++ [name])) else .error ErrorNumber.notFound
    | _ => .error ErrorNumber.notDirectory

/-- Follows steps through at most the given number of links. -/
def walk (root : Node) : Nat → List Name → List Name → Except Int Place
  | 0 => follow root fun _ _ => .error ErrorNumber.tooManyLinks
  | links + 1 => follow root (walk root links)

def walkFrom (t : Tree) (p : Path) (steps : List Name) : Except Int Place :=
  walk t.root maxLinks (if Path.isAbsolute p then [] else t.here) steps

def locate (t : Tree) (p : Path) : Except Fault Place :=
  if p.contains 0 then .error .zeroInPath
  else if p.isEmpty then .error (.system ErrorNumber.notFound)
  else if maxPath < p.length then .error (.system ErrorNumber.nameTooLong)
  else (t.walkFrom p (Path.steps p)).mapError .system

def read (t : Tree) (p : Path) : Except Fault Bytes := do
  match ← t.locate p with
  | .free _ => .error (.system ErrorNumber.notFound)
  | .taken names =>
    match t.root.at? names with
    | some (.file content) => .ok content
    | some .sink => .ok []
    | some (.directory _) => .error (.system ErrorNumber.isDirectory)
    | _ => .error (.system ErrorNumber.notFound)

/-- The tree with a file of the given content where the path leads. A directory there stays, and so
does a sink. -/
def write (t : Tree) (p : Path) (content : Bytes) : Tree :=
  match t.locate p with
  | .ok (.free names) => { t with root := t.root.set (some (.file content)) names }
  | .ok (.taken names) =>
    match t.root.at? names with
    | some (.file _) => { t with root := t.root.set (some (.file content)) names }
    | _ => t
  | .error _ => t

/-- The tree with something else, or nothing, under the last name of a path. A link under that
name is itself replaced. -/
def putAt (t : Tree) (p : Path) (new : Option Node) : Tree :=
  let steps := Path.steps p
  match steps.getLast?, t.walkFrom p steps.dropLast with
  | some name, .ok (.taken names) => { t with root := t.root.set new (names ++ [name]) }
  | _, _ => t

def ensureDirectory (p : Path) (t : Tree) (steps : List Name) : Tree :=
  match t.walkFrom p steps with
  | .ok (.free names) => { t with root := t.root.set (some (.directory [])) names }
  | _ => t

/-- The tree with a directory under the path, and directories on the way to it. What is there
already stays. -/
def makeDirectory (t : Tree) (p : Path) : Tree :=
  let steps := Path.steps p
  ((List.range (steps.length + 1)).map steps.take).foldl (ensureDirectory p) t

def makeLink (t : Tree) (target p : Path) : Tree :=
  t.putAt p (some (.link target))

def remove (t : Tree) (p : Path) : Tree :=
  t.putAt p none

/-- A tree with the null device, and an empty directory to run in, alone in the directory above
it. -/
def empty : Tree where
  root := .directory
    [(Utf8.encode "dev", .directory [(Utf8.encode "null", .sink)]),
     (Utf8.encode "seeding", .directory [(Utf8.encode "work", .directory [])])]
  here := ["seeding", "work"].map Utf8.encode

end Tree

end TlsSeed.File
