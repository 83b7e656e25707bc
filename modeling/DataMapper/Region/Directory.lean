import DataMapper.Table
/-!
# Directories

The tree of directories and files that volumes live in, and the written paths that lead through it.
A path is followed step by step, so that a step back out of a file or of a directory that is not
there fails.
-/

namespace DataMapper

/-- Why a path does not lead where it should. -/
inductive PathError where
  | missing
  | taken
  | notDirectory
  | isDirectory
  | nameTooLong
  | nul
  deriving DecidableEq, Repr

def PathError.message : PathError → String
  | missing => "No such file or directory (os error 2)"
  | taken => "File exists (os error 17)"
  | notDirectory => "Not a directory (os error 20)"
  | isDirectory => "Is a directory (os error 21)"
  | nameTooLong => "File name too long (os error 36)"
  | nul => "file name contained an unexpected NUL byte"

/-- A directory, told apart from others by its number. -/
structure Directory where
  id : Nat
  deriving DecidableEq, Repr

/-- What a name stands for in a directory. -/
inductive Entry where
  | directory (d : Directory)
  | file
  deriving DecidableEq, Repr

/-- Where a directory lies: what is above it, and the length of its full path in bytes. -/
structure Location where
  parent : Directory
  pathSize : Nat
  deriving DecidableEq, Repr

/-- The locations of all directories, by number, and the entries of all directories. -/
structure FileTree where
  locations : List Location
  entries : Table (Directory × String) Entry := .empty

namespace FileTree

def maxNameSize : Nat := 255

def maxPathSize : Nat := 4095

def top : Directory := ⟨0⟩

/-- The directory in which the root of all written paths is made. -/
def base : Directory := ⟨1⟩

def rootName : String := "datamapper"

/-- The tree before any volume: the top, which is its own parent, and the base below it. -/
def initial : FileTree :=
  { locations := [⟨top, 0⟩, ⟨top, 4⟩] }

def location (t : FileTree) (d : Directory) : Location :=
  t.locations.getD d.id ⟨top, 0⟩

def parent (t : FileTree) (d : Directory) : Directory :=
  (t.location d).parent

/-- The length of the full path of a name in a directory. -/
def pathSize (t : FileTree) (d : Directory) (name : String) : Nat :=
  (t.location d).pathSize + 1 + name.utf8ByteSize

/-- The length of a path that is written below the root. -/
def fullPathSize (path : String) : Nat :=
  initial.pathSize base (rootName ++ "/" ++ path)

def entry? (t : FileTree) (d : Directory) (name : String) : Option Entry :=
  t.entries.get? (d, name)

/-- Makes a directory under a name of another one. -/
def make (t : FileTree) (d : Directory) (name : String) : Directory × FileTree :=
  let made : Directory := ⟨t.locations.length⟩
  (made,
    { locations := t.locations ++ [⟨d, t.pathSize d name⟩]
      entries := t.entries.insert (d, name) (.directory made) })

end FileTree

/-- One step of a written path. -/
inductive PathStep where
  | here
  | up
  | into (name : String)
  deriving DecidableEq, Repr

def PathStep.ofText (text : String) : PathStep :=
  if text = "." then here else if text = ".." then up else into text

/-- The steps of a written path. -/
abbrev Route := List PathStep

namespace Route

def splitSlashes : List Char → List (List Char)
  | [] => [[]]
  | c :: rest =>
    if c = '/' then [] :: splitSlashes rest
    else
      match splitSlashes rest with
      | [] => [[c]]
      | step :: steps => (c :: step) :: steps

/-- Reads a path below the root. Slashes that follow each other count as one, although each adds to
the length of the path. -/
def ofText? (text : String) : Except PathError Route :=
  if text.toList.contains '\x00' then .error .nul
  else if FileTree.maxPathSize < FileTree.fullPathSize text then .error .nameTooLong
  else
    let steps := (splitSlashes text.toList).filter (· ≠ [])
    .ok (steps.map fun step => PathStep.ofText (String.ofList step))

/-- Whether nothing but dots is left of a path. -/
def onlyDots (r : Route) : Bool :=
  r ≠ [] && r.all (· = .here)

end Route

namespace FileTree

/-- Follows a path from a directory and makes what is missing, once something is. Dots at the end
belong to the name before them and make no directory, so that name has to be there. A file in the
way is found when its place is to be taken, or else when it is to be entered. What was made stays,
even if a later step fails. -/
def ensureFrom (t : FileTree) (d : Directory) (making : Bool) :
    Route → Except PathError Directory × FileTree
  | [] => (.ok d, t)
  | .here :: rest => ensureFrom t d making rest
  | .up :: rest => ensureFrom t (t.parent d) making rest
  | .into name :: rest =>
    if maxNameSize < name.utf8ByteSize then (.error .nameTooLong, t)
    else
      match t.entry? d name with
      | some (.directory inner) => ensureFrom t inner making rest
      | some .file =>
        if rest = [] ∨ (making ∧ ¬ Route.onlyDots rest) then (.error .taken, t)
        else (.error .notDirectory, t)
      | none =>
        if Route.onlyDots rest then (.error .missing, t)
        else
          let (made, t) := t.make d name
          ensureFrom t made true rest

/-- Makes the directory of a path below the root and those above it, the root among them. -/
def ensure (t : FileTree) (route : Route) : Except PathError Directory × FileTree :=
  t.ensureFrom base false (.into rootName :: route)

/-- Puts files into a directory one after another, up to the first that finds no place. -/
def putFiles (t : FileTree) (d : Directory) : List String → Except PathError Unit × FileTree
  | [] => (.ok (), t)
  | name :: rest =>
    if maxPathSize < t.pathSize d name then (.error .nameTooLong, t)
    else
      match t.entry? d name with
      | some (.directory _) => (.error .isDirectory, t)
      | _ => putFiles { t with entries := t.entries.insert (d, name) .file } d rest

end FileTree

end DataMapper
