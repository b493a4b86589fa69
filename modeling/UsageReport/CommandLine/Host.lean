import UsageReport.CommandLine.Path

/-! What a run needs of its surroundings, and a folder of files in memory that provides it. -/

namespace UsageReport.CommandLine

/-- Why a file cannot be read. -/
inductive ReadFault where
  /-- There is no such file. -/
  | missing
  /-- The path leads to something that has no contents. -/
  | unreadable
deriving DecidableEq, Repr

/-- Access to files and to standard input. -/
structure Host (m : Type → Type) where
  readFile : String → m (Except ReadFault (List UInt8))
  readInput : m (List UInt8)
  /-- Makes a directory and those above it. The result tells whether it is there now. -/
  makeDirectory : String → m Bool
  /-- Writes a file. The result tells whether that went well. -/
  writeFile : String → String → m Bool

/-- The names of the directories around an entry of a folder, and of the entry. -/
abbrev Place := List (List Char)

/-- A folder of files and directories. The directories around an entry are there too. -/
structure Folder where
  files : List (Place × List UInt8) := []
  directories : List Place := []

namespace Folder

/-- What stands at a place. -/
inductive Found where
  | directory (place : Place)
  | file (place : Place) (contents : List UInt8)
  /-- Nothing, in a directory that is there. -/
  | free (place : Place)
  /-- No place of the folder. -/
  | nowhere

/-- A place is a directory: the folder itself, one that was made, or one around an entry. -/
def isDirectory (f : Folder) (place : Place) : Bool :=
  place.isEmpty || (f.files.map Prod.fst ++ f.directories).any fun entry =>
    place.isPrefixOf entry && (place.length < entry.length || f.directories.contains entry)

def look (f : Folder) (place : Place) : Found :=
  match f.files.lookup place with
  | some contents => .file place contents
  | none => if f.isDirectory place then .directory place else .free place

/-- Where a segment leads from a directory. -/
def step (f : Folder) (found : Found) (segment : List Char) : Found :=
  match found with
  | .directory place =>
    if Path.isIdle segment then .directory place
    else if segment = ['.', '.'] then
      if place = [] then .nowhere else .directory place.dropLast
    else f.look (place ++ [segment])
  | _ => .nowhere

/-- What a path leads to. Paths from the root lead out of the folder. -/
def find (f : Folder) (path : String) : Found :=
  let p := Path.ofString path
  if p.rooted ∨ path = "" then .nowhere else p.segments.foldl f.step (.directory [])

def read (f : Folder) (path : String) : Except ReadFault (List UInt8) :=
  match f.find path with
  | .file _ contents => .ok contents
  | .directory _ => .error .unreadable
  | _ => .error .missing

/-- Goes on from a directory along a segment, and makes a directory where nothing stands. -/
def descend? (state : Folder × Place) (segment : List Char) : Option (Folder × Place) :=
  let (f, place) := state
  match f.step (.directory place) segment with
  | .directory place => some (f, place)
  | .free place => some ({ f with directories := place :: f.directories }, place)
  | _ => none

/-- Makes a directory and those above it, none where a file or the root is in the way. -/
def makeDirectory? (f : Folder) (path : String) : Option Folder :=
  let p := Path.ofString path
  if p.rooted then none else (p.segments.foldlM descend? (f, [])).map Prod.fst

/-- Writes a file, none where the path leads to no place for one. -/
def write? (f : Folder) (path : String) (contents : List UInt8) : Option Folder :=
  match f.find path with
  | .file place _ =>
    some { f with files := f.files.map fun (p, c) => (p, if p = place then contents else c) }
  | .free place => some { f with files := f.files ++ [(place, contents)] }
  | _ => none

/-- The folder as surroundings of a run, with the given standard input. -/
def host (input : List UInt8) : Host (StateM Folder) where
  readFile path := return (← get).read path
  readInput := return input
  makeDirectory path := do
    match (← get).makeDirectory? path with
    | some f => set f; return true
    | none => return false
  writeFile path contents := do
    match (← get).write? path contents.toUTF8.data.toList with
    | some f => set f; return true
    | none => return false

end Folder

end UsageReport.CommandLine
