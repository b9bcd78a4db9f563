import Qualify.Text.Pieces
import Qualify.Text.Utf8

/-!
# Folders

A folder holds files and folders by path. A path is a row of names; empty names and names that stand
for the folder itself do not count.
-/

namespace Qualify

/-- A path: what it starts with, and the names on it. -/
structure Location where
  root : String := ""
  names : List String := []
deriving DecidableEq

namespace Location

/-- Two slashes at the front are kept; any other number of them is one. -/
def rootOf (cs : List Char) : String :=
  match (cs.takeWhile (· = '/')).length with
  | 0 => ""
  | 2 => "//"
  | _ => "/"

def ofText (s : String) : Location where
  root := rootOf s.toList
  names := ((Text.splitOn '/' s.toList).filter fun n => n ≠ [] ∧ n ≠ ['.']).map String.ofList

def text (l : Location) : String :=
  if l.root.isEmpty && l.names.isEmpty then "." else l.root ++ "/".intercalate l.names

/-- The last name, if there is one. -/
def name (l : Location) : String := l.names.getLastD ""

end Location

/-- What stands at a path. -/
inductive FileState where
  | absent
  | directory
  | file (bytes : List UInt8)
deriving DecidableEq

/-- What stands at the paths of a folder; where there is a path there are the folders on it. -/
abbrev Folder := List (Location × FileState)

namespace Folder

/-- What stands at a path. The folder itself has the empty path; a root is a folder. -/
def find (f : Folder) (l : Location) : FileState :=
  match f.lookup l with
  | some s => s
  | none =>
    let isOnPath (e : Location × FileState) : Bool :=
      e.2 ≠ .absent && l.root == e.1.root && l.names.isPrefixOf e.1.names
    if l.names.isEmpty || f.any isOnPath then .directory else .absent

/-- The folder with something put at a path. -/
def put (f : Folder) (l : Location) (s : FileState) : Folder :=
  (l, s) :: f.filter fun e => e.1 ≠ l

/-- Why nothing can be read at a path. -/
inductive ReadFault where
  | absent
  | directory
  /-- The path goes on behind a file. -/
  | noDirectory
deriving DecidableEq

def ReadFault.message : ReadFault → String
  | absent => "No such file or directory"
  | directory => "Is a directory"
  | noDirectory => "Not a directory"

/-- Does a path name what it leads to as a folder? -/
def endsAsFolder (path : String) : Bool :=
  match (Text.splitOn '/' path.toList).getLast? with
  | some [] | some ['.'] => true
  | _ => false

/-- Is there a file on the way to a path? -/
def leavesFile (f : Folder) (l : Location) : Bool :=
  (List.range l.names.length).any fun n =>
    match f.find { l with names := l.names.take n } with
    | .file _ => true
    | _ => false

/-- The bytes of the file at a path. -/
def read (f : Folder) (path : String) : Except ReadFault (List UInt8) :=
  let l := Location.ofText path
  if path.isEmpty then .error .absent
  else match f.find l with
    | .file bytes => if endsAsFolder path then .error .noDirectory else .ok bytes
    | .directory => .error .directory
    | .absent => .error (if f.leavesFile l then .noDirectory else .absent)

end Folder

end Qualify
