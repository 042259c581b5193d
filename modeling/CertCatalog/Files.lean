import CertCatalog.Bytes.Utf8
import CertCatalog.Text.Split

/-!
# Files

The files that the catalog can see, by the paths that lead to them, and what reading them gives.
-/

namespace CertCatalog

open CertCatalog.Bytes

inductive FileNode where
  | file (contents : Bytes)
  | directory
  deriving DecidableEq, Repr

inductive FileError where
  | notFound
  | isDirectory
  | notADirectory
  | nameTooLong
  | nulInName
  | notText
  deriving DecidableEq, Repr

def FileError.message : FileError → String
  | .notFound => "No such file or directory (os error 2)"
  | .isDirectory => "Is a directory (os error 21)"
  | .notADirectory => "Not a directory (os error 20)"
  | .nameTooLong => "File name too long (os error 36)"
  | .nulInName => "file name contained an unexpected NUL byte"
  | .notText => "stream did not contain valid UTF-8"

/--
The nodes by the names that lead to them from the working directory.  An empty first name stands
for the root of all files.
-/
structure Files where
  nodes : List (List String × FileNode)
  deriving DecidableEq, Repr

namespace Files

/-- The names on a path; an empty name stands for the place that is reached so far. -/
def names (path : String) : List String :=
  Text.splitOn path '/'

def ofList (nodes : List (String × FileNode)) : Files :=
  { nodes := nodes.map fun (path, node) => (names path, node) }

def isStart (place : List String) : Bool :=
  place.isEmpty || place == [""]

/-- The node at a place; the names that lead to a node are directories. -/
def nodeAt? (files : Files) (place : List String) : Option FileNode :=
  if isStart place then some .directory
  else
    match files.nodes.find? (·.1 == place) with
    | some (_, node) => some node
    | none => if files.nodes.any (place.isPrefixOf ·.1) then some .directory else none

def longestName : Nat := 255

def longestPath : Nat := 4095

/-- Follows names from a place.  The parent of the working directory is out of sight. -/
def walk (files : Files) (place : List String) : List String → Except FileError FileNode
  | [] =>
      match files.nodeAt? place with
      | some node => .ok node
      | none => .error .notFound
  | name :: rest =>
      match files.nodeAt? place with
      | none => .error .notFound
      | some (.file _) => .error .notADirectory
      | some .directory =>
          if name.isEmpty || name == "." then walk files place rest
          else if name == ".." then
            if place.isEmpty then .error .notFound
            else walk files (if isStart place then place else place.dropLast) rest
          else if name.utf8ByteSize > longestName then .error .nameTooLong
          else walk files (place ++ [name]) rest

def find (files : Files) (path : String) : Except FileError FileNode :=
  if path.toList.contains '\x00' then .error .nulInName
  else if path.isEmpty then .error .notFound
  else if path.utf8ByteSize > longestPath then .error .nameTooLong
  else
    match names path with
    | "" :: rest => files.walk [""] rest
    | list => files.walk [] list

def read (files : Files) (path : String) : Except FileError Bytes :=
  match files.find path with
  | .ok (.file contents) => .ok contents
  | .ok .directory => .error .isDirectory
  | .error e => .error e

def readText (files : Files) (path : String) : Except FileError String :=
  match files.read path with
  | .ok contents =>
      match Bytes.text? contents with
      | some text => .ok text
      | none => .error .notText
  | .error e => .error e

def isFile (files : Files) (path : String) : Bool :=
  match files.find path with
  | .ok (.file _) => true
  | _ => false

end Files
end CertCatalog
