/-!
# Directories

The files that a program can see, by their paths, and reading one of them. Every path on the way to
an entry is a directory. A path is walked part by part: empty parts and `.` stay where they are,
`..` leads back, and any other part leads from a directory to what it holds.
-/

namespace SchemaWeaver

/-- What stands under a path. -/
inductive FileEntry where
  | file (bytes : ByteArray)
  | directory

/-- Why a file cannot be read. -/
inductive FileFault where
  | missing
  | isDirectory
  | notDirectory
  | nameTooLong
  deriving DecidableEq, Repr

namespace FileFault

/-- The number and the wording of a fault. -/
def message : FileFault → String
  | missing => "[Errno 2] No such file or directory"
  | isDirectory => "[Errno 21] Is a directory"
  | notDirectory => "[Errno 20] Not a directory"
  | nameTooLong => "[Errno 36] File name too long"

end FileFault

/-- The parts of a path that lead somewhere. -/
def significantParts (path : String) : List String :=
  let parts := path.toList.splitOn '/' |>.map String.ofList
  parts.filter fun part => part != "" && part != "."

/-- The slashes that a path starts with in its plain spelling. Two slashes are kept as they are, and
more of them are written as one. -/
def rootText (path : String) : String :=
  match (path.toList.takeWhile (· == '/')).length with
  | 0 => ""
  | 2 => "//"
  | _ => "/"

/-- The parts that lead to the place of a path. The root, however it is spelled, is an empty first
part. -/
def pathParts (path : String) : List String :=
  if rootText path == "" then significantParts path else "" :: significantParts path

/-- The spelling of a path with the given root and parts; the path without either is a dot. -/
def spelledPath (root : String) (parts : List String) : String :=
  let spelled := root ++ "/".intercalate parts
  if spelled == "" then "." else spelled

/-- A path in its plain spelling. -/
def plainPath (path : String) : String := spelledPath (rootText path) (significantParts path)

/-- The place that `..` leads to; at the root it leads nowhere. -/
def parentPlace (place : List String) : List String :=
  if place == [""] then place
  else if place.all (· == "..") then place ++ [".."]
  else place.dropLast

/-- The path in which every `..` takes back the part before it, whatever that part is. -/
def resolvedPath (path : String) : String :=
  let root := rootText path
  let place := (significantParts path).foldl
    (fun place part => if part == ".." then parentPlace place else place ++ [part])
    (if root == "" then [] else [""])
  spelledPath root (place.filter (· != ""))

/-- The most bytes that a part of a path may have. -/
def maxNameBytes : Nat := 255

/-- The most bytes that a path may have. -/
def maxPathBytes : Nat := 4095

/-- Entries by their paths. -/
structure Directory where
  entries : List (String × FileEntry)

namespace Directory

/-- The entries with the parts of their paths. -/
def located (d : Directory) : List (List String × FileEntry) :=
  d.entries.map fun entry => (pathParts entry.1, entry.2)

/-- What stands at a place, which is given by the parts that lead to it. -/
def entryAt? (d : Directory) (place : List String) : Option FileEntry :=
  match d.located.lookup place with
  | some entry => some entry
  | none =>
    if place.all (· == "..") || place == [""] ||
        d.located.any fun entry => place.isPrefixOf entry.1 then
      some .directory
    else none

/-- Walks from a place along parts to the entry that they lead to. -/
def walk (d : Directory) (place : List String) : List String → Except FileFault FileEntry
  | [] =>
    match d.entryAt? place with
    | some entry => .ok entry
    | none => .error .missing
  | part :: rest =>
    match d.entryAt? place with
    | none => .error .missing
    | some (.file _) => .error .notDirectory
    | some .directory =>
      if part = ".." then d.walk (parentPlace place) rest
      else if maxNameBytes < part.utf8ByteSize then .error .nameTooLong
      else d.walk (place ++ [part]) rest

/-- The entry that a path leads to. The path that an entry is listed under always leads there. -/
def find (d : Directory) (path : String) : Except FileFault FileEntry :=
  match d.located.lookup (pathParts path) with
  | some entry => .ok entry
  | none =>
    if maxPathBytes < (plainPath path).utf8ByteSize then .error .nameTooLong
    else
      match pathParts path with
      | "" :: rest => d.walk [""] rest
      | parts => d.walk [] parts

/-- The bytes of the file under a path. -/
def read (d : Directory) (path : String) : Except FileFault ByteArray :=
  match d.find path with
  | .ok (.file bytes) => .ok bytes
  | .ok .directory => .error .isDirectory
  | .error fault => .error fault

end Directory

end SchemaWeaver
