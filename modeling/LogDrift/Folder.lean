import LogDrift.Files

/-!
# Folders

A folder holds files in folders of its own, and a path leads from it through folders to a file.
Around it are other folders, of which nothing is known but that they exist.
-/

namespace LogDrift

/-- A way through folders. -/
structure Path where
  /-- Whether the way starts at the outermost folder. -/
  fromRoot : Bool
  /-- The names that are followed in turn. -/
  names : List String
  /-- Whether the last name is marked as that of a folder. -/
  toFolder : Bool
  deriving DecidableEq, Repr

namespace Path

/-- The bytes that a path must not reach in length. -/
def lengthLimit : Nat := 4096

/-- The bytes that a name must not exceed. -/
def nameLimit : Nat := 255

/-- The path that a text describes. A text may separate the names by any number of slashes. -/
def ofText (text : String) : Except FileRefusal Path :=
  if text.toList.contains '\x00' then .error .nulInPath
  else if text.isEmpty then .error .missing
  else if text.utf8ByteSize ≥ lengthLimit then .error .nameTooLong
  else .ok {
    fromRoot := text.toList.head? == some '/'
    names := (text.splitOn "/").filter (!·.isEmpty)
    toFolder := text.toList.getLast? == some '/' }

end Path

/-- The bytes of files by the names on the way to them. The folders on the way to a file exist with
it. -/
abbrev Folder := List (List String × ByteArray)

/-- A folder in which a path is followed. -/
inductive Position
  /-- A folder inside, by the names on the way to it. -/
  | inside (names : List String)
  /-- A folder around. -/
  | around
  deriving DecidableEq, Repr

namespace Position

/-- The folder that holds a folder. The outermost one holds itself. -/
def parent : Position → Position
  | inside [] => around
  | inside (name :: names) => inside (name :: names).dropLast
  | around => around

/-- The folder at which a path starts. -/
def start (path : Path) : Position :=
  if path.fromRoot then around else inside []

end Position

namespace Folder

/-- The folder that holds files at the given paths. -/
def ofList (files : List (String × ByteArray)) : Folder :=
  files.map fun (path, bytes) =>
    ((path.splitOn "/").filter fun name => !name.isEmpty && name != ".", bytes)

/-- What a name stands for in a folder. -/
inductive Place
  | file (bytes : ByteArray)
  | folder (position : Position)
  | nothing

/-- What the names on the way from the folder lead to. -/
def find (folder : Folder) (names : List String) : Place :=
  match folder.lookup names with
  | some bytes => .file bytes
  | none => if folder.any (names.isPrefixOf ·.1) then .folder (.inside names) else .nothing

/-- What a name stands for at a position. -/
def enter (folder : Folder) (position : Position) (name : String) : Except FileRefusal Place :=
  if name = "." then .ok (.folder position)
  else if name = ".." then .ok (.folder position.parent)
  else if name.utf8ByteSize > Path.nameLimit then .error .nameTooLong
  else match position with
    | .inside names => .ok (folder.find (names ++ [name]))
    | .around => .ok .nothing

/-- The folder to which names lead, each of them that of a folder. -/
def descend (folder : Folder) (position : Position) : List String → Except FileRefusal Position
  | [] => .ok position
  | name :: rest => do
    match ← folder.enter position name with
    | .folder next => folder.descend next rest
    | .file _ => .error .notFolder
    | .nothing => .error .missing

/-- The bytes of the file to which a path leads. -/
def bytes (folder : Folder) (path : Path) : Except FileRefusal ByteArray := do
  let position ← folder.descend (.start path) path.names.dropLast
  match path.names.getLast? with
  | none => .error .notFile
  | some name =>
    match ← folder.enter position name with
    | .file bytes => if path.toFolder then .error .notFolder else .ok bytes
    | .folder _ => .error .notFile
    | .nothing => .error .missing

/-- The text of the file to which a path leads. -/
def text (folder : Folder) (path : String) : Except FileRefusal String := do
  let bytes ← folder.bytes (← Path.ofText path)
  match String.fromUTF8? bytes with
  | some text => .ok text
  | none => .error .notText

/-- The files that can be read in a folder. -/
def files (folder : Folder) : Files where
  text path := (folder.text path).mapError FileRefusal.message

/-- Where a file is written. -/
inductive Target
  /-- A file that the folder does not hold yet, by the names on the way to it. -/
  | created (names : List String)
  /-- A file that is there already. -/
  | replaced
  /-- A file in a folder around. -/
  | outside
  deriving DecidableEq, Repr

/-- Where the file is written to which a path leads. A path marked as that of a folder is refused
before its last name is looked up. -/
def target (folder : Folder) (path : Path) : Except FileRefusal Target := do
  let position ← folder.descend (.start path) path.names.dropLast
  match path.names.getLast? with
  | none => .error .notFile
  | some name =>
    if path.toFolder then .error .notFile
    else match ← folder.enter position name with
      | .file _ => .ok .replaced
      | .folder _ => .error .notFile
      | .nothing =>
        match position with
        | .inside names => .ok (.created (names ++ [name]))
        | .around => .ok .outside

end Folder

end LogDrift
