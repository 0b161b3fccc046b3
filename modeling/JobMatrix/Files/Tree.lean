import JobMatrix.Files.Fault

/-!
A tree of files as a value. A place in it is the list of names from the root; a path is a text
that leads to a place, from the root or from the working directory. A fault changes nothing.
-/
namespace JobMatrix

inductive FileNode where
  | file (content : ByteArray)
  | directory
  /-- Takes no byte, and gives more than can be held. -/
  | full
  /-- Takes every byte and keeps none. -/
  | sink

abbrev Place := List String

structure FileTree where
  nodes : List (Place × FileNode)
  workingDirectory : Place

namespace FileTree

def node? (tree : FileTree) (place : Place) : Option FileNode :=
  if place = [] then some .directory
  else (tree.nodes.find? (·.1 = place)).map Prod.snd

def set (tree : FileTree) (place : Place) (node : FileNode) : FileTree :=
  { tree with nodes := (place, node) :: tree.nodes.filter (·.1 ≠ place) }

/-! Paths -/

structure Path where
  fromRoot : Bool
  /-- The names between the slashes, none of them empty. -/
  names : List String
  slashed : Bool
  deriving DecidableEq

def Path.ofString (text : String) : Path where
  fromRoot := text.toList.head? == some '/'
  names := (text.splitOn "/").filter fun name => !name.isEmpty
  slashed := text.toList.getLast? == some '/'

def longestName : Nat := 255
def longestPath : Nat := 4095

def checkPath (text : String) : Except FileFault Unit :=
  if '\x00' ∈ text.toList then .error .zeroByteInName
  else if text.isEmpty then .error .missing
  else if longestPath < text.utf8ByteSize then .error .nameTooLong
  else .ok ()

def origin (tree : FileTree) (path : Path) : Place :=
  if path.fromRoot then [] else tree.workingDirectory

def enter (tree : FileTree) (place : Place) (name : String) : Except FileFault Place :=
  match tree.node? place with
  | none => .error .missing
  | some .directory =>
    if name = "." then .ok place
    else if name = ".." then .ok place.dropLast
    else if longestName < name.utf8ByteSize then .error .nameTooLong
    else .ok (place ++ [name])
  | some _ => .error .notDirectory

def walk (tree : FileTree) : Place → List String → Except FileFault Place
  | place, [] => .ok place
  | place, name :: rest =>
    match tree.enter place name with
    | .error fault => .error fault
    | .ok next => tree.walk next rest

/-- The place of something to read. A slash at the end asks for a directory. -/
def locate (tree : FileTree) (text : String) : Except FileFault Place := do
  checkPath text
  let path := Path.ofString text
  tree.walk (tree.origin path) (if path.slashed then path.names ++ ["."] else path.names)

/-- The place of something to append to: a name in a directory, and not one that can only be a
directory itself. -/
def locateEntry (tree : FileTree) (text : String) : Except FileFault Place := do
  checkPath text
  let path := Path.ofString text
  match path.names.getLast? with
  | none => .error .isDirectory
  | some name =>
    let parent ← tree.walk (tree.origin path) path.names.dropLast
    let directory ← tree.enter parent "."
    if path.slashed || name = "." || name = ".." then .error .isDirectory
    else tree.enter directory name

/-! Reading and appending -/

def readBytes (tree : FileTree) (text : String) : Except FileFault ByteArray :=
  match tree.locate text with
  | .error fault => .error fault
  | .ok place =>
    match tree.node? place with
    | none => .error .missing
    | some (.file content) => .ok content
    | some .directory => .error .isDirectory
    | some .full => .error (.system "out of memory")
    | some .sink => .ok .empty

def read (tree : FileTree) (path : String) : Except FileFault String :=
  match tree.readBytes path with
  | .error fault => .error fault
  | .ok content =>
    match String.fromUTF8? content with
    | some text => .ok text
    | none => .error .notText

def append (tree : FileTree) (path text : String) : Except AppendFault FileTree :=
  match tree.locateEntry path with
  | .error fault => .error (.opening fault)
  | .ok place =>
    match tree.node? place with
    | none => .ok (tree.set place (.file text.toUTF8))
    | some (.file content) => .ok (tree.set place (.file (content ++ text.toUTF8)))
    | some .directory => .error (.opening .isDirectory)
    | some .full => .error (.writing .noSpace)
    | some .sink => .ok tree

end FileTree
end JobMatrix
