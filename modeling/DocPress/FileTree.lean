import DocPress.Run

/-! # Runs on a file tree

A file tree has directories, and gives a text to some paths; all paths in it are absolute and
without segments `..`. A run takes place in a directory of the tree, from which relative paths are
taken.

A path is followed segment by segment, so a segment `..` leads out of a directory that is there, and
a path through a file or through nothing leads nowhere.

* `FileTree.locate`: where a path leads.
* `FileTree.read`, `FileTree.write`: one file; `get?_put` says what is there after a text is put.
* `FileTree.makeDirectories`: a directory with those that it needs.
* `FileTree.run`: the tree after a run, with the paths of the files written or the reason why there
  are none. -/

set_option autoImplicit false

namespace DocPress

/-- The directories of a tree, and its files with their texts. The root is a directory of every
tree. -/
structure FileTree where
  directories : List FilePath
  files : List (FilePath × String)
deriving DecidableEq

inductive FileTree.Entry where
  | directory
  | file (text : String)
deriving DecidableEq

namespace FileTree

def withAncestors (path : FilePath) : List FilePath :=
  (List.range (path.segments.length + 1)).map fun n => ⟨path.root, path.segments.take n⟩

def ofDirectory (path : FilePath) : FileTree := ⟨withAncestors path, []⟩

def get? (tree : FileTree) (path : FilePath) : Option String :=
  (tree.files.find? fun f => f.1 = path).map Prod.snd

def entry? (tree : FileTree) (path : FilePath) : Option Entry :=
  if path.segments.isEmpty || tree.directories.contains path then some .directory
  else (tree.get? path).map .file

/-! ## Following paths -/

def follow (directory : FilePath) (segment : String) : FilePath :=
  if segment = ".." then directory.parent
  else ⟨directory.root, directory.segments ++ [segment]⟩

/-- Where segments lead to from a directory. All segments but the last have to lead to
directories. -/
def locateFrom (tree : FileTree) (directory : FilePath) :
    List String → Except FileFault FilePath
  | [] => .ok directory
  | s :: ss =>
    let next := follow directory s
    if FilePath.maxSegmentBytes < s.utf8ByteSize then .error .nameTooLong
    else if ss.isEmpty then .ok next
    else
      match tree.entry? next with
      | some .directory => tree.locateFrom next ss
      | some (.file _) => .error .notDirectory
      | none => .error .missing

/-- Where a path leads to from the directory `here`. However many slashes an absolute path begins
with, it begins at the root. -/
def locate (tree : FileTree) (here path : FilePath) : Except FileFault FilePath :=
  match path.nameFault? with
  | some fault => .error fault
  | none =>
    tree.locateFrom ⟨here.root, []⟩ (here.join path).segments

def read (tree : FileTree) (here path : FilePath) : Except FileFault String := do
  match tree.entry? (← tree.locate here path) with
  | some (.file text) => return text
  | some .directory => throw .isDirectory
  | none => throw .missing

/-! ## Changes -/

/-- Sets the text of a file among files, at its place or at the end. -/
def setFile (path : FilePath) (text : String) :
    List (FilePath × String) → List (FilePath × String)
  | [] => [(path, text)]
  | f :: fs => if f.1 = path then (path, text) :: fs else f :: setFile path text fs

def put (tree : FileTree) (path : FilePath) (text : String) : FileTree :=
  { tree with files := setFile path text tree.files }

def makeDirectory (tree : FileTree) (here path : FilePath) : Except FileFault FileTree := do
  let place ← tree.locate here path
  match tree.entry? place with
  | some .directory => return tree
  | some (.file _) => throw .fileInTheWay
  | none => return { tree with directories := tree.directories ++ [place] }

/-- Makes the directory whose path has the given segments, in reverse, and, where something is
missing on the way to it, first the one above it. -/
def makeReversed (tree : FileTree) (here : FilePath) (root : String) :
    (reversed : List String) → Except FileFault FileTree
  | [] => tree.makeDirectory here ⟨root, []⟩
  | s :: up =>
    let path : FilePath := ⟨root, (s :: up).reverse⟩
    match tree.makeDirectory here path with
    | .error .missing => do (← tree.makeReversed here root up).makeDirectory here path
    | made => made

/-- Makes the directory that a path leads to from the directory `here`, with those that it needs. -/
def makeDirectories (tree : FileTree) (here path : FilePath) : Except FileFault FileTree :=
  tree.makeReversed here path.root path.segments.reverse

/-- Writes the file that a path leads to from the directory `here`, and makes the directories that
it needs. -/
def write (tree : FileTree) (here path : FilePath) (text : String) :
    Except FileFault FileTree := do
  let tree ← tree.makeDirectories here path.parent
  let place ← tree.locate here path
  match tree.entry? place with
  | some .directory => throw .isDirectory
  | _ => return tree.put place text

/-- Writes files in order up to the first that cannot be written: the tree after that, and what
stopped it. -/
def writeAll (tree : FileTree) (here : FilePath) :
    List (FilePath × String) → Option (FilePath × FileFault) × FileTree
  | [] => (none, tree)
  | (path, text) :: fs =>
    match tree.write here path text with
    | .ok tree => tree.writeAll here fs
    | .error fault => (some (path, fault), tree)

/-! ## Runs -/

/-- The texts of the files of a tree, read from the directory `here`, and those that `fetch` gives
for addresses of the web. -/
def sources (tree : FileTree) (here : FilePath) (fetch : String → Except FetchFault String) :
    Run.Sources Id :=
  ⟨tree.read here, fetch⟩

/-- A run in a directory of a tree: the paths of the files written, or why the run failed, and the
tree after it. What stands at the addresses of the web is given by `fetch`. -/
def run (tree : FileTree) (here : FilePath) (fetch : String → Except FetchFault String)
    (options : Run.Options) : Except RunFault (List FilePath) × FileTree :=
  match (Run.outputs (tree.sources here fetch) here options).run with
  | .error fault => (.error fault, tree)
  | .ok files =>
    match tree.writeAll here files with
    | (none, tree) => (.ok (files.map Prod.fst), tree)
    | (some (path, fault), tree) => (.error (.unwritable path fault), tree)

end FileTree

end DocPress
