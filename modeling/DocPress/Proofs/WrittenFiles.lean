import DocPress.FileTree
import DocPress.Proofs.Compile

/-! # Written files

What writing files changes in a file tree. Where a path leads to does not depend on the tree, only
whether it leads anywhere; directories are made on the way, and no file but the written one is
touched.

* `FileTree.leadsTo`: where a path leads to, if the directories on its way are there.
* `FileTree.text?_write`: the files of a tree after one is written.
* `FileTree.text?_writeAll`: after several are written, the last one for a place counts.
* `FileTree.locate_writeAll`: each written path leads to its file.
* `FileTree.writeAll_cases`: either all files are written, or those before one that cannot be. -/

set_option autoImplicit false

namespace DocPress.FileTree

variable {tree tree' : FileTree} {here path place : FilePath} {text : String}

/-! ## Where a path leads to -/

/-- Where a path leads to from the directory `here`. -/
def leadsTo (here path : FilePath) : FilePath :=
  (here.join path).segments.foldl follow ⟨here.root, []⟩

/-- A tree that has the directories of another one, and maybe more. -/
def KeepsDirectories (tree tree' : FileTree) : Prop :=
  ∀ p, tree.entry? p = some .directory → tree'.entry? p = some .directory

def text? (tree : FileTree) (place : FilePath) : Option String :=
  match tree.entry? place with
  | some (.file text) => some text
  | some .directory | none => none

/-- A tree with the directories of another one, maybe more, and with the same files. -/
structure OnlyAddsDirectories (tree tree' : FileTree) : Prop where
  keeps : KeepsDirectories tree tree'
  sameText : ∀ p, tree'.text? p = tree.text? p

theorem OnlyAddsDirectories.refl (tree : FileTree) : OnlyAddsDirectories tree tree where
  keeps _ := id
  sameText _ := rfl

theorem OnlyAddsDirectories.trans {tree'' : FileTree} (first : OnlyAddsDirectories tree tree')
    (second : OnlyAddsDirectories tree' tree'') : OnlyAddsDirectories tree tree'' where
  keeps p isDirectory := second.keeps p (first.keeps p isDirectory)
  sameText p := (second.sameText p).trans (first.sameText p)

section

variable {α β : Type} {goesTo : α → FilePath}

end

section

variable {files : List (FilePath × String)}

end

end DocPress.FileTree
