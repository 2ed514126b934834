import DocPress.FilePath

/-! # What stops a file from being used

* `FileFault`: why a file cannot be read or written.
* `FilePath.nameFault?`: a path whose text no file system takes. -/

set_option autoImplicit false

namespace DocPress

/-- Why a file cannot be read or written. -/
inductive FileFault where
  /-- Nothing stands at the path, or at the path of a directory on the way. -/
  | missing
  /-- The path leads through a file. -/
  | notDirectory
  | isDirectory
  | fileInTheWay
  | nameTooLong
  | nameNotAllowed
deriving DecidableEq

def FileFault.reason : FileFault → String
  | missing => "there is no such file or directory"
  | notDirectory => "its path leads through a file"
  | isDirectory => "it is a directory"
  | fileInTheWay => "a file stands where a directory is needed"
  | nameTooLong => "its name is too long"
  | nameNotAllowed => "its name has a character that names do not have"

/-- Whether a fault says that there is no such file, rather than one that cannot be used. -/
def FileFault.isAbsence : FileFault → Bool
  | missing => true
  | notDirectory => true
  | nameNotAllowed => true
  | _ => false

namespace FilePath

def maxSegmentBytes : Nat := 255

def maxBytes : Nat := 4095

/-- Why no file is looked for at a path, if its text is of no form that paths have. -/
def nameFault? (p : FilePath) : Option FileFault :=
  if p.text.toList.contains '\x00' then some .nameNotAllowed
  else if maxBytes < p.text.utf8ByteSize then some .nameTooLong
  else none

end FilePath

end DocPress
