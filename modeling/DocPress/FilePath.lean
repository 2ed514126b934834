import DocPress.Text.Search

/-! # Lexical file paths

Paths are taken apart at their slashes without a look at any file. Repeated slashes, segments `.`
and a slash at the end vanish; segments `..` stay. A path that begins with exactly two slashes keeps
both.

* `FilePath.ofString`, `FilePath.text`: reading and writing.
* `FilePath.join`: a path below another; an absolute one replaces it.
* `FilePath.normal`: the normal form, in which `..` is resolved.
* `FilePath.relativeTo`: the way from one path to another.
* `FilePath.ofString_intercalate`: what is read from the text of a relative path. -/

set_option autoImplicit false

namespace DocPress

/-- A path: the slashes that it begins with, none for a relative one, and its segments. -/
structure FilePath where
  root : String
  segments : List String
deriving DecidableEq

namespace FilePath

/-- The slashes that a path keeps at its front. -/
def rootOf : List Char → String
  | ['/', '/'] => "//"
  | '/' :: '/' :: c :: _ => if c = '/' then "/" else "//"
  | '/' :: _ => "/"
  | _ => ""

def ofString (s : String) : FilePath :=
  ⟨rootOf s.toList, (Text.split '/' s).filter fun p => p ≠ "" ∧ p ≠ "."⟩

def isAbsolute (p : FilePath) : Bool := p.root ≠ ""

def text (p : FilePath) : String :=
  let s := p.root ++ "/".intercalate p.segments
  if s = "" then "." else s

def join (p q : FilePath) : FilePath :=
  if q.isAbsolute then q else ⟨p.root, p.segments ++ q.segments⟩

def parent (p : FilePath) : FilePath := ⟨p.root, p.segments.dropLast⟩

/-- Resolves the segments `..` among segments, after those of `done`, which are in reverse. A
segment `..` at the front of a relative path stays, at the root it vanishes. -/
def resolveDots (absolute : Bool) : (done : List String) → List String → List String
  | done, [] => done.reverse
  | done, s :: ss =>
    if s = ".." then
      match done with
      | [] => resolveDots absolute (if absolute then [] else [".."]) ss
      | d :: rest =>
        if d = ".." then resolveDots absolute (".." :: done) ss else resolveDots absolute rest ss
    else resolveDots absolute (s :: done) ss

def normal (p : FilePath) : FilePath := ⟨p.root, resolveDots p.isAbsolute [] p.segments⟩

/-- The rests of two lists after the longest front that they share. -/
def dropShared : List String → List String → List String × List String
  | a :: as, b :: bs => if a = b then dropShared as bs else (a :: as, b :: bs)
  | as, bs => (as, bs)

/-- The way from the directory `start` to `target`, both taken from the directory `here`. -/
def relativeTo (here target start : FilePath) : FilePath :=
  let goal := (here.join target).normal.segments
  let origin := (here.join start).normal.segments
  let (down, up) := dropShared goal origin
  ⟨"", up.map (fun _ => "..") ++ down⟩

/-- What follows the directory `base` in a path below it. -/
def below? (base p : FilePath) : Option FilePath :=
  if base.root = p.root ∧ base.segments.isPrefixOf p.segments then
    some ⟨"", p.segments.drop base.segments.length⟩
  else none

/-- A path as it is shown in a directory: from there if it is below, and as it is otherwise. -/
def shownFrom (here p : FilePath) : FilePath := (here.below? p).getD p

/-! ## Plain segments -/

/-- A segment of a path that stands in its text as it is. -/
structure PlainSegment (s : String) : Prop where
  nonempty : s ≠ ""
  notDot : s ≠ "."
  noSlash : '/' ∉ s.toList

instance (s : String) : Decidable (PlainSegment s) :=
  decidable_of_iff (s ≠ "" ∧ s ≠ "." ∧ '/' ∉ s.toList)
    ⟨fun plain => ⟨plain.1, plain.2.1, plain.2.2⟩,
      fun plain => ⟨plain.nonempty, plain.notDot, plain.noSlash⟩⟩

theorem rootOf_append {cs rest : List Char} (nonempty : cs ≠ []) (noSlash : '/' ∉ cs) :
    rootOf (cs ++ rest) = "" := by
  cases cs with
  | nil => exact absurd rfl nonempty
  | cons c cs =>
    have notSlash : c ≠ '/' := fun isSlash => noSlash (by simp [isSlash])
    rw [List.cons_append, rootOf]
    all_goals simp_all

theorem intercalate_ne_empty {sep : String} {segments : List String} (nonempty : segments ≠ [])
    (plain : ∀ s ∈ segments, PlainSegment s) : sep.intercalate segments ≠ "" := by
  cases segments with
  | nil => exact absurd rfl nonempty
  | cons s rest =>
    have first := (plain s List.mem_cons_self).nonempty
    cases rest with
    | nil => simpa using first
    | cons t rest => simp [String.intercalate_cons_cons, first]

/-- Plain segments make a relative path that has these segments. -/
theorem ofString_intercalate {segments : List String} (nonempty : segments ≠ [])
    (plain : ∀ s ∈ segments, PlainSegment s) :
    ofString ("/".intercalate segments) = ⟨"", segments⟩ := by
  have pieces : Text.split '/' ("/".intercalate segments) = segments :=
    Text.split_intercalate nonempty fun s member => (plain s member).noSlash
  have kept : (segments.filter fun s => s ≠ "" ∧ s ≠ ".") = segments := by
    refine List.filter_eq_self.mpr fun s member => ?_
    simp [(plain s member).nonempty, (plain s member).notDot]
  have relative : rootOf ("/".intercalate segments).toList = "" := by
    cases segments with
    | nil => exact absurd rfl nonempty
    | cons s rest =>
      have first := plain s List.mem_cons_self
      have firstChars : s.toList ≠ [] := by simpa using first.nonempty
      cases rest with
      | nil =>
        have alone : rootOf (s.toList ++ []) = "" := rootOf_append firstChars first.noSlash
        simpa using alone
      | cons t rest =>
        rw [String.intercalate_cons_cons, String.toList_append, String.toList_append,
          List.append_assoc]
        exact rootOf_append firstChars first.noSlash
  rw [ofString, pieces, kept, relative]

theorem text_relative {segments : List String} (nonempty : segments ≠ [])
    (plain : ∀ s ∈ segments, PlainSegment s) :
    (⟨"", segments⟩ : FilePath).text = "/".intercalate segments := by
  simp [text, intercalate_ne_empty nonempty plain]

/-- What is put after a path is put after its last segment. -/
theorem intercalate_append_last (sep ending : String) (front : List String) (last : String) :
    sep.intercalate (front ++ [last ++ ending]) = sep.intercalate (front ++ [last]) ++ ending := by
  cases front with
  | nil => simp
  | cons s front =>
    rw [String.intercalate_append_of_ne_nil (List.cons_ne_nil s front) (List.cons_ne_nil _ _),
      String.intercalate_append_of_ne_nil (List.cons_ne_nil s front) (List.cons_ne_nil _ _)]
    simp [String.append_assoc]

end FilePath

end DocPress
