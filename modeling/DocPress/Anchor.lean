import DocPress.Text.Lowercase
import DocPress.Text.Search
import DocPress.Numeral

/-! # Anchors

An anchor names a place on a page, so that links can lead there. The anchor of a field is made from
the dotted path to the field and from its name, and a page keeps a registry of the anchors it has
given out: an owner keeps its first anchor, and no two owners get the same one.

* `Anchor.base`: the anchor made from a path and a name, before collisions are looked at.
* `Anchors`: a registry, whose owners may be of any type with decidable equality.
* `Anchors.assign`: the anchor of an owner, given out at the first request. -/

set_option autoImplicit false

namespace DocPress

namespace Anchor

def isAllowed (c : Char) : Bool :=
  (decide ('a' ≤ c) && decide (c ≤ 'z')) || (decide ('0' ≤ c) && decide (c ≤ '9'))
    || decide (c = '.')

/-- The anchor for a name under a dotted path: all in lower case, only the letters `a` to `z`, the
digits and the full stops kept, and the full stops turned into hyphens. -/
def base (path name : String) : String :=
  let kept := (Text.lower (path ++ "." ++ name)).toList.filter isAllowed
  String.ofList (kept.map fun c => if c = '.' then '-' else c)

/-- The candidate anchors for a base: the base itself, then the base with `-1`, `-2`, and so on. -/
def candidate (base : String) : Nat → String
  | 0 => base
  | n + 1 => base ++ "-" ++ Numeral.ofNat (n + 1)

end Anchor

/-- The anchors given out so far, each with its owner, the latest first. -/
structure Anchors (Owner : Type) where
  given : List (Owner × String)

namespace Anchors

variable {Owner : Type}

def empty : Anchors Owner := ⟨[]⟩

def isTaken (registry : Anchors Owner) (anchor : String) : Bool :=
  registry.given.any fun entry => entry.2 = anchor

def firstFree (registry : Anchors Owner) (base : String) : (fuel n : Nat) → String
  | 0, n => Anchor.candidate base n
  | fuel + 1, n =>
    if registry.isTaken (Anchor.candidate base n) then firstFree registry base fuel (n + 1)
    else Anchor.candidate base n

/-- A free anchor for a base. Since the candidates differ, one of the first `k + 1` of them is free
when `k` anchors are taken. -/
def fresh (registry : Anchors Owner) (base : String) : String :=
  registry.firstFree base registry.given.length 0

variable [DecidableEq Owner]

def find? (registry : Anchors Owner) (owner : Owner) : Option String :=
  (registry.given.find? fun entry => entry.1 = owner).map Prod.snd

/-- The anchor of an owner: the one it holds, or else a free one made from its path and name, which
it then holds. -/
def assign (registry : Anchors Owner) (owner : Owner) (path name : String) :
    String × Anchors Owner :=
  match registry.find? owner with
  | some anchor => (anchor, registry)
  | none =>
    let anchor := registry.fresh (Anchor.base path name)
    (anchor, ⟨(owner, anchor) :: registry.given⟩)

end Anchors

end DocPress
