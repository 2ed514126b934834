import DocPress.Numeral

/-! # Sections

A page is a row of sections, each with a heading and the lines under it. A section with an anchor
has a heading that links can lead to, and shows its parent before its title; a section of level zero
has no heading, and one of a level below zero has a heading without marks. -/

set_option autoImplicit false

namespace DocPress

structure Section where
  title : String
  level : Int
  body : List String
  anchor : Option String := none
  parent : Option String := none
deriving DecidableEq

namespace Section

/-- The heading line of a section, empty if it has none. -/
def heading (s : Section) : String :=
  match s.anchor with
  | some anchor =>
    "<NestedTitle id=\"" ++ anchor ++ "\" Tag=\"h" ++ Numeral.ofInt s.level ++ "\" parent=\""
      ++ s.parent.getD "" ++ "\">" ++ s.title ++ "</NestedTitle>"
  | none =>
    if s.level = 0 then ""
    else String.ofList (List.replicate s.level.toNat '#') ++ " " ++ s.title

def headingOnly (title : String) (level : Int) : Section := { title, level, body := [] }

def plain (body : List String) : Section := { title := "", level := 0, body }

end Section

end DocPress
