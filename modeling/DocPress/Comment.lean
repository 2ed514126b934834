import DocPress.Data
import DocPress.TagSet

/-! # Documentation comments

A comment has a summary, block tags such as `@default` with a content of their own, and modifier
tags such as `@internal`. A comment hides its owner when it marks it as internal or deprecated.

Kinds, names and texts are texts in all documents but malformed ones; they are kept as the document
has them. -/

set_option autoImplicit false

namespace DocPress

/-- A run of comment text of one kind, such as `text` or `code`. -/
structure CommentPart where
  kind : Data
  text : Data
deriving DecidableEq

def CommentPart.textOf (parts : List CommentPart) : String :=
  String.join (parts.map fun p => p.text.display)

/-- The first text of a row of comment parts that is something else. -/
def CommentPart.nonText? (parts : List CommentPart) : Option Data :=
  (parts.map CommentPart.text).find? fun t => t.text?.isNone

structure BlockTag where
  tag : Data
  content : List CommentPart
deriving DecidableEq

structure DocComment where
  summary : List CommentPart
  blockTags : List BlockTag
  modifierTags : TagSet
deriving DecidableEq

namespace DocComment

def summaryText (c : DocComment) : String := CommentPart.textOf c.summary

/-- The first block tag of a name. -/
def findTag? (c : DocComment) (tag : String) : Option BlockTag :=
  c.blockTags.find? fun b => b.tag = .text tag

def isInternal (c : DocComment) : Bool := c.modifierTags.contains "@internal"

def isDeprecated (c : DocComment) : Bool := (c.findTag? "@deprecated").isSome

def hides (c : DocComment) : Bool := c.isInternal || c.isDeprecated

def exampleTags (c : DocComment) : List BlockTag :=
  c.blockTags.filter fun b => b.tag = .text "@example"

def examples (c : DocComment) : List String :=
  c.exampleTags.map fun b => CommentPart.textOf b.content

end DocComment

end DocPress
