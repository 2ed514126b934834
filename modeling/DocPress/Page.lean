import DocPress.FilePath
import DocPress.Section

/-! # Pages

A page has a title, a description and a source for its front matter, sections for its body, and a
path below the root of the documentation. This module writes it as text and says where it goes.

* `Page.write`: the text of a page.
* `Page.importRoot`: the way from the directory of a page to the root of the site, by which the page
  imports its components. -/

set_option autoImplicit false

namespace DocPress

structure Page where
  title : String
  description : String
  /-- The source named in the note that the page is not to be edited. -/
  source : String
  outputPath : FilePath
  sections : List Section
  /-- Whether the body stands inside a container. -/
  wrapBody : Bool := true
deriving DecidableEq

namespace Page

/-- The components that every page imports, with their paths below the root of the site. -/
def componentImports : List (String × String) :=
  [("VideoAside", "src/components/VideoAside.astro"),
   ("Segment", "src/components/tsdoc/Segment.astro"),
   ("Section", "src/components/tsdoc/Section.astro"),
   ("NestedTitle", "src/components/tsdoc/NestedTitle.astro"),
   ("InlineSection", "src/components/tsdoc/InlineSection.astro")]

def target (p : Page) (outputDir docsRoot : FilePath) : FilePath :=
  (outputDir.join docsRoot).join p.outputPath

/-- The way from the directory of a page to the root of the site, both below the directory
`here`. -/
def importRoot (p : Page) (here docsRoot : FilePath) : FilePath :=
  FilePath.relativeTo here (.ofString "") (docsRoot.join p.outputPath).parent

/-- The lines of a section: its heading, after an empty line unless it has an anchor, and its
body. -/
def sectionLines (s : Section) : List String :=
  (if s.anchor.any fun a => a ≠ "" then [s.heading]
    else if s.heading = "" then []
    else ["", s.heading])
  ++ s.body

def lines (p : Page) (importRoot : String) : List String :=
  ["---", "title: " ++ p.title, "description: " ++ p.description, "---", "",
    "\x7b/* DO NOT EDIT. AUTO-GENERATED FROM \"" ++ p.source ++ "\" */\x7d", "",
    "import \x7b Tabs, TabItem \x7d from '@astrojs/starlight/components';"]
  ++ componentImports.map (fun i =>
      "import " ++ i.1 ++ " from '" ++ importRoot ++ "/" ++ i.2 ++ "';")
  ++ [""]
  ++ (if p.wrapBody then ["<div class=\"tsdoc\">"] else [])
  ++ p.sections.flatMap sectionLines
  ++ (if p.wrapBody then ["</div>"] else [])

/-- The text of a page: its lines, each with a line feed after it. -/
def write (p : Page) (here docsRoot : FilePath) : String :=
  String.join ((p.lines (p.importRoot here docsRoot).text).map fun line => line ++ "\n")

end Page

end DocPress
