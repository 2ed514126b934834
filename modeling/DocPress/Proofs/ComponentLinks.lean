import DocPress.Page.OfUnit
import DocPress.Proofs.SamePageLinks
import Mathlib.Data.List.TakeWhile

/-! # Links to the pages of components

The address of a link to a component is made from the path of its source file, by replacing in it
what looks like the path of a component source. The path of the page is made from the name of its
unit. Where a unit is named after its file, the two lead to the same place, whatever the segments of
the path are.

* `DocUnit.ComponentSource`: the units that are named after their file among the component sources.
* `Link.componentPages_source`: what becomes of the path of such a file.
* `Link.href_eq_page_path`: a link to a target in that file leads to the page of its unit. -/

set_option autoImplicit false

namespace DocPress

/-- The name of the file among the component sources whose path has some segments. -/
def componentFile (segments : List String) : String :=
  "platform/src/" ++ "/".intercalate ("components" :: segments) ++ ".ts"

/-- A unit whose name is a path below `components`. -/
structure DocUnit.ComponentNamed (unit : DocUnit) (segments : List String) : Prop where
  nonempty : segments ≠ []
  plain : ∀ s ∈ segments, FilePath.PlainSegment s
  isNamed : unit.name = .text ("/".intercalate ("components" :: segments))

/-- A unit that is named after its file among the component sources. -/
structure DocUnit.ComponentSource (unit : DocUnit) (segments : List String) : Prop where
  nonempty : segments ≠ []
  plain : ∀ s ∈ segments, FilePath.PlainSegment s
  oneLine : ∀ s ∈ segments, '\n' ∉ s.toList
  isNamed : unit.name = .text ("/".intercalate ("components" :: segments))
  isDeclared : unit.sourcePath = some (.text (componentFile segments))

theorem DocUnit.ComponentSource.componentNamed {unit : DocUnit} {segments : List String}
    (source : unit.ComponentSource segments) : unit.ComponentNamed segments :=
  ⟨source.nonempty, source.plain, source.isNamed⟩

/-! ## The page -/

namespace Page

variable {config : SiteConfig} {sdk units : List DocUnit} {unit : DocUnit}
  {segments : List String} {page : Page}

theorem plainSegment_append {s : String} (plain : FilePath.PlainSegment s) :
    FilePath.PlainSegment (s ++ ".mdx") := by
  have noSlash : '/' ∉ (s ++ ".mdx").toList := by
    rw [String.toList_append, List.mem_append]
    rintro (inName | inEnding)
    · exact plain.noSlash inName
    · exact absurd inEnding (by decide)
  refine ⟨by simp, ?_, noSlash⟩
  intro isDot
  have lengths : (s ++ ".mdx").length = 1 := congrArg String.length isDot
  rw [String.length_append] at lengths
  have ending : ".mdx".length = 4 := rfl
  omega

theorem segments_of_componentNamed (named : unit.ComponentNamed segments) :
    unit.segments = .ok ("components" :: segments) := by
  have plain : ∀ s ∈ "components" :: segments, '/' ∉ s.toList := by
    intro s member
    rcases List.mem_cons.mp member with rfl | member
    · decide
    · exact (named.plain s member).noSlash
  have pieces : Text.split '/' ("/".intercalate ("components" :: segments)) = _ :=
    Text.split_intercalate (List.cons_ne_nil _ _) plain
  rw [DocUnit.segments, named.isNamed]
  exact congrArg Except.ok pieces

theorem plain_pageSegments {front : List String} {last : String}
    (named : unit.ComponentNamed (front ++ [last])) :
    ∀ s ∈ front ++ [last ++ ".mdx"], FilePath.PlainSegment s := by
  intro s member
  rcases List.mem_append.mp member with inFront | isLast
  · exact named.plain s (List.mem_append_left _ inFront)
  · rw [List.mem_singleton.mp isLast]
    exact plainSegment_append (named.plain last (by simp))

theorem pathOf_of_componentNamed {front : List String} {last : String}
    (named : unit.ComponentNamed (front ++ [last])) :
    pathOf unit = .ok ⟨"", "component" :: (front ++ [last ++ ".mdx"])⟩ := by
  have below : FilePath.ofString ("/".intercalate (front ++ [last]) ++ ".mdx") =
      ⟨"", front ++ [last ++ ".mdx"]⟩ := by
    rw [← FilePath.intercalate_append_last]
    exact FilePath.ofString_intercalate (by simp) (plain_pageSegments named)
  rw [pathOf, segments_of_componentNamed named]
  exact congrArg (fun p => Except.ok ((FilePath.ofString "component").join p)) below

/-- The page of a unit stands at the path that its name gives below `component`. -/
theorem pathOf_componentSource (source : unit.ComponentSource segments) :
    ∃ path, pathOf unit = .ok path ∧
      path.text = "/".intercalate ("component" :: segments) ++ ".mdx" := by
  have named := source.componentNamed
  obtain ⟨front, last, rfl⟩ := (List.eq_nil_or_concat' segments).resolve_left source.nonempty
  have plainPage : ∀ s ∈ "component" :: (front ++ [last ++ ".mdx"]), FilePath.PlainSegment s := by
    intro s member
    rcases List.mem_cons.mp member with rfl | member
    · exact ⟨by decide, by decide, by decide⟩
    · exact plain_pageSegments named s member
  refine ⟨_, pathOf_of_componentNamed named, ?_⟩
  rw [FilePath.text_relative (List.cons_ne_nil _ _) plainPage, ← List.cons_append,
    FilePath.intercalate_append_last, List.cons_append]

theorem outputPath_of_ofLinkable (built : ofLinkable config unit = .ok page) :
    pathOf unit = .ok page.outputPath := by
  obtain ⟨source, -, built⟩ := exists_of_bind_eq_ok built
  split at built
  · cases built
  · obtain ⟨sections, -, built⟩ := exists_of_bind_eq_ok built
    obtain ⟨path, isPath, built⟩ := exists_of_bind_eq_ok built
    cases built
    exact isPath

theorem outputPath_of_ofComponent (built : ofComponent config sdk unit = .ok page) :
    pathOf unit = .ok page.outputPath := by
  obtain ⟨parts, -, built⟩ := exists_of_bind_eq_ok built
  obtain ⟨cls, -, built⟩ := exists_of_bind_eq_ok built
  obtain ⟨version, -, built⟩ := exists_of_bind_eq_ok built
  obtain ⟨fullName, -, built⟩ := exists_of_bind_eq_ok built
  obtain ⟨source, -, built⟩ := exists_of_bind_eq_ok built
  obtain ⟨path, isPath, built⟩ := exists_of_bind_eq_ok built
  cases built
  exact isPath

/-- The families whose pages stand where the name of the unit says. -/
def NamedByUnit (family : PageFamily) : Prop := family = .component ∨ family = .linkable

theorem requiredSource_componentSource (source : unit.ComponentSource segments) :
    unit.requiredSource = .ok (componentFile segments) := by
  have present : (Data.text (componentFile segments)).isTrue = true := by
    simp [Data.isTrue, componentFile]
  rw [DocUnit.requiredSource, source.isDeclared]
  simp [Option.filter, present, Data.required]

theorem outputPath_of_ofUnit? (source : unit.ComponentSource segments)
    (routed : NamedByUnit (config.routing.familyOf (componentFile segments)))
    (built : ofUnit? config sdk units unit = .ok (some page)) :
    pathOf unit = .ok page.outputPath := by
  obtain ⟨file, isFile, built⟩ := exists_of_bind_eq_ok built
  cases (requiredSource_componentSource source).symm.trans isFile
  rcases routed with family | family
  · rw [family] at built
    obtain ⟨page', built, isPage⟩ := exists_of_bind_eq_ok built
    cases isPage
    exact outputPath_of_ofComponent built
  · rw [family] at built
    obtain ⟨page', built, isPage⟩ := exists_of_bind_eq_ok built
    cases isPage
    exact outputPath_of_ofLinkable built

end Page

/-! ## The link -/

/-- What stands on the first line goes on to the end of that line. -/
theorem Text.firstLine_append {front : List Char} (oneLine : '\n' ∉ front) (back : List Char) :
    (firstLine (front ++ back)).1 = front ++ (firstLine back).1 := by
  refine List.takeWhile_append_of_pos fun c member => ?_
  have notFeed : c ≠ '\n' := fun isFeed => oneLine (isFeed ▸ member)
  simpa using notFeed

namespace Link

theorem componentPages_of_length_le {skip : Nat} {cs : List Char} (enough : cs.length ≤ skip) :
    componentPages skip cs = [] := by
  induction cs generalizing skip with
  | nil => cases skip <;> rfl
  | cons c cs inductionHypothesis =>
    cases skip with
    | zero => simp at enough
    | succ skip =>
      rw [componentPages]
      exact inductionHypothesis (by simpa using enough)

theorem readComponentSource_append {path : List Char} (oneLine : '\n' ∉ path) :
    readComponentSource (Fault.componentSourceRoot.toList ++ (path ++ ".ts".toList)) =
      some (path, Fault.componentSourceRoot.length + path.length + 3) := by
  have ending : (Text.firstLine ".ts".toList).1 = ".ts".toList := rfl
  rw [readComponentSource, Text.dropWord?_append]
  simp only [Text.firstLine_append oneLine, ending,
    Text.cutLast?_append_word (by decide : ".ts".toList ≠ [])]

/-- The whole path of a component source is replaced, as it ends with the last `.ts` in it. What
looks like a component source further on in it belongs to the part that is kept. -/
theorem componentPages_source {path : List Char} (oneLine : '\n' ∉ path) :
    componentPages 0 (Fault.componentSourceRoot.toList ++ (path ++ ".ts".toList)) =
      componentDocsRoot.toList ++ '/' :: path := by
  have read := readComponentSource_append oneLine
  have nonempty : Fault.componentSourceRoot.toList ++ (path ++ ".ts".toList) ≠ [] := by
    simp [Fault.componentSourceRoot]
  obtain ⟨c, rest, whole⟩ := List.exists_cons_of_ne_nil nonempty
  have lengths := congrArg List.length whole
  have ending : ".ts".toList.length = 3 := rfl
  simp only [List.length_append, List.length_cons, ending, String.length_toList] at lengths
  rw [whole] at read ⊢
  simp only [componentPages, read]
  rw [componentPages_of_length_le, List.append_nil]
  omega

theorem toList_componentFile {segments : List String} (nonempty : segments ≠ []) :
    (componentFile segments).toList =
      Fault.componentSourceRoot.toList ++ (("/".intercalate segments).toList ++ ".ts".toList) := by
  obtain ⟨s, rest, rfl⟩ := List.exists_cons_of_ne_nil nonempty
  rw [componentFile, String.intercalate_cons_cons]
  simp [Fault.componentSourceRoot]

/-- The address of the page of a component source, with the place on it that a name leads to. -/
theorem href_ofComponentSource {unit : DocUnit} {segments : List String}
    (source : unit.ComponentSource segments) (name : String) :
    (ofComponentSource name (componentFile segments)).href =
      "/docs/" ++ "/".intercalate ("component" :: segments) ++
        (if isArgsName name then "#" ++ Text.lower name else "") := by
  have oneLine : '\n' ∉ ("/".intercalate segments).toList := by
    intro member
    rcases Text.mem_intercalate member with inSep | ⟨s, among, inSegment⟩
    · exact absurd inSep (by decide)
    · exact source.oneLine s among inSegment
  obtain ⟨s, rest, rfl⟩ := List.exists_cons_of_ne_nil source.nonempty
  have path : String.ofList (componentPages 0 (componentFile (s :: rest)).toList) =
      "/docs/" ++ "/".intercalate ("component" :: s :: rest) := by
    rw [toList_componentFile source.nonempty, componentPages_source oneLine,
      String.intercalate_cons_cons]
    refine String.toList_inj.mp ?_
    simp [componentDocsRoot]
  rw [ofComponentSource, path]
  by_cases isArgs : isArgsName name = true
  · simp [isArgs, LinkTarget.href, String.append_assoc]
  · simp [isArgs, LinkTarget.href]

theorem resolve_of_pastNames {viewer : DocUnit} {ref : Reference} {name file : String}
    (past : PastNames viewer ref) (named : ref.name = .text name)
    (declared : ref.sourcePath = some (.text file))
    (isComponent : Fault.componentSourceRoot.toList.isPrefixOf file.toList = true) :
    resolve viewer ref = .ok (ofComponentSource name file) := by
  have nonempty : file ≠ "" := by
    rintro rfl
    exact absurd isComponent (by decide)
  have isSource : sourceOf ref = .ok file := by
    simp [sourceOf, declared, Option.filter, Data.isTrue, nonempty, Data.required]
  have isKey : ref.name.asKey = .ok ref.name := by
    rw [named]
    rfl
  have isText : ref.name.required .inspected = .ok name := by
    rw [named]
    rfl
  unfold resolve
  simp [isKey, past.noMarker, past.notShell, past.notClass, past.notInterface, isSource,
    isComponent, isText, bind, Except.bind, pure, Except.pure]

/-- A link to a target that is declared in the file of a component leads to the page of that
component, and for an argument type to a place on that page. -/
theorem href_eq_page_path {unit viewer : DocUnit} {segments : List String} {ref : Reference}
    {name : String} (source : unit.ComponentSource segments) (past : PastNames viewer ref)
    (named : ref.name = .text name) (targets : ref.sourcePath = unit.sourcePath) :
    ∃ target stem, resolve viewer ref = .ok target ∧
      target.href = "/docs/" ++ stem ++ (if isArgsName name then "#" ++ Text.lower name else "") ∧
      ∀ config sdk units page, Page.NamedByUnit (config.routing.familyOf (componentFile segments)) →
        Page.ofUnit? config sdk units unit = .ok (some page) →
        page.outputPath.text = stem ++ ".mdx" := by
  have isComponent :
      Fault.componentSourceRoot.toList.isPrefixOf (componentFile segments).toList = true := by
    rw [toList_componentFile source.nonempty, List.isPrefixOf_iff_prefix]
    exact List.prefix_append _ _
  have resolved := resolve_of_pastNames past named (targets.trans source.isDeclared) isComponent
  refine ⟨_, "/".intercalate ("component" :: segments), resolved,
    href_ofComponentSource source name, ?_⟩
  intro config sdk units page routed built
  obtain ⟨path, isPath, text⟩ := Page.pathOf_componentSource source
  cases isPath.symm.trans (Page.outputPath_of_ofUnit? source routed built)
  exact text

/-- A linkable helper in a directory whose name has the ending of a source file. -/
def permissionUnit : DocUnit where
  name := .text "components/a.ts/aws/permission"
  declarations := []
  sourcePath := some (.text "platform/src/components/a.ts/aws/permission.ts")
  comment := some ⟨[], [], TagSet.empty⟩

def emptyUnit : DocUnit := ⟨.text "components/aws/bucket", [], none, none⟩

/-- A reference to the arguments of the helper. -/
def permissionArgs : Reference where
  name := .text "PermissionArgs"
  package := none
  qualifiedName := none
  arguments := []
  target := some ⟨permissionUnit.sourcePath⟩

theorem componentSource_permissionUnit :
    permissionUnit.ComponentSource ["a.ts", "aws", "permission"] where
  nonempty := List.cons_ne_nil _ _
  plain := by
    have plain : ∀ s ∈ ["a.ts", "aws", "permission"], s ≠ "" ∧ s ≠ "." ∧ '/' ∉ s.toList := by
      decide
    exact fun s member => ⟨(plain s member).1, (plain s member).2.1, (plain s member).2.2⟩
  oneLine := by decide
  isNamed := rfl
  isDeclared := rfl

theorem href_eq_page_path_permission : ∃ target stem page,
    Page.ofUnit? .standard [] [permissionUnit] permissionUnit = .ok (some page) ∧
    resolve emptyUnit permissionArgs = .ok target ∧
    page.outputPath.text = stem ++ ".mdx" ∧
    target.href = "/docs/" ++ stem ++ "#permissionargs" := by
  have past : PastNames emptyUnit permissionArgs := ⟨by decide, by decide, rfl, rfl⟩
  have named : permissionArgs.name = .text "PermissionArgs" := rfl
  have routed : Page.NamedByUnit
      (SiteConfig.standard.routing.familyOf (componentFile ["a.ts", "aws", "permission"])) := by
    exact .inr (by decide)
  obtain ⟨page, built⟩ : ∃ page,
      Page.ofUnit? .standard [] [permissionUnit] permissionUnit = .ok (some page) := ⟨_, rfl⟩
  obtain ⟨target, stem, resolved, href, path⟩ :=
    href_eq_page_path componentSource_permissionUnit past named rfl
  exact ⟨target, stem, page, built, resolved, path _ _ _ _ routed built, href⟩

end Link

end DocPress
