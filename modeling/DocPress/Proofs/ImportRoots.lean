import DocPress.Page
import Mathlib.Data.List.Basic
import Mathlib.Data.List.Induction

/-! # The way from a page to the root of the site

A page imports its components by a path that leads from the directory of the page up to the root of
the site. The paths of the documentation and of the page are put together as they are written, with
segments `..` in any place, while the way up is counted in the normal form.

* `FilePath.push`: what one segment does to the segments before it, from which `resolveDots` is a
  fold.
* `FilePath.normal_join_of_inside`: a path that stays below its start has its normal form below any
  other directory, too.
* `Page.importRoot_leads_back`: the way up, and where it leads from the directory of the file that
  the page is written to. -/

set_option autoImplicit false

namespace DocPress

namespace FilePath

/-! ## Resolving one segment after another -/

/-- The segments after one more, both in reverse: a segment `..` takes the one before it away. -/
def push (absolute : Bool) (done : List String) (s : String) : List String :=
  if s = ".." then
    match done with
    | [] => if absolute then [] else [".."]
    | d :: rest => if d = ".." then ".." :: d :: rest else rest
  else s :: done

theorem resolveDots_eq_foldl (absolute : Bool) (done segments : List String) :
    resolveDots absolute done segments = (segments.foldl (push absolute) done).reverse := by
  induction segments generalizing done with
  | nil => rfl
  | cons s segments inductionHypothesis =>
    rw [List.foldl_cons, ← inductionHypothesis]
    by_cases isParent : s = ".."
    · cases done with
      | nil => simp [resolveDots, push, isParent]
      | cons d rest => by_cases isKept : d = ".." <;> simp [resolveDots, push, isParent, isKept]
    · simp [resolveDots, push, isParent]

variable {absolute : Bool} {done segments : List String} {s : String}

theorem push_of_ne (notParent : s ≠ "..") : push absolute done s = s :: done := if_neg notParent

theorem push_parent (notParent : s ≠ "..") : push absolute (s :: done) ".." = done :=
  if_neg notParent

/-- A segment of a relative path is kept, a segment `..` only behind others of the kind, or it takes
a name away. -/
theorem push_cases (done : List String) (s : String) :
    (push false done s = s :: done ∧ (s = ".." → done = [] ∨ ".." ∈ done)) ∨
      ∃ name, name ≠ ".." ∧ done = name :: push false done s := by
  by_cases isParent : s = ".."
  · subst isParent
    cases done with
    | nil => exact .inl ⟨rfl, fun _ => .inl rfl⟩
    | cons d rest =>
      by_cases isKept : d = ".."
      · subst isKept
        exact .inl ⟨rfl, fun _ => .inr List.mem_cons_self⟩
      · exact .inr ⟨d, isKept, by rw [push_parent isKept]⟩
  · exact .inl ⟨push_of_ne isParent, fun same => absurd same isParent⟩

/-- A segment `..` that a relative path has kept stays. -/
theorem parent_mem_push (member : ".." ∈ done) : ".." ∈ push false done s := by
  rcases push_cases done s with ⟨added, -⟩ | ⟨name, notParent, isFirst⟩
  · rw [added]
    exact List.mem_cons_of_mem s member
  · rw [isFirst] at member
    exact (List.mem_cons.mp member).resolve_left (Ne.symm notParent)

/-- The segments `..` that a relative path has kept stand at its front. -/
theorem getLast?_push (atFront : ".." ∈ done → done.getLast? = some "..")
    (member : ".." ∈ push false done s) : (push false done s).getLast? = some ".." := by
  rcases push_cases done s with ⟨added, behind⟩ | ⟨name, -, isFirst⟩
  -- a new `..` is the front itself, or there is one in front of it
  · rw [added] at member ⊢
    have earlier : done = [] ∨ ".." ∈ done :=
      (List.mem_cons.mp member).elim (fun same => behind same.symm) .inr
    rcases earlier with rfl | inDone
    · rw [List.mem_singleton.mp member]
      rfl
    · rw [List.getLast?_cons_of_ne_nil (List.ne_nil_of_mem inDone)]
      exact atFront inDone
  · rw [← List.getLast?_cons_of_ne_nil (List.ne_nil_of_mem member), ← isFirst]
    exact atFront (isFirst ▸ List.mem_cons_of_mem name member)

/-- What a segment does below other directories, unless it leads up to them. -/
theorem push_append {kept : List String} (inside : ".." ∉ push false kept s) :
    push absolute (kept ++ done) s = push false kept s ++ done := by
  by_cases isParent : s = ".."
  · subst isParent
    cases kept with
    | nil => exact absurd (List.mem_singleton_self _) inside
    | cons name kept =>
      have notParent : name ≠ ".." := by
        rintro rfl
        exact inside List.mem_cons_self
      rw [List.cons_append, push_parent notParent, push_parent notParent]
  · rw [push_of_ne isParent, push_of_ne isParent, List.cons_append]

/-! ## Resolving all segments -/

/-- The segments of a relative path in normal form, in reverse. -/
def keptOf (segments : List String) : List String := segments.foldl (push false) []

theorem keptOf_append_singleton (segments : List String) (s : String) :
    keptOf (segments ++ [s]) = push false (keptOf segments) s := by
  rw [keptOf, List.foldl_append]
  rfl

theorem getLast?_keptOf (member : ".." ∈ keptOf segments) :
    (keptOf segments).getLast? = some ".." := by
  induction segments using List.reverseRecOn with
  | nil => contradiction
  | append_singleton segments s inductionHypothesis =>
    rw [keptOf_append_singleton] at member ⊢
    exact getLast?_push inductionHypothesis member

/-- A path that stays below its start leads to the same segments below any other directory. -/
theorem foldl_push_of_inside (inside : ".." ∉ keptOf segments) :
    segments.foldl (push absolute) done = keptOf segments ++ done := by
  induction segments using List.reverseRecOn with
  | nil => rfl
  | append_singleton segments s inductionHypothesis =>
    rw [keptOf_append_singleton] at inside ⊢
    -- a path that leads out does so for good, so the path was inside before its last segment, too
    have insideBefore : ".." ∉ keptOf segments := fun member => inside (parent_mem_push member)
    rw [List.foldl_append, inductionHypothesis insideBefore, List.foldl_cons, List.foldl_nil,
      push_append inside]

/-- As many segments `..` as there are segments before them lead back. -/
theorem foldl_push_replicate {names : List String} (noParent : ".." ∉ names) :
    (List.replicate names.length "..").foldl (push absolute) (names ++ done) = done := by
  induction names with
  | nil => rfl
  | cons d names inductionHypothesis =>
    have notParent : d ≠ ".." := Ne.symm (List.ne_of_not_mem_cons noParent)
    rw [List.length_cons, List.replicate_succ, List.foldl_cons, List.cons_append,
      push_parent notParent]
    exact inductionHypothesis (List.not_mem_of_not_mem_cons noParent)

theorem dropShared_append (shared rest : List String) :
    dropShared shared (shared ++ rest) = ([], rest) := by
  induction shared with
  | nil => cases rest <;> rfl
  | cons s shared inductionHypothesis =>
    rw [List.cons_append, dropShared, if_pos rfl, inductionHypothesis]

/-! ## Paths that stay below their start -/

/-- A relative path that does not lead out of the directory from which it is taken. -/
structure StaysBelow (p : FilePath) : Prop where
  relative : p.isAbsolute = false
  noParent : ".." ∉ keptOf p.segments

variable {p q r : FilePath}

theorem join_of_relative (relative : q.isAbsolute = false) :
    p.join q = ⟨p.root, p.segments ++ q.segments⟩ := by
  rw [join, if_neg (by simp [relative])]

theorem isAbsolute_join (relative : q.isAbsolute = false) :
    (p.join q).isAbsolute = p.isAbsolute := by
  rw [join_of_relative relative]
  rfl

theorem join_assoc (second : q.isAbsolute = false) (third : r.isAbsolute = false) :
    (p.join q).join r = p.join (q.join r) := by
  have both : (q.join r).isAbsolute = false := (isAbsolute_join third).trans second
  rw [join_of_relative both, join_of_relative third, join_of_relative third,
    join_of_relative second, List.append_assoc]

theorem parent_join (relative : q.isAbsolute = false) (nonempty : q.segments ≠ []) :
    (p.join q).parent = p.join q.parent := by
  have parentRelative : q.parent.isAbsolute = false := relative
  rw [join_of_relative relative, join_of_relative parentRelative, parent, parent,
    List.dropLast_append_of_ne_nil nonempty]

theorem normal_eq (p : FilePath) :
    p.normal = ⟨p.root, (p.segments.foldl (push p.isAbsolute) []).reverse⟩ := by
  rw [normal, resolveDots_eq_foldl]

theorem segments_normal (relative : p.isAbsolute = false) :
    p.normal.segments = (keptOf p.segments).reverse := by
  rw [normal_eq, relative]
  rfl

/-- A relative path stays below its start if its normal form does not begin with `..`. -/
theorem staysBelow_of_head? (relative : p.isAbsolute = false)
    (notFirst : p.normal.segments.head? ≠ some "..") : p.StaysBelow where
  relative := relative
  noParent := by
    intro member
    rw [segments_normal relative, List.head?_reverse] at notFirst
    exact notFirst (getLast?_keptOf member)

theorem StaysBelow.parent (below : p.StaysBelow) : p.parent.StaysBelow where
  relative := below.relative
  noParent := by
    have noParent := below.noParent
    show ".." ∉ keptOf p.segments.dropLast
    rcases List.eq_nil_or_concat' p.segments with isEmpty | ⟨front, last, isLast⟩
    · rw [isEmpty]
      exact List.not_mem_nil
    · rw [isLast, keptOf_append_singleton] at noParent
      rw [isLast, List.dropLast_concat]
      exact fun member => noParent (parent_mem_push member)

theorem StaysBelow.normal_join (below : q.StaysBelow) :
    (p.join q).normal = ⟨p.root, p.normal.segments ++ q.normal.segments⟩ := by
  rw [join_of_relative below.relative, segments_normal below.relative, normal_eq, normal_eq,
    List.foldl_append, foldl_push_of_inside below.noParent, List.reverse_append]
  rfl

/-! ## The way up -/

/-- The way up by a number of directories. -/
def up (count : Nat) : FilePath := ⟨"", List.replicate count ".."⟩

theorem plain_up (count : Nat) : ∀ s ∈ List.replicate count "..", PlainSegment s := by
  intro s member
  obtain rfl := List.eq_of_mem_replicate member
  decide

theorem text_up (count : Nat) :
    (up count).text = if count = 0 then "." else "/".intercalate (List.replicate count "..") := by
  split
  · rename_i isZero
    rw [isZero]
    decide
  · rename_i notZero
    exact text_relative (by simpa using notZero) (plain_up count)

theorem ofString_text_up (count : Nat) : ofString (up count).text = up count := by
  rw [text_up]
  split
  · rename_i isZero
    rw [isZero]
    decide
  · rename_i notZero
    exact ofString_intercalate (by simpa using notZero) (plain_up count)

theorem relativeTo_of_staysBelow (here : FilePath) (below : p.StaysBelow) :
    relativeTo here (.ofString "") p = up p.normal.segments.length := by
  have hereItself : here.join (.ofString "") = here := by
    have isEmpty : ofString "" = ⟨"", []⟩ := by decide
    rw [isEmpty, join_of_relative rfl, List.append_nil]
  rw [relativeTo, hereItself, below.normal_join]
  simp only [dropShared_append]
  rw [List.append_nil, List.map_const', up]

theorem StaysBelow.normal_join_up (below : q.StaysBelow) :
    ((p.join q).join (up q.normal.segments.length)).normal = p.normal := by
  have count : q.normal.segments.length = (keptOf q.segments).length := by
    rw [segments_normal below.relative, List.length_reverse]
  rw [count, join_of_relative rfl, join_of_relative below.relative, normal_eq, normal_eq, up,
    List.foldl_append, List.foldl_append, foldl_push_of_inside below.noParent,
    foldl_push_replicate below.noParent]
  rfl

end FilePath

namespace Page

open FilePath (up)

/-- Where neither path is absolute and the page is below the root of the site, the imports of a page
start from as many segments `..` as the normal form of its directory has segments. From the
directory of the file that the page is written to, they lead back to the directory that the site is
written to, whatever that is. -/
theorem importRoot_leads_back (p : Page) (here docsRoot : FilePath)
    (docsRelative : docsRoot.isAbsolute = false) (relative : p.outputPath.isAbsolute = false)
    (named : p.outputPath.segments ≠ [])
    (below : (docsRoot.join p.outputPath).normal.segments.head? ≠ some "..") :
    let count := (docsRoot.join p.outputPath).parent.normal.segments.length
    (p.importRoot here docsRoot).text =
      (if count = 0 then "." else "/".intercalate (List.replicate count "..")) ∧
    ∀ outputDir : FilePath,
      ((p.target outputDir docsRoot).parent.join
        (.ofString (p.importRoot here docsRoot).text)).normal = outputDir.normal := by
  intro count
  have pathRelative : (docsRoot.join p.outputPath).isAbsolute = false :=
    (FilePath.isAbsolute_join relative).trans docsRelative
  have directoryBelow := (FilePath.staysBelow_of_head? pathRelative below).parent
  have isUp : p.importRoot here docsRoot = up count :=
    FilePath.relativeTo_of_staysBelow here directoryBelow
  rw [isUp, FilePath.text_up]
  refine ⟨rfl, fun outputDir => ?_⟩
  rw [← FilePath.text_up, FilePath.ofString_text_up]
  have nonempty : (docsRoot.join p.outputPath).segments ≠ [] := by
    rw [FilePath.join_of_relative relative]
    exact List.append_ne_nil_of_right_ne_nil _ named
  have directory : (p.target outputDir docsRoot).parent =
      outputDir.join (docsRoot.join p.outputPath).parent := by
    rw [target, FilePath.join_assoc docsRelative relative,
      FilePath.parent_join pathRelative nonempty]
  rw [directory]
  exact directoryBelow.normal_join_up

/-- A page two directories below the root of the documentation. -/
def bucketPage : Page where
  title := "Bucket"
  description := "Reference doc for the `sst.aws.Bucket` component."
  source := "platform/src/components/aws/bucket.ts"
  outputPath := .ofString "component/aws/bucket.mdx"
  sections := []

/-- The path of the documentation may have `.`, `..` and repeated slashes in any place. -/
theorem importRoot_leads_back_dotted :
    let docsRoot := FilePath.ofString "./src//old/../docs/"
    docsRoot.isAbsolute = false ∧ bucketPage.outputPath.isAbsolute = false ∧
    bucketPage.outputPath.segments ≠ [] ∧
    (docsRoot.join bucketPage.outputPath).normal.segments.head? ≠ some ".." ∧
    (bucketPage.importRoot (.ofString "/work") docsRoot).text = "../../../.." ∧
    ∀ outputDir : FilePath,
      ((bucketPage.target outputDir docsRoot).parent.join (.ofString "../../../..")).normal =
        outputDir.normal := by
  intro docsRoot
  have docsRelative : docsRoot.isAbsolute = false := by decide
  have relative : bucketPage.outputPath.isAbsolute = false := by decide
  have named : bucketPage.outputPath.segments ≠ [] := by decide
  have below : (docsRoot.join bucketPage.outputPath).normal.segments.head? ≠ some ".." := by decide
  obtain ⟨way, back⟩ :=
    importRoot_leads_back bucketPage (.ofString "/work") docsRoot docsRelative relative named below
  have up : (bucketPage.importRoot (.ofString "/work") docsRoot).text = "../../../.." := way
  rw [up] at back
  exact ⟨docsRelative, relative, named, below, up, back⟩

end Page

end DocPress
