import DocPress.Proofs.BalancedPages
import DocPress.Proofs.ComponentBlocks

/-! # Versions in the section of a constructor

The class of a unit whose name ends with a version is used from that version of it, so the page
shows the version in the section of the constructor. Only the callee of the signature is meant to
show it. What is rewritten is each occurrence of `new` and the name of the class in the section,
also one in the text on a parameter, and one that goes on with further letters.

* `Text.replaceAll_eq_self_iff`: when something put in after a word changes a text.
* `Page.versioned_callee_iff`: when nothing but the callee is rewritten. -/

set_option autoImplicit false

namespace DocPress

/-! ## Replaced words -/

namespace Text

variable {word added cs : List Char}

theorem replaceFrom_eq_drop (w : Char) (ws by_ : List Char) (skip : Nat) (cs : List Char) :
    replaceFrom w ws by_ skip cs = replaceFrom w ws by_ 0 (cs.drop skip) := by
  induction cs generalizing skip with
  | nil => cases skip <;> simp [replaceFrom]
  | cons c cs inductionHypothesis =>
    cases skip with
    | zero => rfl
    | succ skip => rw [replaceFrom, inductionHypothesis, List.drop_succ_cons]

/-- A text that starts with a word has it replaced first, and then what follows. -/
theorem replaceAll_append (nonempty : word ≠ []) (by_ cs : List Char) :
    replaceAll word by_ (word ++ cs) = by_ ++ replaceAll word by_ cs := by
  cases word with
  | nil => contradiction
  | cons w ws =>
    have found : dropWord? (w :: ws) (w :: (ws ++ cs)) = some cs := dropWord?_append (w :: ws) cs
    rw [replaceAll, List.cons_append, replaceFrom, found]
    dsimp only
    rw [replaceFrom_eq_drop, List.drop_left]
    rfl

theorem dropWord?_eq_none_iff : dropWord? word cs = none ↔ ¬ word <+: cs := by
  constructor
  · rintro notFound ⟨rest, rfl⟩
    rw [dropWord?_append] at notFound
    cases notFound
  · intro notPrefix
    cases found : dropWord? word cs with
    | none => rfl
    | some rest => exact absurd ⟨rest, (eq_append_of_dropWord? found).symm⟩ notPrefix

theorem replaceFrom_eq_self {w : Char} {ws : List Char} (by_ : List Char)
    (absent : ¬ w :: ws <:+: cs) : replaceFrom w ws by_ 0 cs = cs := by
  induction cs with
  | nil => rfl
  | cons c cs inductionHypothesis =>
    rw [List.infix_cons_iff, not_or] at absent
    rw [replaceFrom, dropWord?_eq_none_iff.mpr absent.1]
    exact congrArg _ (inductionHypothesis absent.2)

/-- Where a word occurs, what is put in after it makes the text longer. -/
theorem lt_length_replaceFrom {w : Char} {ws : List Char} (nonempty : added ≠ [])
    (occurs : w :: ws <:+: cs) :
    cs.length < (replaceFrom w ws (w :: ws ++ added) 0 cs).length := by
  induction cs with
  | nil => simp at occurs
  | cons c cs inductionHypothesis =>
    rw [replaceFrom]
    cases found : dropWord? (w :: ws) (c :: cs) with
    | none =>
      have later := (List.infix_cons_iff.mp occurs).resolve_left (dropWord?_eq_none_iff.mp found)
      simpa using inductionHypothesis later
    | some rest =>
      -- the first occurrence is enough, as the text after it does not become shorter
      have notShorter := (inserted_replaceFrom w ws added ws.length cs).length_le
      have longer := List.length_pos_iff.mpr nonempty
      simp only [List.length_append, List.length_cons, List.length_drop] at notShorter ⊢
      omega

/-- Something put in after each occurrence of a word changes all texts in which the word occurs,
and no other. -/
theorem replaceAll_eq_self_iff (nonempty : added ≠ []) (isWord : word ≠ []) :
    replaceAll word (word ++ added) cs = cs ↔ ¬ word <:+: cs := by
  cases word with
  | nil => contradiction
  | cons w ws =>
    constructor
    · intro same occurs
      have longer := lt_length_replaceFrom nonempty occurs
      rw [replaceAll] at same
      rw [same] at longer
      exact lt_irrefl _ longer
    · exact replaceFrom_eq_self _

end Text

namespace Page

open Section

variable {className mark line : String}

/-! ## Callees -/

/-- What follows `new` and the name of a class in a line that starts with such a call. -/
def afterCallee? (className line : String) : Option String :=
  (Text.dropWord? ("new " ++ className ++ "(").toList line.toList).map fun arguments =>
    "(" ++ String.ofList arguments

/-- A line that shows a mark after its callee, if this is a class; other lines stay. -/
def markedCallee (className mark line : String) : String :=
  ((afterCallee? className line).map fun rest => "new " ++ className ++ mark ++ rest).getD line

/-- A line without its callee, if this is a class. -/
def besideCallee (className line : String) : String := (afterCallee? className line).getD line

/-- Whether `new` and the name of a class occur in a line, also as the start of another name. -/
def Calls (className line : String) : Prop := ("new " ++ className).toList <:+: line.toList

theorem eq_of_afterCallee? {rest : String} (found : afterCallee? className line = some rest) :
    line = "new " ++ className ++ rest := by
  obtain ⟨arguments, isRest, rfl⟩ := Option.map_eq_some_iff.mp found
  rw [← String.toList_inj, Text.eq_append_of_dropWord? isRest]
  simp

theorem versionedLine_empty (className line : String) : versionedLine className "" line = line :=
  String.toList_inj.mp (inserted_versionedLine className "" line).eq_of_empty

theorem versionedLine_eq_self_iff (nonempty : mark ≠ "") :
    versionedLine className mark line = line ↔ ¬ Calls className line := by
  have someMark : mark.toList ≠ [] := by simpa using nonempty
  rw [← String.toList_inj, versionedLine, String.toList_ofList,
    Text.replaceAll_eq_self_iff someMark (by simp), Calls]

theorem versionedLine_append (rest : String) :
    versionedLine className mark ("new " ++ className ++ rest) =
      "new " ++ className ++ mark ++ versionedLine className mark rest := by
  have isCall : ("new " ++ className).toList ≠ [] := by simp
  have starts : ("new " ++ className ++ rest).toList =
      ("new " ++ className).toList ++ rest.toList := String.toList_append
  rw [← String.toList_inj, versionedLine, String.toList_ofList, starts,
    Text.replaceAll_append isCall]
  simp [versionedLine]

/-- All that is rewritten in a line is its callee if and only if nothing beside it is a call. -/
theorem versionedLine_eq_markedCallee_iff (nonempty : mark ≠ "") :
    versionedLine className mark line = markedCallee className mark line ↔
      ¬ Calls className (besideCallee className line) := by
  rw [markedCallee, besideCallee]
  cases found : afterCallee? className line with
  | none => exact versionedLine_eq_self_iff nonempty
  | some rest =>
    rw [eq_of_afterCallee? found, versionedLine_append, ← versionedLine_eq_self_iff nonempty]
    simp

/-! ## Sections of constructors -/

/-- A section with its signature rewritten, which is the fifth line of that of a constructor. -/
def onSignature (rewrite : String → String) (s : Section) : Section :=
  { s with body := s.body.modify 4 rewrite }

theorem map_eq_modify_iff {α : Type} {f g h : α → α} {P : α → Prop}
    (self_iff : ∀ x, f x = x ↔ P x) (changed_iff : ∀ x, f x = g x ↔ P (h x)) (xs : List α)
    (i : Nat) : xs.map f = xs.modify i g ↔ ∀ x ∈ xs.modify i h, P x := by
  induction xs generalizing i with
  | nil => simp
  | cons x xs inductionHypothesis =>
    cases i with
    | zero =>
      have others : xs.map f = xs ↔ ∀ x ∈ xs, P x := by
        simpa [self_iff] using List.map_eq_map_iff (f := f) (g := id) (l := xs)
      simp [changed_iff, others]
    | succ i => simp [self_iff, inductionHypothesis]

theorem body_withVersion (className mark : String) (s : Section) :
    (withVersion className mark s).body = s.body.map (versionedLine className mark) := rfl

/-- A section is told from one with the same title, level and so on by its body. -/
theorem withVersion_eq_iff {s : Section} {body : List String} :
    withVersion className mark s = { s with body } ↔
      s.body.map (versionedLine className mark) = body := by
  rw [← body_withVersion]
  constructor
  · intro same
    rw [same]
  · rintro rfl
    rfl

theorem withVersion_empty (className : String) (s : Section) : withVersion className "" s = s := by
  refine withVersion_eq_iff.mpr ?_
  rw [List.map_congr_left fun line _ => versionedLine_empty className line, List.map_id']

theorem withVersion_eq_onSignature_iff (nonempty : mark ≠ "") (s : Section) :
    withVersion className mark s = onSignature (markedCallee className mark) s ↔
      ∀ line ∈ (onSignature (besideCallee className) s).body, ¬ Calls className line := by
  rw [onSignature, withVersion_eq_iff]
  exact map_eq_modify_iff (P := fun line => ¬ Calls className line)
    (fun _ => versionedLine_eq_self_iff nonempty)
    (fun _ => versionedLine_eq_markedCallee_iff nonempty) s.body 4

/-- A section whose fifth line is the signature of the constructor of a class. -/
def ShowsSignature (cls : Declaration) (s : Section) : Prop :=
  ∃ constructor signature shown,
    (cls.childrenOfKind .constructorDecl).head? = some constructor ∧
    constructor.firstSignature = .ok signature ∧ signature.render = .ok shown ∧
    s.body[4]? = some shown

theorem exists_of_constructorSection {unit : DocUnit} {cls : Declaration}
    (found : unit.requiredClass = .ok cls) {sections : List Section}
    (compiled : constructorSection unit = .ok sections) :
    ∃ s, sections = [s] ∧ ShowsSignature cls s := by
  obtain ⟨c, isClass, compiled⟩ := exists_of_bind_eq_ok compiled
  rw [found] at isClass
  cases isClass
  split at compiled
  · cases compiled
  · rename_i constructor others isFirst
    obtain ⟨signature, isSignature, compiled⟩ := exists_of_bind_eq_ok compiled
    obtain ⟨shown, rendered, compiled⟩ := exists_of_bind_eq_ok compiled
    obtain ⟨parameters, -, compiled⟩ := exists_of_bind_eq_ok compiled
    cases compiled
    exact ⟨_, rfl, constructor, signature, shown, by rw [isFirst]; rfl, isSignature, rendered, rfl⟩

/-! ## Pages of components -/

variable {config : SiteConfig} {sdk : List DocUnit} {unit : DocUnit} {page : Page}

/-- The second section of the page of a component is that of its constructor. -/
theorem exists_constructor_of_ofComponent (built : ofComponent config sdk unit = .ok page) :
    ∃ cls mark s, unit.requiredClass = .ok cls ∧ unit.versionMark = .ok mark ∧
      constructorSection unit = .ok [s] ∧ ShowsSignature cls s ∧
      page.sections[1]? = some (withVersion cls.name.display mark s) := by
  obtain ⟨parts, built, sameSections⟩ := exists_of_ofComponent built
  obtain ⟨cls, isClass, compiled⟩ := exists_compiled_of_partsOf built
  obtain ⟨comment, -, introduced⟩ := compiled.about
  obtain ⟨mark, own, isMark, ofConstructor, isConstructor⟩ := compiled.constructor
  obtain ⟨body, isIntroduction⟩ := eq_plain_of_about introduced
  obtain ⟨s, rfl, shows⟩ := exists_of_constructorSection isClass ofConstructor
  refine ⟨cls, mark, s, isClass, isMark, ofConstructor, shows, ?_⟩
  rw [sameSections, ComponentParts.sections, isIntroduction, isConstructor]
  rfl

/-- The page of a component shows the section of its constructor. If the name of the unit ends with
no version, the section is as it was compiled. If it ends with one, nothing but the callee of the
signature shows the version if and only if, beside this callee, `new` and the name of the class
occur nowhere in the section, also not with more letters after them. -/
theorem versioned_callee_iff (config : SiteConfig) (sdk : List DocUnit) (unit : DocUnit)
    (page : Page) (built : ofComponent config sdk unit = .ok page) :
    ∃ (name : String) (cls : Declaration) (own shown : Section),
      unit.name.required .searched = .ok name ∧ unit.requiredClass = .ok cls ∧
      constructorSection unit = .ok [own] ∧ ShowsSignature cls own ∧
      page.sections[1]? = some shown ∧
      ((∀ version, ¬ DocUnit.HasVersion name version) → shown = own) ∧
      ∀ version, DocUnit.HasVersion name version →
        (shown = onSignature (markedCallee cls.name.display ("." ++ version)) own ↔
          ∀ line ∈ (onSignature (besideCallee cls.name.display) own).body,
            ¬ Calls cls.name.display line) := by
  obtain ⟨cls, mark, own, isClass, isMark, ofConstructor, shows, isShown⟩ :=
    exists_constructor_of_ofComponent built
  obtain ⟨name, isName, marks⟩ := DocUnit.exists_of_versionMark isMark
  refine ⟨name, cls, own, _, isName, isClass, ofConstructor, shows, isShown, ?_, ?_⟩
  · intro noVersion
    rcases marks with ⟨rfl, -⟩ | ⟨version, hasVersion, -⟩
    · exact withVersion_empty _ own
    · exact absurd hasVersion (noVersion version)
  · intro version hasVersion
    rcases marks with ⟨-, noVersion⟩ | ⟨other, otherVersion, rfl⟩
    · exact absurd hasVersion (noVersion version)
    · -- a name has one version only, as it is read from the name
      have same : some other = some version :=
        (DocUnit.versionIn?_eq_some_iff.mpr otherVersion).symm.trans
          (DocUnit.versionIn?_eq_some_iff.mpr hasVersion)
      cases same
      exact withVersion_eq_onSignature_iff (by simp) own

/-- A unit named after a version of its class, whose constructor has one parameter with a text. -/
def clusterUnit (text : String) : DocUnit where
  name := .text "components/aws/cluster-v2"
  declarations :=
    [{ Declaration.bare "Cluster" .classDecl none
        [{ Declaration.bare "constructor" .constructorDecl none [] with
            signatures := [⟨.text "new Cluster", [parameter], none, none⟩] }] with
        comment := some ⟨[], [], TagSet.empty⟩
        sourcePath := some (.text "platform/src/components/aws/cluster-v2.ts") }]
  sourcePath := some (.text "platform/src/components/aws/cluster-v2.ts")
  comment := none
where
  parameter : Declaration :=
    { Declaration.bare "args" .parameterDecl (some (.primitive (.text "string"))) [] with
      comment := some ⟨[⟨.text "text", .text text⟩], [], TagSet.empty⟩ }

/-- What is shown of the constructor, with a version after the callee. -/
def clusterBody (callee text : String) : List String :=
  ["", "<Segment>", "<Section type=\"signature\">", "```ts", callee ++ "(args)", "```",
    "</Section>", "", "<Section type=\"parameters\">", "#### Parameters",
    "- <p><code class=\"key\">args</code> <code class=\"primitive\">string</code></p>", text,
    "</Section>", "</Segment>"]

theorem cluster_page_shown :
    (ofComponent .standard [] (clusterUnit "Its settings.")).map
      (fun page => page.sections[1]?.map Section.body) =
        .ok (some (clusterBody "new Cluster.v2" "Its settings.")) := by
  rfl

/-- The page of the class is built, and shows the version in the callee and nowhere else. -/
theorem versioned_callee_iff_cluster :
    ∃ page, ofComponent .standard [] (clusterUnit "Its settings.") = .ok page ∧
      page.sections[1]?.map Section.body = some (clusterBody "new Cluster.v2" "Its settings.") ∧
      ∃ (name : String) (cls : Declaration) (own shown : Section),
        (clusterUnit "Its settings.").name.required .searched = .ok name ∧
        (clusterUnit "Its settings.").requiredClass = .ok cls ∧
        constructorSection (clusterUnit "Its settings.") = .ok [own] ∧ ShowsSignature cls own ∧
        page.sections[1]? = some shown ∧
        ((∀ version, ¬ DocUnit.HasVersion name version) → shown = own) ∧
        ∀ version, DocUnit.HasVersion name version →
          (shown = onSignature (markedCallee cls.name.display ("." ++ version)) own ↔
            ∀ line ∈ (onSignature (besideCallee cls.name.display) own).body,
              ¬ Calls cls.name.display line) := by
  obtain ⟨page, built, isShown⟩ := exists_of_map_eq_ok cluster_page_shown
  exact ⟨page, built, isShown, versioned_callee_iff .standard [] _ page built⟩

theorem text_on_arguments_shown :
    (ofComponent .standard [] (clusterUnit "Made by `new ClusterArgs()`.")).map
      (fun page => page.sections[1]?.map Section.body) =
        .ok (some (clusterBody "new Cluster.v2" "Made by `new Cluster.v2Args()`.")) := by
  rfl

/-- A text that makes the arguments of a class is taken for one that makes the class. -/
theorem text_on_arguments_versioned :
    ¬ ∀ (config : SiteConfig) (sdk : List DocUnit) (unit : DocUnit) (page : Page)
        (name version : String) (cls : Declaration) (own : Section),
        ofComponent config sdk unit = .ok page → unit.name.required .searched = .ok name →
        DocUnit.HasVersion name version → unit.requiredClass = .ok cls →
        constructorSection unit = .ok [own] →
        page.sections[1]? =
          some (onSignature (markedCallee cls.name.display ("." ++ version)) own) := by
  intro onlyCallee
  obtain ⟨page, built, isShown⟩ := exists_of_map_eq_ok text_on_arguments_shown
  let own : Section :=
    { title := "Constructor"
      level := 2
      body := clusterBody "new Cluster" "Made by `new ClusterArgs()`." }
  have isVersion : DocUnit.versionIn? "components/aws/cluster-v2" = some "v2" := by decide +kernel
  rw [onlyCallee .standard [] _ page "components/aws/cluster-v2" "v2" _ own built rfl
    (DocUnit.versionIn?_eq_some_iff.mp isVersion) rfl rfl] at isShown
  have lines := congrArg (fun body => body.map fun lines => lines[11]?) isShown
  exact absurd lines (by decide +kernel)

end Page

end DocPress
