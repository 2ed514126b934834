import DocPress.Proofs.Compile
import DocPress.SiteConfig.Decode
import Mathlib.Data.List.DropRight

/-! # The texts of a configuration

Which texts of a configuration have blanks around them or are empty. Values are trimmed, and an
empty one is refused or replaced by the standard value. The keys of a map are taken as they are
written, so that a configuration can have an empty ending, which all paths have.

* `Text.IsTight`: a text that is not empty and has no blanks at its ends.
* `SiteConfig.TightValues`, `SiteConfig.TightKeys`: a configuration with such texts only.
* `SiteConfig.tight_iff_tight_keys`: the configurations of which this is true. -/

set_option autoImplicit false

namespace DocPress

/-! ## Texts without blanks around them -/

namespace Text

/-- A text that is not empty, with no blank at its ends. -/
def IsTight (s : String) : Prop :=
  s ≠ "" ∧ (∀ c ∈ s.toList.head?, isBlank c = false) ∧ ∀ c ∈ s.toList.getLast?, isBlank c = false

instance (s : String) : Decidable (IsTight s) :=
  decidable_of_iff (s ≠ "" ∧ s.toList.head?.any isBlank = false ∧
    s.toList.getLast?.any isBlank = false) <| by
    simp only [IsTight, Option.any_eq_false, Option.mem_def]

theorem isBlank_head?_trimLeft {cs : List Char} {c : Char} (isHead : c ∈ (trimLeft cs).head?) :
    isBlank c = false := by
  have notBlank := List.head?_dropWhile_not isBlank cs
  rw [trimLeft] at isHead
  rw [isHead] at notBlank
  exact notBlank

theorem trimRight_isPrefix (cs : List Char) : trimRight cs <+: cs := by
  rw [trimRight, ← List.reverse_suffix, List.reverse_reverse]
  exact List.dropWhile_suffix isBlank

theorem isTight_trim {s : String} (some : trim s ≠ "") : IsTight (trim s) := by
  refine ⟨some, ?_, ?_⟩
  · intro c isHead
    rw [trim, String.toList_ofList] at isHead
    obtain ⟨ending, whole⟩ := trimRight_isPrefix (trimLeft s.toList)
    have sameHead : c ∈ (trimLeft s.toList).head? := by
      rw [← whole, List.head?_append, Option.mem_def.mp isHead]
      rfl
    exact isBlank_head?_trimLeft sameHead
  · intro c isLast
    rw [trim, String.toList_ofList, trimRight, List.getLast?_reverse] at isLast
    exact isBlank_head?_trimLeft isLast

end Text

/-! ## Reading texts and maps of texts -/

namespace Yaml

open Text (IsTight)

theorem Key.shown_eq_ok_iff {k : Key} {s : String} :
    k.shown = .ok s ↔ k.isWritable = true ∧ k.display = s := by
  unfold Key.shown Key.display?
  cases k.isWritable <;> simp

section

variable {α : Type} {read : Key → Value → Except ConfigFault α} {entries acc : List (String × α)}
  {key : String} {es : List (Key × Value)}

theorem mem_setEntry {value : α} {e : String × α} (member : e ∈ setEntry key value entries) :
    e = (key, value) ∨ e ∈ entries := by
  induction entries with
  | nil => exact .inl (List.mem_singleton.mp member)
  | cons entry rest inductionHypothesis =>
    obtain ⟨k, v⟩ := entry
    rw [setEntry] at member
    split at member
    · rename_i same
      subst same
      exact (List.mem_cons.mp member).imp_right (List.mem_cons_of_mem _)
    · rcases List.mem_cons.mp member with rfl | later
      · exact .inr List.mem_cons_self
      · exact (inductionHypothesis later).imp_right (List.mem_cons_of_mem _)

theorem mem_keys_setEntry {value : α} {s : String} :
    s ∈ (setEntry key value entries).map Prod.fst ↔ s = key ∨ s ∈ entries.map Prod.fst := by
  induction entries with
  | nil => simp [setEntry]
  | cons entry rest inductionHypothesis =>
    obtain ⟨k, v⟩ := entry
    rw [setEntry]
    split
    · rename_i same
      subst same
      simp
    · rw [List.map_cons, List.mem_cons, inductionHypothesis, List.map_cons, List.mem_cons]
      exact or_left_comm

/-- The keys of a map that is read are the textual forms of the keys that it has. -/
theorem mem_keys_readEntries (succeeds : readEntries read es acc = .ok entries) (s : String) :
    s ∈ entries.map Prod.fst ↔ s ∈ acc.map Prod.fst ∨ ∃ e ∈ es, e.1.display = s := by
  induction es generalizing acc with
  | nil =>
    cases succeeds
    simp
  | cons e es inductionHypothesis =>
    obtain ⟨k, v⟩ := e
    obtain ⟨value, -, succeeds⟩ := exists_of_bind_eq_ok succeeds
    obtain ⟨shown, isShown, succeeds⟩ := exists_of_bind_eq_ok succeeds
    obtain ⟨-, rfl⟩ := Key.shown_eq_ok_iff.mp isShown
    rw [inductionHypothesis succeeds, mem_keys_setEntry, List.exists_mem_cons_iff]
    simp only [eq_comm, or_assoc, or_left_comm]

/-- The values of a map that is read are what `read` makes of its values. -/
theorem exists_of_mem_readEntries (succeeds : readEntries read es acc = .ok entries)
    {e : String × α} (member : e ∈ entries) :
    e ∈ acc ∨ ∃ source ∈ es, read source.1 source.2 = .ok e.2 := by
  induction es generalizing acc with
  | nil =>
    cases succeeds
    exact .inl member
  | cons source es inductionHypothesis =>
    obtain ⟨k, v⟩ := source
    obtain ⟨value, isValue, succeeds⟩ := exists_of_bind_eq_ok succeeds
    obtain ⟨shown, -, succeeds⟩ := exists_of_bind_eq_ok succeeds
    rcases inductionHypothesis succeeds with before | ⟨source, later, isRead⟩
    · rcases mem_setEntry before with rfl | before
      · exact .inr ⟨(k, v), List.mem_cons_self, isValue⟩
      · exact .inl before
    · exact .inr ⟨source, List.mem_cons_of_mem _ later, isRead⟩

end

namespace Graph

variable {g : Graph} {key : String} {es : List (Key × Value)} {v : Value}

/-- The entries of a map, none of anything else. -/
def ownEntries (g : Graph) (v : Value) : List (Key × Value) := (g.map? v).getD []

def entriesAt (g : Graph) (key : String) (es : List (Key × Value)) : List (Key × Value) :=
  ((Key.lookup? key es).map g.ownEntries).getD []

def keysAt (g : Graph) (key : String) (es : List (Key × Value)) : List Key :=
  (g.entriesAt key es).map Prod.fst

theorem eq_ownEntries_of_entries (succeeds : g.entries key v = .ok es) : es = g.ownEntries v := by
  unfold entries at succeeds
  split at succeeds
  · cases succeeds
    rfl
  next isMap =>
    cases succeeds
    rw [ownEntries, isMap, Option.getD_some]
  · cases succeeds

theorem isTight_of_trimmed {s : String} (trimmed : g.trimmed v = .ok (some s)) : IsTight s := by
  unfold Graph.trimmed at trimmed
  split at trimmed
  · cases trimmed
  · obtain ⟨shown, -, trimmed⟩ := exists_of_bind_eq_ok trimmed
    have isText : (if Text.trim shown = "" then none else some (Text.trim shown)) = some s :=
      Except.ok.inj trimmed
    split at isText
    · cases isText
    next notEmpty =>
      cases isText
      exact Text.isTight_trim notEmpty

theorem isTight_of_texts {texts : List String} (read : g.texts key v = .ok texts) :
    ∀ s ∈ texts, IsTight s := by
  unfold Graph.texts at read
  split at read
  · obtain ⟨trimmed, mapped, read⟩ := exists_of_bind_eq_ok read
    split at read
    · cases read
    · cases read
      intro s member
      obtain ⟨t, among, isText⟩ := List.mem_filterMap.mp member
      obtain rfl : t = some s := isText
      obtain ⟨item, -, ofItem⟩ := exists_of_mem_of_mapM mapped among
      exact isTight_of_trimmed ofItem
  · cases read

/-- The keys of what is read from a map are the textual forms of its keys. -/
def KeepsKeys {α : Type} (g : Graph) (v : Value) (entries : List (String × α)) : Prop :=
  ∀ s, s ∈ entries.map Prod.fst ↔ ∃ k ∈ (g.ownEntries v).map Prod.fst, k.display = s

theorem keepsKeys_of_readEntries {α : Type} {read : Key → Value → Except ConfigFault α}
    {entries : List (String × α)} (isEntries : g.entries key v = .ok es)
    (succeeds : readEntries read es [] = .ok entries) : g.KeepsKeys v entries := by
  intro s
  rw [mem_keys_readEntries succeeds, eq_ownEntries_of_entries isEntries]
  simp

end Graph

end Yaml

open Yaml (Key Value Graph)
open Text (IsTight)

/-! ## Parts of a configuration -/

section

variable {g : Graph} {v : Value} {es : List (Key × Value)} {key : String}

theorem keepsKeys_decodeTexts {texts : List (String × String)}
    (read : Routing.decodeTexts g key v = .ok texts) :
    g.KeepsKeys v texts ∧ ∀ e ∈ texts, IsTight e.2 := by
  obtain ⟨entries, isEntries, read⟩ := exists_of_bind_eq_ok read
  refine ⟨Graph.keepsKeys_of_readEntries isEntries read, fun e member => ?_⟩
  rcases Yaml.exists_of_mem_readEntries read member with before | ⟨source, -, ofSource⟩
  · contradiction
  · obtain ⟨trimmed, isTrimmed, ofSource⟩ := exists_of_bind_eq_ok ofSource
    split at ofSource
    · cases ofSource
      exact Graph.isTight_of_trimmed isTrimmed
    · obtain ⟨name, -, ofSource⟩ := exists_of_bind_eq_ok ofSource
      cases ofSource

theorem isTight_of_decodeCopy {ending : Key} {copy : LinkableCopy}
    (read : LinkableCopy.decode g ending v = .ok copy) :
    IsTight copy.title ∧ IsTight copy.namespaceName := by
  unfold LinkableCopy.decode at read
  split at read
  · obtain ⟨title, isTitle, read⟩ := exists_of_bind_eq_ok read
    obtain ⟨namespaceName, isNamespace, read⟩ := exists_of_bind_eq_ok read
    split at read
    · cases read
      exact ⟨Graph.isTight_of_trimmed isTitle, Graph.isTight_of_trimmed isNamespace⟩
    · obtain ⟨name, -, read⟩ := exists_of_bind_eq_ok read
      cases read
  · obtain ⟨name, -, read⟩ := exists_of_bind_eq_ok read
    cases read

theorem keepsKeys_decodeLinkable {linkable : List (String × LinkableCopy)}
    (read : Routing.decodeLinkable g v = .ok linkable) :
    g.KeepsKeys v linkable ∧ ∀ e ∈ linkable, IsTight e.2.title ∧ IsTight e.2.namespaceName := by
  obtain ⟨entries, isEntries, read⟩ := exists_of_bind_eq_ok read
  refine ⟨Graph.keepsKeys_of_readEntries isEntries read, fun e member => ?_⟩
  rcases Yaml.exists_of_mem_readEntries read member with before | ⟨source, -, ofSource⟩
  · contradiction
  · exact isTight_of_decodeCopy ofSource

theorem keepsKeys_decodeBuilders {builders : Section.BuilderMethods}
    (read : SiteConfig.decodeBuilders g v = .ok builders) :
    g.KeepsKeys v builders ∧ ∀ e ∈ builders, ∀ s ∈ e.2, IsTight s := by
  obtain ⟨entries, isEntries, read⟩ := exists_of_bind_eq_ok read
  refine ⟨Graph.keepsKeys_of_readEntries isEntries read, fun e member => ?_⟩
  rcases Yaml.exists_of_mem_readEntries read member with before | ⟨source, -, ofSource⟩
  · contradiction
  · obtain ⟨name, -, ofSource⟩ := exists_of_bind_eq_ok ofSource
    exact Graph.isTight_of_texts ofSource

/-- A text that may be left out. -/
theorem isTight_getD {text : Option String} {standard : String}
    (read : g.trimmedAt key es = .ok text) (standardTight : IsTight standard) :
    IsTight (text.getD standard) := by
  cases text with
  | none => exact standardTight
  | some s => exact Graph.isTight_of_trimmed read

theorem decodeOr_eq_ok {α : Type} {standard x : α} {read : Value → Except ConfigFault α}
    (succeeds : SiteConfig.decodeOr es key standard read = .ok x) :
    Key.lookup? key es = none ∧ x = standard ∨
      ∃ v, Key.lookup? key es = some v ∧ read v = .ok x := by
  unfold SiteConfig.decodeOr at succeeds
  split at succeeds
  next v found => exact .inr ⟨v, found, succeeds⟩
  next absent =>
    cases succeeds
    exact .inl ⟨absent, rfl⟩

/-- What holds of all standard items and of all that can be read. -/
theorem forall_mem_of_decodeOr {α : Type} {standard xs : List α}
    {read : Value → Except ConfigFault (List α)} {p : α → Prop} (ofStandard : ∀ x ∈ standard, p x)
    (ofRead : ∀ v, read v = .ok xs → ∀ x ∈ xs, p x)
    (succeeds : SiteConfig.decodeOr es key standard read = .ok xs) : ∀ x ∈ xs, p x := by
  rcases decodeOr_eq_ok succeeds with ⟨-, rfl⟩ | ⟨v, -, isRead⟩
  · exact ofStandard
  · exact ofRead v isRead

theorem forall_mem_of_decodeUnlessNull {α : Type} {standard xs : List α}
    {read : Value → Except ConfigFault (List α)} {p : α → Prop} (ofStandard : ∀ x ∈ standard, p x)
    (ofRead : ∀ v, read v = .ok xs → ∀ x ∈ xs, p x)
    (succeeds : SiteConfig.decodeUnlessNull es key standard read = .ok xs) : ∀ x ∈ xs, p x := by
  unfold SiteConfig.decodeUnlessNull at succeeds
  split at succeeds
  · cases succeeds
    exact ofStandard
  · exact ofRead _ succeeds
  · cases succeeds
    exact ofStandard

/-- If the standard keys have a property, all keys that are read have it just when the textual forms
of the keys of the document do. -/
theorem forall_keys_iff {α : Type} {standard entries : List (String × α)}
    {read : Value → Except ConfigFault (List (String × α))} {p : String → Prop}
    (ofStandard : ∀ e ∈ standard, p e.1)
    (keeps : ∀ v, read v = .ok entries → g.KeepsKeys v entries)
    (succeeds : SiteConfig.decodeOr es key standard read = .ok entries) :
    (∀ e ∈ entries, p e.1) ↔ ∀ k ∈ g.keysAt key es, p k.display := by
  rcases decodeOr_eq_ok succeeds with ⟨absent, rfl⟩ | ⟨v, found, isRead⟩
  · have noKeys : g.keysAt key es = [] := by
      rw [Graph.keysAt, Graph.entriesAt, absent]
      rfl
    rw [noKeys]
    exact ⟨fun _ => nofun, fun _ => ofStandard⟩
  · have keys : g.keysAt key es = (g.ownEntries v).map Prod.fst := by
      rw [Graph.keysAt, Graph.entriesAt, found]
      rfl
    have keep := keeps v isRead
    rw [keys]
    constructor
    · intro all k isKey
      obtain ⟨e, member, same⟩ := List.mem_map.mp ((keep k.display).mpr ⟨k, isKey, rfl⟩)
      exact same ▸ all e member
    · intro all e member
      obtain ⟨k, isKey, same⟩ := (keep e.1).mp (List.mem_map_of_mem member)
      exact same ▸ all k isKey

end

/-! ## Routing rules -/

namespace Routing

variable {g : Graph} {r : Routing} {es : List (Key × Value)}

structure TightValues (r : Routing) : Prop where
  skipEndings : ∀ s ∈ r.skipEndings, IsTight s
  globalSource : IsTight r.globalSource
  configSource : IsTight r.configSource
  dnsEnding : IsTight r.dnsEnding
  linkable : ∀ e ∈ r.linkable, IsTight e.2.title ∧ IsTight e.2.namespaceName
  dnsTitles : ∀ e ∈ r.dnsTitles, IsTight e.2
  extraFunctions : ∀ e ∈ r.extraFunctions, IsTight e.2

/-- The endings by which rules tell source files apart. -/
def endings (r : Routing) : List String :=
  r.skipEndings ++ r.dnsEnding :: r.linkable.map Prod.fst ++ r.extraFunctions.map Prod.snd

/-- Only the empty text is an ending of all paths. -/
theorem hasEnding_all_iff {ending : String} :
    (∀ path, hasEnding path ending = true) ↔ ending = "" := by
  constructor
  · intro all
    have suffix := List.isSuffixOf_iff_suffix.mp (all "")
    exact String.toList_inj.mp (List.suffix_nil.mp suffix)
  · rintro rfl path
    exact List.isSuffixOf_iff_suffix.mpr List.nil_suffix

/-- An ending that all paths have is an ending of linkable helpers. -/
theorem TightValues.empty_mem_endings_iff (tight : r.TightValues) :
    "" ∈ r.endings ↔ ∃ e ∈ r.linkable, e.1 = "" := by
  have notEmpty : ∀ {s : String}, IsTight s → s ≠ "" := fun tight => tight.1
  simp only [endings, List.mem_append, List.mem_cons, List.mem_map]
  constructor
  · rintro ((isSkip | isDns | isLinkable) | ⟨e, isExtra, isEmpty⟩)
    · exact absurd rfl (notEmpty (tight.skipEndings _ isSkip))
    · exact absurd isDns.symm (notEmpty tight.dnsEnding)
    · exact isLinkable
    · exact absurd isEmpty (notEmpty (tight.extraFunctions e isExtra))
  · exact fun isLinkable => .inl (.inr (.inr isLinkable))

theorem tightValues_standard : standard.TightValues := by
  constructor <;> decide

/-- The texts that are read have no blanks around them, and a property that all such texts have is
one of the keys that are read just when it is one of the keys of the document. -/
theorem tight_of_decode (decoded : Routing.decode g es = .ok r) :
    r.TightValues ∧ ∀ p : String → Prop, (∀ s, IsTight s → p s) →
      ((∀ e ∈ r.linkable, p e.1) ↔ ∀ k ∈ g.keysAt "linkable" es, p k.display) ∧
      ((∀ e ∈ r.dnsTitles, p e.1) ↔ ∀ k ∈ g.keysAt "dns_titles" es, p k.display) ∧
      ((∀ e ∈ r.extraFunctions, p e.1) ↔
        ∀ k ∈ g.keysAt "global_extra_functions" es, p k.display) := by
  obtain ⟨skipEndings, isSkip, decoded⟩ := exists_of_bind_eq_ok decoded
  obtain ⟨globalSource, isGlobal, decoded⟩ := exists_of_bind_eq_ok decoded
  obtain ⟨configSource, isConfig, decoded⟩ := exists_of_bind_eq_ok decoded
  obtain ⟨dnsEnding, isDns, decoded⟩ := exists_of_bind_eq_ok decoded
  obtain ⟨linkable, isLinkable, decoded⟩ := exists_of_bind_eq_ok decoded
  obtain ⟨dnsTitles, isTitles, decoded⟩ := exists_of_bind_eq_ok decoded
  obtain ⟨extraFunctions, isExtra, decoded⟩ := exists_of_bind_eq_ok decoded
  cases decoded
  constructor
  · exact {
      skipEndings := forall_mem_of_decodeOr tightValues_standard.skipEndings
        (fun _ => Graph.isTight_of_texts) isSkip
      globalSource := isTight_getD isGlobal tightValues_standard.globalSource
      configSource := isTight_getD isConfig tightValues_standard.configSource
      dnsEnding := isTight_getD isDns tightValues_standard.dnsEnding
      linkable := forall_mem_of_decodeOr tightValues_standard.linkable
        (fun _ read => (keepsKeys_decodeLinkable read).2) isLinkable
      dnsTitles := forall_mem_of_decodeOr tightValues_standard.dnsTitles
        (fun _ read => (keepsKeys_decodeTexts read).2) isTitles
      extraFunctions := forall_mem_of_decodeOr tightValues_standard.extraFunctions
        (fun _ read => (keepsKeys_decodeTexts read).2) isExtra }
  · intro p ofTight
    have ofLinkable : ∀ e ∈ standard.linkable, IsTight e.1 := by decide
    have ofTitles : ∀ e ∈ standard.dnsTitles, IsTight e.1 := by decide
    have ofExtra : ∀ e ∈ standard.extraFunctions, IsTight e.1 := by decide
    refine ⟨?_, ?_, ?_⟩
    · exact forall_keys_iff (fun e member => ofTight _ (ofLinkable e member))
        (fun v read => (keepsKeys_decodeLinkable read).1) isLinkable
    · exact forall_keys_iff (fun e member => ofTight _ (ofTitles e member))
        (fun v read => (keepsKeys_decodeTexts read).1) isTitles
    · exact forall_keys_iff (fun e member => ofTight _ (ofExtra e member))
        (fun v read => (keepsKeys_decodeTexts read).1) isExtra

end Routing

/-! ## Configurations -/

namespace SiteConfig

variable {g : Graph} {config : SiteConfig} {es : List (Key × Value)}

/-- A configuration whose texts are not empty and have no blanks around them, the keys of maps
aside. -/
structure TightValues (config : SiteConfig) : Prop where
  routing : config.routing.TightValues
  introduced : ∀ s ∈ config.sdkRules.introduced, IsTight s
  qualified : ∀ s ∈ config.sdkRules.qualified, IsTight s
  withVariables : ∀ s ∈ config.sdkRules.withVariables, IsTight s
  builderMethods : ∀ e ∈ config.builderMethods, ∀ s ∈ e.2, IsTight s

/-- A configuration in which no key of a map is empty or has blanks around it. -/
structure TightKeys (config : SiteConfig) : Prop where
  linkable : ∀ e ∈ config.routing.linkable, IsTight e.1
  dnsTitles : ∀ e ∈ config.routing.dnsTitles, IsTight e.1
  extraFunctions : ∀ e ∈ config.routing.extraFunctions, IsTight e.1
  builderMethods : ∀ e ∈ config.builderMethods, IsTight e.1

/-- The entries of the routing section of a document. -/
def routingEntries (g : Graph) : List (Key × Value) := g.entriesAt "routing" (g.ownEntries g.top)

/-- The keys of the maps of a document that a configuration takes over. -/
def mapKeys (g : Graph) : List Key :=
  g.keysAt "linkable" (routingEntries g) ++ g.keysAt "dns_titles" (routingEntries g) ++
    g.keysAt "global_extra_functions" (routingEntries g) ++
    g.keysAt "builder_methods" (g.ownEntries g.top)

theorem eq_entriesAt_of_sectionAt {key : String} {entries : List (Key × Value)}
    (succeeds : sectionAt g es key = .ok entries) : entries = g.entriesAt key es := by
  rw [Graph.eq_ownEntries_of_entries succeeds, Graph.entriesAt]
  cases Key.lookup? key es <;> rfl

/-- A document that is present and no map is refused, and of all others the entries are read. -/
theorem decode_eq_or (g : Graph) :
    decode g = .error .documentNotMap ∧ g.ownEntries g.top = [] ∨
      decode g = decodeEntries g (g.ownEntries g.top) := by
  unfold decode Graph.ownEntries
  split
  · cases g.map? g.top with
    | some es => exact .inr rfl
    | none => exact .inl ⟨rfl, rfl⟩
  next notTrue =>
    have noEntries : (g.map? g.top).getD [] = [] := by
      cases top : g.top with
      | key k => rfl
      | collection place =>
        rw [top, Graph.isTrue] at notTrue
        rw [Graph.map?]
        cases isAt : g.collection place with
        | map isOrdered es =>
          simpa [isAt, Yaml.Collection.isEmpty, Yaml.Collection.map?] using notTrue
        | list | pair | set => rfl
    rw [noEntries]
    exact .inr rfl

/-- The sections of a document that texts are read from. -/
theorem exists_of_decode (decoded : decode g = .ok config) :
    decodeOr (g.ownEntries g.top) "builder_methods" standard.builderMethods (decodeBuilders g) =
        .ok config.builderMethods ∧
      Routing.decode g (routingEntries g) = .ok config.routing ∧
      ∃ sdkEntries, SdkRules.decode g sdkEntries = .ok config.sdkRules := by
  have ofEntries : decodeEntries g (g.ownEntries g.top) = .ok config := by
    rcases decode_eq_or g with ⟨refused, -⟩ | ofEntries
    · cases refused.symm.trans decoded
    · exact ofEntries.symm.trans decoded
  obtain ⟨defaults, -, ofEntries⟩ := exists_of_bind_eq_ok ofEntries
  obtain ⟨builders, isBuilders, ofEntries⟩ := exists_of_bind_eq_ok ofEntries
  obtain ⟨outputDir, -, ofEntries⟩ := exists_of_bind_eq_ok ofEntries
  obtain ⟨docsRoot, -, ofEntries⟩ := exists_of_bind_eq_ok ofEntries
  obtain ⟨components, -, ofEntries⟩ := exists_of_bind_eq_ok ofEntries
  obtain ⟨sdk, -, ofEntries⟩ := exists_of_bind_eq_ok ofEntries
  obtain ⟨examples, -, ofEntries⟩ := exists_of_bind_eq_ok ofEntries
  obtain ⟨examplesRoot, -, ofEntries⟩ := exists_of_bind_eq_ok ofEntries
  obtain ⟨commands, -, ofEntries⟩ := exists_of_bind_eq_ok ofEntries
  obtain ⟨commonErrors, -, ofEntries⟩ := exists_of_bind_eq_ok ofEntries
  obtain ⟨repositoryUrl, -, ofEntries⟩ := exists_of_bind_eq_ok ofEntries
  obtain ⟨routingSection, isRouting, ofEntries⟩ := exists_of_bind_eq_ok ofEntries
  obtain ⟨routing, ofRouting, ofEntries⟩ := exists_of_bind_eq_ok ofEntries
  obtain ⟨sdkSection, -, ofEntries⟩ := exists_of_bind_eq_ok ofEntries
  obtain ⟨sdkRules, ofSdk, ofEntries⟩ := exists_of_bind_eq_ok ofEntries
  cases ofEntries
  refine ⟨isBuilders, ?_, sdkSection, ofSdk⟩
  rw [routingEntries, ← eq_entriesAt_of_sectionAt isRouting]
  exact ofRouting

theorem tight_of_decodeSdk {rules : SdkRules} (decoded : SdkRules.decode g es = .ok rules) :
    (∀ s ∈ rules.introduced, IsTight s) ∧ (∀ s ∈ rules.qualified, IsTight s) ∧
      ∀ s ∈ rules.withVariables, IsTight s := by
  have standardTight : (∀ s ∈ SdkRules.standard.introduced, IsTight s) ∧
      (∀ s ∈ SdkRules.standard.qualified, IsTight s) ∧
      ∀ s ∈ SdkRules.standard.withVariables, IsTight s := by decide
  obtain ⟨introduced, isIntroduced, decoded⟩ := exists_of_bind_eq_ok decoded
  obtain ⟨qualified, isQualified, decoded⟩ := exists_of_bind_eq_ok decoded
  obtain ⟨withVariables, isWithVariables, decoded⟩ := exists_of_bind_eq_ok decoded
  cases decoded
  have ofTexts : ∀ {key : String} {texts : List String} (v : Value),
      g.texts key v = .ok texts → ∀ s ∈ texts, IsTight s := fun _ => Graph.isTight_of_texts
  exact ⟨forall_mem_of_decodeUnlessNull standardTight.1 ofTexts isIntroduced,
    forall_mem_of_decodeUnlessNull standardTight.2.1 ofTexts isQualified,
    forall_mem_of_decodeUnlessNull standardTight.2.2 ofTexts isWithVariables⟩

/-- In every configuration that is loaded, the texts have no blanks around them and are not empty,
except keys of maps: these are so if and only if the textual forms of the keys of the document are.
An ending of all paths is among the rules if and only if the map of linkable helpers has an empty
key. -/
theorem tight_iff_tight_keys (g : Graph) (config : SiteConfig) (loaded : decode g = .ok config) :
    config.TightValues ∧
      (config.TightKeys ↔ ∀ key ∈ mapKeys g, IsTight key.display) ∧
      ((∃ ending ∈ config.routing.endings, ∀ path, Routing.hasEnding path ending = true) ↔
        ∃ key ∈ g.keysAt "linkable" (routingEntries g), key.display = "") := by
  obtain ⟨ofBuilders, ofRouting, sdkEntries, ofSdk⟩ := exists_of_decode loaded
  obtain ⟨routingTight, routingKeys⟩ := Routing.tight_of_decode ofRouting
  obtain ⟨introduced, qualified, withVariables⟩ := tight_of_decodeSdk ofSdk
  have buildersTight : ∀ e ∈ config.builderMethods, ∀ s ∈ e.2, IsTight s :=
    forall_mem_of_decodeOr (by decide) (fun _ read => (keepsKeys_decodeBuilders read).2) ofBuilders
  have builderKeys : (∀ e ∈ config.builderMethods, IsTight e.1) ↔
      ∀ k ∈ g.keysAt "builder_methods" (g.ownEntries g.top), IsTight k.display :=
    forall_keys_iff (by decide) (fun _ read => (keepsKeys_decodeBuilders read).1) ofBuilders
  refine ⟨⟨routingTight, introduced, qualified, withVariables, buildersTight⟩, ?_, ?_⟩
  · obtain ⟨linkableKeys, titleKeys, extraKeys⟩ := routingKeys IsTight fun _ tight => tight
    simp only [mapKeys, List.forall_mem_append, ← linkableKeys, ← titleKeys, ← extraKeys,
      ← builderKeys]
    exact ⟨fun tight => ⟨⟨⟨tight.linkable, tight.dnsTitles⟩, tight.extraFunctions⟩,
        tight.builderMethods⟩,
      fun ⟨⟨⟨linkable, dnsTitles⟩, extraFunctions⟩, builderMethods⟩ =>
        ⟨linkable, dnsTitles, extraFunctions, builderMethods⟩⟩
  · obtain ⟨linkableKeys, -, -⟩ := routingKeys (· ≠ "") fun _ tight => tight.1
    simp only [Routing.hasEnding_all_iff, exists_eq_right, routingTight.empty_mem_endings_iff]
    simpa only [not_forall, exists_prop, ne_eq, not_not] using not_congr linkableKeys

def helperDocument (ending : String) : Graph where
  collections :=
    [.map false [(.text "routing", .collection 1)],
      .map false [(.text "linkable", .collection 2)],
      .map false [(.text ending, .collection 3)],
      .map false [(.text "title", Key.text " AWS "), (.text "namespace", Key.text "sst.aws")]]
  top := .collection 0

def helperConfig (ending : String) : SiteConfig :=
  { standard with
    routing := { Routing.standard with linkable := [(ending, ⟨"AWS", "sst.aws"⟩)] } }

theorem decode_helperDocument (ending : String) :
    decode (helperDocument ending) = .ok (helperConfig ending) := rfl

/-- A configuration whose only key is the ending of a path. -/
theorem tight_iff_tight_keys_helper :
    decode (helperDocument "/aws/policy.ts") = .ok (helperConfig "/aws/policy.ts") ∧
      (helperConfig "/aws/policy.ts").TightValues ∧ (helperConfig "/aws/policy.ts").TightKeys ∧
      ¬ ∃ ending ∈ (helperConfig "/aws/policy.ts").routing.endings,
        ∀ path, Routing.hasEnding path ending = true := by
  have loaded := decode_helperDocument "/aws/policy.ts"
  obtain ⟨values, keys, endings⟩ := tight_iff_tight_keys _ _ loaded
  have isKeys : mapKeys (helperDocument "/aws/policy.ts") = [.text "/aws/policy.ts"] := rfl
  refine ⟨loaded, values, keys.mpr ?_, endings.not.mpr ?_⟩
  · rw [isKeys, List.forall_mem_singleton]
    decide
  · rintro ⟨key, isKey, isEmpty⟩
    cases List.mem_singleton.mp isKey
    exact absurd isEmpty (by decide)

/-- An empty key of the linkable helpers is loaded as an ending that all paths have. -/
theorem empty_ending_loaded :
    ¬ ∀ (g : Graph) (config : SiteConfig), decode g = .ok config →
      config.TightValues ∧ config.TightKeys ∧
        ¬ ∃ ending ∈ config.routing.endings, ∀ path, Routing.hasEnding path ending = true := by
  intro tight
  obtain ⟨-, keys, -⟩ := tight _ _ (decode_helperDocument "")
  exact absurd rfl (keys.linkable ("", ⟨"AWS", "sst.aws"⟩) List.mem_cons_self).1

end SiteConfig

end DocPress
