import DocPress.Proofs.ConfiguredTexts

/-! # What stops a configuration from being loaded

A value of the wrong shape in a configuration document should be a fault of the configuration. The
paths of the default section are an exception: anything but a text there stops the reading in
another way. So do whole numbers that are too long for a numeral.

* `FailsOnly`: the faults that a reading can have.
* `ConfigFault.IsShapeFault`: the faults in the shape of a document.
* `SiteConfig.MisplacesPath`: a document with something other than a text in the place of a path.
* `SiteConfig.escapes_iff`: which documents are neither loaded nor refused for their shape. -/

set_option autoImplicit false

namespace DocPress

/-! ## Readings that fail -/

section

variable {ε α β : Type} {p : ε → Prop}

/-- All faults that a reading can have are of a kind. -/
def FailsOnly (p : ε → Prop) (x : Except ε α) : Prop := ∀ fault, x = .error fault → p fault

theorem failsOnly_ok (a : α) : FailsOnly p (.ok a : Except ε α) := nofun

theorem failsOnly_error_iff {fault : ε} : FailsOnly p (.error fault : Except ε α) ↔ p fault :=
  ⟨fun only => only fault rfl, fun holds _ same => Except.error.inj same ▸ holds⟩

/-- A sequence of readings fails only in a kind of ways just when its parts do, the later ones after
the earlier ones have succeeded. -/
theorem failsOnly_bind_iff {x : Except ε α} {f : α → Except ε β} :
    FailsOnly p (x >>= f) ↔ FailsOnly p x ∧ ∀ a, x = .ok a → FailsOnly p (f a) := by
  cases x with
  | error fault => simp [bind, Except.bind, failsOnly_error_iff]
  | ok a => simp [bind, Except.bind, failsOnly_ok]

theorem FailsOnly.bind {x : Except ε α} {f : α → Except ε β} (first : FailsOnly p x)
    (rest : ∀ a, x = .ok a → FailsOnly p (f a)) : FailsOnly p (x >>= f) :=
  failsOnly_bind_iff.mpr ⟨first, rest⟩

theorem FailsOnly.mapM {f : α → Except ε β} {xs : List α} (each : ∀ x ∈ xs, FailsOnly p (f x)) :
    FailsOnly p (xs.mapM f) := by
  induction xs with
  | nil => exact failsOnly_ok []
  | cons x xs inductionHypothesis =>
    obtain ⟨first, others⟩ := List.forall_mem_cons.mp each
    rw [List.mapM_cons]
    exact first.bind fun y _ => (inductionHypothesis others).bind fun ys _ => failsOnly_ok _

end

/-! ## Faults in the shape of a document -/

namespace ConfigFault

/-- A fault in the shape of a document. Only such faults are those of a configuration. -/
def IsShapeFault : ConfigFault → Prop
  | pathNotText _ => False
  | numberTooLong => False
  | _ => True

/-- A kind of faults that all faults in the shape are of. -/
def CoversShape (p : ConfigFault → Prop) : Prop := ∀ fault, IsShapeFault fault → p fault

end ConfigFault

open ConfigFault (IsShapeFault CoversShape)

namespace Yaml

/-! ## Numbers that are too long -/

/-- Whether the keys in a value, those in collections left out, have a textual form. -/
def Value.isWritable : Value → Bool
  | key k => k.isWritable
  | collection _ => true

/-- Whether the keys in a collection, those in the collections in it left out, have a textual
form. -/
def Collection.isWritable : Collection → Bool
  | list xs => xs.all Value.isWritable
  | pair x y => x.isWritable && y.isWritable
  | set ks => ks.all Key.isWritable
  | map _ es => es.all fun e => e.1.isWritable && e.2.isWritable

/-- Whether no whole number in a document is too long for a numeral. -/
def Graph.isWritable (g : Graph) : Bool :=
  g.top.isWritable && g.collections.all Collection.isWritable

section

variable {α β : Type}

theorem isSome_bind {x : Option α} {f : α → Option β} (first : x.isSome)
    (rest : ∀ a, (f a).isSome) : (x >>= f).isSome := by
  obtain ⟨a, rfl⟩ := Option.isSome_iff_exists.mp first
  exact rest a

theorem isSome_mapM {f : α → Option β} {xs : List α} (each : ∀ x ∈ xs, (f x).isSome) :
    (xs.mapM f).isSome := by
  induction xs with
  | nil => rfl
  | cons x xs inductionHypothesis =>
    obtain ⟨first, others⟩ := List.forall_mem_cons.mp each
    rw [List.mapM_cons]
    exact isSome_bind first fun y => isSome_bind (inductionHypothesis others) fun ys => rfl

end

theorem Key.isSome_inspect? {k : Key} (writable : k.isWritable = true) : k.inspect?.isSome := by
  simp [Key.inspect?, writable]

/-- A collection has a textual form if all values without a number that is too long have one. -/
theorem Collection.isSome_inspectWith {c : Collection} {inspect : Value → Option String}
    (writable : c.isWritable = true)
    (each : ∀ v : Value, v.isWritable = true → (inspect v).isSome) :
    (c.inspectWith inspect).isSome := by
  cases c with
  | list xs =>
    have items := List.all_eq_true.mp writable
    exact isSome_bind (isSome_mapM fun x member => each x (items x member)) fun _ => rfl
  | pair x y =>
    obtain ⟨first, second⟩ := Bool.and_eq_true_iff.mp writable
    exact isSome_bind (each x first) fun _ => isSome_bind (each y second) fun _ => rfl
  | set ks =>
    have members := List.all_eq_true.mp writable
    cases ks with
    | nil => rfl
    | cons k ks =>
      exact isSome_bind (isSome_mapM fun k member => Key.isSome_inspect? (members k member))
        fun _ => rfl
  | map isOrdered es =>
    have entries : ∀ e ∈ es, e.1.isWritable = true ∧ e.2.isWritable = true :=
      fun e member => Bool.and_eq_true_iff.mp (List.all_eq_true.mp writable e member)
    have shown (join : String → String → String) :
        (es.mapM fun e : Key × Value => do
          return join (← e.1.inspect?) (← inspect e.2)).isSome := by
      refine isSome_mapM fun e member => ?_
      obtain ⟨keyWritable, valueWritable⟩ := entries e member
      exact isSome_bind (Key.isSome_inspect? keyWritable) fun _ =>
        isSome_bind (each e.2 valueWritable) fun _ => rfl
    cases isOrdered with
    | false => exact isSome_bind (shown fun k v => k ++ ": " ++ v) fun _ => rfl
    | true =>
      cases es with
      | nil => rfl
      | cons e es => exact isSome_bind (shown fun k v => "(" ++ k ++ ", " ++ v ++ ")") fun _ => rfl

namespace Graph

variable {g : Graph}

theorem isWritable_collection (writable : g.isWritable = true) (place : Nat) :
    (g.collection place).isWritable = true := by
  have collections := List.all_eq_true.mp (Bool.and_eq_true_iff.mp writable).2
  rw [collection]
  cases found : g.collections[place]? with
  | none => rfl
  | some c => exact collections c (List.mem_of_getElem? found)

/-- In a document without numbers that are too long, all values have a textual form, wherever they
stand. -/
theorem isSome_inspect? (writable : g.isWritable = true) (around : List Nat) {v : Value}
    (valueWritable : v.isWritable = true) : (g.inspect? around v).isSome := by
  cases v with
  | key k =>
    rw [inspect?]
    exact Key.isSome_inspect? valueWritable
  | collection place =>
    rw [inspect?]
    split
    · exact Collection.isSome_inspectWith (isWritable_collection writable place)
        fun v valueWritable => isSome_inspect? writable (place :: around) valueWritable
    · rfl
termination_by (g.placesOutside around).length
decreasing_by exact g.length_placesOutside_cons_lt ‹_›

theorem isSome_display? (writable : g.isWritable = true) {v : Value}
    (valueWritable : v.isWritable = true) : (g.display? v).isSome := by
  cases v with
  | key k =>
    have writable : k.isWritable = true := valueWritable
    simp [display?, Key.display?, writable]
  | collection place => exact isSome_inspect? writable [] valueWritable

end Graph

/-! ## Texts, lists and maps -/

section

variable {p : ConfigFault → Prop}

/-- No whole number somewhere is too long for a numeral, unless that is a fault of a kind. -/
def Fits (p : ConfigFault → Prop) (isWritable : Bool) : Prop :=
  isWritable = true ∨ p .numberTooLong

def EntriesFit (p : ConfigFault → Prop) (es : List (Key × Value)) : Prop :=
  ∀ e ∈ es, Fits p e.1.isWritable ∧ Fits p e.2.isWritable

theorem Key.exists_of_lookup? {key : String} {es : List (Key × Value)} {v : Value}
    (found : Key.lookup? key es = some v) : ∃ k, (k, v) ∈ es := by
  induction es with
  | nil => cases found
  | cons e es inductionHypothesis =>
    obtain ⟨k, w⟩ := e
    cases k with
    | text k =>
      rw [lookup?] at found
      split at found
      · cases found
        exact ⟨_, List.mem_cons_self⟩
      · obtain ⟨k, member⟩ := inductionHypothesis found
        exact ⟨k, List.mem_cons_of_mem _ member⟩
    | _ =>
      obtain ⟨k, member⟩ := inductionHypothesis found
      exact ⟨k, List.mem_cons_of_mem _ member⟩

/-- A value can be missing, and what is there fits. -/
theorem EntriesFit.getD_lookup? {es : List (Key × Value)} (fit : EntriesFit p es) (key : String) :
    Fits p ((Key.lookup? key es).getD (.key .null)).isWritable := by
  cases found : Key.lookup? key es with
  | none => exact .inl rfl
  | some v =>
    obtain ⟨k, member⟩ := Key.exists_of_lookup? found
    exact (fit _ member).2

theorem Key.failsOnly_shown {k : Key} (fits : Fits p k.isWritable) : FailsOnly p k.shown := by
  rw [shown, display?]
  cases writable : k.isWritable with
  | true => exact failsOnly_ok _
  | false =>
    have tooLong := fits.resolve_left (by simp [writable])
    exact failsOnly_error_iff.mpr tooLong

section

variable {g : Graph} {v : Value} {es : List (Key × Value)} {key : String}

/-- The items of a list of the document. -/
theorem Fits.items {items : List Value} (fits : Fits p g.isWritable)
    (isList : g.list? v = some items) : ∀ v ∈ items, Fits p v.isWritable := by
  rcases fits with writable | tooLong
  · cases v with
    | key k => cases isList
    | collection place =>
      have ofCollection := Graph.isWritable_collection writable place
      rw [Graph.list?] at isList
      cases isAt : g.collection place with
      | list xs =>
        rw [isAt] at ofCollection isList
        cases isList
        exact fun v member => .inl (List.all_eq_true.mp ofCollection v member)
      | pair | set | map =>
        rw [isAt] at isList
        cases isList
  · exact fun v _ => .inr tooLong

/-- The entries of a map of the document. -/
theorem Fits.map (fits : Fits p g.isWritable) (isMap : g.map? v = some es) : EntriesFit p es := by
  rcases fits with writable | tooLong
  · cases v with
    | key k => cases isMap
    | collection place =>
      have ofCollection := Graph.isWritable_collection writable place
      rw [Graph.map?] at isMap
      cases isAt : g.collection place with
      | map isOrdered es =>
        rw [isAt] at ofCollection isMap
        cases isMap
        intro e member
        have both := List.all_eq_true.mp ofCollection e member
        exact (Bool.and_eq_true_iff.mp both).imp .inl .inl
      | list | pair | set =>
        rw [isAt] at isMap
        cases isMap
  · exact fun e _ => ⟨.inr tooLong, .inr tooLong⟩

theorem Fits.ownEntries (fits : Fits p g.isWritable) (v : Value) :
    EntriesFit p (g.ownEntries v) := by
  rw [Graph.ownEntries]
  cases isMap : g.map? v with
  | none => exact fun e member => absurd member List.not_mem_nil
  | some es => exact fits.map isMap

theorem Fits.entries (fits : Fits p g.isWritable) (isEntries : g.entries key v = .ok es) :
    EntriesFit p es := by
  rw [Graph.eq_ownEntries_of_entries isEntries]
  exact fits.ownEntries v

namespace Graph

theorem failsOnly_shown (fits : Fits p g.isWritable) (valueFits : Fits p v.isWritable) :
    FailsOnly p (g.shown v) := by
  rw [shown]
  cases isShown : g.display? v with
  | some s => exact failsOnly_ok s
  | none =>
    rcases fits with writable | tooLong
    · rcases valueFits with valueWritable | tooLong
      · have isSome := isSome_display? writable valueWritable
        rw [isShown] at isSome
        cases isSome
      · exact failsOnly_error_iff.mpr tooLong
    · exact failsOnly_error_iff.mpr tooLong

theorem failsOnly_trimmed (fits : Fits p g.isWritable) (valueFits : Fits p v.isWritable) :
    FailsOnly p (g.trimmed v) := by
  unfold trimmed
  split
  · exact failsOnly_ok _
  · exact (failsOnly_shown fits valueFits).bind fun _ _ => failsOnly_ok _

theorem failsOnly_trimmedAt (fits : Fits p g.isWritable) (fit : EntriesFit p es) :
    FailsOnly p (g.trimmedAt key es) :=
  failsOnly_trimmed fits (fit.getD_lookup? key)

theorem failsOnly_entries (covers : CoversShape p) (key : String) (v : Value) :
    FailsOnly p (g.entries key v) := by
  unfold entries
  split
  · exact failsOnly_ok _
  · exact failsOnly_ok _
  · exact failsOnly_error_iff.mpr (covers _ trivial)

theorem failsOnly_texts (covers : CoversShape p) (fits : Fits p g.isWritable) (key : String)
    (v : Value) : FailsOnly p (g.texts key v) := by
  unfold texts
  split
  next items isList =>
    have itemsFit := fits.items isList
    refine (FailsOnly.mapM fun item member => failsOnly_trimmed fits (itemsFit item member)).bind
      fun texts _ => ?_
    split
    · exact failsOnly_error_iff.mpr (covers _ trivial)
    · exact failsOnly_ok _
  · exact failsOnly_error_iff.mpr (covers _ trivial)

end Graph

end

theorem failsOnly_readEntries {α : Type} {read : Key → Value → Except ConfigFault α}
    {es : List (Key × Value)} {acc : List (String × α)} (fit : EntriesFit p es)
    (each : ∀ k v, Fits p k.isWritable → Fits p v.isWritable → FailsOnly p (read k v)) :
    FailsOnly p (readEntries read es acc) := by
  induction es generalizing acc with
  | nil => exact failsOnly_ok acc
  | cons e es inductionHypothesis =>
    obtain ⟨⟨keyFits, valueFits⟩, others⟩ := List.forall_mem_cons.mp fit
    refine (each _ _ keyFits valueFits).bind fun value _ => ?_
    exact (Key.failsOnly_shown keyFits).bind fun shown _ => inductionHypothesis others

end

end Yaml

open Yaml (Key Value Graph Fits EntriesFit)

/-! ## Parts of a configuration -/

section

variable {p : ConfigFault → Prop} {g : Graph} {es : List (Key × Value)} {key : String}

theorem failsOnly_decodeTexts (covers : CoversShape p) (fits : Fits p g.isWritable) (v : Value) :
    FailsOnly p (Routing.decodeTexts g key v) := by
  refine (Graph.failsOnly_entries covers key v).bind fun entries isEntries => ?_
  refine Yaml.failsOnly_readEntries (fits.entries isEntries) fun name v nameFits valueFits => ?_
  refine (Graph.failsOnly_trimmed fits valueFits).bind fun text _ => ?_
  cases text with
  | some s => exact failsOnly_ok s
  | none =>
    refine (Key.failsOnly_shown nameFits).bind fun name _ => ?_
    exact failsOnly_error_iff.mpr (covers _ trivial)

theorem failsOnly_decodeCopy (covers : CoversShape p) (fits : Fits p g.isWritable) {ending : Key}
    (endingFits : Fits p ending.isWritable) (v : Value) :
    FailsOnly p (LinkableCopy.decode g ending v) := by
  unfold LinkableCopy.decode
  split
  next es isMap =>
    have fit := fits.map isMap
    refine (Graph.failsOnly_trimmedAt fits fit).bind fun title _ => ?_
    refine (Graph.failsOnly_trimmedAt fits fit).bind fun namespaceName _ => ?_
    split
    · exact failsOnly_ok _
    · refine (Key.failsOnly_shown endingFits).bind fun name _ => ?_
      exact failsOnly_error_iff.mpr (covers _ trivial)
  · refine (Key.failsOnly_shown endingFits).bind fun name _ => ?_
    exact failsOnly_error_iff.mpr (covers _ trivial)

theorem failsOnly_decodeLinkable (covers : CoversShape p) (fits : Fits p g.isWritable) (v : Value) :
    FailsOnly p (Routing.decodeLinkable g v) := by
  refine (Graph.failsOnly_entries covers _ v).bind fun entries isEntries => ?_
  exact Yaml.failsOnly_readEntries (fits.entries isEntries)
    fun _ v endingFits _ => failsOnly_decodeCopy covers fits endingFits v

theorem failsOnly_decodeBuilders (covers : CoversShape p) (fits : Fits p g.isWritable) (v : Value) :
    FailsOnly p (SiteConfig.decodeBuilders g v) := by
  refine (Graph.failsOnly_entries covers _ v).bind fun entries isEntries => ?_
  refine Yaml.failsOnly_readEntries (fits.entries isEntries) fun name v nameFits _ => ?_
  exact (Key.failsOnly_shown nameFits).bind fun name _ => Graph.failsOnly_texts covers fits _ v

theorem failsOnly_decodeOr {α : Type} {standard : α} {read : Value → Except ConfigFault α}
    (each : ∀ v, FailsOnly p (read v)) :
    FailsOnly p (SiteConfig.decodeOr es key standard read) := by
  unfold SiteConfig.decodeOr
  split
  next v _ => exact each v
  · exact failsOnly_ok _

theorem failsOnly_decodeUnlessNull {α : Type} {standard : α} {read : Value → Except ConfigFault α}
    (each : ∀ v, FailsOnly p (read v)) :
    FailsOnly p (SiteConfig.decodeUnlessNull es key standard read) := by
  unfold SiteConfig.decodeUnlessNull
  split
  · exact failsOnly_ok _
  next v _ _ => exact each v
  · exact failsOnly_ok _

theorem failsOnly_decodeRouting (covers : CoversShape p) (fits : Fits p g.isWritable)
    (fit : EntriesFit p es) : FailsOnly p (Routing.decode g es) := by
  have textAt : ∀ key, FailsOnly p (g.trimmedAt key es) :=
    fun _ => Graph.failsOnly_trimmedAt fits fit
  refine (failsOnly_decodeOr (Graph.failsOnly_texts covers fits _)).bind fun skipEndings _ => ?_
  refine (textAt "global_source").bind fun globalSource _ => ?_
  refine (textAt "config_source").bind fun configSource _ => ?_
  refine (textAt "dns_suffix").bind fun dnsEnding _ => ?_
  refine (failsOnly_decodeOr (failsOnly_decodeLinkable covers fits)).bind fun linkable _ => ?_
  refine (failsOnly_decodeOr (failsOnly_decodeTexts covers fits)).bind fun dnsTitles _ => ?_
  refine (failsOnly_decodeOr (failsOnly_decodeTexts covers fits)).bind fun extraFunctions _ => ?_
  exact failsOnly_ok _

theorem failsOnly_decodeSdk (covers : CoversShape p) (fits : Fits p g.isWritable) :
    FailsOnly p (SdkRules.decode g es) := by
  have textsAt : ∀ {key name standard}, FailsOnly p
      (SiteConfig.decodeUnlessNull es key standard (g.texts name)) :=
    fun {_ _ _} => failsOnly_decodeUnlessNull (Graph.failsOnly_texts covers fits _)
  refine textsAt.bind fun introduced _ => ?_
  refine textsAt.bind fun qualified _ => ?_
  refine textsAt.bind fun withVariables _ => ?_
  exact failsOnly_ok _

end

/-! ## Paths -/

/-- Something other than a text stands at a key. -/
def Yaml.MisplacedAt (key : String) (es : List (Key × Value)) : Prop :=
  ∃ v, Key.lookup? key es = some v ∧ ∀ s, v ≠ .key (.text s)

/-- A path is read unless something other than a text stands in its place. -/
theorem FilePath.decodeAt_eq_error_iff {es : List (Key × Value)} {key : String}
    {standard : FilePath} {fault : ConfigFault} :
    FilePath.decodeAt es key standard = .error fault ↔
      Yaml.MisplacedAt key es ∧ fault = .pathNotText key := by
  unfold FilePath.decodeAt SiteConfig.decodeOr Yaml.MisplacedAt
  cases Key.lookup? key es with
  | none => simp
  | some v =>
    rcases v with k | place
    · cases k <;> simp [eq_comm]
    · simp [eq_comm]

/-! ## Whole documents -/

namespace SiteConfig

open Yaml (MisplacedAt)

variable {g : Graph} {es defaults : List (Key × Value)} {methods : Section.BuilderMethods}

/-- The keys of the paths of the default section. -/
def pathKeys : List String := ["output_dir", "docs_root", "examples_root"]

/-- A document with something other than a text in the place of a path. The default section and the
builder methods are read before the paths, so they have no fault. -/
def MisplacesPath (g : Graph) (key : String) : Prop :=
  ∃ defaults methods,
    sectionAt g (g.ownEntries g.top) "defaults" = .ok defaults ∧
    decodeOr (g.ownEntries g.top) "builder_methods" standard.builderMethods (decodeBuilders g) =
      .ok methods ∧
    key ∈ pathKeys ∧ MisplacedAt key defaults

/-- A fault that a document can have: one in its shape, that of a number that is too long, or that
of a misplaced path. -/
def HasFault (g : Graph) (fault : ConfigFault) : Prop :=
  fault.IsShapeFault ∨ fault = .numberTooLong ∧ g.isWritable = false ∨
    ∃ key, fault = .pathNotText key ∧ MisplacesPath g key

theorem fits_hasFault (g : Graph) : Fits (HasFault g) g.isWritable :=
  (Bool.eq_false_or_eq_true g.isWritable).imp_right fun tooLong => .inr (.inl ⟨rfl, tooLong⟩)

/-- Every fault in reading a document is one that it has. -/
theorem hasFault_of_decode (g : Graph) : FailsOnly (HasFault g) (decode g) := by
  have covers : CoversShape (HasFault g) := fun _ => .inl
  have fits := fits_hasFault g
  rcases decode_eq_or g with ⟨refused, -⟩ | ofEntries
  · rw [refused]
    exact failsOnly_error_iff.mpr (.inl trivial)
  rw [ofEntries]
  refine (Graph.failsOnly_entries covers _ _).bind fun defaults isDefaults => ?_
  refine (failsOnly_decodeOr (failsOnly_decodeBuilders covers fits)).bind
    fun methods isMethods => ?_
  have textAt : ∀ key, FailsOnly (HasFault g) (g.trimmedAt key defaults) :=
    fun _ => Graph.failsOnly_trimmedAt fits (fits.entries isDefaults)
  have pathAt : ∀ key ∈ pathKeys, ∀ standard,
      FailsOnly (HasFault g) (FilePath.decodeAt defaults key standard) := by
    intro key isKey standard fault fails
    obtain ⟨misplaced, rfl⟩ := FilePath.decodeAt_eq_error_iff.mp fails
    exact .inr (.inr ⟨key, rfl, defaults, methods, isDefaults, isMethods, isKey, misplaced⟩)
  refine (pathAt "output_dir" (by decide) _).bind fun outputDir _ => ?_
  refine (pathAt "docs_root" (by decide) _).bind fun docsRoot _ => ?_
  refine (textAt "components_reflection").bind fun components _ => ?_
  refine (textAt "sdk_reflection").bind fun sdk _ => ?_
  refine (textAt "examples_reflection").bind fun examples _ => ?_
  refine (pathAt "examples_root" (by decide) _).bind fun examplesRoot _ => ?_
  refine (textAt "cli_doc").bind fun commands _ => ?_
  refine (textAt "common_errors_doc").bind fun commonErrors _ => ?_
  refine (textAt "github_url").bind fun repositoryUrl _ => ?_
  refine (Graph.failsOnly_entries covers _ _).bind fun routingEntries isRouting => ?_
  refine (failsOnly_decodeRouting covers fits (fits.entries isRouting)).bind fun routing _ => ?_
  refine (Graph.failsOnly_entries covers _ _).bind fun sdkEntries isSdk => ?_
  refine (failsOnly_decodeSdk covers fits).bind fun sdkRules _ => ?_
  exact failsOnly_ok _

/-- A text is read if its reading can have faults in the shape only, as it has no such faults. -/
theorem exists_failsOnly_of_trimmedAt {α : Type} {key : String}
    {f : Option String → Except ConfigFault α}
    (only : FailsOnly IsShapeFault (g.trimmedAt key es >>= f)) :
    ∃ text, FailsOnly IsShapeFault (f text) := by
  have tooLong : FailsOnly (· = .numberTooLong) (g.trimmedAt key es) :=
    Graph.failsOnly_trimmedAt (.inr rfl) fun _ _ => ⟨.inr rfl, .inr rfl⟩
  obtain ⟨ofText, only⟩ := failsOnly_bind_iff.mp only
  cases isText : g.trimmedAt key es with
  | ok text => exact ⟨text, only text isText⟩
  | error fault =>
    obtain rfl := tooLong fault isText
    exact (ofText _ isText).elim

/-- So is a path, and then a text or nothing stands in its place. -/
theorem exists_failsOnly_of_decodeAt {α : Type} {key : String} {standard : FilePath}
    {f : FilePath → Except ConfigFault α}
    (only : FailsOnly IsShapeFault (FilePath.decodeAt es key standard >>= f)) :
    ¬ MisplacedAt key es ∧ ∃ path, FailsOnly IsShapeFault (f path) := by
  obtain ⟨ofPath, only⟩ := failsOnly_bind_iff.mp only
  have placed : ¬ MisplacedAt key es :=
    fun misplaced => ofPath _ (FilePath.decodeAt_eq_error_iff.mpr ⟨misplaced, rfl⟩)
  refine ⟨placed, ?_⟩
  cases isPath : FilePath.decodeAt es key standard with
  | ok path => exact ⟨path, only path isPath⟩
  | error fault => exact absurd (FilePath.decodeAt_eq_error_iff.mp isPath).1 placed

/-- If the entries of a document have faults in the shape at most, no path is misplaced. -/
theorem not_misplacedAt_of_failsOnly (only : FailsOnly IsShapeFault (decodeEntries g es))
    (isDefaults : sectionAt g es "defaults" = .ok defaults)
    (isMethods : decodeOr es "builder_methods" standard.builderMethods (decodeBuilders g) =
      .ok methods) :
    ∀ key ∈ pathKeys, ¬ MisplacedAt key defaults := by
  obtain ⟨-, only⟩ := failsOnly_bind_iff.mp only
  obtain ⟨-, only⟩ := failsOnly_bind_iff.mp (only defaults isDefaults)
  obtain ⟨outputPlaced, outputDir, only⟩ := exists_failsOnly_of_decodeAt (only methods isMethods)
  obtain ⟨docsPlaced, docsRoot, only⟩ := exists_failsOnly_of_decodeAt only
  -- the texts between the paths cannot keep the last path from being read
  obtain ⟨components, only⟩ := exists_failsOnly_of_trimmedAt only
  obtain ⟨sdk, only⟩ := exists_failsOnly_of_trimmedAt only
  obtain ⟨examples, only⟩ := exists_failsOnly_of_trimmedAt only
  obtain ⟨examplesPlaced, -, -⟩ := exists_failsOnly_of_decodeAt only
  simp [pathKeys, outputPlaced, docsPlaced, examplesPlaced]

theorem not_failsOnly_of_misplacesPath {key : String} (misplaces : MisplacesPath g key) :
    ¬ FailsOnly IsShapeFault (decode g) := by
  intro only
  obtain ⟨defaults, methods, isDefaults, isMethods, isKey, misplaced⟩ := misplaces
  rcases decode_eq_or g with ⟨-, noEntries⟩ | ofEntries
  · rw [noEntries] at isDefaults
    cases isDefaults
    obtain ⟨value, found, -⟩ := misplaced
    cases found
  · rw [ofEntries] at only
    exact not_misplacedAt_of_failsOnly only isDefaults isMethods key isKey misplaced

/-- The documents that are neither loaded nor refused for their shape are those with a misplaced
path and those in which a number that is too long is read. -/
theorem escapes_iff (g : Graph) :
    (∃ fault, decode g = .error fault ∧ ¬ fault.IsShapeFault) ↔
      (∃ key, MisplacesPath g key) ∨
        decode g = .error .numberTooLong ∧ g.isWritable = false := by
  constructor
  · rintro ⟨fault, fails, notShape⟩
    rcases hasFault_of_decode g fault fails with shape | ⟨rfl, tooLong⟩ | ⟨key, -, misplaces⟩
    · exact absurd shape notShape
    · exact .inr ⟨fails, tooLong⟩
    · exact .inl ⟨key, misplaces⟩
  · rintro (⟨key, misplaces⟩ | ⟨fails, -⟩)
    · simpa [FailsOnly] using not_failsOnly_of_misplacesPath misplaces
    · exact ⟨.numberTooLong, fails, id⟩

/-- A document with a number in the place of a path. -/
def numberForPath : Graph where
  collections :=
    [.map false [(.text "defaults", .collection 1)], .map false [(.text "output_dir", Key.int 5)]]
  top := .collection 0

/-- A number in the place of a path is neither loaded nor refused as a fault in the shape. -/
theorem number_for_path_escapes :
    ¬ ∀ g : Graph, (∃ config, decode g = .ok config) ∨
      ∃ fault, decode g = .error fault ∧ fault.IsShapeFault := by
  intro outcomes
  have fails : decode numberForPath = .error (.pathNotText "output_dir") := rfl
  rcases outcomes numberForPath with ⟨config, loaded⟩ | ⟨fault, refused, shape⟩
  · cases fails.symm.trans loaded
  · cases fails.symm.trans refused
    exact shape

end SiteConfig

end DocPress
