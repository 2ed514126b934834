import DocPress.SiteConfig
import DocPress.Text.Blank
import DocPress.Yaml.Value

/-! # Reading the configuration

A configuration document is a map of sections, all of them optional, as is every value in them; what
is left out has its standard value. Texts are taken in their textual form without blanks around
them, and an empty text counts as left out.

* `ConfigFault`: why a document is no configuration.
* `SiteConfig.decode`: the configuration that a document gives. -/

set_option autoImplicit false

namespace DocPress

/-- Why a document is no configuration. -/
inductive ConfigFault where
  | documentNotMap
  | notMap (key : String)
  | notTextList (key : String)
  | emptyEntry (key : String)
  | emptyText (key : String)
  | linkableIncomplete (ending : String)
  | pathNotText (key : String)
  /-- A whole number that is too long for a numeral stands where a text is needed. -/
  | numberTooLong
deriving DecidableEq

def ConfigFault.message : ConfigFault → String
  | documentNotMap => "Top-level YAML structure must be a mapping."
  | notMap key => "'" ++ key ++ "' must be a mapping."
  | notTextList key => "'" ++ key ++ "' must be a list of strings."
  | emptyEntry key => "'" ++ key ++ "' must not contain empty entries."
  | emptyText key => "'" ++ key ++ "' must be a non-empty string."
  | linkableIncomplete ending =>
    "'routing.linkable." ++ ending ++ "' requires 'title' and 'namespace'."
  | pathNotText key => "'defaults." ++ key ++ "' must be a path."
  | numberTooLong => "A number is too long."

namespace Yaml

def Key.shown (k : Key) : Except ConfigFault String :=
  match k.display? with
  | some s => .ok s
  | none => .error .numberTooLong

namespace Graph

variable (g : Graph)

/-- The entries of a map; nothing counts as an empty map. -/
def entries (key : String) (v : Value) : Except ConfigFault (List (Key × Value)) :=
  match v, g.map? v with
  | .key .null, _ => .ok []
  | _, some es => .ok es
  | _, none => .error (.notMap key)

def shown (v : Value) : Except ConfigFault String :=
  match g.display? v with
  | some s => .ok s
  | none => .error .numberTooLong

/-- The textual form without blanks around it, unless nothing is left of it. -/
def trimmed (v : Value) : Except ConfigFault (Option String) :=
  match v with
  | .key .null => .ok none
  | v => do
    let s := Text.trim (← g.shown v)
    return if s = "" then none else some s

def trimmedAt (key : String) (es : List (Key × Value)) : Except ConfigFault (Option String) :=
  g.trimmed ((Key.lookup? key es).getD (.key .null))

def texts (key : String) (v : Value) : Except ConfigFault (List String) :=
  match g.list? v with
  | some items => do
    let texts ← items.mapM g.trimmed
    if texts.contains none then .error (.emptyEntry key) else return texts.filterMap id
  | none => .error (.notTextList key)

end Graph

/-- Sets the value of a key, at the place of the key if it is there and at the end if not. -/
def setEntry {α : Type} (key : String) (value : α) : List (String × α) → List (String × α)
  | [] => [(key, value)]
  | (k, v) :: es => if k = key then (k, value) :: es else (k, v) :: setEntry key value es

/-- A map with the textual forms of its keys, each value read by `read`; of keys with one textual
form the last gives the value. -/
def readEntries {α : Type} (read : Key → Value → Except ConfigFault α) :
    List (Key × Value) → List (String × α) → Except ConfigFault (List (String × α))
  | [], acc => .ok acc
  | (k, v) :: es, acc => do
    let value ← read k v
    readEntries read es (setEntry (← k.shown) value acc)

end Yaml

open Yaml (Key Value Graph readEntries)

/-- Reads the value at a key if the map has it, and takes the standard one if not. -/
def SiteConfig.decodeOr {α : Type} (es : List (Key × Value)) (key : String) (standard : α)
    (read : Value → Except ConfigFault α) : Except ConfigFault α :=
  match Key.lookup? key es with
  | some v => read v
  | none => .ok standard

/-- Reads the value at a key unless the map lacks it or has nothing there. -/
def SiteConfig.decodeUnlessNull {α : Type} (es : List (Key × Value)) (key : String)
    (standard : α) (read : Value → Except ConfigFault α) : Except ConfigFault α :=
  match Key.lookup? key es with
  | some (.key .null) => .ok standard
  | some v => read v
  | none => .ok standard

def FilePath.decodeAt (es : List (Key × Value)) (key : String) (standard : FilePath) :
    Except ConfigFault FilePath :=
  SiteConfig.decodeOr es key standard fun v =>
    match v with
    | .key (.text s) => .ok (.ofString s)
    | _ => .error (.pathNotText key)

section

variable (g : Graph)

def Routing.decodeTexts (key : String) (v : Value) :
    Except ConfigFault (List (String × String)) := do
  readEntries (fun name v => do
    match ← g.trimmed v with
    | some s => return s
    | none => .error (.emptyText (key ++ "." ++ (← name.shown)))) (← g.entries key v) []

def LinkableCopy.decode (ending : Key) (v : Value) : Except ConfigFault LinkableCopy := do
  match g.map? v with
  | some es =>
    let title ← g.trimmedAt "title" es
    let namespaceName ← g.trimmedAt "namespace" es
    match title, namespaceName with
    | some title, some namespaceName => return ⟨title, namespaceName⟩
    | _, _ => .error (.linkableIncomplete (← ending.shown))
  | none => .error (.notMap ("routing.linkable." ++ (← ending.shown)))

def Routing.decodeLinkable (v : Value) : Except ConfigFault (List (String × LinkableCopy)) := do
  readEntries (LinkableCopy.decode g) (← g.entries "routing.linkable" v) []

def Routing.decode (es : List (Key × Value)) : Except ConfigFault Routing := do
  let skipEndings ← SiteConfig.decodeOr es "skip_suffixes" standard.skipEndings
    (g.texts "routing.skip_suffixes")
  let globalSource ← g.trimmedAt "global_source" es
  let configSource ← g.trimmedAt "config_source" es
  let dnsEnding ← g.trimmedAt "dns_suffix" es
  let linkable ← SiteConfig.decodeOr es "linkable" standard.linkable (decodeLinkable g)
  let dnsTitles ← SiteConfig.decodeOr es "dns_titles" standard.dnsTitles
    (decodeTexts g "routing.dns_titles")
  let extraFunctions ← SiteConfig.decodeOr es "global_extra_functions" standard.extraFunctions
    (decodeTexts g "routing.global_extra_functions")
  return {
    skipEndings
    globalSource := globalSource.getD standard.globalSource
    configSource := configSource.getD standard.configSource
    dnsEnding := dnsEnding.getD standard.dnsEnding
    linkable
    dnsTitles
    extraFunctions }

def SdkRules.decode (es : List (Key × Value)) : Except ConfigFault SdkRules := do
  let introduced ← SiteConfig.decodeUnlessNull es "about_namespaces" standard.introduced
    (g.texts "sdk.about_namespaces")
  let qualified ← SiteConfig.decodeUnlessNull es "prefixed_namespaces" standard.qualified
    (g.texts "sdk.prefixed_namespaces")
  let withVariables ← SiteConfig.decodeUnlessNull es "variable_namespaces" standard.withVariables
    (g.texts "sdk.variable_namespaces")
  return { introduced, qualified, withVariables }

namespace SiteConfig

def decodeBuilders (v : Value) : Except ConfigFault Section.BuilderMethods := do
  readEntries (fun name v => do g.texts ("builder_methods." ++ (← name.shown)) v)
    (← g.entries "builder_methods" v) []

/-- The entries of the section at a key, none if it is left out. -/
def sectionAt (es : List (Key × Value)) (key : String) :
    Except ConfigFault (List (Key × Value)) :=
  g.entries key ((Key.lookup? key es).getD (.key .null))

def decodeEntries (es : List (Key × Value)) : Except ConfigFault SiteConfig := do
  let defaults ← sectionAt g es "defaults"
  let builderMethods ← decodeOr es "builder_methods" standard.builderMethods (decodeBuilders g)
  let outputDir ← FilePath.decodeAt defaults "output_dir" standard.outputDir
  let docsRoot ← FilePath.decodeAt defaults "docs_root" standard.docsRoot
  let components ← g.trimmedAt "components_reflection" defaults
  let sdk ← g.trimmedAt "sdk_reflection" defaults
  let examples ← g.trimmedAt "examples_reflection" defaults
  let examplesRoot ← FilePath.decodeAt defaults "examples_root" standard.examplesRoot
  let commands ← g.trimmedAt "cli_doc" defaults
  let commonErrors ← g.trimmedAt "common_errors_doc" defaults
  let repositoryUrl ← g.trimmedAt "github_url" defaults
  let routing ← Routing.decode g (← sectionAt g es "routing")
  let sdkRules ← SdkRules.decode g (← sectionAt g es "sdk")
  return {
    outputDir
    docsRoot
    components
    sdk
    examples
    examplesRoot
    commands
    commonErrors
    repositoryUrl := repositoryUrl.getD standard.repositoryUrl
    routing
    sdkRules
    builderMethods }

/-- The configuration that a document gives. A document that does not count as present is an empty
one. -/
def decode : Except ConfigFault SiteConfig :=
  if g.isTrue g.top then
    match g.map? g.top with
    | some es => decodeEntries g es
    | none => .error .documentNotMap
  else decodeEntries g []

end SiteConfig

end

end DocPress
