import DocPress.FilePath
import DocPress.Section.ClassGroups

/-! # The configuration of a site

Where the inputs are, where the pages go, and the rules that decide which family of pages a unit
belongs to.

* `Routing.familyOf`: the family of the page of a source file.
* `SiteConfig`: everything that a run needs besides the documents. -/

set_option autoImplicit false

namespace DocPress

/-- The families of pages that are built from units; a skipped unit has no page. -/
inductive PageFamily where
  | skip
  | global
  | config
  | dns
  | linkable
  | component
deriving DecidableEq

structure LinkableCopy where
  title : String
  namespaceName : String
deriving DecidableEq

/-- The rules by which source files are told apart. -/
structure Routing where
  skipEndings : List String
  globalSource : String
  configSource : String
  dnsEnding : String
  linkable : List (String × LinkableCopy)
  dnsTitles : List (String × String)
  /-- Titles of groups of functions on the global page, with the ending of the file that declares
  them. -/
  extraFunctions : List (String × String)
deriving DecidableEq

namespace Routing

def standard : Routing where
  skipEndings := ["/aws/iam-edit.ts"]
  globalSource := "platform/src/global-config.d.ts"
  configSource := "platform/src/config.ts"
  dnsEnding := "/dns.ts"
  linkable :=
    [("/aws/permission.ts", ⟨"AWS", "sst.aws.permission"⟩),
     ("/cloudflare/binding.ts", ⟨"Cloudflare", "sst.cloudflare.binding"⟩)]
  dnsTitles := [("aws", "AWS"), ("cloudflare", "Cloudflare"), ("vercel", "Vercel")]
  extraFunctions := [("AWS", "/aws/iam-edit.ts")]

def hasEnding (path ending : String) : Bool := ending.toList.isSuffixOf path.toList

def linkableCopy? (r : Routing) (path : String) : Option LinkableCopy :=
  (r.linkable.find? fun l => hasEnding path l.1).map Prod.snd

/-- The family of the page of a source file. -/
def familyOf (r : Routing) (path : String) : PageFamily :=
  if r.skipEndings.any (hasEnding path) then .skip
  else if path = r.globalSource then .global
  else if path = r.configSource then .config
  else if hasEnding path r.dnsEnding then .dns
  else if (r.linkableCopy? path).isSome then .linkable
  else .component

end Routing

/-- How runtime modules are shown on the pages of the components that they belong to. -/
structure SdkRules where
  introduced : List String
  /-- The modules whose functions are shown with the name of the module. -/
  qualified : List String
  withVariables : List String
deriving DecidableEq

def SdkRules.standard : SdkRules where
  introduced := ["realtime", "task"]
  qualified := ["realtime", "task"]
  withVariables := ["opencontrol"]

/-- The configuration of a site. The documents are optional; each enables its family of pages. -/
structure SiteConfig where
  outputDir : FilePath
  docsRoot : FilePath
  components : Option String
  sdk : Option String
  examples : Option String
  examplesRoot : FilePath
  commands : Option String
  commonErrors : Option String
  repositoryUrl : String
  routing : Routing
  sdkRules : SdkRules
  builderMethods : Section.BuilderMethods
deriving DecidableEq

def SiteConfig.standard : SiteConfig where
  outputDir := .ofString ""
  docsRoot := .ofString "src/content/docs/docs"
  components := none
  sdk := none
  examples := none
  examplesRoot := .ofString "examples"
  commands := none
  commonErrors := none
  repositoryUrl := "https://github.com/sst/sst"
  routing := .standard
  sdkRules := .standard
  builderMethods := Section.defaultBuilderMethods

end DocPress
