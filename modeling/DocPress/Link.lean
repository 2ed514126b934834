import DocPress.Fault
import DocPress.Text.Lowercase

/-! # Links

A reference leads to a place of its own page, to another page of the site, or to documentation
outside the site. Where it leads depends only on the reference and on the unit whose page it stands
on. The first rule that applies decides:

1. Marker names lead to fixed targets.
2. The class of the unit is the page itself, and an interface of the unit has an anchor on it.
3. A target declared among the component sources has a page of its own, with an anchor only for
   argument types.
4. Packages with documentation outside the site are linked by the rule of the package.

A reference to which no rule applies cannot be linked. -/

set_option autoImplicit false

namespace DocPress

/-- Where a link leads, with a label of its own or none. -/
inductive LinkTarget where
  | external (url : String) (label : Option String)
  /-- A place of the same page; without an anchor the page itself. -/
  | samePage (anchor label : Option String)
  | otherPage (path : String) (anchor label : Option String)
deriving DecidableEq

namespace LinkTarget

def href : LinkTarget → String
  | external url _ => url
  | samePage none _ => "."
  | samePage (some anchor) _ => "#" ++ anchor
  | otherPage path none _ => path
  | otherPage path (some anchor) _ => path ++ "#" ++ anchor

def label? : LinkTarget → Option String
  | external _ label => label
  | samePage _ label => label
  | otherPage _ _ label => label

end LinkTarget

namespace Link

def componentDocsRoot : String := "/docs/component"

def resourceOptionsUrl : String := "https://www.pulumi.com/docs/concepts/options/"

def shellLink : LinkTarget := .external "https://bun.sh/docs/runtime/shell" (some "Bun Shell")

def componentPage (path label : String) : LinkTarget :=
  .otherPage (componentDocsRoot ++ path) none (some label)

/-- The names that lead to fixed targets. -/
def markers : List (String × LinkTarget) :=
  [("AwsDns", componentPage "/aws/dns/" "sst.aws.dns"),
   ("CloudflareDns", componentPage "/cloudflare/dns/" "sst.cloudflare.dns"),
   ("VercelDns", componentPage "/vercel/dns/" "sst.vercel.dns"),
   ("AwsPermission", componentPage "/aws/permission/" "sst.aws.permission"),
   ("CloudflareBinding", componentPage "/cloudflare/binding/" "sst.cloudflare.binding"),
   ("ComponentResourceOptions", .external resourceOptionsUrl none),
   ("CustomResourceOptions",
     .external "https://www.pulumi.com/docs/iac/concepts/resources/dynamic-providers/" none),
   ("FileAsset", .external "https://www.pulumi.com/docs/iac/concepts/assets-archives/#assets" none),
   ("FileArchive",
     .external "https://www.pulumi.com/docs/iac/concepts/assets-archives/#archives" none),
   ("__module",
     .external "https://www.pulumi.com/docs/reference/pkg/nodejs/pulumi/pulumi/"
       (some "@pulumi/pulumi"))]

def marker? (name : Data) : Option LinkTarget :=
  (markers.find? fun m => name = .text m.1).map Prod.snd

/-! ## Component pages -/

/-- Reads the path of a component source: the source tree, then the path up to the last `.ts` of
the line. Gives the path and the number of characters read. -/
def readComponentSource (cs : List Char) : Option (List Char × Nat) :=
  match Text.dropWord? Fault.componentSourceRoot.toList cs with
  | none => none
  | some rest =>
    match Text.cutLast? ".ts".toList (Text.firstLine rest).1 with
    | none => none
    | some (path, _) => some (path, Fault.componentSourceRoot.length + path.length + 3)

/-- A text in which the component sources are replaced by their pages. `skip` counts the characters
still to pass of the source that was replaced last. -/
def componentPages : (skip : Nat) → List Char → List Char
  | _, [] => []
  | skip + 1, _ :: cs => componentPages skip cs
  | 0, c :: cs =>
    match readComponentSource (c :: cs) with
    | some (path, length) =>
      componentDocsRoot.toList ++ '/' :: path ++ componentPages (length - 1) cs
    | none => c :: componentPages 0 cs

def isArgsName (name : String) : Bool := "Args".toList.isSuffixOf name.toList

def ofComponentSource (name path : String) : LinkTarget :=
  .otherPage (String.ofList (componentPages 0 path.toList))
    (if isArgsName name then some (Text.lower name) else none) none

/-! ## Packages with documentation outside the site -/

def docsOf? (package : String) : Option PackageDocs :=
  match package with
  | "@pulumiverse/vercel" => some .communityProvider
  | "@types/aws-lambda" => some .handlerTypes
  | "esbuild" => some .bundler
  | "opencontrol" => some .controlService
  | "bun-types" => some .shell
  | name =>
    if name ≠ "@pulumi/pulumi" ∧ "@pulumi/".toList.isPrefixOf name.toList then some .provider
    else none

/-- Reads a provider and the path of a class from the text after the scope of the package. -/
def readProviderClass (cs : List Char) : Option (String × String) :=
  match cs.takeWhile (· ≠ '/'), cs.dropWhile (· ≠ '/') with
  | [], _ => none
  | _, [] => none
  | provider, _ :: rest =>
    match Text.cutLast? ".d.ts".toList (Text.firstLine rest).1 with
    | none => none
    | some ([], _) => none
    | some (path, _) => some (String.ofList provider, String.ofList path)

def readRest (cs : List Char) : Option String :=
  match (Text.firstLine cs).1 with
  | [] => none
  | line => some (String.ofList line)

def registryUrl (provider cls name : String) : String :=
  "https://www.pulumi.com/registry/packages/" ++ provider ++ "/api-docs/" ++ cls ++ "/"
    ++ (if isArgsName name then "#inputs" else "")

/-- The input types of providers whose registry pages are known. -/
def inputTypePages : List (String × String) :=
  [("DistributionOrigin", "cloudfront/distribution"),
   ("DistributionOriginGroup", "cloudfront/distribution"),
   ("DistributionCustomErrorResponse", "cloudfront/distribution"),
   ("DistributionDefaultCacheBehavior", "cloudfront/distribution"),
   ("DistributionOrderedCacheBehavior", "cloudfront/distribution")]

/-- The link to a class or an input type of a provider, whose target is declared in `source`. -/
def ofProvider (ref : Reference) (source : String) : Except Fault LinkTarget :=
  match Text.afterFirst? "node_modules/@pulumi/".toList readProviderClass source.toList with
  | none => .error (.unsupportedReference ref (some (.sourceUnknown .provider)))
  | some (provider, path) =>
    let provider := Text.lower provider
    let cls := Text.lower path
    if cls = "types/input" then
      match inputTypePages.find? fun p => ref.name = .text p.1 with
      | none => .error (.unsupportedReference ref (some .inputUnmapped))
      | some (name, page) =>
        .ok (.external
          ("https://www.pulumi.com/registry/packages/" ++ provider ++ "/api-docs/" ++ page ++ "/#"
            ++ Text.lower name) none)
    else if "types/".toList.isPrefixOf cls.toList then
      .error (.unsupportedReference ref (some .providerClassType))
    else do return .external (registryUrl provider cls (← ref.name.required .inspected)) none

/-- The link to a declaration of a package with documentation outside the site, which is declared in
`source`. -/
def ofPackage (docs : PackageDocs) (ref : Reference) (source : String) : Except Fault LinkTarget :=
  match docs with
  | .provider => ofProvider ref source
  | .communityProvider =>
    match Text.afterFirst? "node_modules/@pulumiverse/".toList readProviderClass source.toList with
    | none => .error (.unsupportedReference ref (some (.sourceUnknown docs)))
    | some (provider, path) => do
      let name ← ref.name.required .inspected
      return .external (registryUrl (Text.lower provider) (Text.lower path) name) none
  | .handlerTypes =>
    match Text.afterFirst? "node_modules/@types/aws-lambda/".toList readRest source.toList with
    | none => .error (.unsupportedReference ref (some (.sourceUnknown docs)))
    | some path =>
      .ok (.external
        ("https://github.com/DefinitelyTyped/DefinitelyTyped/blob/master/types/aws-lambda/" ++ path)
        none)
  | .bundler =>
    let part := if ref.name = .text "Loader" then "#loader" else "#build"
    .ok (.external ("https://esbuild.github.io/api/" ++ part) none)
  | .controlService => .ok (.external "https://opencontrol.ai/" none)
  | .shell => .ok shellLink

/-! ## Resolution -/

/-- The path of the target of a reference, empty if it is not known. -/
def sourceOf (ref : Reference) : Except Fault String :=
  ((ref.sourcePath.filter Data.isTrue).getD (.text "")).required .inspected

def docsFor? (ref : Reference) : Except Fault (Option PackageDocs) :=
  match ref.package.filter Data.isTrue with
  | none => .ok none
  | some package => do return docsOf? (← (← package.asKey).required .inspected)

/-- Where a reference leads from the page of a unit. -/
def resolve (unit : DocUnit) (ref : Reference) : Except Fault LinkTarget := do
  match marker? (← ref.name.asKey) with
  | some target => return target
  | none =>
    if ref.qualifiedName = some (.text "Shell") then return shellLink
    else if unit.class?.any fun c => c.name = ref.name then return .samePage none none
    else if (unit.interface? ref.name).isSome then
      return .samePage (some (Text.lower (← ref.name.required .inspected))) none
    else
      let source ← sourceOf ref
      if Fault.componentSourceRoot.toList.isPrefixOf source.toList then
        return ofComponentSource (← ref.name.required .inspected) source
      else
        match ← docsFor? ref with
        | some docs => ofPackage docs ref source
        | none => throw (.unsupportedReference ref none)

end Link

end DocPress
