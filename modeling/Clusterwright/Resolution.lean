import Clusterwright.Configuration
import Clusterwright.Descriptor
import Clusterwright.Notice

/-!
# From documents to clusters

Every section of a document is looked up in the registry, taken over and checked, one after the
other in a fixed order; the first section that fails ends the resolution. Warnings are shown on the
way, also those of a section that fails.

| section    | if it is missing      |
|------------|-----------------------|
| cluster    | incomplete            |
| backend    | state in a local file |
| flatcar    | no image              |
| network    | invalid               |
| components | none                  |
-/

namespace Clusterwright

/-- A resolution with the notices that it gives on the way. -/
abbrev Resolution := ExceptT Failure (StateM (List Notice))

namespace Resolution

/-- Shows a warning of a section. -/
def warn (part : String) (d : Diagnostic) : Resolution Unit :=
  modify (· ++ [.warning (part ++ ": " ++ d.summary ++ "; " ++ d.detail)])

/-- Takes over the body of a section and checks the outcome. -/
def load {α : Type} [Extension α] (part : String) (body : Yaml.Value) (e : α) : Resolution α := do
  match Extension.decode body e with
  | .error m => throw (.misshapen part (.ofMismatch m))
  | .ok e =>
    let findings := Extension.validate e
    findings.warnings.forM (warn part)
    if findings.hasErrors then throw (.invalid part findings) else return e

/-- The name that a section has to have. -/
def sectionName (what : String) (s : ConfigSection) : Except Failure String :=
  match s.name.filter fun n => !n.isEmpty with
  | some name => .ok name
  | none => .error (.incomplete (what ++ " section has no name"))

/-- Resolves the platform. -/
def platform (doc : Configuration) (r : Registry) : Resolution Platform := do
  match doc.cluster with
  | none => throw (.incomplete "no platform configured")
  | some s =>
    let name ← sectionName "cluster" s
    let e ← r.find .platform name
    load ("cluster " ++ name) s.body e

/-- Resolves the backend. -/
def backend (doc : Configuration) (r : Registry) : Resolution Backend := do
  match doc.backend with
  | none => return .local {}
  | some s =>
    let name ← sectionName "backend" s
    let e ← r.find .backend name
    load ("backend " ++ name) s.body e

/-- Resolves the image; without a name it is the one for the platform. -/
def osImage (doc : Configuration) (r : Registry) (platform : String) :
    Resolution (Option OsImage) := do
  match doc.osImage with
  | none => return none
  | some s =>
    let name := s.name.getD platform
    let e ← r.find .osImage name
    return some (← load ("flatcar " ++ name) s.body e)

/-- Resolves the network; without a name it is the one for the platform. -/
def network (doc : Configuration) (r : Registry) (platform : String) : Resolution Network := do
  match doc.network with
  | none =>
    throw (.invalid "network"
      (.error "Network not configured" "Add a network section to the configuration"))
  | some s =>
    let name := s.name.getD platform
    let e ← r.find .network name
    load ("network " ++ name) s.body e

/-- Resolves one more component, whose name must be new. -/
def component (r : Registry) (done : SortedMap Component) (s : ConfigSection) :
    Resolution (SortedMap Component) := do
  let name ← sectionName "component" s
  if done.contains name then
    throw (.invalid ("component " ++ name)
      (.error "Component names should be unique"
        ("Component " ++ Text.shown name ++ " is configured more than once")))
  else
    let e ← r.find .component name
    return done.insert name (← load ("component " ++ name) s.body e)

/-- Resolves the components in the order of the document. -/
def components (doc : Configuration) (r : Registry) : Resolution (SortedMap Component) :=
  doc.components.foldlM (component r) .empty

/-- Resolves a document. -/
def descriptor (doc : Configuration) (r : Registry) : Resolution Descriptor := do
  let platform ← platform doc r
  let backend ← backend doc r
  let osImage ← osImage doc r platform.name
  let network ← network doc r platform.name
  let components ← components doc r
  return ⟨platform, backend, network, osImage, components⟩

end Resolution

/-- Resolves a document; the notices come with the outcome. -/
def resolve (doc : Configuration) (r : Registry) : Except Failure Descriptor × List Notice :=
  (Resolution.descriptor doc r).run.run []

end Clusterwright
