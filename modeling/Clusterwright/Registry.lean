import Clusterwright.Backend
import Clusterwright.Component
import Clusterwright.Failure
import Clusterwright.Platform.Basic

/-!
# Extensions and where they are registered

Platforms, backends, networks, images and components are extensions: each has a name, takes over the
body of its section, and checks what it was given. A registry has one table for each category, from
names to constructors of extensions that have not been configured yet. A name is registered once in
a category.
-/

namespace Clusterwright

/-- What all extensions have in common. -/
class Extension (α : Type) where
  name : α → String
  decode : Yaml.Value → α → Except Mismatch α
  validate : α → Diagnostics

instance : Extension Platform := ⟨Platform.name, Platform.decode, Platform.validate⟩
instance : Extension Backend := ⟨Backend.name, Backend.decode, Backend.validate⟩
instance : Extension Network := ⟨Network.name, Network.decode, Network.validate⟩
instance : Extension OsImage := ⟨OsImage.name, OsImage.decode, OsImage.validate⟩
instance : Extension Component := ⟨Component.name, Component.decode, Component.validate⟩

/-- The categories of extensions. -/
inductive Category where
  | platform | backend | network | osImage | component
  deriving DecidableEq, Repr

namespace Category

/-- The categories in the order in which they are listed. -/
def all : List Category := [.platform, .backend, .network, .osImage, .component]

/-- What a category is called. -/
def label : Category → String
  | .platform => "platform"
  | .backend => "backend"
  | .network => "network"
  | .osImage => "flatcar"
  | .component => "component"

/-- The extensions of a category. -/
abbrev Extension : Category → Type
  | .platform => Platform
  | .backend => Backend
  | .network => Network
  | .osImage => OsImage
  | .component => Component

/-- A constructor of extensions of a category, which makes a fresh one each time. -/
abbrev Constructor (c : Category) : Type := Unit → c.Extension

end Category

/-- A table of constructors for each category. -/
structure Registry where
  table : (c : Category) → SortedMap c.Constructor

/-- A name that is registered already. -/
structure Collision where
  category : Category
  name : String
  deriving DecidableEq, Repr

/-- The text of a collision. -/
def Collision.message (c : Collision) : String :=
  c.category.label ++ " with name " ++ Text.shown c.name ++ " registered already"

namespace Registry

/-- The registry without extensions. -/
def empty : Registry := ⟨fun _ => .empty⟩

/-- The registry with one more entry in a category. -/
def insert (r : Registry) (c : Category) (name : String) (make : c.Constructor) : Registry :=
  ⟨fun d => if h : d = c then h ▸ (r.table c).insert name make else r.table d⟩

/-- Enters a constructor under a name that must be free. Whatever comes of it, there is a registry
    afterwards. -/
def enter (c : Category) (name : String) (make : c.Constructor) :
    ExceptT Collision (StateM Registry) Unit := do
  let r ← get
  if (r.table c).contains name then throw ⟨c, name⟩ else set (r.insert c name make)

/-- The registry with a constructor under a name that must be free. -/
def register (r : Registry) (c : Category) (name : String) (make : c.Constructor) :
    Except Collision Registry :=
  match (enter c name make).run.run r with
  | (.ok (), after) => .ok after
  | (.error collision, _) => .error collision

/-- The names in a category, in ascending order. -/
def names (r : Registry) (c : Category) : List String := (r.table c).keys

/-- A fresh extension, if a constructor is registered under the name. -/
def fresh? (r : Registry) (c : Category) (name : String) : Option c.Extension :=
  ((r.table c).find? name).map fun make => make ()

/-- A fresh extension of the kind that is registered under a name. -/
def find (r : Registry) (c : Category) (name : String) : Except Failure c.Extension :=
  match r.fresh? c name with
  | some e => .ok e
  | none => .error (.notFound c.label name (r.names c))

/-- The names of all categories. -/
def catalog (r : Registry) : List (String × List String) :=
  Category.all.map fun c => (c.label, r.names c)

/-- The registry of all extensions that there are. -/
def builtin : Registry :=
  ((((((((((empty.insert .platform "packet" fun _ => .packet {}).insert
    .platform "bare-metal" fun _ => .bareMetal {}).insert
    .backend "local" fun _ => .local {}).insert
    .backend "s3" fun _ => .s3 {}).insert
    .network "packet" fun _ => .packet {}).insert
    .network "bare-metal" fun _ => .bareMetal {}).insert
    .osImage "packet" fun _ => .packet {}).insert
    .osImage "bare-metal" fun _ => .bareMetal {}).insert
    .component "contour" fun _ => .contour {}).insert
    .component "cert-manager" fun _ => .certManager {})

/-- A list of texts as messages show it. -/
def shownList (texts : List String) : String :=
  "[" ++ ", ".intercalate (texts.map Text.shown) ++ "]"

/-- A registry as messages show it. -/
def describe (r : Registry) : String :=
  "ExtensionRegistry \x7b " ++
    ", ".intercalate (r.catalog.map fun e => e.1 ++ ": " ++ shownList e.2) ++ " \x7d"

end Registry

end Clusterwright
