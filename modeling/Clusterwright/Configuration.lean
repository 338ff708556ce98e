import Clusterwright.Failure
import Clusterwright.Text.Blank
import Clusterwright.Yaml.Reading

/-!
# The configuration document

A cluster is described by a document with one section for the platform and sections for the state
backend, the network and the operating system image, and a list of sections for the components. Each
section names an extension and holds a body that only this extension can read.
-/

namespace Clusterwright

/-- A section: the name of an extension and a body for it. -/
structure ConfigSection where
  name : Option String := none
  body : Yaml.Value := .null
  deriving Repr, Inhabited

/-- A configuration document. -/
structure Configuration where
  cluster : Option ConfigSection := none
  backend : Option ConfigSection := none
  network : Option ConfigSection := none
  osImage : Option ConfigSection := none
  components : List ConfigSection := []
  deriving Repr, Inhabited

namespace ConfigSection

open Yaml Yaml.Reading

/-- The fields of a section. -/
def fields : List (Reading.Field ConfigSection) :=
  [⟨"name", false, fun depth path node s => do
      return { s with name := ← optional text depth path node }⟩,
    ⟨"config", false, fun depth path node s => do
      return { s with body := ← anyValue depth path node }⟩]

/-- How a section is written. -/
def shape : Shape ConfigSection := Reading.record "struct SectionConfig" true fields {}

end ConfigSection

namespace Configuration

open Yaml Yaml.Reading

/-- The fields of a document. -/
def fields : List (Reading.Field Configuration) :=
  [⟨"cluster", false, fun depth path node c => do
      return { c with cluster := ← optional ConfigSection.shape depth path node }⟩,
    ⟨"backend", false, fun depth path node c => do
      return { c with backend := ← optional ConfigSection.shape depth path node }⟩,
    ⟨"network", false, fun depth path node c => do
      return { c with network := ← optional ConfigSection.shape depth path node }⟩,
    ⟨"flatcar", false, fun depth path node c => do
      return { c with osImage := ← optional ConfigSection.shape depth path node }⟩,
    ⟨"components", false, fun depth path node c => do
      return { c with components := ← list ConfigSection.shape depth path node }⟩]

/-- How a document is written. -/
def shape : Shape Configuration := Reading.record "struct ClusterDocument" true fields {}

/-- Reads a document. A blank text is a document without sections. -/
def parse (content : String) : Except Failure Configuration :=
  if Text.isAllBlank content then .ok {}
  else (Yaml.parseAs shape content).mapError (.misshapen "configuration document")

end Configuration

end Clusterwright
