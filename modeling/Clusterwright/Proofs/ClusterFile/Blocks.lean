import Clusterwright.Proofs.ClusterFile.Lines

/-! # Blocks — cluster files are blocks one after the other

    What a platform writes is a list of blocks: a line with the kind and the label of the block,
    the lines of its body, and a line that closes it.  This file holds what every cluster file has
    in common: the providers of a version (`versioned`) and the outputs at the end
    (`outputBlocks`), with the values that the charts of the control plane need. -/

namespace Clusterwright.ClusterFile

open Template

variable {scope : Scope}

/-- A block of a cluster file, with the lines that stand before it. -/
structure Block where
  lead : List String
  kind : String
  label : String
  body : List String

/-- The line that opens a block of a kind under a label. -/
def opening (kind label : String) : String := kind ++ " \"" ++ label ++ "\" \x7b"

/-- The lines of a block. -/
def Block.lines (b : Block) : List String :=
  b.lead ++ opening b.kind b.label :: b.body ++ ["\x7d"]

/-- The text of a file that has some blocks. -/
def fileText (blocks : List Block) : String := unlines (blocks.flatMap Block.lines)

theorem opening_append (kind start label : String) :
    opening kind (start ++ label) = kind ++ " \"" ++ start ++ label ++ "\" \x7b" := by
  simp only [opening, String.append_assoc]

/-! ## What all files have -/

/-- The block for a provider of a version, under its default name. -/
def versioned (name version : String) : Block :=
  ⟨[""], "provider", name, ["  version = \"" ++ version ++ "\"", "  alias   = \"default\""]⟩

theorem writes_provider (name version : String) :
    Writes scope [provider name version] (versioned name version).lines :=
  writes_plain (versioned name version).lines

/-- The block for a value that the charts of the control plane need. -/
def chartBlock (lead : List String) (platform cluster release : String) (isSensitive : Bool) :
    Block :=
  let equals := if isSensitive then "  value     = module." else "  value = module."
  ⟨lead, "output", release ++ "_values",
    [equals ++ platform ++ "-" ++ cluster ++ ("." ++ release ++ "_values")] ++
      (if isSensitive then ["  sensitive = true"] else [])⟩

theorem opening_values (release : String) :
    opening "output" (release ++ "_values") = "output \"" ++ release ++ "_values\" \x7b" := by
  rw [opening_append, String.append_assoc]
  rfl

section

variable {cluster : String}
  (h : (field "config" "cluster_name").eval scope = .ok (.value (.text cluster)))
include h

theorem writes_chartValues (platform release : String) (isSensitive : Bool) :
    Writes scope (chartValues platform release isSensitive)
      (chartBlock [] platform cluster release isSensitive).lines := by
  unfold chartBlock Block.lines
  rw [opening_values, List.nil_append, List.cons_append, List.append_assoc]
  refine .append (.cons (writes_plain _) (writes_around _ _ h)) ?_
  exact writes_plain _

/-- The blocks at the end of every file. -/
def outputBlocks (platform cluster : String) : List Block :=
  [⟨["", "# Present once the engine has run at least once."], "output", "initialized",
      ["  value = true"]⟩,
    chartBlock ["", "# values.yaml content for the control plane charts."] platform cluster
      "pod-checkpointer" false,
    chartBlock [""] platform cluster "kube-apiserver" true,
    chartBlock [""] platform cluster "kubernetes" true,
    chartBlock [""] platform cluster "kubelet" true,
    chartBlock [""] platform cluster "calico" false]

theorem writes_outputs (platform : String) :
    Writes scope (outputs platform) ((outputBlocks platform cluster).flatMap Block.lines) := by
  simp only [outputs, List.append_assoc]
  refine Writes.of_eq ?_ (.append (writes_plain _) <|
    .append (writes_chartValues h _ _ _) <| .append (writes_plain _) <|
    .append (writes_chartValues h _ _ _) <| .append (writes_plain _) <|
    .append (writes_chartValues h _ _ _) <| .append (writes_plain _) <|
    .append (writes_chartValues h _ _ _) <| .append (writes_plain _) <|
    writes_chartValues h _ _ _)
  rfl

end

end Clusterwright.ClusterFile
