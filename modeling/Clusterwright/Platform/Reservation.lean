import Clusterwright.Diagnostics
import Clusterwright.SortedMap
import Clusterwright.Text.Escaped
import Clusterwright.Text.Numeral

/-!
# Reserved machines

A group of nodes may run on machines that were reserved one by one, each under a key that names the
role and the number of the node, or on any machine of a shared reservation. Groups with reserved
machines are created first: all others wait for them.
-/

namespace Clusterwright

/-- The role of a group of nodes. -/
inductive NodeRole where
  | controller | worker
  deriving DecidableEq, Repr

namespace NodeRole

/-- What the keys of a role begin with. -/
def keyStart : NodeRole → String
  | .controller => "controller-"
  | .worker => "worker-"

/-- What a group of a role is called. -/
def groupName : NodeRole → String
  | .controller => "Cluster"
  | .worker => "Worker pool"

end NodeRole

/-- The machines reserved for a group: one by one under keys, or in a shared reservation. -/
structure Reservations where
  ids : SortedMap String := .empty
  shared : Option String := none
  deriving DecidableEq, Repr

namespace Reservations

/-- The value that stands for any machine. -/
def nextAvailable : String := "next-available"

/-- Removes a text from the front of another. -/
def dropStart? : List Char → List Char → Option (List Char)
  | [], s => some s
  | a :: start, b :: rest => if a = b then dropStart? start rest else none
  | _ :: _, [] => none

/-- Whether a key consists of the role's word, one dash and the number of a node. -/
def isKey (role : NodeRole) (key : String) : Bool :=
  match dropStart? role.keyStart.toList key.toList with
  | none => false
  | some number =>
    !number.contains '-' && (Text.unsigned? 10 Text.maxInt64 number).isSome

/-- Whether the shared reservation is set to something. -/
def hasShared (r : Reservations) : Bool := r.shared.any fun s => !s.isEmpty

/-- The findings about the reservations of a group with a name. -/
def check (role : NodeRole) (name : String) (r : Reservations) : Diagnostics :=
  let group := role.groupName
  let named := group ++ ": " ++ Text.shown name
  Diagnostics.errorIf (!r.ids.isEmpty && r.hasShared)
      (group ++ " can't set both: reservation_ids and reservation_ids_default")
      (named ++ " sets both, instead add an entry in reservation_ids for each node") ++
    r.ids.values.flatMap (fun value =>
      Diagnostics.errorIf (value = nextAvailable)
        (group ++ " reservation_ids entries can't use \"" ++ nextAvailable ++ "\"")
        (named ++ " uses it, use specific UUIDs or reservation_ids_default only")) ++
    r.ids.keys.flatMap fun key =>
      Diagnostics.errorIf (!isKey role key) "Invalid reservation ID"
        (named ++ " used " ++ Text.shown key ++ ", format should be \"" ++ role.keyStart ++
          "<int>\"")

end Reservations

/-- A group of nodes: what resolves once its nodes exist, and whether machines are reserved for it
one by one. -/
structure NodeGroup where
  target : String
  isReserved : Bool
  deriving DecidableEq, Repr

namespace NodeGroup

/-- The targets of the groups with reserved machines. -/
def reservedTargets (groups : List NodeGroup) : List String :=
  (groups.filter (·.isReserved)).map (·.target)

/-- What each group waits for, in the order of the groups. -/
def waitLists (groups : List NodeGroup) : List (List String) :=
  groups.map fun g => if g.isReserved then [] else reservedTargets groups

end NodeGroup

/-- The findings about worker pools with names that other pools had before; `seen` lists these. -/
def checkPoolNames : List String → List String → Diagnostics
  | _, [] => []
  | seen, name :: rest =>
    .errorIf (seen.contains name) "Worker pools name should be unique"
      ("Worker pool " ++ Text.shown name ++ " is duplicated") ++
      checkPoolNames (name :: seen) rest

end Clusterwright
