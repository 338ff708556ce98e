/-!
# Paths and the environment

Paths are texts, joined as they stand and never normalised. A path may begin with a tilde for the
home directory. What a command takes from its environment, besides its arguments, is collected in
`Environment`.
-/

namespace Clusterwright

/-- What a command finds in its environment. -/
structure Environment where
  home : Option String := none
  authToken : Option String := none
  configPath : Option String := none
  kubeconfig : Option String := none
  deriving DecidableEq, Repr

/-- A path, as it is written. -/
abbrev FilePath := String

namespace FilePath

/-- Goes on from a path. A path from the root stands for itself, and a separator is added unless
there is one. -/
def join (base rest : FilePath) : FilePath :=
  if rest.toList.head? = some '/' then rest
  else if base.isEmpty ∨ base.toList.getLast? = some '/' then base ++ rest
  else base ++ "/" ++ rest

/-- What follows a leading tilde, if it stands alone or before a separator. -/
def afterTilde? (path : FilePath) : Option String :=
  match path.toList with
  | ['~'] => some ""
  | '~' :: '/' :: rest => some (String.ofList rest)
  | _ => none

/-- Expands a leading tilde to the home directory, if there is one. -/
def expandHome (env : Environment) (path : FilePath) : FilePath :=
  match afterTilde? path, env.home with
  | some rest, some home => join home rest
  | _, _ => path

end FilePath

end Clusterwright
