import Clusterwright.Rehearsal.Machine

/-! # Machines — what tools and files do to a machine for rehearsals

    The answers of a machine in the form that laws about them start from: a tool that is there is
    called by the rules (`run_eq`, `called`), and a file is written in the tree or not at all
    (`answer_write`). -/

namespace Clusterwright.Rehearsal.Machine

open Tool

/-- What a tool does to a machine, and what it answers. -/
def called (streamed : Bool) (c : Command) (m : Machine) : Except Mishap Outcome × Machine :=
  let m' := { m with
    rules := (Rule.respond c m.rules).2, calls := m.calls ++ [{ streamed, command := c }] }
  match (Rule.respond c m.rules).1 with
  | .notStarted message => (.error (.of message), m')
  | .finished outcome =>
    (.ok outcome,
      if streamed && m.showsTools then
        { m' with printed := m'.printed ++ [⟨false, Utf8.decodeLossy outcome.stdout⟩] ++
          [⟨true, Utf8.decodeLossy outcome.stderr⟩] }
      else m')

/-- A tool that is not there is not run. -/
theorem run_eq (streamed : Bool) (c : Command) (m : Machine) :
    run streamed c m =
      if (m.tools.map fun tools => tools.contains c.program).getD true then called streamed c m
      else (.error (noTool c.program), m) := by
  unfold called
  show StateT.run (run streamed c) m = _
  simp only [run, StateT.run_bind, StateT.run_get, pure_bind]
  split
  · rw [StateT.run_bind]
    show (match (Rule.respond c m.rules).1 with
      | .notStarted message => _
      | .finished outcome => _ : StateM Machine _).run _ = _
    cases (Rule.respond c m.rules).1 with
    | notStarted message => rfl
    | finished outcome =>
        cases streamed && m.showsTools with
        | true => rfl
        | false => rfl
  · rfl

theorem answer_write (path : FilePath) (content : String) (m : Machine) :
    answer (.write path content) m =
      match m.files.write path (Utf8.encode content) with
      | .ok files => (.ok (), { m with files })
      | .error fault => (.error fault, m) := rfl

end Clusterwright.Rehearsal.Machine
