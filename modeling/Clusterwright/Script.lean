/-!
# Scripts: programs that put questions

What a command does to its surroundings depends on what they answer. A script is such a command
before it is carried out: it has either come to its result, or it puts a question and goes on in a
way that depends on the answer. Each question `q` has its own kind of answers, `A q`. A script is
carried out with a way to answer (`Script.runIn`); what it may do at all, whatever the answers are,
is described by its runs (`Script.Run`), each with the conversation that led to the result.
-/

namespace Clusterwright

/-- A program that puts questions. -/
inductive Script (Q : Type) (A : Q → Type) (α : Type) where
  | done (value : α)
  | ask (question : Q) (next : A question → Script Q A α)

namespace Script

variable {Q : Type} {A : Q → Type} {α β : Type}

/-- Goes on with the result of a script. -/
def bind (s : Script Q A α) (f : α → Script Q A β) : Script Q A β :=
  match s with
  | .done a => f a
  | .ask q next => .ask q fun answer => (next answer).bind f

instance : Monad (Script Q A) where
  pure := .done
  bind := .bind

/-- Puts one question. -/
def put (q : Q) : Script Q A (A q) := .ask q .done

@[simp] theorem done_bind (a : α) (f : α → Script Q A β) :
    (done a : Script Q A α) >>= f = f a := rfl

@[simp] theorem ask_bind (q : Q) (next : A q → Script Q A α) (f : α → Script Q A β) :
    ask q next >>= f = ask q fun answer => next answer >>= f := rfl

theorem bind_done (s : Script Q A α) : s.bind .done = s := by
  induction s with
  | done a => rfl
  | ask q next ih => exact congrArg (Script.ask q) (funext ih)

theorem bind_bind {γ : Type} (s : Script Q A α) (f : α → Script Q A β) (g : β → Script Q A γ) :
    (s.bind f).bind g = s.bind fun a => (f a).bind g := by
  induction s with
  | done a => rfl
  | ask q next ih => exact congrArg (Script.ask q) (funext ih)

instance : LawfulMonad (Script Q A) :=
  LawfulMonad.mk' (Script Q A) bind_done (fun _ _ => rfl) bind_bind

/-- Carries a script out with a way to answer its questions. -/
def runIn {m : Type → Type} [Monad m] (answer : (q : Q) → m (A q)) : Script Q A α → m α
  | .done a => pure a
  | .ask q next => answer q >>= fun a => (next a).runIn answer

/-! ## Runs -/

/-- A question with the answer that it got. -/
structure Exchange (Q : Type) (A : Q → Type) where
  question : Q
  answer : A question

/-- The script comes to the result after the conversation. -/
inductive Run : Script Q A α → List (Exchange Q A) → α → Prop where
  | done (a : α) : Run (.done a) [] a
  | ask (q : Q) (answer : A q) {next : A q → Script Q A α} {said : List (Exchange Q A)} {a : α} :
      Run (next answer) said a → Run (.ask q next) (⟨q, answer⟩ :: said) a

theorem Run.bind {s : Script Q A α} {f : α → Script Q A β} {first rest : List (Exchange Q A)}
    {a : α} {b : β} (h : Run s first a) (k : Run (f a) rest b) :
    Run (s >>= f) (first ++ rest) b := by
  induction h with
  | done a => exact k
  | ask q answer _ ih => exact .ask q answer (ih k)

/-- A run of two scripts in turn is a run of the first and one of the second. -/
theorem run_bind_iff {s : Script Q A α} {f : α → Script Q A β} {said : List (Exchange Q A)}
    {b : β} :
    Run (s >>= f) said b ↔
      ∃ first a rest, Run s first a ∧ Run (f a) rest b ∧ said = first ++ rest := by
  constructor
  · intro h
    induction s generalizing said with
    | done a => exact ⟨[], a, said, .done a, h, rfl⟩
    | ask q next ih =>
      cases h with
      | ask _ answer k =>
        obtain ⟨first, a, rest, hs, hf, rfl⟩ := ih answer k
        exact ⟨⟨q, answer⟩ :: first, a, rest, .ask q answer hs, hf, rfl⟩
  · rintro ⟨first, a, rest, hs, hf, rfl⟩
    exact hs.bind hf

end Script

end Clusterwright
