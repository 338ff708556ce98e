import Clusterwright.Script

/-! # Conversations — what can be said in the course of a script

    A run is one conversation out of all that a script can have.  This file holds what
    does not depend on what the questions are about:

    * `run_of_record`: whoever answers, and whatever the answers depend on, the record of
      what was said is a run, so a law of all runs is a law of every way to carry out a script;
    * `Reaches`: how far a conversation has gone when a question comes up, with
      `reaches_bind_iff` to take scripts apart;
    * `Confined`: scripts that keep to one kind of questions;
    * the same laws for scripts that may fail, which go on after a success only
      (`run_except_bind_iff`, `reaches_except_bind_iff`), and for those with a state besides
      (`run_stateful_bind_iff`, `run_lift_iff`);
    * `Answered`: a conversation whose answers are found by scripts of their own, and
      `run_runIn_iff`: a script that is carried out like that says what it says by itself. -/

namespace Clusterwright.Script

variable {Q : Type} {A : Q → Type} {α β ε : Type}

/-! ## Runs -/

theorem run_done_iff {a b : α} {said : List (Exchange Q A)} :
    Run (.done a) said b ↔ said = [] ∧ b = a := by
  constructor
  · intro h
    cases h
    exact ⟨rfl, rfl⟩
  · rintro ⟨rfl, rfl⟩
    exact .done b

theorem run_pure_iff {a b : α} {said : List (Exchange Q A)} :
    Run (pure a : Script Q A α) said b ↔ said = [] ∧ b = a := run_done_iff

/-- A question by itself: what is said is the question and its answer. -/
theorem run_put_iff {q : Q} {a : A q} {said : List (Exchange Q A)} :
    Run (put q : Script Q A (A q)) said a ↔ said = [⟨q, a⟩] := by
  constructor
  · intro h
    cases h with
    | ask _ _ h =>
        obtain ⟨rfl, rfl⟩ := run_done_iff.mp h
        rfl
  · rintro rfl
    exact .ask q a (.done a)

theorem run_map_iff {s : Script Q A α} {g : α → β} {said : List (Exchange Q A)} {b : β} :
    Run (g <$> s) said b ↔ ∃ a, Run s said a ∧ b = g a := by
  rw [map_eq_pure_bind, run_bind_iff]
  constructor
  · rintro ⟨first, a, rest, h, hrest, rfl⟩
    obtain ⟨rfl, rfl⟩ := run_pure_iff.mp hrest
    exact ⟨a, by simpa using h, rfl⟩
  · rintro ⟨a, h, rfl⟩
    exact ⟨said, a, [], h, run_pure_iff.mpr ⟨rfl, rfl⟩, (List.append_nil said).symm⟩

/-- A question whose answer is made into something else. -/
theorem run_map_put_iff {q : Q} {g : A q → β} {said : List (Exchange Q A)} {b : β} :
    Run (g <$> (put q : Script Q A (A q))) said b ↔ ∃ a, said = [⟨q, a⟩] ∧ b = g a := by
  simp only [run_map_iff, run_put_iff]

/-! ## Records -/

/-- Answers a question and writes down what was said. -/
def recorded {σ : Type} (answer : (q : Q) → StateM σ (A q)) (q : Q) :
    StateM (σ × List (Exchange Q A)) (A q) := fun world =>
  let (a, w) := answer q world.1
  (a, w, world.2 ++ [⟨q, a⟩])

/-- Whoever answers, the record goes on with a run, and nothing else is changed by keeping it. -/
theorem run_of_record {σ : Type} (answer : (q : Q) → StateM σ (A q)) (s : Script Q A α)
    (w : σ) (before : List (Exchange Q A)) :
    ∃ said a w', Run s said a ∧ (s.runIn answer).run w = (a, w') ∧
      (s.runIn (recorded answer)).run (w, before) = (a, w', before ++ said) := by
  -- the record grows with every answer, so that it has to vary in the induction
  induction s generalizing w before with
  | done a => exact ⟨[], a, w, .done a, rfl, by rw [List.append_nil]; rfl⟩
  | ask q next ih =>
      obtain ⟨said, a, w', hrun, hplain, hrec⟩ :=
        ih (answer q w).1 (answer q w).2 (before ++ [⟨q, (answer q w).1⟩])
      refine ⟨⟨q, (answer q w).1⟩ :: said, a, w', .ask q _ hrun, hplain, ?_⟩
      rw [List.append_cons]
      exact hrec

/-- The record of a script that is carried out from the start is one of its runs. -/
theorem run_recorded {σ : Type} (answer : (q : Q) → StateM σ (A q)) (s : Script Q A α) (w : σ) :
    Run s ((s.runIn (recorded answer)).run (w, [])).2.2
      ((s.runIn (recorded answer)).run (w, [])).1 := by
  obtain ⟨said, a, w', hrun, -, hrecord⟩ := run_of_record answer s w []
  rw [hrecord]
  exact hrun

/-! ## Questions on the way -/

/-- The script comes to put the question when the conversation has gone so far. -/
inductive Reaches : Script Q A α → List (Exchange Q A) → Q → Prop where
  | here (q : Q) (next : A q → Script Q A α) : Reaches (.ask q next) [] q
  | later (q : Q) (answer : A q) {next : A q → Script Q A α} {before : List (Exchange Q A)}
      {q' : Q} : Reaches (next answer) before q' → Reaches (.ask q next) (⟨q, answer⟩ :: before) q'

/-- Every question in a run came up when the run had gone so far. -/
theorem Run.reaches {s : Script Q A α} {said : List (Exchange Q A)} {a : α} (h : Run s said a) :
    ∀ {before : List (Exchange Q A)} {x : Exchange Q A} {after : List (Exchange Q A)},
      said = before ++ x :: after → Reaches s before x.question := by
  induction h with
  | done a =>
      intro before x after hs
      exact absurd hs.symm (by simp)
  | ask q answer _ ih =>
      intro before x after hs
      -- the cut is before the first exchange, or after it
      cases before with
      | nil =>
          obtain ⟨rfl, -⟩ := List.cons.inj hs
          exact .here _ _
      | cons y before =>
          obtain ⟨rfl, hsaid⟩ := List.cons.inj hs
          exact .later _ _ (ih hsaid)

theorem not_reaches_done {a : α} {before : List (Exchange Q A)} {q : Q} :
    ¬ Reaches (.done a) before q := by
  intro h
  cases h

theorem reaches_put_iff {q q' : Q} {before : List (Exchange Q A)} :
    Reaches (put q : Script Q A (A q)) before q' ↔ before = [] ∧ q' = q := by
  constructor
  · intro h
    cases h with
    | here => exact ⟨rfl, rfl⟩
    | later _ _ h => exact absurd h not_reaches_done
  · rintro ⟨rfl, rfl⟩
    exact .here _ _

/-- A question of two scripts in turn is one of the first, or one of the second after a run of
    the first. -/
theorem reaches_bind_iff {s : Script Q A α} {f : α → Script Q A β}
    {before : List (Exchange Q A)} {q : Q} :
    Reaches (s >>= f) before q ↔
      Reaches s before q ∨
        ∃ first a rest, Run s first a ∧ Reaches (f a) rest q ∧ before = first ++ rest := by
  induction s generalizing before with
  | done a =>
      constructor
      · intro h
        exact Or.inr ⟨[], a, before, .done a, h, rfl⟩
      · rintro (h | ⟨first, a', rest, hrun, h, rfl⟩)
        · exact absurd h not_reaches_done
        · obtain ⟨rfl, rfl⟩ := run_done_iff.mp hrun
          exact h
  | ask q₀ next ih =>
      constructor
      · intro h
        -- the first question belongs to the first script, which goes on after its answer
        cases h with
        | here => exact Or.inl (.here _ _)
        | later _ answer h =>
            rcases (ih answer).mp h with hs | ⟨first, a, rest, hrun, hf, rfl⟩
            · exact Or.inl (.later _ _ hs)
            · exact Or.inr ⟨_, a, rest, .ask q₀ answer hrun, hf, rfl⟩
      · rintro (h | ⟨first, a, rest, hrun, h, rfl⟩)
        · cases h with
          | here => exact .here _ _
          | later _ answer h => exact .later _ answer ((ih answer).mpr (Or.inl h))
        · cases hrun with
          | ask _ answer hrun =>
              have hnext := (ih answer).mpr (Or.inr ⟨_, a, rest, hrun, h, rfl⟩)
              exact .later _ answer hnext

theorem reaches_map_iff {s : Script Q A α} {g : α → β} {before : List (Exchange Q A)} {q : Q} :
    Reaches (g <$> s) before q ↔ Reaches s before q := by
  rw [map_eq_pure_bind, reaches_bind_iff]
  constructor
  · rintro (h | ⟨first, a, rest, -, h, -⟩)
    · exact h
    · exact absurd h not_reaches_done
  · exact Or.inl

/-- Whatever the answers are, all questions of the script are of one kind. -/
def Confined (kind : Q → Prop) (s : Script Q A α) : Prop :=
  ∀ before q, Reaches s before q → kind q

/-- All that is said in a run of a confined script is of its kind. -/
theorem Confined.mem {kind : Q → Prop} {s : Script Q A α} (h : Confined kind s)
    {said : List (Exchange Q A)} {a : α} (hrun : Run s said a) :
    ∀ x ∈ said, kind x.question := by
  intro x hx
  obtain ⟨before, after, hs⟩ := List.append_of_mem hx
  exact h before x.question (hrun.reaches hs)

theorem confined_pure (kind : Q → Prop) (a : α) : Confined kind (pure a : Script Q A α) :=
  fun _ _ h => absurd h not_reaches_done

theorem confined_put {kind : Q → Prop} {q : Q} (h : kind q) :
    Confined kind (put q : Script Q A (A q)) := by
  intro before q' hq
  obtain ⟨-, rfl⟩ := reaches_put_iff.mp hq
  exact h

theorem Confined.map {kind : Q → Prop} {s : Script Q A α} (h : Confined kind s) (g : α → β) :
    Confined kind (g <$> s) :=
  fun before q hq => h before q (reaches_map_iff.mp hq)

theorem Confined.bind {kind : Q → Prop} {s : Script Q A α} {f : α → Script Q A β}
    (hs : Confined kind s) (hf : ∀ a, Confined kind (f a)) : Confined kind (s >>= f) := by
  intro before q h
  rcases reaches_bind_iff.mp h with h | ⟨first, a, rest, -, h, -⟩
  · exact hs before q h
  · exact hf a rest q h

/-! ## Scripts that may fail -/

/-- After a failure nothing more is said; after a success the second script goes on. -/
theorem run_except_bind_iff {x : ExceptT ε (Script Q A) α} {f : α → ExceptT ε (Script Q A) β}
    {said : List (Exchange Q A)} {r : Except ε β} :
    Run (x >>= f).run said r ↔
      (∃ e, Run x.run said (.error e) ∧ r = .error e) ∨
        ∃ first a rest, Run x.run first (.ok a) ∧ Run (f a).run rest r ∧ said = first ++ rest := by
  rw [ExceptT.run_bind, run_bind_iff]
  constructor
  · rintro ⟨first, a | a, rest, hx, hrest, rfl⟩
    · obtain ⟨rfl, rfl⟩ := run_pure_iff.mp hrest
      exact Or.inl ⟨a, by simpa using hx, rfl⟩
    · exact Or.inr ⟨first, a, rest, hx, hrest, rfl⟩
  · rintro (⟨e, hx, rfl⟩ | ⟨first, a, rest, hx, hrest, rfl⟩)
    · exact ⟨said, .error e, [], hx, run_pure_iff.mpr ⟨rfl, rfl⟩, (List.append_nil said).symm⟩
    · exact ⟨first, .ok a, rest, hx, hrest, rfl⟩

theorem run_except_bind {x : ExceptT ε (Script Q A) α} {f : α → ExceptT ε (Script Q A) β}
    {first rest : List (Exchange Q A)} {a : α} {r : Except ε β} (hx : Run x.run first (.ok a))
    (hf : Run (f a).run rest r) : Run (x >>= f).run (first ++ rest) r :=
  run_except_bind_iff.mpr (Or.inr ⟨first, a, rest, hx, hf, rfl⟩)

/-- Two scripts that went well in turn have both gone well. -/
theorem run_except_bind_ok {x : ExceptT ε (Script Q A) α} {f : α → ExceptT ε (Script Q A) β}
    {said : List (Exchange Q A)} {b : β} (h : Run (x >>= f).run said (.ok b)) :
    ∃ first a rest, Run x.run first (.ok a) ∧ Run (f a).run rest (.ok b) ∧
      said = first ++ rest := by
  rcases run_except_bind_iff.mp h with ⟨e, -, hr⟩ | hgood
  · exact nomatch hr
  · exact hgood

theorem reaches_except_bind_iff {x : ExceptT ε (Script Q A) α}
    {f : α → ExceptT ε (Script Q A) β} {before : List (Exchange Q A)} {q : Q} :
    Reaches (x >>= f).run before q ↔
      Reaches x.run before q ∨
        ∃ first a rest, Run x.run first (.ok a) ∧ Reaches (f a).run rest q ∧
          before = first ++ rest := by
  rw [ExceptT.run_bind, reaches_bind_iff]
  constructor
  · rintro (h | ⟨first, a | a, rest, hx, h, rfl⟩)
    · exact Or.inl h
    · exact absurd h not_reaches_done
    · exact Or.inr ⟨first, a, rest, hx, h, rfl⟩
  · rintro (h | ⟨first, a, rest, hx, h, rfl⟩)
    · exact Or.inl h
    · exact Or.inr ⟨first, .ok a, rest, hx, h, rfl⟩

theorem Confined.except_bind {kind : Q → Prop} {x : ExceptT ε (Script Q A) α}
    {f : α → ExceptT ε (Script Q A) β} (hx : Confined kind x.run)
    (hf : ∀ a, Confined kind (f a).run) : Confined kind (x >>= f).run := by
  intro before q h
  rcases reaches_except_bind_iff.mp h with h | ⟨first, a, rest, -, h, -⟩
  · exact hx before q h
  · exact hf a rest q h

/-- If every item comes to one result only, so does a list that is gone through. -/
theorem run_mapM_ok {f : α → ExceptT ε (Script Q A) β} {g : α → β}
    (hf : ∀ a said b, Run (f a).run said (.ok b) → b = g a) {xs : List α}
    {said : List (Exchange Q A)} {bs : List β} (h : Run (xs.mapM f).run said (.ok bs)) :
    bs = xs.map g := by
  induction xs generalizing said bs with
  | nil =>
      obtain ⟨-, hbs⟩ := run_pure_iff.mp h
      exact Except.ok.inj hbs
  | cons x xs ih =>
      rw [List.mapM_cons] at h
      obtain ⟨first, b, _, hx, h₁, rfl⟩ := run_except_bind_ok h
      obtain ⟨middle, more, rest, hxs, h₂, rfl⟩ := run_except_bind_ok h₁
      obtain ⟨-, hbs⟩ := run_pure_iff.mp h₂
      obtain rfl := Except.ok.inj hbs
      rw [hf x first b hx, ih hxs, List.map_cons]

/-! ## Scripts with a state that may fail -/

/-- After a failure the state is as it was left; after a success the second script goes on with
    it. -/
theorem run_stateful_bind_iff {σ : Type} {x : ExceptT ε (StateT σ (Script Q A)) α}
    {f : α → ExceptT ε (StateT σ (Script Q A)) β} {before after : σ}
    {said : List (Exchange Q A)} {r : Except ε β} :
    Run ((x >>= f).run.run before) said (r, after) ↔
      (∃ e, Run (x.run.run before) said (.error e, after) ∧ r = .error e) ∨
        ∃ first a between rest, Run (x.run.run before) first (.ok a, between) ∧
          Run ((f a).run.run between) rest (r, after) ∧ said = first ++ rest := by
  rw [ExceptT.run_bind, StateT.run_bind, run_bind_iff]
  constructor
  · rintro ⟨first, ⟨a | a, between⟩, rest, hx, hrest, rfl⟩
    · obtain ⟨rfl, hr⟩ := run_pure_iff.mp hrest
      obtain ⟨rfl, rfl⟩ := Prod.mk.inj hr
      exact Or.inl ⟨a, by simpa using hx, rfl⟩
    · exact Or.inr ⟨first, a, between, rest, hx, hrest, rfl⟩
  · rintro (⟨e, hx, rfl⟩ | ⟨first, a, between, rest, hx, hrest, rfl⟩)
    · exact ⟨said, (.error e, after), [], hx, run_pure_iff.mpr ⟨rfl, rfl⟩,
        (List.append_nil said).symm⟩
    · exact ⟨first, (.ok a, between), rest, hx, hrest, rfl⟩

/-- A script within one with a state leaves the state alone. -/
theorem run_lift_iff {σ : Type} {x : Script Q A α} {before after : σ}
    {said : List (Exchange Q A)} {a : α} :
    Run ((StateT.lift x : StateT σ (Script Q A) α).run before) said (a, after) ↔
      Run x said a ∧ after = before := by
  show Run (x >>= fun a => pure (a, before)) said (a, after) ↔ _
  rw [bind_pure_comp, run_map_iff]
  constructor
  · rintro ⟨_, hx, hpair⟩
    obtain ⟨rfl, rfl⟩ := Prod.mk.inj hpair
    exact ⟨hx, rfl⟩
  · rintro ⟨hx, rfl⟩
    exact ⟨a, hx, rfl⟩

/-! ## Scripts that answer scripts -/

section

variable {Q' : Type} {A' : Q' → Type} {σ : Type}
  {answer : (q : Q) → StateT σ (Script Q' A') (A q)}

/-- A conversation whose answers were found one after the other, each in a conversation of its
    own, with a state that is handed on. -/
inductive Answered (answer : (q : Q) → StateT σ (Script Q' A') (A q)) :
    σ → List (Exchange Q A) → List (Exchange Q' A') → σ → Prop where
  | done (state : σ) : Answered answer state [] [] state
  | ask {q : Q} {a : A q} {before between after : σ} {first rest : List (Exchange Q' A')}
      {said : List (Exchange Q A)} : Run ((answer q).run before) first (a, between) →
      Answered answer between said rest after →
      Answered answer before (⟨q, a⟩ :: said) (first ++ rest) after

/-- To carry a script out is to find the answers of one of its conversations. -/
theorem run_runIn_iff {s : Script Q A α} {before after : σ} {record : List (Exchange Q' A')}
    {a : α} : Run ((s.runIn answer).run before) record (a, after) ↔
      ∃ said, Run s said a ∧ Answered answer before said record after := by
  -- every answer hands a state on, so that it has to vary in the induction
  induction s generalizing before record with
  | done b =>
      constructor
      · intro h
        obtain ⟨rfl, hpair⟩ := run_pure_iff.mp h
        obtain ⟨rfl, rfl⟩ := Prod.mk.inj hpair
        exact ⟨[], .done a, .done after⟩
      · rintro ⟨said, hrun, hanswered⟩
        obtain ⟨rfl, rfl⟩ := run_done_iff.mp hrun
        cases hanswered
        exact run_pure_iff.mpr ⟨rfl, rfl⟩
  | ask q next ih =>
      show Run (((answer q).run before) >>= fun x => ((next x.1).runIn answer).run x.2) _ _ ↔ _
      rw [run_bind_iff]
      constructor
      · rintro ⟨first, ⟨b, between⟩, rest, hfirst, hrest, rfl⟩
        obtain ⟨said, hrun, hanswered⟩ := (ih b).mp hrest
        exact ⟨⟨q, b⟩ :: said, .ask q b hrun, .ask hfirst hanswered⟩
      · rintro ⟨said, hrun, hanswered⟩
        cases hrun with
        | ask _ b hrun =>
            cases hanswered with
            | ask hfirst hanswered =>
                exact ⟨_, (b, _), _, hfirst, (ih b).mpr ⟨_, hrun, hanswered⟩, rfl⟩

/-- What each answer keeps of the state and says on the way, the whole conversation does, if its
    questions are of a kind. -/
theorem Answered.keeps {kind : Q → Prop} {kept : σ → Prop} {good : Exchange Q' A' → Prop}
    (hanswer : ∀ q, kind q → ∀ before said a after, kept before →
      Run ((answer q).run before) said (a, after) → kept after ∧ ∀ x ∈ said, good x)
    {before after : σ} {said : List (Exchange Q A)} {record : List (Exchange Q' A')}
    (h : Answered answer before said record after) (hkind : ∀ x ∈ said, kind x.question)
    (hbefore : kept before) : kept after ∧ ∀ x ∈ record, good x := by
  induction h with
  | done state => exact ⟨hbefore, List.forall_mem_nil _⟩
  | ask hfirst _ ih =>
      obtain ⟨hq, hrest⟩ := List.forall_mem_cons.mp hkind
      obtain ⟨hbetween, hgood⟩ := hanswer _ hq _ _ _ _ hbefore hfirst
      obtain ⟨hafter, hlater⟩ := ih hrest hbetween
      exact ⟨hafter, List.forall_mem_append.mpr ⟨hgood, hlater⟩⟩

end

end Clusterwright.Script
