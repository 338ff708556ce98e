import Clusterwright.Proofs.Conversation

/-! # Indistinct worlds — what no question tells apart

    Carried out in a world, a script comes to a result, leaves the world changed, and has said
    something on the way.  Two worlds are indistinct if all questions, one after the other, are
    answered alike in them.  Nothing that a script does can then depend on which of them it is:

    * `carryOut_bind`: scripts in turn are carried out in turn;
    * `Indistinct.of_alike`, `Indistinct.step`: worlds are indistinct exactly if they are answered
      alike and stay so;
    * `Indistinct.same`: a script comes to the same in indistinct worlds, and says the same;
    * `SameButFor`: two scripts come to the same, but that something is said in between by the
      first, with `SameButFor.after` and `SameButFor.bind` to put scripts together. -/

namespace Clusterwright.Script

variable {Q : Type} {A : Q → Type} {α β σ : Type}

/-! ## Carrying out -/

/-- What came of a script: its result, the world afterwards, and what was said. -/
structure Carried (Q : Type) (A : Q → Type) (σ α : Type) where
  result : α
  world : σ
  said : List (Exchange Q A)

namespace Carried

/-- What came of a script before which something had been said. -/
def since (said : List (Exchange Q A)) (x : Carried Q A σ α) : Carried Q A σ α :=
  { x with said := said ++ x.said }

@[simp] theorem since_result (said : List (Exchange Q A)) (x : Carried Q A σ α) :
    (x.since said).result = x.result := rfl

@[simp] theorem since_world (said : List (Exchange Q A)) (x : Carried Q A σ α) :
    (x.since said).world = x.world := rfl

@[simp] theorem since_said (said : List (Exchange Q A)) (x : Carried Q A σ α) :
    (x.since said).said = said ++ x.said := rfl

theorem since_since (first rest : List (Exchange Q A)) (x : Carried Q A σ α) :
    (x.since rest).since first = x.since (first ++ rest) := by
  simp only [since, List.append_assoc]

end Carried

variable {answer : (q : Q) → StateM σ (A q)} {w w' : σ}

/-- Carries a script out with a record that has been begun. -/
def carryOn (answer : (q : Q) → StateM σ (A q)) (s : Script Q A α) (w : σ)
    (before : List (Exchange Q A)) : Carried Q A σ α :=
  let r := (s.runIn (recorded answer)).run (w, before)
  ⟨r.1, r.2.1, r.2.2⟩

/-- Carries a script out and keeps a record. -/
def carryOut (answer : (q : Q) → StateM σ (A q)) (s : Script Q A α) (w : σ) : Carried Q A σ α :=
  carryOn answer s w []

@[simp] theorem carryOut_done (answer : (q : Q) → StateM σ (A q)) (a : α) (w : σ) :
    carryOut answer (.done a) w = ⟨a, w, []⟩ := rfl

/-- What has been said before stands in front of the record and changes nothing. -/
theorem carryOn_eq (answer : (q : Q) → StateM σ (A q)) (s : Script Q A α) (w : σ)
    (before : List (Exchange Q A)) :
    carryOn answer s w before = (carryOut answer s w).since before := by
  induction s generalizing w before with
  | done a =>
      show Carried.mk a w before = Carried.mk a w (before ++ [])
      rw [List.append_nil]
  | ask q next ih =>
      have hstep (before : List (Exchange Q A)) : carryOn answer (ask q next) w before =
          carryOn answer (next (answer q w).1) (answer q w).2
            (before ++ [⟨q, (answer q w).1⟩]) := rfl
      rw [carryOut, hstep, hstep, ih, ih, Carried.since_since, List.nil_append]

theorem carryOut_ask (answer : (q : Q) → StateM σ (A q)) (q : Q)
    (next : A q → Script Q A α) (w : σ) :
    carryOut answer (.ask q next) w =
      (carryOut answer (next (answer q w).1) (answer q w).2).since [⟨q, (answer q w).1⟩] :=
  carryOn_eq answer (next (answer q w).1) (answer q w).2 [⟨q, (answer q w).1⟩]

/-- Two scripts in turn: the second goes on in the world that the first has left. -/
theorem carryOut_bind (answer : (q : Q) → StateM σ (A q)) (s : Script Q A α)
    (f : α → Script Q A β) (w : σ) :
    carryOut answer (s >>= f) w =
      (carryOut answer (f (carryOut answer s w).result) (carryOut answer s w).world).since
        (carryOut answer s w).said := by
  induction s generalizing w with
  | done a => rfl
  | ask q next ih =>
      rw [ask_bind, carryOut_ask, carryOut_ask, ih, Carried.since_since]
      rfl

/-! ## Indistinct worlds -/

/-- The answers to questions that are put one after the other. -/
def answersTo (answer : (q : Q) → StateM σ (A q)) : List Q → σ → List (Exchange Q A)
  | [], _ => []
  | q :: rest, w => ⟨q, (answer q w).1⟩ :: answersTo answer rest (answer q w).2

/-- Whatever is asked from now on is answered alike in two worlds. -/
def Indistinct (answer : (q : Q) → StateM σ (A q)) (w w' : σ) : Prop :=
  ∀ questions, answersTo answer questions w = answersTo answer questions w'

namespace Indistinct

theorem refl (w : σ) : Indistinct answer w w := fun _ => rfl

theorem trans {w'' : σ} (h : Indistinct answer w w') (h' : Indistinct answer w' w'') :
    Indistinct answer w w'' := fun questions => (h questions).trans (h' questions)

/-- Worlds are indistinct if they are in a relation in which everything is answered alike, and
    which every answer keeps. -/
theorem of_alike {W : σ → σ → Prop}
    (hW : ∀ q w w', W w w' → (answer q w).1 = (answer q w').1 ∧ W (answer q w).2 (answer q w').2)
    (h : W w w') : Indistinct answer w w' := by
  intro questions
  induction questions generalizing w w' with
  | nil => rfl
  | cons q rest ih =>
      obtain ⟨hanswer, hafter⟩ := hW q w w' h
      rw [answersTo, answersTo, hanswer, ih hafter]

/-- A question is answered alike, and leaves the worlds indistinct. -/
theorem step (h : Indistinct answer w w') (q : Q) :
    (answer q w).1 = (answer q w').1 ∧ Indistinct answer (answer q w).2 (answer q w').2 := by
  constructor
  · have hone := (List.cons.inj (h [q])).1
    injection hone
  · intro questions
    exact (List.cons.inj (h (q :: questions))).2

/-- A script comes to the same in indistinct worlds, and says the same on the way. -/
theorem same (h : Indistinct answer w w') (s : Script Q A α) :
    (carryOut answer s w).result = (carryOut answer s w').result ∧
      (carryOut answer s w).said = (carryOut answer s w').said ∧
      Indistinct answer (carryOut answer s w).world (carryOut answer s w').world := by
  induction s generalizing w w' with
  | done a => exact ⟨rfl, rfl, h⟩
  | ask q next ih =>
      obtain ⟨hanswer, hafter⟩ := h.step q
      obtain ⟨hresult, hsaid, hworld⟩ := ih (answer q w).1 hafter
      rw [carryOut_ask, carryOut_ask, ← hanswer]
      exact ⟨hresult, congrArg (_ ++ ·) hsaid, hworld⟩

end Indistinct

/-! ## Scripts that differ in one place -/

/-- Two scripts come to the same result and to indistinct worlds, and the first has said the same as
    the second but for something in between. -/
structure SameButFor (answer : (q : Q) → StateM σ (A q)) (between : List (Exchange Q A))
    (x x' : Carried Q A σ α) : Prop where
  result : x.result = x'.result
  world : Indistinct answer x.world x'.world
  said : ∃ before after, x.said = before ++ between ++ after ∧ x'.said = before ++ after

namespace SameButFor

variable {between : List (Exchange Q A)} {s s' : Script Q A α} {f f' : α → Script Q A β}

theorem refl (x : Carried Q A σ α) : SameButFor answer [] x x :=
  ⟨rfl, .refl _, x.said, [], by simp, by simp⟩

/-- Scripts that begin alike and differ afterwards. -/
theorem after (h : SameButFor answer between
      (carryOut answer (f (carryOut answer s w).result) (carryOut answer s w).world)
      (carryOut answer (f' (carryOut answer s w).result) (carryOut answer s w).world)) :
    SameButFor answer between (carryOut answer (s >>= f) w) (carryOut answer (s >>= f') w) := by
  obtain ⟨before, after, hsaid, hsaid'⟩ := h.said
  rw [carryOut_bind, carryOut_bind]
  refine ⟨h.result, h.world, (carryOut answer s w).said ++ before, after, ?_, ?_⟩
  · rw [Carried.since_said, hsaid]
    simp only [List.append_assoc]
  · rw [Carried.since_said, hsaid', List.append_assoc]

/-- Scripts that differ at first and go on alike. -/
theorem bind (h : SameButFor answer between (carryOut answer s w) (carryOut answer s' w'))
    (f : α → Script Q A β) :
    SameButFor answer between (carryOut answer (s >>= f) w) (carryOut answer (s' >>= f) w') := by
  obtain ⟨before, after, hsaid, hsaid'⟩ := h.said
  obtain ⟨hresult, hrest, hworld⟩ := h.world.same (f (carryOut answer s w).result)
  rw [carryOut_bind, carryOut_bind, ← h.result]
  let rest := carryOut answer (f (carryOut answer s w).result) (carryOut answer s w).world
  refine ⟨hresult, hworld, before, after ++ rest.said, ?_, ?_⟩
  · rw [Carried.since_said, hsaid, List.append_assoc]
  · rw [Carried.since_said, hsaid', List.append_assoc, ← hrest]

/-- A script that is left out, because it comes to a known result in a world that is the same. -/
theorem skip {a : α} (hresult : (carryOut answer s w).result = a)
    (hworld : Indistinct answer (carryOut answer s w).world w) (f : α → Script Q A β) :
    SameButFor answer (carryOut answer s w).said (carryOut answer (s >>= f) w)
      (carryOut answer (f a) w) := by
  have hstart : SameButFor answer (carryOut answer s w).said (carryOut answer s w)
      (carryOut answer (.done a) w) := ⟨hresult, hworld, [], [], by simp, by simp⟩
  exact hstart.bind f

end SameButFor

end Clusterwright.Script
