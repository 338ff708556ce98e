import Clusterwright.Proofs.Conversation

/-! # Parallel scripts — two programs that go in step

    What two programs have in common although they do not put the same questions can be said
    without running them: their questions are linked in pairs, and whenever two answers agree, both
    go on in step.  The second program may put some questions besides.

    * `Parallel`: two scripts in step, with what their results have to do with each other;
    * `Parallel.bind`, `Parallel.map`: scripts in step are put together;
    * `Confined.parallel`: a script is in step with itself if its questions are linked with
      themselves;
    * **`Parallel.layer`**: scripts whose questions are met by programs in step are in step
      themselves;
    * **`Parallel.meet`**: carried out in worlds that answer linked questions alike, they come to
      results that belong together;
    * `Parallel.meet_recorded`: what is said on the way goes in step as well (`Alongside`);
    * `Parallel.except_bind`, `Synchronous.bind`: the same for scripts that may fail, and that
      keep a state. -/

namespace Clusterwright.Script

variable {Q Q' : Type} {A : Q → Type} {A' : Q' → Type} {α β γ δ : Type}

/-- How the questions of two scripts are paired: which are linked, and which answers to them agree,
    and which questions the second script may put besides. -/
structure Pairing (Q : Type) (A : Q → Type) where
  link : (q q' : Q) → (A q → A q' → Prop) → Prop
  aside : Q → Prop

/-- Two scripts go in step and come to results in a relation. -/
inductive Parallel (p : Pairing Q A) (R : α → β → Prop) : Script Q A α → Script Q A β → Prop
  | done {a : α} {b : β} : R a b → Parallel p R (.done a) (.done b)
  | ask {q q' : Q} {agree : A q → A q' → Prop} {next : A q → Script Q A α}
      {next' : A q' → Script Q A β} : p.link q q' agree →
      (∀ a a', agree a a' → Parallel p R (next a) (next' a')) →
      Parallel p R (.ask q next) (.ask q' next')
  | aside {q' : Q} {s : Script Q A α} {next' : A q' → Script Q A β} : p.aside q' →
      (∀ a', Parallel p R s (next' a')) → Parallel p R s (.ask q' next')

variable {p : Pairing Q A} {R : α → β → Prop} {S : γ → δ → Prop} {s : Script Q A α}
  {s' : Script Q A β}

theorem parallel_put {q q' : Q} {agree : A q → A q' → Prop} (h : p.link q q' agree) :
    Parallel p agree (put q : Script Q A (A q)) (put q') :=
  .ask h fun _ _ hagree => .done hagree

theorem Parallel.bind (h : Parallel p R s s') {f : α → Script Q A γ} {f' : β → Script Q A δ}
    (hf : ∀ a b, R a b → Parallel p S (f a) (f' b)) : Parallel p S (s >>= f) (s' >>= f') := by
  induction h with
  | done hab => exact hf _ _ hab
  | ask hlink _ ih => exact .ask hlink ih
  | aside haside _ ih => exact .aside haside ih

theorem Parallel.map (h : Parallel p R s s') {g : α → γ} {g' : β → δ}
    (hg : ∀ a b, R a b → S (g a) (g' b)) : Parallel p S (g <$> s) (g' <$> s') := by
  rw [map_eq_pure_bind, map_eq_pure_bind]
  exact h.bind fun a b hab => .done (hg a b hab)

theorem Parallel.mono {R' : α → β → Prop} (h : Parallel p R s s') (hR : ∀ a b, R a b → R' a b) :
    Parallel p R' s s' := by
  induction h with
  | done hab => exact .done (hR _ _ hab)
  | ask hlink _ ih => exact .ask hlink ih
  | aside haside _ ih => exact .aside haside ih

/-- A script is in step with itself if its questions are linked with themselves. -/
theorem Confined.parallel {kind : Q → Prop} {s : Script Q A α} (h : Confined kind s)
    (hlink : ∀ q, kind q → p.link q q Eq) : Parallel p Eq s s := by
  induction s with
  | done a => exact .done rfl
  | ask q next ih =>
      refine .ask (hlink q (h [] q (.here q next))) ?_
      rintro a _ rfl
      exact ih a fun before q' hq' => h (⟨q, a⟩ :: before) q' (.later q a hq')

/-- **LAYERS**: questions are met by programs that keep a state.  If linked questions are met in
    step, from the same state to the same state, then so is everything that puts them. -/
theorem Parallel.layer {σ : Type} {p' : Pairing Q' A'}
    {meet meet' : (q : Q) → StateT σ (Script Q' A') (A q)}
    (hlink : ∀ q q' agree, p.link q q' agree → ∀ state,
      Parallel p' (fun r r' => agree r.1 r'.1 ∧ r.2 = r'.2)
        ((meet q).run state) ((meet' q').run state))
    (haside : ∀ q', ¬ p.aside q') (h : Parallel p R s s') (state : σ) :
    Parallel p' (fun r r' => R r.1 r'.1 ∧ r.2 = r'.2)
      ((s.runIn meet).run state) ((s'.runIn meet').run state) := by
  induction h generalizing state with
  | done hab => exact .done ⟨hab, rfl⟩
  | ask hq _ ih =>
      refine (hlink _ _ _ hq state).bind ?_
      rintro ⟨a, next⟩ ⟨a', _⟩ ⟨hagree, rfl⟩
      exact ih a a' hagree next
  | aside hq _ _ => exact absurd hq (haside _)

/-- **WORLDS**: if linked questions are answered alike and questions besides change nothing that
    matters, then results belong together, and so do the worlds afterwards. -/
theorem Parallel.meet {σ τ : Type} {answer : (q : Q) → StateM σ (A q)}
    {answer' : (q : Q) → StateM τ (A q)} {W : σ → τ → Prop}
    (hlink : ∀ q q' agree w w', p.link q q' agree → W w w' →
      agree (answer q w).1 (answer' q' w').1 ∧ W (answer q w).2 (answer' q' w').2)
    (haside : ∀ q' w w', p.aside q' → W w w' → W w (answer' q' w').2)
    (h : Parallel p R s s') {w : σ} {w' : τ} (hw : W w w') :
    R ((s.runIn answer).run w).1 ((s'.runIn answer').run w').1 ∧
      W ((s.runIn answer).run w).2 ((s'.runIn answer').run w').2 := by
  induction h generalizing w w' with
  | done hab => exact ⟨hab, hw⟩
  | ask hq _ ih =>
      obtain ⟨hagree, hnext⟩ := hlink _ _ _ w w' hq hw
      exact ih _ _ hagree hnext
  | aside hq _ ih => exact ih _ (haside _ w w' hq hw)

/-! ## Records -/

/-- Two exchanges belong together: their questions are linked, and their answers agree. -/
inductive Linked (p : Pairing Q A) : Exchange Q A → Exchange Q A → Prop
  | intro {q q' : Q} {agree : A q → A q' → Prop} {a : A q} {a' : A q'} : p.link q q' agree →
      agree a a' → Linked p ⟨q, a⟩ ⟨q', a'⟩

/-- Two conversations go in step, but for questions besides. -/
inductive Alongside (p : Pairing Q A) : List (Exchange Q A) → List (Exchange Q A) → Prop
  | nil : Alongside p [] []
  | linked {said said' : List (Exchange Q A)} {x x' : Exchange Q A} : Alongside p said said' →
      Linked p x x' → Alongside p (said ++ [x]) (said' ++ [x'])
  | aside {said said' : List (Exchange Q A)} {x' : Exchange Q A} : Alongside p said said' →
      p.aside x'.question → Alongside p said (said' ++ [x'])

/-- The records of scripts in step go in step. -/
theorem Parallel.meet_recorded {σ τ : Type} {answer : (q : Q) → StateM σ (A q)}
    {answer' : (q : Q) → StateM τ (A q)} {W : σ → τ → Prop}
    (hlink : ∀ q q' agree w w', p.link q q' agree → W w w' →
      agree (answer q w).1 (answer' q' w').1 ∧ W (answer q w).2 (answer' q' w').2)
    (haside : ∀ q' w w', p.aside q' → W w w' → W w (answer' q' w').2)
    (h : Parallel p R s s') {w : σ} {w' : τ} (hw : W w w') :
    R ((s.runIn (recorded answer)).run (w, [])).1 ((s'.runIn (recorded answer')).run (w', [])).1 ∧
      W ((s.runIn (recorded answer)).run (w, [])).2.1
        ((s'.runIn (recorded answer')).run (w', [])).2.1 ∧
      Alongside p ((s.runIn (recorded answer)).run (w, [])).2.2
        ((s'.runIn (recorded answer')).run (w', [])).2.2 := by
  let Recorded (w : σ × List (Exchange Q A)) (w' : τ × List (Exchange Q A)) : Prop :=
    W w.1 w'.1 ∧ Alongside p w.2 w'.2
  refine h.meet (W := Recorded) ?_ ?_ ⟨hw, .nil⟩
  · intro q q' agree w w' hq hw
    obtain ⟨hagree, hnext⟩ := hlink q q' agree w.1 w'.1 hq hw.1
    exact ⟨hagree, hnext, hw.2.linked (.intro hq hagree)⟩
  · intro q' w w' hq hw
    exact ⟨haside q' w.1 w'.1 hq hw.1, hw.2.aside hq⟩

/-! ## Results that may be failures -/

/-- Results are alike: the same value, or failures in a relation. -/
inductive Alike {ε : Type} (E : ε → ε → Prop) : Except ε α → Except ε α → Prop
  | ok (a : α) : Alike E (.ok a) (.ok a)
  | error {e e' : ε} : E e e' → Alike E (.error e) (.error e')

theorem Alike.refl {ε : Type} {E : ε → ε → Prop} (h : ∀ e, E e e) (r : Except ε α) :
    Alike E r r := by
  cases r with
  | ok a => exact .ok a
  | error e => exact .error (h e)

theorem Alike.eq {ε : Type} {r r' : Except ε α} (h : Alike Eq r r') : r = r' := by
  cases h with
  | ok a => rfl
  | error he => rw [he]

theorem Alike.mono {ε : Type} {E E' : ε → ε → Prop} {r r' : Except ε α} (h : Alike E r r')
    (hE : ∀ e e', E e e' → E' e e') : Alike E' r r' := by
  cases h with
  | ok a => exact .ok a
  | error he => exact .error (hE _ _ he)

/-- Scripts in step that come to the same result come to results that are alike. -/
theorem Parallel.alike {ε : Type} {E : ε → ε → Prop} {s s' : Script Q A (Except ε α)}
    (hE : ∀ e, E e e) (h : Parallel p Eq s s') : Parallel p (Alike E) s s' := by
  refine h.mono ?_
  rintro r _ rfl
  exact .refl hE r

theorem Alike.mapError {ε ε' : Type} {E : ε → ε → Prop} {E' : ε' → ε' → Prop} {f : ε → ε'}
    {r r' : Except ε α} (h : Alike E r r') (hf : ∀ e e', E e e' → E' (f e) (f e')) :
    Alike E' (r.mapError f) (r'.mapError f) := by
  cases h with
  | ok a => exact .ok a
  | error he => exact .error (hf _ _ he)

variable {ε σ : Type} {E : ε → ε → Prop}

/-- Scripts that may fail are put together: only after a success does the second one go on. -/
theorem Parallel.except_bind {x x' : ExceptT ε (Script Q A) α}
    {f f' : α → ExceptT ε (Script Q A) γ} (h : Parallel p (Alike E) x.run x'.run)
    (hf : ∀ a, Parallel p (Alike E) (f a).run (f' a).run) :
    Parallel p (Alike E) (x >>= f).run (x' >>= f').run := by
  rw [ExceptT.run_bind, ExceptT.run_bind]
  refine h.bind ?_
  intro r r' hr
  cases hr with
  | ok a => exact hf a
  | error he => exact .done (.error he)

/-- Scripts that may fail and keep a state go in step: from every state they come to the same
    state and to results that are alike. -/
def Synchronous (p : Pairing Q A) (E : ε → ε → Prop)
    (x x' : ExceptT ε (StateT σ (Script Q A)) α) : Prop :=
  ∀ state, Parallel p (fun r r' => Alike E r.1 r'.1 ∧ r.2 = r'.2)
    (x.run.run state) (x'.run.run state)

namespace Synchronous

/-- What asks nothing. -/
theorem of_pure (hE : ∀ e, E e e) {x : ExceptT ε (StateT σ (Script Q A)) α}
    (h : ∀ state, ∃ r, x.run.run state = pure r) : Synchronous p E x x := by
  intro state
  obtain ⟨r, hr⟩ := h state
  rw [hr]
  exact .done ⟨.refl hE r.1, rfl⟩

/-- What comes to the same result and to the same state. -/
theorem of_eq (hE : ∀ e, E e e) {x x' : ExceptT ε (StateT σ (Script Q A)) α}
    (h : ∀ state, Parallel p Eq (x.run.run state) (x'.run.run state)) : Synchronous p E x x' := by
  intro state
  refine (h state).mono ?_
  rintro r _ rfl
  exact ⟨.refl hE r.1, rfl⟩

/-- What leaves the state alone. -/
theorem of_parallel {x x' : ExceptT ε (Script Q A) α} (h : Parallel p (Alike E) x.run x'.run) :
    Synchronous p E (ExceptT.mk (StateT.lift x.run) : ExceptT ε (StateT σ (Script Q A)) α)
      (ExceptT.mk (StateT.lift x'.run)) := by
  intro state
  exact Parallel.bind h fun r r' hr => .done ⟨hr, rfl⟩

theorem bind {x x' : ExceptT ε (StateT σ (Script Q A)) α}
    {f f' : α → ExceptT ε (StateT σ (Script Q A)) γ} (hx : Synchronous p E x x')
    (hf : ∀ a, Synchronous p E (f a) (f' a)) : Synchronous p E (x >>= f) (x' >>= f') := by
  intro state
  rw [ExceptT.run_bind, ExceptT.run_bind, StateT.run_bind, StateT.run_bind]
  refine (hx state).bind ?_
  rintro ⟨r, next⟩ ⟨r', _⟩ ⟨hr, rfl⟩
  cases hr with
  | ok a => exact hf a next
  | error he => exact .done ⟨.error he, rfl⟩

end Synchronous

end Clusterwright.Script
