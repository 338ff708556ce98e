import Clusterwright.Proofs.SortedMap
import Clusterwright.Registry
import Mathlib.Data.List.Induction

/-! # Registrations — what a registry holds after any number of them

    Constructors are registered one after the other, and a name that is taken stops nobody from
    registering the next one.  The registry then holds what was registered first under each name:

    * `run_attempt`: the two things that one registration can do;
    * `find?_attempt`: either way, what is found afterwards is what was found before, or else the
      constructor that was to be registered;
    * `find?_after`: so after any sequence the first registration of a pair is found, by induction
      on the sequence from its end;
    * `RegistryOf`: what this says of lookups, names and the catalog, and of each registration on
      its way. -/

namespace Clusterwright

/-- A constructor that is to be registered. -/
structure Registration where
  category : Category
  name : String
  make : category.Constructor

/-! ## One more entry -/

namespace Registry

variable {r : Registry} {c d : Category} {name : String}

@[simp] theorem table_insert_self (r : Registry) (c : Category) (name : String)
    (make : c.Constructor) :
    (r.insert c name make).table c = (r.table c).insert name make := dif_pos rfl

theorem table_insert_of_ne (r : Registry) (name : String) (make : c.Constructor) (h : d ≠ c) :
    (r.insert c name make).table d = r.table d := dif_neg h

theorem find_of_some {make : c.Constructor} (h : (r.table c).find? name = some make) :
    r.find c name = .ok (make ()) := by
  rw [find, fresh?, h]
  rfl

theorem find_of_none (h : (r.table c).find? name = none) :
    r.find c name = .error (.notFound c.label name (r.names c)) := by
  rw [find, fresh?, h]
  rfl

theorem mem_names_iff : name ∈ r.names c ↔ (r.table c).find? name ≠ none := by
  rw [names, ← SortedMap.contains_iff_mem_keys, SortedMap.contains, Option.isSome_iff_ne_none]

end Registry

/-! ## One registration -/

namespace Registration

variable {e : Registration} {es : List Registration} {r : Registry} {c : Category} {name : String}

/-- The registration is about this name in this category. -/
def IsFor (e : Registration) (c : Category) (name : String) : Prop :=
  e.category = c ∧ e.name = name

instance (e : Registration) (c : Category) (name : String) : Decidable (e.IsFor c name) :=
  inferInstanceAs (Decidable (_ ∧ _))

/-- What the registration has for a name in a category. -/
def under? (c : Category) (name : String) (e : Registration) : Option c.Constructor :=
  if h : e.IsFor c name then some (h.1 ▸ e.make) else none

theorem under?_self (e : Registration) : e.under? e.category e.name = some e.make :=
  dif_pos ⟨rfl, rfl⟩

theorem under?_eq_none_iff : e.under? c name = none ↔ ¬ e.IsFor c name := by
  unfold under?
  split
  case isTrue h => exact iff_of_false (Option.some_ne_none _) (not_not_intro h)
  case isFalse h => exact iff_of_true rfl h

/-- A registration is tried, and what comes of it is put down. -/
def attempt (e : Registration) : StateM Registry (Except Collision Unit) :=
  (Registry.enter e.category e.name e.make).run

/-- A name that is taken is refused and nothing else happens; a free one is entered. -/
theorem run_attempt (e : Registration) (r : Registry) : e.attempt.run r =
    if e.name ∈ r.names e.category then (.error ⟨e.category, e.name⟩, r)
    else (.ok (), r.insert e.category e.name e.make) := by
  have htaken : (r.table e.category).contains e.name = true ↔ e.name ∈ r.names e.category :=
    SortedMap.contains_iff_mem_keys
  by_cases h : e.name ∈ r.names e.category
  · rw [if_pos h]
    rw [← htaken] at h
    show (if _ then _ else _ : ExceptT Collision (StateM Registry) Unit).run.run r = _
    rw [if_pos h]
    rfl
  · rw [if_neg h]
    rw [← htaken] at h
    show (if _ then _ else _ : ExceptT Collision (StateM Registry) Unit).run.run r = _
    rw [if_neg h]
    rfl

/-- What is found after a registration: what was found before, or else what was registered. -/
theorem find?_attempt (e : Registration) (r : Registry) (c : Category) (name : String) :
    ((e.attempt.run r).2.table c).find? name =
      ((r.table c).find? name).or (e.under? c name) := by
  rw [run_attempt]
  split
  case isTrue htaken =>
    -- the one entry that it could have changed is there already
    by_cases hfor : e.IsFor c name
    · obtain ⟨rfl, rfl⟩ := hfor
      obtain ⟨found, hfound⟩ := Option.ne_none_iff_exists'.mp (Registry.mem_names_iff.mp htaken)
      rw [hfound]
      rfl
    · rw [under?_eq_none_iff.mpr hfor, Option.or_none]
  case isFalse hfree =>
    by_cases hcategory : c = e.category
    case neg =>
      have hfor : ¬ e.IsFor c name := fun h => hcategory h.1.symm
      rw [Registry.table_insert_of_ne _ _ _ hcategory, under?_eq_none_iff.mpr hfor, Option.or_none]
    case pos =>
      subst hcategory
      rw [Registry.table_insert_self]
      by_cases hname : name = e.name
      case pos =>
        rw [Registry.mem_names_iff, not_not] at hfree
        rw [hname, SortedMap.find?_insert_self, hfree, under?_self]
        rfl
      case neg =>
        have hfor : ¬ e.IsFor e.category name := fun h => hname h.2.symm
        rw [SortedMap.find?_insert_of_ne _ _ hname, under?_eq_none_iff.mpr hfor, Option.or_none]

/-! ## Any number of registrations -/

/-- Registrations one after the other, each of them tried. -/
def attempts (es : List Registration) : StateM Registry (List (Except Collision Unit)) :=
  es.mapM attempt

/-- What comes of registrations in a registry without extensions. -/
def outcomes (es : List Registration) : List (Except Collision Unit) :=
  ((attempts es).run .empty).1

/-- The registry that registrations leave of one without extensions. -/
def after (es : List Registration) : Registry := ((attempts es).run .empty).2

theorem run_attempts_append (es fs : List Registration) (r : Registry) :
    (attempts (es ++ fs)).run r =
      (((attempts es).run r).1 ++ ((attempts fs).run ((attempts es).run r).2).1,
        ((attempts fs).run ((attempts es).run r).2).2) := by
  rw [attempts, List.mapM_append]
  rfl

theorem run_attempts_cons (e : Registration) (es : List Registration) (r : Registry) :
    (attempts (e :: es)).run r =
      ((e.attempt.run r).1 :: ((attempts es).run (e.attempt.run r).2).1,
        ((attempts es).run (e.attempt.run r).2).2) := by
  rw [attempts, List.mapM_cons]
  rfl

theorem after_append_singleton (es : List Registration) (e : Registration) :
    after (es ++ [e]) = (e.attempt.run (after es)).2 := by
  rw [after, run_attempts_append, run_attempts_cons]
  rfl

theorem length_attempts (es : List Registration) (r : Registry) :
    ((attempts es).run r).1.length = es.length := by
  induction es generalizing r with
  | nil => rfl
  | cons e es ih => rw [run_attempts_cons, List.length_cons, ih, List.length_cons]

theorem outcomes_getElem? (before rest : List Registration) (e : Registration) :
    (outcomes (before ++ e :: rest))[before.length]? = some (e.attempt.run (after before)).1 := by
  rw [outcomes, run_attempts_append, run_attempts_cons,
    List.getElem?_append_right (Nat.le_of_eq (length_attempts before _)), length_attempts,
    Nat.sub_self]
  rfl

/-- The first registration of a name in a category is found. -/
theorem find?_after (es : List Registration) (c : Category) (name : String) :
    ((after es).table c).find? name = es.findSome? (under? c name) := by
  -- from the end, since a registration has a say only where no earlier one has
  induction es using List.reverseRecOn with
  | nil => rfl
  | append_singleton es e ih =>
      rw [after_append_singleton, find?_attempt, ih, List.findSome?_append]
      congr 1
      rw [List.findSome?_cons, List.findSome?_nil]
      cases e.under? c name <;> rfl

theorem mem_names_after : name ∈ (after es).names c ↔ ∃ e ∈ es, e.IsFor c name := by
  rw [Registry.mem_names_iff, find?_after, Ne, List.findSome?_eq_none_iff]
  simp only [under?_eq_none_iff, not_forall, not_not, exists_prop]

/-- A category is what it would be if nothing was registered in the others. -/
theorem table_after_filter (es : List Registration) (c : Category) :
    (after (es.filter (·.category = c))).table c = (after es).table c := by
  -- two tables are the same if the same is found in them, and that is the first registration
  refine SortedMap.ext_find? fun name => ?_
  rw [find?_after, find?_after]
  induction es with
  | nil => rfl
  | cons e es ih =>
      by_cases hcategory : e.category = c
      · rw [List.filter_cons_of_pos (by simpa using hcategory), List.findSome?_cons,
          List.findSome?_cons, ih]
      · rw [List.filter_cons_of_neg (by simpa using hcategory), List.findSome?_cons,
          under?_eq_none_iff.mpr fun h => hcategory h.1, ih]

/-! ## The registry -/

/-- What a registration does after others: -/
structure Tried (before : List Registration) (e : Registration) : Prop where
  /-- its name is taken if an earlier one was for it, and then it is refused without a trace, -/
  taken : e.name ∈ (after before).names e.category ↔ ∃ f ∈ before, f.IsFor e.category e.name
  refused : (∃ f ∈ before, f.IsFor e.category e.name) →
    e.attempt.run (after before) = (.error ⟨e.category, e.name⟩, after before)
  /-- a free name is entered, -/
  entered : (¬ ∃ f ∈ before, f.IsFor e.category e.name) →
    (e.attempt.run (after before)).1 = .ok () ∧
      (e.attempt.run (after before)).2.find e.category e.name = .ok (e.make ())
  /-- and nothing is new in the other categories. -/
  elsewhere : ∀ c ≠ e.category, (e.attempt.run (after before)).2.names c = (after before).names c ∧
    ∀ name, (e.attempt.run (after before)).2.find c name = (after before).find c name

/-- What a registry holds after registrations, and how it came to that. -/
structure RegistryOf (es : List Registration) : Prop where
  onTheWay : ∀ before e rest, es = before ++ e :: rest →
    (outcomes es)[before.length]? = some (e.attempt.run (after before)).1 ∧
      after (before ++ [e]) = (e.attempt.run (after before)).2 ∧ Tried before e
  /-- What was registered first is found. -/
  first : ∀ before e rest, es = before ++ e :: rest →
    (¬ ∃ f ∈ before, f.IsFor e.category e.name) →
    (after es).find e.category e.name = .ok (e.make ())
  /-- Of what was never registered it is said what there is instead. -/
  missing : ∀ c name, (¬ ∃ e ∈ es, e.IsFor c name) →
    (after es).find c name = .error (.notFound c.label name ((after es).names c))
  names : ∀ c name, name ∈ (after es).names c ↔ ∃ e ∈ es, e.IsFor c name
  ascending : ∀ c, ((after es).names c).Pairwise (· < ·)
  catalog : (after es).catalog =
    [("platform", (after es).names .platform), ("backend", (after es).names .backend),
      ("network", (after es).names .network), ("flatcar", (after es).names .osImage),
      ("component", (after es).names .component)]
  independent : ∀ c, (after (es.filter (·.category = c))).table c = (after es).table c

theorem tried (before : List Registration) (e : Registration) : Tried before e where
  taken := mem_names_after
  refused htaken := by rw [run_attempt, if_pos (mem_names_after.mpr htaken)]
  entered hfree := by
    rw [← mem_names_after] at hfree
    refine ⟨by rw [run_attempt, if_neg hfree], Registry.find_of_some ?_⟩
    rw [Registry.mem_names_iff, not_not] at hfree
    rw [find?_attempt, hfree, Option.none_or, under?_self]
  elsewhere c hother := by
    have htable : (e.attempt.run (after before)).2.table c = (after before).table c := by
      refine SortedMap.ext_find? fun name => ?_
      rw [find?_attempt, under?_eq_none_iff.mpr fun h => hother h.1.symm, Option.or_none]
    simp only [Registry.names, Registry.find, Registry.fresh?, htable, implies_true, and_self]

end Registration

open Registration

/-- **A REGISTRY IS FIVE INDEPENDENT SETS.**  Whatever constructors are registered one after the
    other, a registration is refused just if its category has the name already, and leaves the
    registry as it is then.  Afterwards what is found under a name is a fresh extension of the
    constructor that was registered first, all names of a category are listed once and in ascending
    order, also to those who ask for another one, and no category is affected by what is registered
    in the others. -/
theorem registry_is_five_sets (es : List Registration) : RegistryOf es where
  onTheWay := by
    rintro before e rest rfl
    exact ⟨outcomes_getElem? before rest e, after_append_singleton before e, tried before e⟩
  first := by
    rintro before e rest rfl hfirst
    have hnone : before.findSome? (under? e.category e.name) = none := by
      rw [List.findSome?_eq_none_iff]
      exact fun f hf => under?_eq_none_iff.mpr fun h => hfirst ⟨f, hf, h⟩
    refine Registry.find_of_some ?_
    rw [find?_after, List.findSome?_append, hnone, List.findSome?_cons, under?_self]
    rfl
  missing c name hmissing := by
    rw [← mem_names_after, Registry.mem_names_iff, not_not] at hmissing
    exact Registry.find_of_none hmissing
  names _ _ := mem_names_after
  ascending c := ((after es).table c).keys_sorted
  catalog := rfl
  independent := table_after_filter es

/-- The extensions that come with the program have names that are free. -/
example : [(⟨.platform, "packet", fun _ => .packet {}⟩ : Registration),
    ⟨.platform, "bare-metal", fun _ => .bareMetal {}⟩, ⟨.backend, "local", fun _ => .local {}⟩,
    ⟨.backend, "s3", fun _ => .s3 {}⟩, ⟨.network, "packet", fun _ => .packet {}⟩,
    ⟨.network, "bare-metal", fun _ => .bareMetal {}⟩, ⟨.osImage, "packet", fun _ => .packet {}⟩,
    ⟨.osImage, "bare-metal", fun _ => .bareMetal {}⟩, ⟨.component, "contour", fun _ => .contour {}⟩,
    ⟨.component, "cert-manager", fun _ => .certManager {}⟩].foldlM
      (fun r e => r.register e.category e.name e.make) Registry.empty = .ok .builtin := by
  rfl

end Clusterwright
