import Clusterwright.Platform.Context

/-! # Lines — what the helpers for cluster files write

    A cluster file is a template, but all that its pieces ever write is whole lines, and none of
    the helpers fails on the values that a platform names.  The route:

    * `eval_var` and `eval_field`: the names in force are those of the platform, and a field of a
      named record is its member;
    * `Writes`: pieces write some lines and leave the names alone; it is kept when pieces follow
      each other (`Writes.append`), so that a file is read off its parts;
    * one lemma for each helper: `writes_plain`, `writes_quoted`, `writes_given` and so on. -/

namespace Clusterwright.ClusterFile

open Template

variable {scope : Scope} {ps qs : List Piece} {ls ms : List String}

/-! ## Names in force -/

/-- Named values, as the names in force. -/
def scopeOf (named : List (String × Json)) : Scope := named.map fun v => (v.1, .value v.2)

section

variable {named : List (String × Json)} {name part : String} {v : Json}
  {members : List (String × Json)}

theorem lookup_scopeOf (named : List (String × Json)) (name : String) :
    (scopeOf named).lookup name = (named.lookup name).map .value := by
  induction named with
  | nil => rfl
  | cons entry named ih =>
      unfold scopeOf at ih ⊢
      rw [List.map_cons, List.lookup_cons, List.lookup_cons, ih]
      cases name == entry.1 <;> rfl

theorem eval_var (h : named.lookup name = some v) :
    (Expr.var name).eval (scopeOf named) = .ok (.value v) := by
  rw [Expr.eval, lookup_scopeOf, h]
  rfl

/-- The last member with a key is the one that an object has. -/
theorem member?_ofMembers (members : List (String × Json)) (key : String) :
    (Json.ofMembers members).member? key = members.reverse.lookup key := by
  unfold Json.ofMembers
  rw [← List.foldr_reverse]
  show List.lookup key _ = _
  induction members.reverse with
  | nil => rfl
  | cons entry rest ih =>
      rw [List.foldr_cons, List.lookup_cons]
      cases hkey : key == entry.1 with
      | true =>
          rw [eq_of_beq hkey]
          exact SortedMap.lookup_insertEntry_self entry.1 entry.2 _
      | false =>
          rw [SortedMap.lookup_insertEntry_of_ne entry.2 (ne_of_beq_false hkey), ih]

/-- What has a member counts as true. -/
theorem isTrue_of_member {key : String} {j : Json} (h : v.member? key = some j) :
    isTrue v = true := by
  cases v with
  | object members =>
      cases members with
      | nil => exact nomatch h
      | cons m members => rfl
  | _ => exact nomatch h

/-- Texts under keys count as true if there are any. -/
theorem isTrue_textMap (m : SortedMap String) : isTrue (textMap m) = !m.isEmpty :=
  congrArg (!·) List.isEmpty_map

/-- What stands for a record has the members of the record. -/
theorem eval_part {e : Expr} (h : e.eval scope = .ok (.value (.ofMembers members)))
    (hpart : members.reverse.lookup part = some v) :
    (Expr.attr e part).eval scope = .ok (.value v) := by
  rw [Expr.eval, h]
  show Except.ok (((Json.ofMembers members).member? part).map Meaning.value |>.getD .undefined) = _
  rw [member?_ofMembers, hpart]
  rfl

theorem eval_field (h : named.lookup name = some (.ofMembers members))
    (hpart : members.reverse.lookup part = some v) :
    (field name part).eval (scopeOf named) = .ok (.value v) := eval_part (eval_var h) hpart

end

/-! ## Pieces that write lines -/

/-- Lines, each with its line break. -/
def unlines (lines : List String) : String := String.join (lines.map (· ++ "\n"))

@[simp] theorem unlines_nil : unlines [] = "" := rfl

@[simp] theorem unlines_append (ls ms : List String) :
    unlines (ls ++ ms) = unlines ls ++ unlines ms := by
  unfold unlines
  rw [List.map_append, String.join_append]

theorem unlines_singleton (line : String) : unlines [line] = line ++ "\n" := by
  simp [unlines, String.join_cons]

section

variable {form : Form} {p : Piece} {out more : String} {scope₁ scope₂ : Scope}

theorem evalAll_cons (hp : p.eval form scope = .ok (out, scope₁))
    (hps : evalAll form scope₁ ps = .ok (more, scope₂)) :
    evalAll form scope (p :: ps) = .ok (out ++ more, scope₂) := by
  rw [evalAll, hp]
  show (evalAll form scope₁ ps >>= fun rest => pure (out ++ rest.1, rest.2)) = _
  rw [hps]
  rfl

/-- Pieces that wrote something wrote it one after the other. -/
theorem evalAll_cons_ok (h : evalAll form scope (p :: ps) = .ok (out, scope₂)) :
    ∃ first scope₁ rest, p.eval form scope = .ok (first, scope₁) ∧
      evalAll form scope₁ ps = .ok (rest, scope₂) ∧ out = first ++ rest := by
  rw [evalAll] at h
  cases hp : p.eval form scope with
  | error fault =>
      rw [hp] at h
      exact nomatch h
  | ok first =>
      obtain ⟨first, scope₁⟩ := first
      rw [hp] at h
      change (evalAll form scope₁ ps >>= fun rest => pure (first ++ rest.1, rest.2)) = _ at h
      cases hps : evalAll form scope₁ ps with
      | error fault =>
          rw [hps] at h
          exact nomatch h
      | ok rest =>
          rw [hps] at h
          obtain ⟨rfl, rfl⟩ := Prod.mk.inj (Except.ok.inj h)
          exact ⟨first, scope₁, rest.1, rfl, hps, rfl⟩

/-- A name for a value is in force in all that follows. -/
theorem evalAll_bind {name : String} {e : Expr} {m : Meaning} (h : e.eval scope = .ok m)
    (hps : evalAll form ((name, m) :: scope) ps = .ok (out, scope₁)) :
    evalAll form scope (.bind name e :: ps) = .ok (out, scope₁) := by
  have hbind : (Piece.bind name e).eval form scope = .ok ("", (name, m) :: scope) := by
    rw [Piece.eval, h]
    rfl
  have hall := evalAll_cons hbind hps
  rw [String.empty_append] at hall
  exact hall

theorem evalAll_append (hps : evalAll form scope ps = .ok (out, scope₁))
    (hqs : evalAll form scope₁ qs = .ok (more, scope₂)) :
    evalAll form scope (ps ++ qs) = .ok (out ++ more, scope₂) := by
  induction ps generalizing scope out with
  | nil =>
      rw [evalAll] at hps
      obtain ⟨rfl, rfl⟩ := Prod.mk.inj (Except.ok.inj hps)
      rw [String.empty_append]
      exact hqs
  | cons p ps ih =>
      obtain ⟨first, scope₀, rest, hp, hrest, rfl⟩ := evalAll_cons_ok hps
      rw [String.append_assoc]
      exact evalAll_cons hp (ih hrest)

end

/-- Pieces write some lines, and the names in force stay what they are. -/
def Writes (scope : Scope) (ps : List Piece) (lines : List String) : Prop :=
  evalAll .plain scope ps = .ok (unlines lines, scope)

theorem writes_nil : Writes scope [] [] := by rw [Writes, evalAll, unlines_nil]

theorem Writes.of_eq (hls : ls = ms) (h : Writes scope ps ls) : Writes scope ps ms := hls ▸ h

theorem Writes.append (hps : Writes scope ps ls) (hqs : Writes scope qs ms) :
    Writes scope (ps ++ qs) (ls ++ ms) := by
  unfold Writes
  rw [unlines_append]
  exact evalAll_append hps hqs

/-- What is rendered is what the pieces write. -/
theorem render_of_writes {name : String} {named : List (String × Json)}
    (hform : Form.ofName name = .plain) (h : Writes (scopeOf named) ps ls) :
    render name ps named = .ok (unlines ls) := by
  unfold Writes scopeOf at h
  unfold render
  rw [hform, h]

/-- A piece and those that follow it. -/
theorem Writes.cons {p : Piece} (hp : Writes scope [p] ls) (hps : Writes scope ps ms) :
    Writes scope (p :: ps) (ls ++ ms) := hp.append hps

/-- A piece by itself. -/
theorem writes_of_eval {p : Piece} (h : p.eval .plain scope = .ok (unlines ls, scope)) :
    Writes scope [p] ls := by
  have hall := evalAll_cons h writes_nil
  rw [unlines_nil, String.append_empty] at hall
  exact hall

theorem writes_plain (lines : List String) : Writes scope [plain lines] lines :=
  writes_of_eval (by rw [plain, Piece.eval, unlines])

/-! ## Lines with values -/

section

variable {e : Expr} {v : Json}

theorem eval_text (s : String) : (Piece.text s).eval .plain scope = .ok (s, scope) := by
  rw [Piece.eval]

theorem eval_emit (h : e.eval scope = .ok (.value v)) :
    (Piece.emit e).eval .plain scope = .ok (display v, scope) := by
  rw [Piece.eval, h]
  rfl

theorem eval_emit_text {s : String} (h : e.eval scope = .ok (.value (.text s))) :
    (Piece.emit e).eval .plain scope = .ok (s, scope) := eval_emit h

theorem eval_hcl (h : e.eval scope = .ok (.value v)) :
    (Expr.hcl e).eval scope = .ok (.value (.text v.render)) := by
  rw [Expr.eval, h]
  rfl

theorem eval_emit_hcl (h : e.eval scope = .ok (.value v)) :
    (Piece.emit (.hcl e)).eval .plain scope = .ok (v.render, scope) := eval_emit (eval_hcl h)

theorem eval_items {members : List (String × Json)}
    (h : e.eval scope = .ok (.value (.object members))) :
    (Expr.items e).eval scope =
      .ok (.value (.list (members.map fun m => .list [.text m.1, m.2]))) := by
  rw [Expr.eval, h]
  rfl

theorem eval_join {texts : List String} {separator : String}
    (h : e.eval scope = .ok (.value (.ofTexts texts))) :
    (Expr.join e (.text separator)).eval scope =
      .ok (.value (.text (joinAll separator (texts.map .text)))) := by
  rw [Expr.eval, h]
  rfl

/-- A text that may be missing, with the empty text in its place. -/
theorem eval_either_empty {s : Option String}
    (h : e.eval scope = .ok (.value (optionalText s))) :
    (Expr.either e (.text "")).eval scope = .ok (.value (.text (s.getD ""))) := by
  rw [Expr.eval, h]
  cases s with
  | none => rfl
  | some s =>
      -- an empty text counts as false, but what takes its place is the same
      by_cases hs : s = ""
      · subst hs
        rfl
      · have htrue : Template.isTrue (.text s) = true := by simp [Template.isTrue, hs]
        change ((pure (Template.isTrue (.text s)) : Outcome Bool) >>=
          fun b => if b then _ else _) = _
        rw [htrue]
        rfl

theorem writes_around (before after : String) (h : e.eval scope = .ok (.value v)) :
    Writes scope (around before e after) [before ++ display v ++ after] := by
  unfold Writes around
  have hline := evalAll_cons (eval_text before) (evalAll_cons (eval_emit h)
    (evalAll_cons (eval_text (after ++ "\n")) writes_nil))
  rw [hline, unlines_singleton, unlines_nil, String.append_empty, String.append_assoc,
    String.append_assoc]

/-- A line that sets an attribute to a quoted value. -/
def setting (name : String) (v : Json) : String := name ++ " = " ++ v.render

/-- A line that sets an attribute, if its value is true. -/
def settingIf (name : String) (v : Json) : List String :=
  if isTrue v then [setting name v] else []

theorem writes_quoted {name : String} (h : e.eval scope = .ok (.value v)) :
    Writes scope (quoted name e) [setting name v] := by
  have hline := writes_around (name ++ " = ") "" (eval_hcl h)
  rw [String.append_empty] at hline
  exact hline

/-- A line that sets an attribute to a number. -/
def amount (name : String) (n : Nat) : String := name ++ " = " ++ toString n

theorem writes_amount {name : String} {n : Nat} (h : e.eval scope = .ok (.value (.int n))) :
    Writes scope (bare name e) [amount name n] := by
  have hline := writes_around (name ++ " = ") "" h
  rw [String.append_empty] at hline
  exact hline

/-- Pieces that depend on a value. -/
theorem writes_given {body : List Piece} (h : e.eval scope = .ok (.value v))
    (hbody : isTrue v = true → Writes scope body ls) :
    Writes scope [given e body] (if isTrue v then ls else []) := by
  refine writes_of_eval ?_
  rw [given, Piece.eval, h]
  show (if isTrue v = true then evalAll .plain scope body else evalAll .plain scope []) = _
  cases hv : isTrue v with
  | true =>
      rw [if_pos rfl, if_pos rfl]
      exact hbody hv
  | false =>
      rw [if_neg Bool.false_ne_true, if_neg Bool.false_ne_true]
      exact writes_nil

theorem writes_quotedIf {name : String} (h : e.eval scope = .ok (.value v)) :
    Writes scope [quotedIf name e] (settingIf name v) :=
  writes_given h fun _ => writes_quoted h

theorem writes_flagIf {name : String} (h : e.eval scope = .ok (.value v)) :
    Writes scope [flagIf name e] (if isTrue v then [name ++ " = true"] else []) :=
  writes_given h fun _ => writes_plain _

end

/-- Lines about a number, unless it is missing or zero. -/
def unlessZero (n : Option Nat) (lines : Nat → List String) : List String :=
  match n with
  | some (k + 1) => lines (k + 1)
  | _ => []

theorem writes_givenNumber {e : Expr} {n : Option Nat} {body : List Piece}
    {lines : Nat → List String} (h : e.eval scope = .ok (.value (optionalNumber n)))
    (hbody : ∀ k : Nat, e.eval scope = .ok (.value (.int k)) → Writes scope body (lines k)) :
    Writes scope [given e body] (unlessZero n lines) := by
  match n with
  | none => exact writes_given h fun hnone => (nomatch hnone : Writes _ _ [])
  | some 0 => exact writes_given h fun hzero => (nomatch hzero : Writes _ _ [])
  | some (k + 1) =>
      have hne : Template.isTrue (optionalNumber (some (k + 1))) = true := by
        simp [optionalNumber, Template.isTrue]
        omega
      exact .of_eq (if_pos hne) (writes_given h fun _ => hbody (k + 1) h)

/-! ## Lines for each item -/

theorem mapM_ok {α β ε : Type} {f : α → Except ε β} {g : α → β} {xs : List α}
    (h : ∀ x ∈ xs, f x = .ok (g x)) : xs.mapM f = .ok (xs.map g) := by
  induction xs with
  | nil => rfl
  | cons x xs ih =>
      rw [List.forall_mem_cons] at h
      rw [List.mapM_cons, h.1, ih h.2]
      rfl

/-- A loop writes the lines of its turns, each of which begins with the names in force. -/
theorem writes_each {α : Type} {e : Expr} {v : Json} {target : Target} {body : List Piece}
    {xs : List α} {item : α → Json} {lines : α → List String}
    (h : e.eval scope = .ok (.value v)) (hitems : walk? v = some (xs.map item))
    (hturn : ∀ x ∈ xs, ∃ inner last, target.bind (item x) scope = .ok inner ∧
      evalAll .plain inner body = .ok (unlines (lines x), last)) :
    Writes scope [.each target e body] (xs.flatMap lines) := by
  refine writes_of_eval ?_
  have hturns : (xs.map item).mapM (fun j => target.bind j scope >>= fun inner =>
      evalAll .plain inner body >>= fun made => pure made.1) =
        .ok (xs.map fun x => unlines (lines x)) := by
    rw [List.mapM_map]
    refine mapM_ok ?_
    intro x hx
    obtain ⟨inner, last, hbind, hbody⟩ := hturn x hx
    simp only [Function.comp, hbind]
    show (evalAll .plain inner body >>= fun made => pure made.1) = _
    rw [hbody]
    rfl
  have hlines : String.join (xs.map fun x => unlines (lines x)) = unlines (xs.flatMap lines) := by
    clear hturn hturns hitems
    induction xs with
    | nil => rfl
    | cons x xs ih =>
        rw [List.map_cons, String.join_cons, List.flatMap_cons, unlines_append, ih]
  rw [Piece.eval, h]
  change (itemsOf e (.value v) >>= fun items => (List.mapM _ items : Outcome (List String)) >>=
    fun turns => pure (String.join turns, scope)) = _
  rw [itemsOf, hitems]
  change ((xs.map item).mapM (fun j => target.bind j scope >>= fun inner =>
    evalAll .plain inner body >>= fun made => pure made.1) >>=
      fun turns => pure (String.join turns, scope)) = _
  rw [hturns, ← hlines]
  rfl

end Clusterwright.ClusterFile
