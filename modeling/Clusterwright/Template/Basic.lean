import Clusterwright.Failure
import Clusterwright.Template.Display

/-!
# Templates

A template is a list of pieces: text, values to be filled in, conditions, loops and names for
values. Rendering is strict: what is not there must not be filled in, tested, walked through or
looked into; it may only be given another name or go through a filter.
-/

namespace Clusterwright.Template

/-- An expression. Where an unknown filter is asked for, its name is kept. Names and literals know
their line where the template was written as text. A choice may lack its alternative. -/
inductive Expr where
  | var (name : String)
  | attr (e : Expr) (name : String)
  | text (s : String)
  | int (n : Int)
  | bool (b : Bool)
  | null
  | omitted
  | either (a b : Expr)
  | choose (condition yes no : Expr)
  | hcl (e : Expr)
  | items (e : Expr)
  | join (e separator : Expr)
  | unknown (filter : String) (e : Expr)
  | at (line : Nat) (e : Expr)
  deriving Repr, DecidableEq

/-- The names that a loop gives: one to each item, or several to its parts. -/
structure Target where
  names : List String
  line : Option Nat
  deriving Repr, DecidableEq

/-- The target with some names. -/
def Target.of (names : List String) : Target := ⟨names, none⟩

/-- A piece of a template. -/
inductive Piece where
  | text (s : String)
  | emit (e : Expr)
  | either (condition : Expr) (yes no : List Piece)
  | each (target : Target) (e : Expr) (body : List Piece)
  | bind (name : String) (e : Expr)
  deriving Repr

/-- The reasons why a template cannot be rendered. -/
inductive Trouble where
  | undefined
  | unknownFilter (name : String)
  | invalid (detail : String)
  | notUnpacked (detail : String)
  | malformed (detail : String)
  deriving DecidableEq, Repr

/-- The text of a trouble. -/
def Trouble.message : Trouble → String
  | .undefined => "undefined value"
  | .unknownFilter name => "unknown filter: filter " ++ name ++ " is unknown"
  | .invalid detail => "invalid operation: " ++ detail
  | .notUnpacked detail => "cannot unpack: " ++ detail
  | .malformed detail => "syntax error: " ++ detail

/-- A trouble with its line. -/
structure Fault where
  trouble : Trouble
  line : Option Nat
  deriving DecidableEq, Repr

/-- The text of a fault in a template with a name. -/
def Fault.message (template : String) (f : Fault) : String :=
  f.trouble.message ++
    (f.line.map fun n => " (in " ++ template ++ ":" ++ toString n ++ ")").getD ""

/-- What a result may be. -/
abbrev Outcome := Except Fault

/-! ## Lines -/

namespace Expr

/-- Whether an expression is the same whatever names stand for. -/
def isConstant : Expr → Bool
  | .text _ | .int _ | .bool _ | .null => true
  | .at _ e => e.isConstant
  | .either a b => a.isConstant && b.isConstant
  | _ => false

/-- The line that complaints about an expression name: that of its last name or literal, where a
condition comes before what depends on it, and a constant counts as one literal. -/
def line? : Expr → Option Nat
  | .at line _ => some line
  | .attr e _ | .hcl e | .items e | .unknown _ e => e.line?
  | .join e separator => separator.line?.or e.line?
  | .either a b => if a.isConstant && b.isConstant then a.line? else b.line?.or a.line?
  | .choose condition yes no => no.line?.or (yes.line?.or condition.line?)
  | .var _ | .text _ | .int _ | .bool _ | .null | .omitted => none

/-- Complains about an expression. -/
def fail {α : Type} (e : Expr) (t : Trouble) : Outcome α := .error ⟨t, e.line?⟩

end Expr

/-! ## Values -/

/-- What an expression stands for: a value, nothing, or the missing alternative of a choice, which
counts as an empty value. -/
inductive Meaning where
  | value (v : Json)
  | undefined
  | omitted
  deriving Repr

/-- The names in force, the innermost first. -/
abbrev Scope := List (String × Meaning)

/-- Whether a value counts as true. -/
def isTrue : Json → Bool
  | .null => false
  | .bool b => b
  | .int n => n ≠ 0
  | .float x => x.significand ≠ 0 || !x.isFinite
  | .text s => !s.isEmpty
  | .list items => !items.isEmpty
  | .object members => !members.isEmpty

/-- The word for the kind of a value. -/
def kindWord : Json → String
  | .null => "none"
  | .bool _ => "bool"
  | .int _ | .float _ => "number"
  | .text _ => "string"
  | .list _ => "sequence"
  | .object _ => "map"

/-- The items of a value that is walked through: of a map, its keys. -/
def walk? : Json → Option (List Json)
  | .null => some []
  | .list items => some items
  | .object members => some (members.map fun m => .text m.1)
  | .text s => some (s.toList.map fun c => .text (String.singleton c))
  | .bool _ | .int _ | .float _ => none

/-- The entries of a map as pairs. -/
def pairs? : Meaning → Option Json
  | .value (.object members) => some (.list (members.map fun m => .list [.text m.1, m.2]))
  | _ => none

/-- Joins values. There is no separator as long as nothing has been written. -/
def joinAll (separator : String) (items : List Json) : String :=
  items.foldl (fun out j => (if out.isEmpty then out else out ++ separator) ++ display j) ""

/-- A separator: what is no value separates by nothing. -/
def separatorText : Meaning → String
  | .value .null | .undefined | .omitted => ""
  | .value v => display v

/-! ## Evaluation -/

namespace Expr

/-- Whether what an expression stands for counts as true. -/
def test (e : Expr) : Meaning → Outcome Bool
  | .value v => .ok (isTrue v)
  | .undefined => e.fail .undefined
  | .omitted => .ok false

/-- What an expression stands for. -/
def eval (scope : Scope) : Expr → Outcome Meaning
  | .var name => .ok ((scope.lookup name).getD .undefined)
  | .attr e name => do
    match ← e.eval scope with
    | .value v => return ((v.member? name).map Meaning.value).getD .undefined
    | _ => e.fail .undefined
  | .text s => .ok (.value (.text s))
  | .int n => .ok (.value (.int n))
  | .bool b => .ok (.value (.bool b))
  | .null => .ok (.value .null)
  | .omitted => .ok .omitted
  | .either a b => do
    let m ← a.eval scope
    if ← a.test m then return m else b.eval scope
  | .choose condition yes no => do
    if ← condition.test (← condition.eval scope) then yes.eval scope else no.eval scope
  | .hcl e => do
    match ← e.eval scope with
    | .value v => return .value (.text v.render)
    | _ => return .value (.text Json.null.render)
  | .items e => do
    match pairs? (← e.eval scope) with
    | some v => return .value v
    | none => e.fail (.invalid "cannot convert value into pairs")
  | .join e separator => do
    let m ← e.eval scope
    let between := separatorText (← separator.eval scope)
    match m with
    | .undefined | .omitted => return .value (.text "")
    | .value v =>
      match walk? v with
      | some parts => return .value (.text (joinAll between parts))
      | none =>
        (Expr.join e separator).fail (.invalid ("cannot join value of type " ++ kindWord v))
  | .unknown filter e => do
    discard (e.eval scope)
    e.fail (.unknownFilter filter)
  | .at _ e => e.eval scope

end Expr

/-- The items that an expression stands for. -/
def itemsOf (e : Expr) : Meaning → Outcome (List Json)
  | .undefined => e.fail .undefined
  | .omitted => .ok []
  | .value v =>
    match walk? v with
    | some items => .ok items
    | none => e.fail (.invalid (kindWord v ++ " is not iterable"))

/-- The parts of an item that gets several names: of a map, its keys. -/
def parts? : Json → Option (List Json)
  | .list parts => some parts
  | .object members => some (members.map fun m => .text m.1)
  | _ => none

/-- Gives names to an item of a loop. -/
def Target.bind (t : Target) (item : Json) (scope : Scope) : Outcome Scope :=
  match t.names, parts? item with
  | [name], _ => .ok ((name, .value item) :: scope)
  | _, none => .error ⟨.notUnpacked "value is not iterable", t.line⟩
  | names, some parts =>
    if parts.length = names.length then .ok (names.zip (parts.map Meaning.value) ++ scope)
    else
      .error ⟨.notUnpacked ("sequence of wrong length (expected " ++ toString names.length ++
        ", got " ++ toString parts.length ++ ")"), t.line⟩

/-- What an expression writes. -/
def written (form : Form) (e : Expr) : Meaning → Outcome String
  | .value v => .ok (form.write v)
  | .undefined => e.fail .undefined
  | .omitted => .ok ""

mutual

/-- What a piece writes, and the names in force after it. Each turn of a loop has names of its
own. -/
def Piece.eval (form : Form) (scope : Scope) : Piece → Outcome (String × Scope)
  | .text s => .ok (s, scope)
  | .emit e => do
    return (← written form e (← e.eval scope), scope)
  | .either condition yes no => do
    if ← condition.test (← condition.eval scope) then evalAll form scope yes
    else evalAll form scope no
  | .each target e body => do
    let turns ← (← itemsOf e (← e.eval scope)).mapM fun item => do
      let (out, _) ← evalAll form (← target.bind item scope) body
      return out
    return (String.join turns, scope)
  | .bind name e => do
    return ("", (name, ← e.eval scope) :: scope)

/-- What pieces write one after the other. -/
def evalAll (form : Form) (scope : Scope) : List Piece → Outcome (String × Scope)
  | [] => .ok ("", scope)
  | p :: rest => do
    let (out, scope) ← p.eval form scope
    let (more, scope) ← evalAll form scope rest
    return (out ++ more, scope)

end

/-- Renders a template with a name in a context of named values. -/
def render (name : String) (pieces : List Piece) (context : List (String × Json)) :
    Except Failure String :=
  match evalAll (Form.ofName name) (context.map fun c => (c.1, .value c.2)) pieces with
  | .ok (out, _) => .ok out
  | .error fault => .error (.unrenderable name (fault.message name))

end Clusterwright.Template
