import Clusterwright.Template.Token

/-!
# Templates written as text

The code in tags is read as expressions and statements. An expression is a choice between operands
that are joined by `or`; an operand is a name, a literal or an expression in parentheses, with
attributes and then filters applied to it.
-/

namespace Clusterwright.Template

/-- Says that code cannot be read. -/
def unexpected {α : Type} (ts : List Lexeme) : Outcome α :=
  malformed ((ts.head?.map (·.line)).getD 1) "unexpected token"

/-- Applies a filter by its name. -/
def applyFilter (name : String) (arguments : List Expr) (e : Expr) : Expr :=
  if name = "hcl" then .hcl e
  else if name = "items" then .items e
  else if name = "join" then .join e (arguments.headD .omitted)
  else .unknown name e

/-- The expression of a name that is alone: some names are literals. -/
def nameExpr (name : String) : Expr :=
  if name = "true" ∨ name = "True" then .bool true
  else if name = "false" ∨ name = "False" then .bool false
  else if name = "none" ∨ name = "None" then .null
  else .var name

/-! ## Expressions -/

mutual

/-- Reads an expression; the tokens after it are given with it. -/
def expression : Nat → List Lexeme → Outcome (Expr × List Lexeme)
  | 0, ts => unexpected ts
  | fuel + 1, ts => do
    let (e, ts) ← alternatives fuel ts
    match ts with
    | ⟨.name "if", _⟩ :: ts => do
      let (condition, ts) ← alternatives fuel ts
      match ts with
      | ⟨.name "else", _⟩ :: ts => do
        let (no, ts) ← expression fuel ts
        return (.choose condition e no, ts)
      | _ => return (.choose condition e .omitted, ts)
    | _ => return (e, ts)

/-- Reads operands with `or` between them. -/
def alternatives : Nat → List Lexeme → Outcome (Expr × List Lexeme)
  | 0, ts => unexpected ts
  | fuel + 1, ts => do
    let (e, ts) ← operand fuel ts
    match ts with
    | ⟨.name "or", _⟩ :: ts => do
      let (f, ts) ← alternatives fuel ts
      return (.either e f, ts)
    | _ => return (e, ts)

/-- Reads a name, a literal or an expression in parentheses, with what is applied to it. -/
def operand : Nat → List Lexeme → Outcome (Expr × List Lexeme)
  | 0, ts => unexpected ts
  | fuel + 1, ts => do
    match ts with
    | ⟨.name s, line⟩ :: ts => attributes fuel (.at line (nameExpr s)) ts
    | ⟨.text s, line⟩ :: ts => attributes fuel (.at line (.text s)) ts
    | ⟨.int n, line⟩ :: ts => attributes fuel (.at line (.int n)) ts
    | ⟨.sign '(', _⟩ :: ts =>
      let (e, ts) ← expression fuel ts
      match ts with
      | ⟨.sign ')', _⟩ :: ts => attributes fuel e ts
      | _ => unexpected ts
    | _ => unexpected ts

/-- Reads attributes. -/
def attributes : Nat → Expr → List Lexeme → Outcome (Expr × List Lexeme)
  | 0, _, ts => unexpected ts
  | fuel + 1, e, ts =>
    match ts with
    | ⟨.sign '.', _⟩ :: ⟨.name s, _⟩ :: ts => attributes fuel (.attr e s) ts
    | _ => filters fuel e ts

/-- Reads filters. -/
def filters : Nat → Expr → List Lexeme → Outcome (Expr × List Lexeme)
  | 0, _, ts => unexpected ts
  | fuel + 1, e, ts =>
    match ts with
    | ⟨.sign '|', _⟩ :: ⟨.name s, _⟩ :: ⟨.sign '(', _⟩ :: ts => do
      let (args, ts) ← arguments fuel ts
      filters fuel (applyFilter s args e) ts
    | ⟨.sign '|', _⟩ :: ⟨.name s, _⟩ :: ts => filters fuel (applyFilter s [] e) ts
    | _ => .ok (e, ts)

/-- Reads expressions up to a closing parenthesis. -/
def arguments : Nat → List Lexeme → Outcome (List Expr × List Lexeme)
  | 0, ts => unexpected ts
  | fuel + 1, ts =>
    match ts with
    | ⟨.sign ')', _⟩ :: ts => .ok ([], ts)
    | _ => do
      let (e, ts) ← expression fuel ts
      match ts with
      | ⟨.sign ',', _⟩ :: ts => do
        let (more, ts) ← arguments fuel ts
        return (e :: more, ts)
      | ⟨.sign ')', _⟩ :: ts => return ([e], ts)
      | _ => unexpected ts

end

/-- Reads code that is one expression. -/
def wholeExpression (ts : List Lexeme) : Outcome Expr := do
  let (e, rest) ← expression (5 * ts.length + 5) ts
  if rest.isEmpty then return e else unexpected rest

/-- The names of a loop and the tokens after them. -/
def loopNames : List Lexeme → List String × List Lexeme
  | ⟨.name s, _⟩ :: ⟨.sign ',', _⟩ :: rest =>
    let (more, after) := loopNames rest
    (s :: more, after)
  | ⟨.name s, _⟩ :: rest => ([s], rest)
  | rest => ([], rest)

/-! ## Pieces -/

mutual

/-- Reads pieces up to a statement that is none of theirs; its tokens are given with them. -/
def pieces : Nat → List Chunk → Outcome (List Piece × List Lexeme × List Chunk)
  | 0, _ => unexpected []
  | _ + 1, [] => .ok ([], [], [])
  | fuel + 1, chunk :: rest =>
    match chunk with
    | .text [] => pieces fuel rest
    | .text s => followed fuel (.text (String.ofList s)) rest
    | .output code => do followed fuel (.emit (← wholeExpression code)) rest
    | .statement code =>
      match code with
      | ⟨.name "if", _⟩ :: ts => do
        let (p, rest) ← condition fuel ts rest
        followed fuel p rest
      | ⟨.name "for", line⟩ :: ts =>
        let (names, after) := loopNames ts
        match after with
        | ⟨.name "in", _⟩ :: after => do
          let e ← wholeExpression after
          let (body, _, rest) ← pieces fuel rest
          followed fuel (.each ⟨names, some ((ts.head?.map (·.line)).getD line)⟩ e body) rest
        | _ => unexpected after
      | ⟨.name "set", _⟩ :: ⟨.name s, _⟩ :: ⟨.sign '=', _⟩ :: ts => do
        followed fuel (.bind s (← wholeExpression ts)) rest
      | stop => .ok ([], stop, rest)

/-- Puts a piece before those that follow it. -/
def followed : Nat → Piece → List Chunk → Outcome (List Piece × List Lexeme × List Chunk)
  | 0, _, _ => unexpected []
  | fuel + 1, p, rest => do
    let (more, stop, rest) ← pieces fuel rest
    return (p :: more, stop, rest)

/-- Reads a condition with what depends on it. -/
def condition : Nat → List Lexeme → List Chunk → Outcome (Piece × List Chunk)
  | 0, ts, _ => unexpected ts
  | fuel + 1, ts, rest => do
    let e ← wholeExpression ts
    let (yes, stop, rest) ← pieces fuel rest
    match stop with
    | [⟨.name "else", _⟩] => do
      let (no, _, rest) ← pieces fuel rest
      return (.either e yes no, rest)
    | ⟨.name "elif", _⟩ :: ts => do
      let (no, rest) ← condition fuel ts rest
      return (.either e yes [no], rest)
    | _ => return (.either e yes [], rest)

end

/-- Reads a template. -/
def parse (source : String) : Outcome (List Piece) := do
  let cs ← chunks (source.length + 1) 1 true [] source.toList
  let (ps, _, _) ← pieces (3 * cs.length + 3) cs
  return ps

/-- Renders a template that is written as text. -/
def renderText (name source : String) (context : List (String × Json)) : Except Failure String :=
  match parse source with
  | .ok ps => render name ps context
  | .error fault => .error (.unrenderable name (fault.message name))

end Clusterwright.Template
