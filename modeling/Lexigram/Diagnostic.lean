import Lexigram.CompileError
import Lexigram.Rule.Kind
import Lexigram.Span
import Lexigram.Text.Quoted

/-!
# Diagnostics

Problems that do not stop a grammar from being built are collected as diagnostics. `Checked` carries
them beside the result of a step that may also fail.
-/

namespace Lexigram

/-- How grave a problem is. -/
inductive Severity where
  | warning
  /-- A rule had to be left out. -/
  | error
  deriving DecidableEq, Repr

/-- The severity as it is named in messages. -/
def Severity.render : Severity → String
  | .warning => "warning"
  | .error => "error"

/-- What a diagnostic is about. -/
inductive Problem where
  | unknownEscape (c : Char)
  | duplicateOption (tag : String)
  | unsupportedOption (tag : String) (kind : RuleKind)
  | unknownOption (tag : String)
  | ruleSkipped (cause : CompileError)
  | recursionSkipped
  | duplicateDefinition
  | unknownRule (name : String)
  | parserRuleInLexer (name : String)
  | fragmentInParser (name : String)
  | leftRecursion (path : List String)
  /-- A remark in the words of whoever makes it. -/
  | remark (text : String)
  deriving DecidableEq, Repr

/-- The wording of a problem. -/
def Problem.message : Problem → String
  | unknownEscape c => s!"Unknown character escape '{String.ofList (Text.asciiEscaped c)}'"
  | duplicateOption tag => s!"Duplicate option `{tag}`"
  | unsupportedOption tag kind => s!"Option `{tag}` is not supported in {kind.render} rules"
  | unknownOption tag => s!"Unknown option `{tag}`"
  | ruleSkipped cause => s!"{cause.message}, skipping this rule"
  | recursionSkipped => "Rule recurses into itself without consuming input, skipping this rule"
  | duplicateDefinition => "Rule is defined more than once, the last definition wins"
  | unknownRule name => s!"Unknown rule `{name}`"
  | parserRuleInLexer name => s!"Lexer rule refers to parser rule `{name}`"
  | fragmentInParser name => s!"Fragment `{name}` is only usable from lexer rules"
  | leftRecursion path => "Detected left recursion: " ++ " -> ".intercalate path
  | remark text => text

/-- A problem found while a grammar is built. -/
structure Diagnostic where
  severity : Severity
  /-- The id of the rule in which the problem was found, if it was found in one. -/
  rule : Option String
  /-- Where in the rule body the problem is. -/
  span : Span
  problem : Problem
  deriving DecidableEq, Repr

namespace Diagnostic

/-- A warning about a rule. -/
def warning (rule : String) (span : Span) (problem : Problem) : Diagnostic :=
  ⟨.warning, some rule, span, problem⟩

/-- An error about a rule. -/
def error (rule : String) (span : Span) (problem : Problem) : Diagnostic :=
  ⟨.error, some rule, span, problem⟩

def isError (d : Diagnostic) : Bool := d.severity == .error

/-- A diagnostic on one line. -/
def render (d : Diagnostic) : String :=
  match d.rule with
  | some rule => s!"{d.severity.render}: {rule}@{d.span.render}: {d.problem.message}"
  | none => s!"{d.severity.render}: {d.problem.message}"

/-- The gravest severity among some diagnostics. -/
def worst? (ds : List Diagnostic) : Option Severity :=
  if ds.any isError then some .error
  else if ds.isEmpty then none
  else some .warning

end Diagnostic

/-- The outcome of a step that may fail, with the diagnostics that it left either way. -/
structure Checked (α : Type) where
  diagnostics : List Diagnostic
  result : Except CompileError α

namespace Checked

instance : Monad Checked where
  pure a := ⟨[], .ok a⟩
  bind x f :=
    match x.result with
    | .ok a => ⟨x.diagnostics ++ (f a).diagnostics, (f a).result⟩
    | .error e => ⟨x.diagnostics, .error e⟩

theorem result_bind_eq_ok {α β : Type} {x : Checked α} {f : α → Checked β} {b : β} :
    (x >>= f).result = .ok b ↔ ∃ a, x.result = .ok a ∧ (f a).result = .ok b := by
  obtain ⟨_, r⟩ := x
  cases r <;> simp [bind]

@[simp] theorem result_pure {α : Type} (a : α) : (pure a : Checked α).result = .ok a := rfl

/-- A step that fails. -/
def fail {α : Type} (e : CompileError) : Checked α := ⟨[], .error e⟩

@[simp] theorem result_fail {α : Type} (e : CompileError) :
    (fail e : Checked α).result = .error e := rfl

/-- A step that only leaves diagnostics. -/
def warn (ds : List Diagnostic) : Checked Unit := ⟨ds, .ok ()⟩

/-- A step that goes on after diagnostics. -/
def after {α : Type} (ds : List Diagnostic) (x : Checked α) : Checked α :=
  ⟨ds ++ x.diagnostics, x.result⟩

@[simp] theorem result_after {α : Type} (ds : List Diagnostic) (x : Checked α) :
    (after ds x).result = x.result := rfl

/-- A step without diagnostics. -/
def lift {α : Type} (r : Except CompileError α) : Checked α := ⟨[], r⟩

@[simp] theorem result_lift {α : Type} (r : Except CompileError α) : (lift r).result = r := rfl

end Checked

end Lexigram
