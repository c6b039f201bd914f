import Lexigram.Grammar.LeftRecursion
import Lexigram.Grammar.Linking
import Lexigram.Notice
import Lexigram.Rule.Reader

/-!
# Building grammars

A builder takes definitions one after the other, from nothing or from the rules of another grammar.
A definition that fails leaves the rules as they were. Building links the references and looks for
left recursion.
-/

namespace Lexigram

/-- A grammar that is being built. -/
structure Builder where
  name : Option String := none
  parent : Option String := none
  settings : Settings := {}
  blocks : List Rule := []
  rules : List Rule := []
  /-- The ids that this builder has defined itself. -/
  own : List String := []
  /-- The problems found so far, unless they were taken away. -/
  diagnostics : List Diagnostic := []
  /-- All that was noticed so far. -/
  notices : List Notice := []

namespace Builder

/-- A builder that starts from the rules of a grammar. -/
def extending (g : Grammar) : Builder :=
  { parent := g.name, settings := g.settings, blocks := g.blocks, rules := g.rules }

/-- Records problems. -/
def report (b : Builder) (ds : List Diagnostic) : Builder :=
  { b with
    diagnostics := b.diagnostics ++ ds
    notices := b.notices ++ ds.map .diagnosed }

/-! ## Compiling -/

/-- Whether alternatives are nothing but calls of the rule that they belong to, so that the rule
never consumes input. -/
def onlySelfCalls (id : String) : List (List Atom) → Bool
  | [] => true
  | [.reference m name] :: alternatives =>
    !m.inverted && name == id && onlySelfCalls id alternatives
  | [.group m _ _ inner] :: alternatives =>
    !m.inverted && !inner.isEmpty && onlySelfCalls id inner && onlySelfCalls id alternatives
  | _ :: _ => false

/-- Whether a rule with some alternatives is nothing but calls of itself. -/
def isFatallyRecursive (id : String) (alternatives : List (List Atom)) : Bool :=
  !alternatives.isEmpty && onlySelfCalls id alternatives

/-- The place of a whole definition in its problems. -/
def wholeBody (d : Definition) : Span := ⟨0, Text.byteLength d.body.toList⟩

/-- Reads the body of a definition. A cause for which only this rule is left out is a problem. -/
def bodyOf (b : Builder) (d : Definition) : Checked (List (List Atom) × Option Command) :=
  match Rule.readBody d.id b.settings.cap (Rule.nextHandle b.blocks) d.body.toList with
  | ⟨ds, .ok read⟩ => ⟨ds, .ok read⟩
  | ⟨ds, .error e⟩ =>
    ⟨if e.isRecoverable then ds ++ [.error d.id (wholeBody d) (.ruleSkipped e)] else ds, .error e⟩

/-- The rule that a definition stands for, as the builder is now. -/
def ruleOf (b : Builder) (d : Definition) : Checked Rule := do
  if d.id.isEmpty then .fail (.malformedBody d.id 0 .emptyId)
  else
    let (options, problems) := RuleOptions.ofTags (.ofId d.id) d.id d.options
    Checked.warn problems
    let kind :=
      if options.fragment && (RuleKind.ofId d.id).isLexer then .fragment else .ofId d.id
    let (alternatives, command) ← b.bodyOf d
    if isFatallyRecursive d.id alternatives then do
      Checked.warn [.error d.id (wholeBody d) .recursionSkipped]
      Checked.fail (.fatalRecursion d.id)
    else
      let skips := command.any fun c => c.name == "skip"
      pure
        { id := d.id
          kind
          handle := Rule.nextHandle b.blocks
          alternatives
          order := d.order.getD Rule.lastOrder
          categories := d.categories
          options := { options with skip := options.skip || skips }
          command }

/-- Some rules with one more, which takes the place of the one with its id. -/
def insertRule (rules : List Rule) (r : Rule) : List Rule :=
  if (Rule.findIn? rules r.id).isSome then rules.map fun s => if s.id == r.id then r else s
  else rules ++ [r]

/-- Adds a rule. -/
def insert (b : Builder) (r : Rule) : Builder :=
  let b' := { b with
    blocks := b.blocks ++ [r]
    rules := insertRule b.rules r
    own := r.id :: b.own }
  if (Rule.findIn? b.rules r.id).isNone then b'
  else if b.own.contains r.id then b'.report [.warning r.id .empty .duplicateDefinition]
  else { b' with notices := b'.notices ++ [.overridden r.id] }

/-- Compiles a definition and answers the handle of its rule. -/
def compile (b : Builder) (d : Definition) : Builder × Except CompileError Nat :=
  match b.ruleOf d with
  | ⟨ds, .ok r⟩ => ((b.report ds).insert r, .ok r.handle)
  | ⟨ds, .error e⟩ => (b.report ds, .error e)

/-- Compiles definitions in turn, up to the first that fails for a cause that is not recoverable. -/
def compileAll (b : Builder) : List Definition → Builder × Except CompileError Unit
  | [] => (b, .ok ())
  | d :: ds =>
    match b.compile d with
    | (b, .ok _) => compileAll b ds
    | (b, .error e) => if e.isRecoverable then compileAll b ds else (b, .error e)

/-! ## Building -/

/-- The rule that stands in for undefined ones. -/
def placeholder (handle : Nat) : Rule :=
  { id := Grammar.placeholderId, kind := .unknown, handle, alternatives := [] }

/-- Ends the building: the grammar, and all that was noticed. -/
def build (b : Builder) : Noted Grammar :=
  let b := b.report (Grammar.linkWarnings b.blocks b.rules)
  let b :=
    if Grammar.hasUnresolved b.blocks b.rules then
      { b with blocks := b.blocks ++ [placeholder (Rule.nextHandle b.blocks)] }
    else b
  let b := b.report (LeftRecursion.warnings b.rules)
  ⟨{ name := b.name
     parent := b.parent
     settings := b.settings
     blocks := b.blocks
     rules := b.rules
     diagnostics := b.diagnostics },
    b.notices⟩

end Builder

end Lexigram
