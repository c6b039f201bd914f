import Lexigram.Diagnostic
import Lexigram.Token

/-!
# Notices

While grammars are built and texts are read, notices say what happens. They have no influence on
the results: `Noted` carries them beside a value.
-/

namespace Lexigram

/-- How much a notice matters, the gravest first. -/
inductive Level where
  | error | warn | info | debug | trace
  deriving DecidableEq, Repr

namespace Level

/-- Larger for the less grave. -/
def rank : Level → Nat
  | error => 1
  | warn => 2
  | info => 3
  | debug => 4
  | trace => 5

/-- The level as it is named in front of a notice. -/
def render : Level → String
  | error => "ERROR"
  | warn => "WARN"
  | info => "INFO"
  | debug => "DEBUG"
  | trace => "TRACE"

end Level

/-- Something worth mentioning. -/
inductive Notice where
  | diagnosed (d : Diagnostic)
  /-- A rule takes the place of one that was inherited. -/
  | overridden (id : String)
  | building (name : String) (rules : Nat)
  /-- A grammar was found under another id than the name it gives itself. -/
  | misnamed (id name : String)
  /-- A grammar is ready, with so many lexer and parser rules. -/
  | loaded (name : Option String) (lexerRules parserRules : Nat)
  /-- The grammar lacks rules that could not be compiled. -/
  | incomplete
  /-- No lexer rule matches at a byte of the outermost text. -/
  | unlexed (pos : Nat)
  | unparsed (index : Nat) (token : Token)
  /-- The delimiters of a token that should be read again do not fit. -/
  | undelimited (token : Token)
  /-- A token is not read again because it is nested too deeply. -/
  | tooDeep (limit : Nat) (token : Token)
  /-- A rule is entered again where it was entered already. -/
  | reentered (id : String) (pos : Nat)
  /-- Units are read from or up to a position inside a unit or behind the last one. -/
  | torn (pos : Nat)
  /-- Units are read up to a position in front of the one from which they are read. -/
  | reversed (start stop : Nat)
  /-- An attempt that begins at a position is added to one that ends elsewhere so far. -/
  | misplaced (start stop : Nat)
  /-- It is said a second time how an attempt came out. -/
  | resettled
  deriving DecidableEq, Repr

namespace Notice

def level : Notice → Level
  | diagnosed d => if d.isError then .error else .warn
  | misnamed _ _ | tooDeep _ _ | incomplete => .warn
  | loaded _ _ _ => .info
  | overridden _ | building _ _ | unlexed _ | unparsed _ _ | undelimited _ => .debug
  | reentered _ _ => .trace
  | torn _ | reversed _ _ | misplaced _ _ | resettled => .error

/-- The text of a notice. -/
def message : Notice → String
  | diagnosed d => d.render
  | overridden id => s!"rule `{id}` overrides the inherited definition"
  | building name rules => s!"building grammar `{name}` with {rules} rules"
  | misnamed id name => s!"grammar `{id}` declares itself as `{name}`"
  | loaded name lexerRules parserRules =>
    let name := name.getD "<unnamed>"
    s!"loaded grammar {name} with {lexerRules} lexer and {parserRules} parser rules"
  | incomplete => "some rules could not be compiled and were left out of the grammar"
  | unlexed pos => s!"no lexer rule matched at {pos}"
  | unparsed index token => s!"no parser rule matched at token {index}: {token.render}"
  | undelimited token => s!"cannot strip delimiters of {token.render}, not retokenizing"
  | tooDeep limit token => s!"Retokenization depth limit of {limit} reached at {token.render}"
  | reentered id pos => s!"rule `{id}` re-entered at {pos} without consuming input"
  | torn pos => s!"position {pos} is inside a unit or behind the last one"
  | reversed start stop => s!"units are read from {start} up to {stop}"
  | misplaced start stop => s!"an attempt at {start} was added at {stop}"
  | resettled => "Match state was already settled"

/-- The part of the program that a notice for developers names as its origin. -/
def origin? : Notice → Option String
  | overridden _ => some "grit_grammar::grammar"
  | building _ _ => some "grit_grammar::loader"
  | unlexed _ => some "grit_runtime::lexer"
  | unparsed _ _ => some "grit_runtime::parser"
  | undelimited _ => some "grit_runtime::engine"
  | reentered _ _ => some "grit_runtime::matcher"
  | _ => none

/-- Whether units were read between positions that bound none, which leaves no answer. -/
def isTorn : Notice → Bool
  | torn _ | reversed _ _ => true
  | _ => false

/-- Whether a rule was to be entered again where it was entered already. -/
def isReentry : Notice → Bool
  | reentered _ _ => true
  | _ => false

/-- Whether something happened that must never happen. -/
def isFault : Notice → Bool
  | torn _ | reversed _ _ | misplaced _ _ | resettled => true
  | _ => false

end Notice

/-- A value with the notices that were left on the way to it. -/
@[ext] structure Noted (α : Type) where
  value : α
  notices : List Notice

namespace Noted

instance : Monad Noted where
  pure a := ⟨a, []⟩
  bind x f := ⟨(f x.value).value, x.notices ++ (f x.value).notices⟩

@[simp] theorem value_pure {α : Type} (a : α) : (pure a : Noted α).value = a := rfl

@[simp] theorem value_bind {α β : Type} (x : Noted α) (f : α → Noted β) :
    (x >>= f).value = (f x.value).value := rfl

@[simp] theorem notices_pure {α : Type} (a : α) : (pure a : Noted α).notices = [] := rfl

@[simp] theorem notices_bind {α β : Type} (x : Noted α) (f : α → Noted β) :
    (x >>= f).notices = x.notices ++ (f x.value).notices := rfl

instance : LawfulMonad Noted :=
  LawfulMonad.mk' Noted
    (fun x => by ext1 <;> simp [Functor.map])
    (fun _ _ => by ext1 <;> simp)
    (fun _ _ _ => by ext1 <;> simp)

/-- Changes the value. -/
def map {α β : Type} (x : Noted α) (f : α → β) : Noted β := ⟨f x.value, x.notices⟩

/-- A notice without a value. -/
def note (n : Notice) : Noted Unit := ⟨(), [n]⟩

/-- A notice that is left only where a condition fails. -/
def expect (p : Prop) [Decidable p] (n : Notice) : Noted Unit := if p then pure () else note n

theorem expect_of_true {p : Prop} [Decidable p] (h : p) (n : Notice) : expect p n = pure () :=
  if_pos h

end Noted

end Lexigram
