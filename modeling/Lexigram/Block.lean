import Lexigram.Delimiters
import Lexigram.Event
import Lexigram.Lexing
import Lexigram.Parsing

/-!
# Blocks

To process a text is to lex and parse it, and then to do the same for the inside of every grouped
token whose rule asks for that. A `Block` holds the outcome for one text, with the blocks of its
tokens nested in it.
-/

namespace Lexigram

/-- The outcome for one text. -/
structure Block where
  /-- Where the text begins in the outermost text. -/
  offset : Nat
  /-- How deep the text is nested. -/
  depth : Nat
  stream : TokenStream
  steps : List Parsing.Step
  nested : List Block

namespace Block

/-- How texts are processed. -/
structure Options where
  /-- Whether tokens are read again. -/
  retokenize : Bool := true
  /-- How deep texts may be nested. -/
  maxDepth : Nat := 32
  deriving DecidableEq, Repr

/-- The syntax tree of the tokens. -/
def tree (b : Block) : SyntaxTree Token := Parsing.treeOf b.steps

/-- The rule that grouped each token. -/
def groupings (b : Block) : List (Option Rule) := Parsing.groupings b.steps

/-- The byte length of the text. -/
def length (b : Block) : Nat := Text.byteLength b.stream.text

/-- The event of a token. -/
def tokenEvent (t : Token) : Event := if t.unmatched then .unmatched t else .token t

/-- The event of a lexeme, if it leaves one: nothing is told of a match that is to be skipped. -/
def lexemeEvent? (l : Lexing.Lexeme) : Option Event :=
  if l.token.unmatched || !l.skipped then some (tokenEvent l.token) else none

/-- What processing a text leaves: its block, and the events in their order. -/
abbrev Processed := Noted (Block × List Event)

/-- Processes the inside of a token. It is given as `again` how to process a text that begins at
some offset; that is missing where texts may not be nested more deeply. -/
def retokenize (o : Options) (again : Option (List Char → Nat → Processed)) (t : Token) :
    Noted (Option (Block × List Event)) :=
  match Delimiters.strip? t.value with
  | none => do
    Noted.note (.undelimited t)
    pure none
  | some inside =>
    match again with
    | none => do
      Noted.note (.tooDeep o.maxDepth t)
      pure none
    | some process => some <$> process inside (t.span.start + 1)

/-- The events of a step, with those of the texts inside its tokens, and the blocks of these. -/
def finishStep (o : Options) (again : Option (List Char → Nat → Processed)) (step : Parsing.Step) :
    Noted (List Block × List Event) :=
  match step with
  | .skipped t => pure ([], [.skipped t])
  | .group _ tree => do
    let marked := if o.retokenize then tree.units.filter (·.hasOption "retokenize") else []
    let inner ← marked.filterMapM (retokenize o again)
    pure (inner.map Prod.fst, .grouped tree.rule tree.units :: inner.flatMap Prod.snd)

/-- Processes a text that begins at some offset and is nested at some depth. -/
def process (g : Grammar) (o : Options) (depth : Nat) (text : List Char) (offset : Nat) :
    Processed := do
  let lexemes ← Lexing.lexemesFrom g (.ofUnits text) offset 0
  let stream := TokenStream.ofLexemes text offset lexemes
  let again :=
    if _hd : depth < o.maxDepth then
      some fun inside offset => process g o (depth + 1) inside offset
    else none
  let steps ← (Parsing.stepsOf g stream.tokens).mapM fun step => do
    let step ← step
    pure (step, ← finishStep o again step)
  let block : Block :=
    { offset
      depth
      stream
      steps := steps.map Prod.fst
      nested := steps.flatMap fun s => s.2.1 }
  pure
    (block,
      .entered offset (Text.byteLength text) depth :: lexemes.filterMap lexemeEvent? ++
        steps.flatMap fun s => s.2.2)
termination_by o.maxDepth - depth

mutual

/-- A block and all blocks nested in it, each before those in it. -/
def walk : Block → List Block
  | ⟨offset, depth, stream, steps, nested⟩ =>
    ⟨offset, depth, stream, steps, nested⟩ :: walkAll nested

/-- Some blocks and all blocks nested in them. -/
def walkAll : List Block → List Block
  | [] => []
  | b :: bs => walk b ++ walkAll bs

end

/-- The line that names a block. -/
def title (b : Block) : String := s!"block {b.offset}..{b.offset + b.length} depth {b.depth}"

/-- A block, without those nested in it, as it is shown in the outline of a text. -/
def renderOne (nodes : Array Node) (withTree : Bool) (b : Block) : String :=
  let indent := String.ofList (List.replicate (2 * b.depth) ' ')
  let tokens := b.stream.tokens.map fun t => indent ++ "  " ++ t.render
  let tree := if withTree then SyntaxTree.linesOfAll nodes (b.depth + 1) b.tree.children else []
  String.join (((indent ++ b.title) :: tokens ++ tree).map (· ++ "\n"))

/-- The outline of a text: its block and all blocks nested in it. -/
def render (nodes : Array Node) (withTree : Bool) (b : Block) : String :=
  String.join (b.walk.map (renderOne nodes withTree))

end Block

end Lexigram
