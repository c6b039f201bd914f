/-!
# Compile errors

The causes for which a rule body or a grammar document is refused, and the text of each.
-/

namespace Lexigram

/-- What is wrong with the body of a rule at some offset. -/
inductive BodyFault where
  | inputAfterTerminator
  | malformedCommand
  | emptyAlternative
  | atomExpectedAfterTilde
  | invertedLookahead
  | unexpectedCharacter
  | classExpectedAfterAnchor
  | invalidQuantifier
  | emptyLiteral
  | literalExpectedAfterRange
  | boundsNotSingle
  | emptyGroup
  | emptyLookahead
  | emptyId
  deriving DecidableEq, Repr

/-- The wording of a fault in a rule body. -/
def BodyFault.message : BodyFault → String
  | inputAfterTerminator => "Unexpected input after `;`"
  | malformedCommand => "Malformed command"
  | emptyAlternative => "Empty alternative"
  | atomExpectedAfterTilde => "Expected an atom after `~`"
  | invertedLookahead => "A lookahead cannot be inverted"
  | unexpectedCharacter => "Unexpected character"
  | classExpectedAfterAnchor => "Expected `[` or `.` after `^`"
  | invalidQuantifier => "Invalid quantifier"
  | emptyLiteral => "Empty literal"
  | literalExpectedAfterRange => "Expected a literal after `..`"
  | boundsNotSingle => "Character range bounds must be single characters"
  | emptyGroup => "Empty group"
  | emptyLookahead => "Empty lookahead"
  | emptyId => "Rule id must not be empty"

/-- What is wrong with a declaration of a grammar document. -/
inductive DeclarationFault where
  | unterminatedComment
  | unterminatedLiteral
  | unterminatedClass
  | missingTerminator
  | importNameExpected
  | secondImport
  | ruleExpected
  deriving DecidableEq, Repr

/-- The wording of a fault in a declaration. -/
def DeclarationFault.message : DeclarationFault → String
  | unterminatedComment => "Unterminated block comment"
  | unterminatedLiteral => "Unterminated literal"
  | unterminatedClass => "Unterminated character class"
  | missingTerminator => "Missing `;`"
  | importNameExpected => "Expected a single grammar name after `import`"
  | secondImport => "Only one parent grammar can be imported"
  | ruleExpected => "Expected a rule declaration"

/-- Why a rule or a grammar document is refused. Offsets count bytes into the rule body. -/
inductive CompileError where
  | unmatchedParenthesis (rule : String) (offset : Nat)
  | unterminatedLiteral (rule : String) (offset : Nat)
  | unterminatedClass (rule : String) (offset : Nat)
  | invalidExpression (rule pattern : String)
  | malformedBody (rule : String) (offset : Nat) (fault : BodyFault)
  | emptyRule (rule : String)
  | fatalRecursion (rule : String)
  | missingHeader
  | malformedDeclaration (line : Nat) (fault : DeclarationFault)
  | invalidAttributes (rule : String)
  deriving DecidableEq, Repr

namespace CompileError

/-- The text of an error. -/
def message : CompileError → String
  | unmatchedParenthesis rule offset =>
    s!"unmatched parenthesis in rule `{rule}` at offset {offset}"
  | unterminatedLiteral rule offset => s!"unterminated literal in rule `{rule}` at offset {offset}"
  | unterminatedClass rule offset =>
    s!"unterminated character class in rule `{rule}` at offset {offset}"
  | invalidExpression rule pattern => s!"invalid expression `{pattern}` in rule `{rule}`"
  | malformedBody rule offset fault => s!"{fault.message} in rule `{rule}` at offset {offset}"
  | emptyRule rule => s!"rule `{rule}` has an empty definition"
  | fatalRecursion rule => s!"rule `{rule}` recurses into itself without consuming input"
  | missingHeader => "grammar document is missing its `grammar <name>;` header"
  | malformedDeclaration line fault => s!"malformed declaration on line {line}: {fault.message}"
  | invalidAttributes rule => s!"invalid attributes for rule `{rule}`"

/-- Whether only the offending rule is left out, so that the rest of the grammar still builds. -/
def isRecoverable : CompileError → Bool
  | fatalRecursion _ | emptyRule _ => true
  | _ => false

/-- The offset into the rule body that the error points at, if it points anywhere. -/
def offset? : CompileError → Option Nat
  | unmatchedParenthesis _ offset | unterminatedLiteral _ offset | unterminatedClass _ offset
  | malformedBody _ offset _ => some offset
  | _ => none

end CompileError

end Lexigram
