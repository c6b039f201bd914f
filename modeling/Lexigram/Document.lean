import Lexigram.Document.Attributes
import Lexigram.Document.Statement
import Lexigram.Grammar

/-!
# Grammar documents

A document opens with the name of its grammar, as in `grammar Calc;`. It may name one parent grammar
in the same way, behind the word `import`, and it declares rules: an id, perhaps attributes in
braces, a colon and the body, as in `NUM: DIGIT+;`. The word `fragment` in front of the id gives the
rule the option of that name.
-/

namespace Lexigram

/-- A grammar as it is written down. -/
structure Document where
  name : String
  /-- The name of the imported grammar. -/
  parent : Option String := none
  rules : List Definition := []
  deriving DecidableEq, Repr

namespace Document

/-! ## Statements by form -/

/-- Whether a name may begin with a character. -/
def isNameStart (c : Char) : Bool := c.isAlpha || c == '_'

/-- Whether a text is the name of a grammar. -/
def isGrammarName : List Char → Bool
  | [] => false
  | c :: s => isNameStart c && s.all fun c => Text.isWord c || c == '.' || c == '-'

/-- The text behind a keyword and the blanks that have to follow it. -/
def behindKeyword? (keyword s : List Char) : Option (List Char) :=
  if keyword.isPrefixOf s then
    match s.drop keyword.length with
    | c :: rest => if Text.isBlank c then some (Text.trimStart rest) else none
    | [] => none
  else none

/-- The grammar name that a statement consists of, behind a keyword. -/
def nameBehind? (keyword s : List Char) : Option String :=
  (behindKeyword? keyword s).bind fun name =>
    if isGrammarName name then some (String.ofList name) else none

/-- A declaration of a rule, taken apart. -/
structure Declaration where
  id : List Char
  /-- The attributes with their braces, if there are any. -/
  attributes : Option (List Char)
  body : List Char
  deriving DecidableEq, Repr

/-- The text behind a colon that only blanks precede. -/
def behindColon? (s : List Char) : Option (List Char) :=
  match Text.trimStart s with
  | ':' :: body => some body
  | _ => none

/-- Splits a text behind the first closing brace that a colon follows, and at the colon. -/
def splitBraces? : List Char → Option (List Char × List Char)
  | [] => none
  | c :: s =>
    match if c = '\x7d' then behindColon? s else none with
    | some body => some ([c], body)
    | none => (splitBraces? s).map fun (braces, body) => (c :: braces, body)

/-- Takes a declaration apart that does not begin with the keyword for fragments. -/
def splitRule? (s : List Char) : Option Declaration :=
  match s with
  | c :: t =>
    if isNameStart c then
      let id := c :: t.takeWhile Text.isWord
      match Text.trimStart (t.dropWhile Text.isWord) with
      | '\x7b' :: u =>
        (splitBraces? u).map fun (braces, body) => ⟨id, some ('\x7b' :: braces), body⟩
      | ':' :: body => some ⟨id, none, body⟩
      | _ => none
    else none
  | [] => none

/-- Takes a declaration apart, and says whether it is marked as a fragment. -/
def splitDeclaration? (s : List Char) : Option (Bool × Declaration) :=
  (((behindKeyword? "fragment".toList s).bind splitRule?).map (true, ·)).or
    ((splitRule? s).map (false, ·))

/-- The definition that a declaration makes. -/
def Declaration.toDefinition (d : Declaration) (isFragment : Bool) :
    Except CompileError Definition := do
  let id := String.ofList d.id
  let attributes ←
    match d.attributes with
    | none => pure {}
    | some text =>
      match Attributes.read? text with
      | some a => pure a
      | none => throw (.invalidAttributes id)
  let options := attributes.options
  pure
    { id
      body := String.ofList (Text.trim d.body)
      order := attributes.order
      categories := attributes.categories
      options :=
        if isFragment && !options.contains "fragment" then options ++ ["fragment"] else options }

/-! ## Documents -/

/-- Adds a statement behind the header to a document. -/
def addStatement (d : Document) (s : Statement) : Except CompileError Document :=
  if "import".toList.isPrefixOf s.text && !s.text.contains ':' then
    match nameBehind? "import".toList s.text with
    | none => .error (.malformedDeclaration s.line .importNameExpected)
    | some parent =>
      if d.parent.isSome then .error (.malformedDeclaration s.line .secondImport)
      else .ok { d with parent }
  else
    match splitDeclaration? s.text with
    | none => .error (.malformedDeclaration s.line .ruleExpected)
    | some (isFragment, declaration) => do
      let rule ← declaration.toDefinition isFragment
      .ok { d with rules := d.rules ++ [rule] }

/-- The document that some statements make. -/
def ofStatements : List Statement → Except CompileError Document
  | [] => .error .missingHeader
  | header :: rest =>
    match nameBehind? "grammar".toList header.text with
    | none => .error .missingHeader
    | some name => rest.foldlM addStatement { name }

/-- Reads a document. -/
def read (src : List Char) : Except CompileError Document := do
  ofStatements (← statements src)

end Document

end Lexigram
