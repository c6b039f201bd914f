import Lexigram.Diagnostic

/-!
# Options of a rule

A rule carries options by name. Four of them have a meaning; all others are kept for whoever uses
the grammar.
-/

namespace Lexigram

/-- The options of a rule. -/
structure RuleOptions where
  /-- Matches are consumed without making a token. -/
  skip : Bool := false
  /-- The rule is never tried on its own. -/
  hidden : Bool := false
  /-- The inside of a token is lexed and parsed again. -/
  retokenize : Bool := false
  /-- The rule is for the use of other lexer rules. -/
  fragment : Bool := false
  /-- Options without a meaning of their own. -/
  extra : List String := []
  deriving DecidableEq, Repr

namespace RuleOptions

/-- The diagnostics of setting an option with a meaning: once is enough, and most are for lexer
rules only. -/
def settingProblems (kind : RuleKind) (rule tag : String) (present lexerOnly : Bool) :
    List Diagnostic :=
  (if present then [Diagnostic.warning rule .empty (.duplicateOption tag)] else []) ++
    if lexerOnly && !kind.isLexer then
      [Diagnostic.warning rule .empty (.unsupportedOption tag kind)]
    else []

/-- Adds an option by name. -/
def insert (kind : RuleKind) (rule : String) (o : RuleOptions) (tag : String) :
    RuleOptions × List Diagnostic :=
  match tag with
  | "skip" => ({ o with skip := true }, settingProblems kind rule tag o.skip true)
  | "retokenize" => ({ o with retokenize := true }, settingProblems kind rule tag o.retokenize true)
  | "fragment" => ({ o with fragment := true }, settingProblems kind rule tag o.fragment true)
  | "omit" => ({ o with hidden := true }, settingProblems kind rule tag o.hidden false)
  | "" => (o, [])
  | other =>
    ({ o with extra := o.extra ++ [other] },
      [Diagnostic.warning rule .empty (.unknownOption other)])

/-- The options named by some tags, with what is wrong with the tags. -/
def ofTags (kind : RuleKind) (rule : String) (tags : List String) : RuleOptions × List Diagnostic :=
  tags.foldl
    (fun (o, ds) tag => let (o, new) := insert kind rule o tag; (o, ds ++ new))
    ({}, [])

/-- Whether an option is set. -/
def contains (o : RuleOptions) (name : String) : Bool :=
  match name with
  | "skip" => o.skip
  | "omit" => o.hidden
  | "retokenize" => o.retokenize
  | "fragment" => o.fragment
  | other => o.extra.contains other

/-- The names of the options that are set. -/
def tags (o : RuleOptions) : List String :=
  (if o.skip then ["skip"] else []) ++ (if o.hidden then ["omit"] else []) ++
    (if o.retokenize then ["retokenize"] else []) ++ (if o.fragment then ["fragment"] else []) ++
    o.extra

end RuleOptions

end Lexigram
