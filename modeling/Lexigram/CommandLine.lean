import Lexigram.Block
import Lexigram.Grammar.Display
import Lexigram.Loader

/-!
# The command line

`CommandLine.run` is the whole program: from the arguments, a tree of files and the standard input
to what is printed and the exit code. It loads a grammar, processes a text with it and prints what
the arguments ask for, or it answers a question about itself.
-/

namespace Lexigram.CommandLine

/-! ## Arguments -/

/-- What the arguments ask for. -/
structure Arguments where
  /-- A grammar file, or the id of a grammar. -/
  grammar : String
  /-- The file with the text; without it the standard input is the text. -/
  input : Option String
  /-- The directories in which grammars are looked up. -/
  directories : List String
  tokens : Bool
  trivia : Bool
  tree : Bool
  rules : Bool
  events : Bool
  retokenize : Bool
  rangeCap : Option Nat
  maxDepth : Nat
  logLevel : Option String
  deriving DecidableEq, Repr

/-- A question about the program itself. -/
inductive Question where
  | help | version
  deriving DecidableEq, Repr

/-- An argument that begins with hyphens, by its long name, or one that stands for itself. -/
inductive Item where
  | flag (name : String)
  | option (name value : String)
  | question (q : Question)
  | positional (value : String)
  deriving DecidableEq, Repr

/-- What the program is asked to do. -/
inductive Request where
  | process (a : Arguments)
  | answer (q : Question)
  deriving DecidableEq, Repr

/-- The names of the arguments that take no value. -/
def flagNames : List String := ["tokens", "trivia", "tree", "rules", "events", "no-retokenize"]

/-- The names of the arguments that take a value. -/
def optionNames : List String := ["include", "range-cap", "max-depth", "log-level"]

/-- Takes the value of an option from the arguments behind it. It may not look like an option. -/
def takeValue? (name : String) : List String → Option (Item × List String)
  | [] => none
  | value :: rest =>
    if value.startsWith "-" && value != "-" then none else some (.option name value, rest)

/-- Reads an argument with two hyphens in front, which are left out of `name`. What stands behind a
question is not read. -/
def readLong? (name : String) (rest : List String) : Option (Item × List String) :=
  match name.splitOn "=" with
  | [] | [_] =>
    if flagNames.contains name then some (.flag name, rest)
    else if optionNames.contains name then takeValue? name rest
    else if name = "help" then some (.question .help, [])
    else if name = "version" then some (.question .version, [])
    else none
  | key :: value =>
    if optionNames.contains key then some (.option key ("=".intercalate value), rest) else none

/-- Reads an argument with one hyphen in front. There is one such option, whose value may follow it
directly, and two questions. -/
def readShort? (letters : List Char) (rest : List String) : Option (Item × List String) :=
  match letters with
  | 'h' :: _ => some (.question .help, [])
  | 'V' :: _ => some (.question .version, [])
  | ['I'] => takeValue? "include" rest
  | 'I' :: '=' :: value => some (.option "include" (String.ofList value), rest)
  | 'I' :: value => some (.option "include" (String.ofList value), rest)
  | _ => none

/-- Reads the first of some arguments. -/
def readItem? (arg : String) (rest : List String) : Option (Item × List String) :=
  match arg.toList with
  | '-' :: '-' :: name => readLong? (String.ofList name) rest
  | ['-'] => some (.positional arg, rest)
  | '-' :: letters => readShort? letters rest
  | _ => some (.positional arg, rest)

theorem length_takeValue? {name : String} {args rest : List String} {item : Item}
    (h : takeValue? name args = some (item, rest)) : rest.length ≤ args.length := by
  unfold takeValue? at h
  split at h
  · simp at h
  · split at h
    · simp at h
    · obtain ⟨-, rfl⟩ := Prod.mk.inj (Option.some.inj h)
      simp

theorem length_readLong? {name : String} {args rest : List String} {item : Item}
    (h : readLong? name args = some (item, rest)) : rest.length ≤ args.length := by
  unfold readLong? at h
  split at h
  iterate 2
    split at h
    · obtain ⟨-, rfl⟩ := Prod.mk.inj (Option.some.inj h)
      exact Nat.le_refl _
    · split at h
      · exact length_takeValue? h
      · split at h
        · obtain ⟨-, rfl⟩ := Prod.mk.inj (Option.some.inj h)
          exact Nat.zero_le _
        · split at h
          · obtain ⟨-, rfl⟩ := Prod.mk.inj (Option.some.inj h)
            exact Nat.zero_le _
          · simp at h
  · split at h
    · obtain ⟨-, rfl⟩ := Prod.mk.inj (Option.some.inj h)
      exact Nat.le_refl _
    · simp at h

theorem length_readShort? {letters : List Char} {args rest : List String} {item : Item}
    (h : readShort? letters args = some (item, rest)) : rest.length ≤ args.length := by
  unfold readShort? at h
  split at h
  iterate 2
    · obtain ⟨-, rfl⟩ := Prod.mk.inj (Option.some.inj h)
      exact Nat.zero_le _
  · exact length_takeValue? h
  iterate 2
    · obtain ⟨-, rfl⟩ := Prod.mk.inj (Option.some.inj h)
      exact Nat.le_refl _
  · simp at h

theorem length_readItem? {arg : String} {args rest : List String} {item : Item}
    (h : readItem? arg args = some (item, rest)) : rest.length ≤ args.length := by
  unfold readItem? at h
  split at h
  · exact length_readLong? h
  · obtain ⟨-, rfl⟩ := Prod.mk.inj (Option.some.inj h)
    exact Nat.le_refl _
  · exact length_readShort? h
  · obtain ⟨-, rfl⟩ := Prod.mk.inj (Option.some.inj h)
    exact Nat.le_refl _

/-- Reads the arguments one by one. Behind two hyphens alone all of them stand for themselves. -/
def items? (args : List String) : Option (List Item) :=
  match args with
  | [] => some []
  | arg :: rest =>
    if arg = "--" then some (rest.map .positional)
    else
      match _hi : readItem? arg rest with
      | some (item, rest) => (items? rest).map (item :: ·)
      | none => none
termination_by args.length
decreasing_by exact Nat.lt_succ_of_le (length_readItem? _hi)

/-- The values that some items give an option. -/
def valuesOf (items : List Item) (name : String) : List String :=
  items.filterMap fun
    | .option n value => if n = name then some value else none
    | _ => none

/-- Whether a flag is set. It may be set only once. -/
def flagOf? (items : List Item) (name : String) : Option Bool :=
  match items.count (.flag name) with
  | 0 => some false
  | 1 => some true
  | _ => none

/-- The value of an option, if it is given. It may be given only once. -/
def valueOf? (items : List Item) (name : String) : Option (Option String) :=
  match valuesOf items name with
  | [] => some none
  | [value] => some (some value)
  | _ => none

/-- The number that a text writes in decimal digits, behind a plus sign or not, if it fits in 64
bits. -/
def numberOf? (s : String) : Option Nat :=
  let digits :=
    match s.toList with
    | '+' :: ds => ds
    | ds => ds
  if digits.isEmpty || !digits.all Text.isAsciiDigit then none
  else
    let n := Text.ofDecimal digits
    if n ≤ Quantifier.unbounded then some n else none

/-- The number that an option is given, if it is given. -/
def numberValueOf? (items : List Item) (name : String) : Option (Option Nat) := do
  match ← valueOf? items name with
  | some value => some <$> numberOf? value
  | none => some none

/-- What some arguments ask for, unless they are not understood. Where they ask a question, no
grammar needs to be named. -/
def Request.ofArgs? (args : List String) : Option Request := do
  let items ← items? args
  let question := items.findSome? fun
    | .question q => some q
    | _ => none
  let positionals := items.filterMap fun
    | .positional value => some value
    | _ => none
  let (grammar, input) ←
    match positionals with
    | [] => question.map fun _ => ("", none)
    | [grammar] => some (grammar, none)
    | [grammar, input] => some (grammar, some input)
    | _ => none
  let directories := valuesOf items "include"
  if input = some "" || directories.contains "" then none
  else
    let a : Arguments :=
      { grammar
        input
        directories
        tokens := ← flagOf? items "tokens"
        trivia := ← flagOf? items "trivia"
        tree := ← flagOf? items "tree"
        rules := ← flagOf? items "rules"
        events := ← flagOf? items "events"
        retokenize := !(← flagOf? items "no-retokenize")
        rangeCap := ← numberValueOf? items "range-cap"
        maxDepth := (← numberValueOf? items "max-depth").getD 32
        logLevel := ← valueOf? items "log-level" }
    some (question.elim (.process a) .answer)

/-! ## Notices -/

/-- The threshold that a text names, in letters of either case. -/
def threshold? (s : String) : Option (Option Level) :=
  match s.map Char.toLower with
  | "off" => some none
  | "error" => some (some .error)
  | "warn" => some (some .warn)
  | "info" => some (some .info)
  | "debug" => some (some .debug)
  | "trace" => some (some .trace)
  | _ => none

/-- A notice as a line. Those that are of use to developers only also name their origin. -/
def noticeLine (n : Notice) : String :=
  let origin := match n.origin? with
    | some name => s!"(1) {name}: "
    | none => ""
  s!" [{n.level.render}] {origin}{n.message}\n"

/-- The lines of the notices that are shown at some threshold. -/
def noticeLines (threshold : Option Level) (notices : List Notice) : String :=
  match threshold with
  | none => ""
  | some level =>
    String.join ((notices.filter fun n => n.level.rank ≤ level.rank).map noticeLine)

/-! ## Running -/

/-- What a run of the program leaves. -/
structure Outcome where
  code : Nat
  out : String
  err : String
  deriving DecidableEq, Repr

/-- A text with blanks in front of every line but the first. -/
def indented (width : Nat) (s : String) : String :=
  ("\n" ++ String.ofList (List.replicate width ' ')).intercalate (s.splitOn "\n")

/-- The line about one of several causes, behind its number, which is set to the right. -/
def causeLine (i : Nat) (cause : String) : String :=
  let number := toString i
  let margin := String.ofList (List.replicate (5 - number.length) ' ')
  s!"\n{margin}{number}: {indented 7 cause}"

/-- The lines about a failure: what failed, and the causes behind it. -/
def failureLines (message : String) (causes : List String) : String :=
  let causeLines :=
    match causes with
    | [] => ""
    | [cause] => s!"\n\nCaused by:\n    {indented 4 cause}"
    | causes => "\n\nCaused by:" ++ String.join (causes.mapIdx causeLine)
  s!"error: {message}{causeLines}\n"

/-- A failure: what failed, and the causes behind it. -/
abbrev Failure := String × List String

/-- The failure that is a loading error by itself. -/
def failureOf (e : LoadError) : Failure :=
  match e.messages with
  | message :: causes => (message, causes)
  | [] => ("", [])

/-- The directories in which grammars are looked up. What a grammar file imports is looked up in the
directory of the file before all others. -/
def searchPath (fs : Files) (a : Arguments) : List String :=
  if fs.isFile a.grammar then
    let directory := Path.directory a.grammar
    (if directory.isEmpty then "." else directory) :: a.directories
  else if a.directories.isEmpty then ["."]
  else a.directories

/-- Loads the grammar: from the file that the arguments name, or else by id. -/
def loadGrammar (fs : Files) (a : Arguments) : Noted (Except Failure Grammar) := do
  let settings : Settings := { cap := a.rangeCap.getD Quantifier.unbounded }
  let library := Library.ofFiles fs (searchPath fs a)
  if fs.isFile a.grammar then
    match Library.readFile fs a.grammar with
    | .error e => pure (.error (failureOf e))
    | .ok text => do
      let (r, _) ← Loader.loadText library settings [] text
      pure (r.mapError fun e => (s!"failed to load grammar from `{a.grammar}`", e.messages))
  else
    let (r, _) ← Loader.load library settings [] a.grammar
    pure (r.mapError fun e => (s!"failed to load grammar `{a.grammar}`", e.messages))

/-- The files that a run may read, as far as the ones at hand tell: the two that the arguments name,
and those that may hold a grammar which the arguments or a document at hand name. -/
def wanted (fs : Files) (a : Arguments) : List String :=
  let parents := fs.texts.filterMap fun text =>
    (Document.read text.toList).toOption.bind Document.parent
  a.grammar :: a.input.toList ++
    (a.grammar :: parents).flatMap fun id => (searchPath fs a).flatMap (Library.candidates id)

/-- Reads the text. -/
def readInput (fs : Files) (stdin : ByteArray) (a : Arguments) : Except Failure String :=
  match a.input with
  | some path => (Library.readFile fs path).mapError failureOf
  | none => (decodeText stdin).mapError fun e => ("failed to read stdin", [e.message])

/-- What is printed of a block when tokens or trees are asked for. -/
def blockLines (nodes : Array Node) (a : Arguments) (b : Block) : String :=
  b.title ++ "\n" ++ (if a.tokens then b.stream.render a.trivia else "") ++
    (if a.tree then String.join ((b.tree.lines nodes 0).map (· ++ "\n")) else "") ++ "\n"

/-- What is printed of a processed text. -/
def resultLines (g : Grammar) (a : Arguments) (b : Block) (events : List Event) : String :=
  let nodes := g.nodes.toArray
  (if a.events then String.join (events.map fun e => e.render ++ "\n") ++ "\n" else "") ++
    if a.tokens || a.tree then String.join (b.walk.map (blockLines nodes a))
    else b.render nodes true

/-- The notices about a grammar that is ready. -/
def loadedNotices (g : Grammar) : List Notice :=
  .loaded g.name g.lexerRules.length g.parserRules.length ::
    if g.hasErrors then [.incomplete] else []

/-- Runs the program with understood arguments and a threshold for notices. -/
def runWith (fs : Files) (stdin : ByteArray) (a : Arguments) (threshold : Option Level) : Outcome :=
  let loaded := loadGrammar fs a
  let shown := noticeLines threshold loaded.notices
  match loaded.value with
  | .error (message, causes) => ⟨1, "", shown ++ failureLines message causes⟩
  | .ok g =>
    let shown := shown ++ noticeLines threshold (loadedNotices g)
    let rules := if a.rules then g.render ++ "\n" else ""
    match readInput fs stdin a with
    | .error (message, causes) => ⟨1, rules, shown ++ failureLines message causes⟩
    | .ok text =>
      let o : Block.Options := { retokenize := a.retokenize, maxDepth := a.maxDepth }
      let processed := Block.process g o 0 text.toList 0
      let (block, events) := processed.value
      ⟨0, rules ++ resultLines g a block events,
        shown ++ noticeLines threshold processed.notices⟩

/-- The arguments as they are written. -/
def usage : String := "Usage: grit [OPTIONS] <GRAMMAR> [INPUT]\n"

/-- What each argument is for. -/
def helpLines : List String :=
  ["",
    "Arguments:",
    "  <GRAMMAR>  Grammar file, or the id of a grammar in the include directories",
    "  [INPUT]    Text to process, stdin is read when missing",
    "",
    "Options:",
    "  -I, --include <DIR>      Directory to look up grammars in, may be given more than once",
    "      --tokens             Print the tokens of every pass",
    "      --trivia             Include skipped matches when printing tokens",
    "      --tree               Print the syntax tree of every pass",
    "      --rules              Print the compiled rules",
    "      --events             Print lexer and parser notifications as they happen",
    "      --range-cap <N>      Maximum of a range quantifier written without one, such as " ++
      "`\x7b2,\x7d`",
    "      --no-retokenize      Do not run nested passes over retokenized tokens",
    "      --max-depth <N>      Deepest nesting of retokenized blocks [default: 32]",
    "      --log-level <LEVEL>  Log level, `RUST_LOG` is used when missing",
    "  -h, --help               Print help",
    "  -V, --version            Print version"]

/-- The answer to a question. -/
def Question.answer : Question → String
  | help => usage ++ String.join (helpLines.map (· ++ "\n"))
  | version => "grit-cli 0.1.0\n"

/-- Runs the program. `ambient` is the environment variable that gives the threshold for notices
where the arguments do not. -/
def run (fs : Files) (ambient : Option String) (stdin : ByteArray) (args : List String) :
    Outcome :=
  match Request.ofArgs? args with
  | none => ⟨2, "", usage⟩
  | some (.answer q) => ⟨0, q.answer, ""⟩
  | some (.process a) =>
    let name := (a.logLevel.or ambient).getD "WARN"
    match threshold? name with
    | none => ⟨1, "", failureLines s!"unknown log level `{name}`" []⟩
    | some threshold => runWith fs stdin a threshold

end Lexigram.CommandLine
