import Lexigram.Document
import Lexigram.Files
import Lexigram.Grammar.Builder
import Lexigram.Remaining

/-!
# Loading grammars

A grammar is loaded by reading its document and, before it is built, loading the grammar that it
imports. Documents are found by id in a `Library`. Loaded grammars are kept in a cache.

Loading ends: while the imports of a document are loaded its name is remembered, a name that comes
up again is refused, and a library has only finitely many documents.
-/

namespace Lexigram

/-- Why a grammar cannot be loaded. -/
inductive LoadError where
  | notFound (id : String)
  /-- The names of the grammars from the first to the one that comes up again. -/
  | cyclicImport (chain : List String)
  | unreadable (path : String) (cause : ReadFailure)
  | notCompiled (id : String) (cause : CompileError)
  deriving DecidableEq, Repr

namespace LoadError

/-- The text of an error, without its cause. -/
def message : LoadError → String
  | notFound id => s!"grammar `{id}` was not found"
  | cyclicImport chain => "grammar imports form a cycle: " ++ " -> ".intercalate chain
  | unreadable path _ => s!"failed to read `{path}`"
  | notCompiled id _ => s!"failed to compile grammar `{id}`"

/-- The text of an error, followed by that of its cause. -/
def messages (e : LoadError) : List String :=
  match e with
  | notFound _ | cyclicImport _ => [e.message]
  | unreadable _ cause => [e.message, cause.message]
  | notCompiled _ cause => [e.message, cause.message]

end LoadError

/-! ## Libraries -/

/-- Documents by id. There are finitely many of them. -/
structure Library where
  read : String → Except LoadError String
  texts : List String
  finite : ∀ id text, read id = .ok text → text ∈ texts

namespace Library

/-- The library of the documents in a list. -/
def ofList (documents : List (String × String)) : Library where
  read id :=
    match documents.lookup id with
    | some text => .ok text
    | none => .error (.notFound id)
  texts := documents.map Prod.snd
  finite id text h := by
    split at h
    · next hl =>
      cases h
      obtain ⟨_, _, he, -⟩ := List.lookup_eq_some_iff.1 hl
      simp [he]
    · simp at h

/-- Reads a file. -/
def readFile (fs : Files) (path : String) : Except LoadError String :=
  match fs.readText path with
  | .ok text => .ok text
  | .error cause => .error (.unreadable path cause)

/-- The files in which a directory may hold the document of an id: one named by the id, or one in a
directory that is named so. -/
def candidates (id dir : String) : List String :=
  let file := Path.join dir (id ++ ".grammar")
  [file, Path.join file "grammar.g"]

/-- The file in which directories hold the document of an id. -/
def findFile? (fs : Files) (dirs : List String) (id : String) : Option String :=
  (dirs.flatMap (candidates id)).find? fs.isFile

/-- The library of the documents in some directories, of which the first that has a document
counts. -/
def ofFiles (fs : Files) (dirs : List String) : Library where
  read id :=
    match findFile? fs dirs id with
    | some path => readFile fs path
    | none => .error (.notFound id)
  texts := fs.texts
  finite id text h := by
    split at h
    · unfold readFile at h
      split at h
      · next hr =>
        cases h
        exact Files.mem_texts hr
      · simp at h
    · simp at h

/-- The names that documents give themselves. -/
def names (l : Library) : List String :=
  l.texts.filterMap fun text => (Document.read text.toList).toOption.map Document.name

theorem mem_names {l : Library} {id text : String} {d : Document} (ht : l.read id = .ok text)
    (hd : Document.read text.toList = .ok d) : d.name ∈ l.names :=
  List.mem_filterMap.2 ⟨text, l.finite id text ht, by rw [hd]; rfl⟩

end Library

/-! ## Loading -/

namespace Loader

/-- The grammars that were loaded, by the ids under which they were asked for. -/
abbrev Cache := List (String × Grammar)

/-- What loading leaves: the grammar or an error, and the cache. -/
abbrev Loaded := Noted (Except LoadError Grammar × Cache)

/-- Builds the grammar of a document, given that of its parent. -/
def assemble (settings : Settings) (parent : Option Grammar) (d : Document) :
    Noted (Except LoadError Grammar) := do
  Noted.note (.building d.name d.rules.length)
  let start : Builder :=
    match parent with
    | some g => .extending g
    | none => { settings }
  match { start with name := some d.name }.compileAll d.rules with
  | (b, .ok _) => .ok <$> b.build
  | (b, .error e) => ⟨.error (.notCompiled d.name e), b.notices⟩

/-- Builds the grammar of a document, given what loading its parent left. -/
def finish (settings : Settings) (d : Document)
    (parent : Except LoadError (Option Grammar) × Cache) : Loaded := do
  match parent with
  | (.error e, cache) => pure (.error e, cache)
  | (.ok parent, cache) => pure (← assemble settings parent d, cache)

/-- Puts a loaded grammar into the cache. -/
def remember (id : String) : Except LoadError Grammar × Cache → Except LoadError Grammar × Cache
  | (.ok g, cache) => (.ok g, (id, g) :: cache)
  | (.error e, cache) => (.error e, cache)

/-- Loads a grammar by id, while the imports of the documents in `pending` are being loaded,
which are named from the last to the first. -/
def loadWithin (l : Library) (settings : Settings) (pending : List String) (cache : Cache)
    (id : String) : Loaded := do
  match cache.lookup id with
  | some g => pure (.ok g, cache)
  | none =>
    match _ht : l.read id with
    | .error e => pure (.error e, cache)
    | .ok text =>
      match _hd : Document.read text.toList with
      | .error e => pure (.error (.notCompiled id e), cache)
      | .ok d => do
        if d.name != id then Noted.note (.misnamed id d.name)
        if _ho : d.name ∈ pending then
          pure (.error (.cyclicImport (d.name :: pending).reverse), cache)
        else
          let parent ←
            match d.parent with
            | none => pure (.ok none, cache)
            | some parent => do
              let (r, cache) ← loadWithin l settings (d.name :: pending) cache parent
              pure (r.map some, cache)
          remember id <$> finish settings d parent
termination_by remaining l.names pending
decreasing_by exact remaining_cons_lt (Library.mem_names _ht _hd) _ho

/-- Loads a grammar by id. -/
def load (l : Library) (settings : Settings) (cache : Cache) (id : String) : Loaded :=
  loadWithin l settings [] cache id

/-- The name under which a document is mentioned that was not found by id. -/
def inputName : String := "<input>"

/-- Builds the grammar of a document that is given as text. -/
def loadText (l : Library) (settings : Settings) (cache : Cache) (text : String) : Loaded := do
  match Document.read text.toList with
  | .error e => pure (.error (.notCompiled inputName e), cache)
  | .ok d => do
    let parent ←
      match d.parent with
      | none => pure (.ok none, cache)
      | some parent => do
        let (r, cache) ← loadWithin l settings [d.name] cache parent
        pure (r.map some, cache)
    finish settings d parent

end Loader

end Lexigram
