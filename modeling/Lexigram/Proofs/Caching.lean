import Lexigram.Proofs.Imports
import Mathlib

/-!
# What the cache of a loader changes

A loader that has loaded before answers as one that has not, but for one thing: where the other
takes documents of one name for a cycle, it may know the grammar already.

**What is in the cache** (`Loader.Sound`). Every grammar in it is that of the document under its id:
the documents on the way down to one that imports nothing, put together (`assembleAll`). Calls that
fail leave the cache as sound as it was.

**What is answered** (`Loader.Agrees`). By induction on the names that are left: what is built of a
document agrees if what is loaded for its import does.

**What is answered without a cache** (`built_of_ancestry`). By induction on the documents: their
grammar, unless a name comes up again.

Main result: `Loader.answer_eq_or_cyclicImport`.
-/

namespace Lexigram

/-! ## Documents that extend each other -/

namespace Library

/-- The documents from a document on, each of which imports the next, down to one that imports
nothing. -/
inductive Ancestry (l : Library) : Document → List Document → Prop
  | root {d : Document} : d.parent = none → Ancestry l d [d]
  | child {d p : Document} {k : String} {ds : List Document} : d.parent = some k →
      l.document k = .ok p → Ancestry l p ds → Ancestry l d (d :: ds)

end Library

namespace Loader

open Library (Ancestry)

/-- The grammar of some documents, each of which extends the next. -/
def assembleAll (settings : Settings) : List Document → Except LoadError (Option Grammar)
  | [] => .ok none
  | d :: ds => (assembleAll settings ds).bind fun g => (assemble settings g d).value.map some

variable {l : Library} {settings : Settings} {pending : List String} {cache : Cache} {id k : String}
variable {d p : Document} {ds : List Document} {g : Grammar}

theorem assembleAll_root (d : Document) :
    assembleAll settings [d] = (assemble settings none d).value.map some := rfl

/-- What extends the grammar of some documents is that of one document more. -/
theorem assembleAll_child {loaded : Except LoadError Grammar × Cache}
    (h : loaded.1.map some = assembleAll settings ds) (d : Document) :
    (extended settings d loaded).1.map some = assembleAll settings (d :: ds) := by
  rw [extended, assembleAll, ← h]
  cases loaded.1 <;> rfl

theorem map_some_injective :
    Function.Injective (Except.map some : Except LoadError Grammar → Except LoadError (Option _)) := by
  rintro (_ | _) (_ | _) h <;> cases h <;> rfl

/-! ## What is in the cache -/

/-- A grammar is that of a document and those that it extends. -/
def Makes (l : Library) (settings : Settings) (d : Document) (g : Grammar) : Prop :=
  ∃ ds, l.Ancestry d ds ∧ assembleAll settings ds = .ok (some g)

/-- Every grammar in a cache is that of the document under its id. -/
def Sound (l : Library) (settings : Settings) (cache : Cache) : Prop :=
  ∀ id g, cache.lookup id = some g → ∃ d, l.document id = .ok d ∧ Makes l settings d g

theorem Sound.nil : Sound l settings [] := by
  rintro id g ⟨⟩

theorem Sound.cons (h : Sound l settings cache) (hd : l.document id = .ok d)
    (hg : Makes l settings d g) : Sound l settings ((id, g) :: cache) := by
  intro id' g' hlookup
  rw [List.lookup_cons] at hlookup
  split at hlookup
  · next heq =>
    rw [beq_iff_eq.1 heq]
    obtain rfl := Option.some.inj hlookup
    exact ⟨d, hd, hg⟩
  · exact h id' g' hlookup

/-- Loading leaves a sound cache, and a grammar that it yields is that of the document. -/
def Keeps (l : Library) (settings : Settings) (document : Except LoadError Document)
    (loaded : Except LoadError Grammar × Cache) : Prop :=
  Sound l settings loaded.2 ∧
    ∀ g, loaded.1 = .ok g → ∃ d, document = .ok d ∧ Makes l settings d g

theorem Keeps.error {document : Except LoadError Document} {e : LoadError}
    (h : Sound l settings cache) : Keeps l settings document (.error e, cache) :=
  ⟨h, by rintro g ⟨⟩⟩

theorem Keeps.remember {loaded : Except LoadError Grammar × Cache} (hd : l.document id = .ok d)
    (h : Keeps l settings (.ok d) loaded) :
    Keeps l settings (l.document id) (remember id loaded) := by
  obtain ⟨_ | g, cache⟩ := loaded
  · exact .error h.1
  · obtain ⟨d', hd', hg⟩ := h.2 g rfl
    obtain rfl := Except.ok.inj hd'
    refine ⟨h.1.cons hd hg, fun g' hg' => ?_⟩
    obtain rfl := Except.ok.inj hg'
    exact ⟨d, hd, hg⟩

theorem Keeps.extended {loaded : Except LoadError Grammar × Cache} (hk : d.parent = some k)
    (h : Keeps l settings (l.document k) loaded) :
    Keeps l settings (.ok d) (extended settings d loaded) := by
  refine ⟨h.1, fun g hg => ⟨d, rfl, ?_⟩⟩
  cases hloaded : loaded.1 with
  | error e => rw [Loader.extended, hloaded] at hg; cases hg
  | ok q =>
    obtain ⟨p, hp, ds, hds, hall⟩ := h.2 q hloaded
    have hmap := assembleAll_child (by rw [hloaded, hall]; rfl) d
    rw [hg] at hmap
    exact ⟨d :: ds, .child hk hp hds, hmap.symm⟩

/-- What is built is sound if what is loaded for it is. -/
theorem keeps_built (h : Sound l settings cache)
    (hload : d.name ∉ pending → ∀ k, d.parent = some k → Keeps l settings (l.document k)
      (loadWithin l settings (d.name :: pending) cache k).value) :
    Keeps l settings (.ok d) (built l settings pending cache d) := by
  by_cases hmem : d.name ∈ pending
  · rw [built_of_mem hmem]
    exact .error h
  · cases hk : d.parent with
    | none =>
      rw [built_of_root hmem hk]
      refine ⟨h, fun g hg => ⟨d, rfl, [d], .root hk, ?_⟩⟩
      replace hg : (assemble settings none d).value = .ok g := hg
      rw [assembleAll_root, hg]
      rfl
    | some k =>
      rw [built_of_parent hmem hk]
      exact (hload hmem k hk).extended hk

/-- **Loading keeps the cache sound.** -/
theorem keeps_loadWithin (h : Sound l settings cache) (pending : List String) (id : String) :
    Keeps l settings (l.document id) (loadWithin l settings pending cache id).value := by
  induction hn : remaining l.names pending using Nat.strong_induction_on generalizing pending id with
  | _ n ih =>
    cases hcache : cache.lookup id with
    | some g =>
      rw [loadWithin_value, hcache]
      refine ⟨h, fun g' hg' => ?_⟩
      obtain rfl := Except.ok.inj hg'
      exact h id g hcache
    | none =>
      cases hd : l.document id with
      | error e =>
        rw [loadWithin_of_error hcache hd]
        exact .error h
      | ok d =>
        rw [loadWithin_of_document hcache hd, ← hd]
        refine .remember hd (keeps_built h fun hmem k _ => ?_)
        have hlt := remaining_cons_lt (Library.mem_names_of_document hd) hmem
        exact ih _ (hn ▸ hlt) _ k rfl

/-! ## What is answered without a cache -/

/-- **Loading puts the documents together.** Without a cache the grammar of the documents is
answered, unless a name comes up again. -/
theorem built_of_ancestry (h : l.Ancestry d ds) (pending : List String) :
    (built l settings pending [] d).1.map some = assembleAll settings ds ∨
      (∃ chain, (built l settings pending [] d).1 = .error (.cyclicImport chain)) ∧
        ¬((ds.map Document.name).Nodup ∧ ∀ e ∈ ds, e.name ∉ pending) := by
  induction h generalizing pending with
  | @root d hk =>
    by_cases hmem : d.name ∈ pending
    · rw [built_of_mem hmem]
      exact .inr ⟨⟨_, rfl⟩, fun hnew => hnew.2 d List.mem_cons_self hmem⟩
    · rw [built_of_root hmem hk]
      exact .inl rfl
  | @child d p k ds hk hp _ ih =>
    by_cases hmem : d.name ∈ pending
    · rw [built_of_mem hmem]
      exact .inr ⟨⟨_, rfl⟩, fun hnew => hnew.2 d List.mem_cons_self hmem⟩
    · have hload : (loadWithin l settings (d.name :: pending) [] k).value.1 =
          (built l settings (d.name :: pending) [] p).1 := by
        rw [loadWithin_of_document rfl hp, fst_remember]
      rw [built_of_parent hmem hk]
      rcases ih (d.name :: pending) with hall | ⟨⟨chain, hchain⟩, hagain⟩
      · exact .inl (assembleAll_child (by rw [hload, hall]) d)
      · refine .inr ⟨⟨chain, by rw [extended, hload, hchain]; rfl⟩, fun hnew => hagain ?_⟩
        obtain ⟨hfirst, hrest⟩ := List.nodup_cons.1 hnew.1
        refine ⟨hrest, fun e he => List.not_mem_cons_of_ne_of_not_mem (fun hname => hfirst ?_) ?_⟩
        · exact hname ▸ List.mem_map_of_mem he
        · exact hnew.2 e (List.mem_cons_of_mem _ he)

/-! ## What is answered with a cache -/

/-- An answer is that of a loader without a cache, unless that one reports a cycle: then it may be
what the documents make. -/
def Agrees (l : Library) (settings : Settings) (document : Except LoadError Document)
    (answer fresh : Except LoadError Grammar) : Prop :=
  answer = fresh ∨ (∃ chain, fresh = .error (.cyclicImport chain)) ∧
    ∃ d ds, document = .ok d ∧ l.Ancestry d ds ∧ answer.map some = assembleAll settings ds

/-- What is built agrees if what is loaded for it does. -/
theorem agrees_built
    (hload : d.name ∉ pending → ∀ k, d.parent = some k → Agrees l settings (l.document k)
      (loadWithin l settings (d.name :: pending) cache k).value.1
      (loadWithin l settings (d.name :: pending) [] k).value.1) :
    Agrees l settings (.ok d) (built l settings pending cache d).1
      (built l settings pending [] d).1 := by
  by_cases hmem : d.name ∈ pending
  · rw [built_of_mem hmem, built_of_mem hmem]
    exact .inl rfl
  · cases hk : d.parent with
    | none =>
      rw [built_of_root hmem hk, built_of_root hmem hk]
      exact .inl rfl
    | some k =>
      rw [built_of_parent hmem hk, built_of_parent hmem hk]
      rcases hload hmem k hk with hsame | ⟨⟨chain, hchain⟩, p, ds, hp, hds, hall⟩
      · exact .inl (by rw [extended, extended, hsame])
      · refine .inr ⟨⟨chain, by rw [extended, hchain]; rfl⟩, d, d :: ds, rfl, .child hk hp hds, ?_⟩
        exact assembleAll_child hall d

/-- **Loading with a sound cache.** -/
theorem agrees_loadWithin (h : Sound l settings cache) (pending : List String) (id : String) :
    Agrees l settings (l.document id) (loadWithin l settings pending cache id).value.1
      (loadWithin l settings pending [] id).value.1 := by
  induction hn : remaining l.names pending using Nat.strong_induction_on generalizing pending id with
  | _ n ih =>
    cases hcache : cache.lookup id with
    | some g =>
      obtain ⟨d, hd, ds, hds, hall⟩ := h id g hcache
      rw [loadWithin_value, hcache, loadWithin_of_document rfl hd, fst_remember]
      rcases @built_of_ancestry l settings d ds hds pending with hfresh | ⟨hcyclic, -⟩
      · rw [hall] at hfresh
        exact .inl (map_some_injective hfresh).symm
      · exact .inr ⟨hcyclic, d, ds, hd, hds, hall.symm⟩
    | none =>
      cases hd : l.document id with
      | error e =>
        rw [loadWithin_of_error hcache hd, loadWithin_of_error rfl hd]
        exact .inl rfl
      | ok d =>
        rw [loadWithin_of_document hcache hd, loadWithin_of_document rfl hd, fst_remember,
          fst_remember]
        refine agrees_built fun hmem k _ => ?_
        have hlt := remaining_cons_lt (Library.mem_names_of_document hd) hmem
        exact ih _ (hn ▸ hlt) _ k rfl

/-! ## Calls -/

/-- What a loader can be asked for. -/
inductive Call where
  | byId (id : String)
  | byText (text : String)

/-- The document that a call is about. -/
def Call.document (l : Library) : Call → Except LoadError Document
  | byId id => l.document id
  | byText text =>
    match Document.read text.toList with
    | .error e => .error (.notCompiled inputName e)
    | .ok d => .ok d

/-- What a call leaves. -/
def Call.answer (l : Library) (settings : Settings) (cache : Cache) :
    Call → Except LoadError Grammar × Cache
  | byId id => (load l settings cache id).value
  | byText text => (loadText l settings cache text).value

/-- The cache of a loader after some calls. -/
def cacheAfter (l : Library) (settings : Settings) (calls : List Call) : Cache :=
  calls.foldl (fun cache call => (call.answer l settings cache).2) []

theorem keeps_answer (h : Sound l settings cache) (call : Call) :
    Keeps l settings (call.document l) (call.answer l settings cache) := by
  cases call with
  | byId id => exact keeps_loadWithin h [] id
  | byText text =>
    rw [Call.answer, Call.document, loadText_value]
    cases Document.read text.toList with
    | error e => exact .error h
    | ok d => exact keeps_built h fun _ k _ => keeps_loadWithin h _ k

/-- **The cache is sound after any calls.** -/
theorem sound_cacheAfter (l : Library) (settings : Settings) (calls : List Call) :
    Sound l settings (cacheAfter l settings calls) := by
  have hfold : ∀ cache, Sound l settings cache →
      Sound l settings (calls.foldl (fun cache call => (call.answer l settings cache).2) cache) := by
    induction calls with
    | nil => exact fun _ h => h
    | cons call calls ih => exact fun _ h => ih _ (keeps_answer h call).1
  exact hfold [] .nil

theorem agrees_answer (h : Sound l settings cache) (call : Call) :
    Agrees l settings (call.document l) (call.answer l settings cache).1
      (call.answer l settings []).1 := by
  cases call with
  | byId id => exact agrees_loadWithin h [] id
  | byText text =>
    rw [Call.answer, Call.answer, Call.document, loadText_value, loadText_value]
    cases Document.read text.toList with
    | error e => exact .inl rfl
    | ok d => exact agrees_built fun _ k _ => agrees_loadWithin h _ k

/-- Documents of different names are put together. -/
theorem answer_of_ancestry (call : Call) (hd : call.document l = .ok d) (hds : l.Ancestry d ds)
    (hnames : (ds.map Document.name).Nodup) :
    (call.answer l settings []).1.map some = assembleAll settings ds := by
  have hbuilt : (call.answer l settings []).1 = (built l settings [] [] d).1 := by
    cases call with
    | byId id => rw [Call.answer, load, loadWithin_of_document rfl hd, fst_remember]
    | byText text =>
      rw [Call.document] at hd
      rw [Call.answer, loadText_value]
      cases hread : Document.read text.toList with
      | error e => rw [hread] at hd; cases hd
      | ok d' =>
        rw [hread] at hd
        obtain rfl := Except.ok.inj hd
        rfl
  rw [hbuilt]
  exact (built_of_ancestry hds []).resolve_right fun hagain =>
    hagain.2 ⟨hnames, fun _ _ => List.not_mem_nil⟩

/-- **The cache makes a difference only to cycles that are none.** Whatever a loader was asked for
before, it answers what a loader would that was asked for nothing. Only where that one reports a
cycle, although the imports have an end, because two of the documents have the same name, the answer
may be what the documents make. -/
theorem answer_eq_or_cyclicImport (l : Library) (settings : Settings) (earlier : List Call)
    (call : Call) :
    let answer := (call.answer l settings (cacheAfter l settings earlier)).1
    let fresh := (call.answer l settings []).1
    answer = fresh ∨
      (∃ chain, fresh = .error (.cyclicImport chain)) ∧
        ∃ d ds, call.document l = .ok d ∧ l.Ancestry d ds ∧ ¬(ds.map Document.name).Nodup ∧
          answer.map some = assembleAll settings ds := by
  intro answer fresh
  rcases agrees_answer (sound_cacheAfter l settings earlier) call with
    hsame | ⟨⟨chain, hchain⟩, d, ds, hd, hds, hall⟩
  · exact .inl hsame
  · by_cases hnames : (ds.map Document.name).Nodup
    · exact .inl (map_some_injective (hall.trans (answer_of_ancestry call hd hds hnames).symm))
    · exact .inr ⟨⟨chain, hchain⟩, d, ds, hd, hds, hnames, hall⟩

/-- A document without rules is always built. -/
theorem exists_assemble (parent : Option Grammar) (h : d.rules = []) :
    ∃ g, (assemble settings parent d).value = .ok g := by
  unfold assemble
  rw [h]
  exact ⟨_, rfl⟩

/-- A text has the name of a document that is imported by the one that the text imports: a cycle is
reported, unless that one was loaded before. -/
theorem answer_changed_by_cache :
    let l := Library.ofList [("A", "grammar A;"), ("B", "grammar B; import A;")]
    let call := Call.byText "grammar A; import B;"
    (call.answer l {} []).1 = .error (.cyclicImport ["A", "B", "A"]) ∧
      ∃ g, (call.answer l {} (cacheAfter l {} [.byId "B"])).1 = .ok g := by
  intro l call
  have hA : l.document "A" = .ok { name := "A" } := by decide +kernel
  have hB : l.document "B" = .ok { name := "B", parent := some "A" } := by decide +kernel
  have hcall : ∀ cache, call.answer l {} cache =
      extended {} { name := "A", parent := some "B" } (loadWithin l {} ["A"] cache "B").value := by
    have hread : Document.read "grammar A; import B;".toList =
        .ok { name := "A", parent := some "B" } := by
      decide +kernel
    intro cache
    rw [Call.answer, loadText_value, hread]
    exact built_of_parent List.not_mem_nil rfl
  constructor
  · have hinner : (loadWithin l {} ["B", "A"] [] "A").value.1 =
        .error (.cyclicImport ["A", "B", "A"]) := by
      rw [loadWithin_of_document rfl hA, fst_remember, built_of_mem (by decide)]
      rfl
    have houter : (loadWithin l {} ["A"] [] "B").value.1 =
        .error (.cyclicImport ["A", "B", "A"]) := by
      rw [loadWithin_of_document rfl hB, fst_remember, built_of_parent (by decide) rfl, extended,
        hinner]
      rfl
    rw [hcall, extended, houter]
    rfl
  · obtain ⟨gA, hgA⟩ := @exists_assemble {} { name := "A" } none rfl
    obtain ⟨gB, hgB⟩ := @exists_assemble {} { name := "B", parent := some "A" } (some gA) rfl
    obtain ⟨g, hg⟩ := @exists_assemble {} { name := "A", parent := some "B" } (some gB) rfl
    have hloadA : (loadWithin l {} ["B"] [] "A").value = (.ok gA, [("A", gA)]) := by
      rw [loadWithin_of_document rfl hA, built_of_root (by decide) rfl, hgA]
      rfl
    have hloadB : (load l {} [] "B").value = (.ok gB, [("B", gB), ("A", gA)]) := by
      rw [load, loadWithin_of_document rfl hB, built_of_parent (by decide) rfl, hloadA, extended,
        Except.bind, hgB]
      rfl
    have hcache : cacheAfter l {} [.byId "B"] = [("B", gB), ("A", gA)] := congrArg Prod.snd hloadB
    refine ⟨g, ?_⟩
    rw [hcall, hcache, loadWithin_value]
    exact hg

end Loader

end Lexigram
