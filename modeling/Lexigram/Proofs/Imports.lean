import Lexigram.Loader
import Mathlib

/-!
# Following imports

What loading a grammar does with the documents that it imports, one after the other.

**The chain of imports** (`Library.reached?`). An id leads to the id that its document imports, and
so on, up to a document that imports nothing or cannot be read, or without end.

**Loading** (`Loader.Loading`). The states of a loader that follows the chain: the names that the
documents met so far give themselves, and the id to be loaded next. The names are different ones
(`Loading.nodup`), so there are no more of them than documents.

**Cycles** (`load_eq_cyclic_iff`). A cycle is reported when the document to be built next has a name
that was met before. By induction on the state, outwards for what is reported and inwards for what
is met.

Names are compared, while imports are followed by id. So a cycle of imports is always reported, and
so are documents that have one name under different ids, where the imports need not come back.

Main result: `Loader.load_cyclic_iff`.
-/

namespace Lexigram

/-! ## The chain of imports -/

namespace Library

/-- The document that a library has under an id. -/
def document (l : Library) (id : String) : Except LoadError Document :=
  match l.read id with
  | .error e => .error e
  | .ok text =>
    match Document.read text.toList with
    | .error e => .error (.notCompiled id e)
    | .ok d => .ok d

/-- The id that the document of an id imports. -/
def import? (l : Library) (id : String) : Option String :=
  (l.document id).toOption.bind Document.parent

/-- The id that is reached from an id over a number of imports. -/
def reached? (l : Library) (id : String) : Nat → Option String
  | 0 => some id
  | n + 1 => (l.reached? id n).bind l.import?

/-- The imports that are followed from an id come back to an id. -/
def ComesBack (l : Library) (id : String) : Prop :=
  ∃ i j k, i < j ∧ l.reached? id i = some k ∧ l.reached? id j = some k

/-- The imports that are followed from an id lead to documents of one name under different ids. -/
def Clashes (l : Library) (id : String) : Prop :=
  ∃ i j k k' d d', l.reached? id i = some k ∧ l.reached? id j = some k' ∧ k ≠ k' ∧
    l.document k = .ok d ∧ l.document k' = .ok d' ∧ d.name = d'.name

variable {l : Library} {id k : String} {d : Document}

theorem mem_names_of_document (h : l.document id = .ok d) : d.name ∈ l.names := by
  unfold document at h
  split at h
  · cases h
  · next text htext =>
    split at h
    · cases h
    · next d' hd =>
      cases h
      exact mem_names htext hd

theorem import?_eq_some : l.import? id = some k ↔ ∃ d, l.document id = .ok d ∧ d.parent = some k := by
  rw [import?]
  cases l.document id with
  | error e => simp [Except.toOption]
  | ok d => simp [Except.toOption]

/-- An id from which imports go on has a document. -/
theorem exists_document_of_reached? {i j : Nat} {k' : String} (hij : i < j)
    (hi : l.reached? id i = some k) (hj : l.reached? id j = some k') :
    ∃ d, l.document k = .ok d := by
  obtain ⟨n, rfl⟩ := Nat.exists_eq_add_of_lt hij
  induction n generalizing k' with
  | zero =>
    rw [Nat.add_zero, reached?, hi, Option.bind_some] at hj
    obtain ⟨d, hd, -⟩ := import?_eq_some.1 hj
    exact ⟨d, hd⟩
  | succ n ih =>
    rw [reached?] at hj
    obtain ⟨k'', hk'', -⟩ := Option.bind_eq_some_iff.1 hj
    exact ih (by omega) hk''

end Library

namespace Loader

/-! ## What loading yields -/

variable {l : Library} {settings : Settings} {pending : List String} {cache : Cache} {id k : String}
variable {d : Document}

section Values

variable (l settings pending cache id d)

/-- What building a document leaves that extends what was loaded. -/
def extended (loaded : Except LoadError Grammar × Cache) : Except LoadError Grammar × Cache :=
  (loaded.1.bind fun g => (assemble settings (some g) d).value, loaded.2)

/-- What building a document leaves, whose imports are loaded first. -/
def built : Except LoadError Grammar × Cache :=
  if d.name ∈ pending then (.error (.cyclicImport (d.name :: pending).reverse), cache)
  else
    match d.parent with
    | none => ((assemble settings none d).value, cache)
    | some k => extended settings d (loadWithin l settings (d.name :: pending) cache k).value

theorem finish_value (loaded : Except LoadError Grammar × Cache) :
    (finish settings d (loaded.1.map some, loaded.2)).value = extended settings d loaded := by
  obtain ⟨_ | g, cache⟩ := loaded <;> rfl

/-- **Loading by id.** What is in the cache is answered, and what is built is put there. -/
theorem loadWithin_value : (loadWithin l settings pending cache id).value =
    match cache.lookup id with
    | some g => (.ok g, cache)
    | none =>
      match l.document id with
      | .error e => (.error e, cache)
      | .ok d => remember id (built l settings pending cache d) := by
  rw [loadWithin, Library.document]
  cases cache.lookup id with
  | some g => rfl
  | none =>
    dsimp only
    split
    · next e ht => rw [ht]; rfl
    · next text ht =>
      rw [ht]
      dsimp only
      split
      · next e hd => rw [hd]; rfl
      · next d hd =>
        rw [hd]
        dsimp only
        -- The notice about the name makes no difference.
        rw [built]
        by_cases hmem : d.name ∈ pending
        · rw [if_pos hmem, dif_pos hmem]
          split <;> rfl
        · rw [if_neg hmem, dif_neg hmem]
          cases d.parent with
          | none => split <;> rfl
          | some k =>
            dsimp only
            rw [← finish_value]
            split <;> rfl

theorem loadText_value (text : String) : (loadText l settings cache text).value =
    match Document.read text.toList with
    | .error e => (.error (.notCompiled inputName e), cache)
    | .ok d => built l settings [] cache d := by
  rw [loadText]
  cases Document.read text.toList with
  | error e => rfl
  | ok d =>
    dsimp only
    rw [built, if_neg List.not_mem_nil]
    cases d.parent with
    | none => rfl
    | some k =>
      exact finish_value settings d _

end Values

theorem fst_remember (id : String) (loaded : Except LoadError Grammar × Cache) :
    (remember id loaded).1 = loaded.1 := by
  obtain ⟨_ | g, cache⟩ := loaded <;> rfl

theorem loadWithin_of_document (hcache : cache.lookup id = none) (hd : l.document id = .ok d) :
    (loadWithin l settings pending cache id).value = remember id (built l settings pending cache d) := by
  rw [loadWithin_value, hcache, hd]

theorem loadWithin_of_error {e : LoadError} (hcache : cache.lookup id = none)
    (hd : l.document id = .error e) :
    (loadWithin l settings pending cache id).value = (.error e, cache) := by
  rw [loadWithin_value, hcache, hd]

theorem built_of_mem (h : d.name ∈ pending) : built l settings pending cache d =
    (.error (.cyclicImport (d.name :: pending).reverse), cache) :=
  if_pos h

theorem built_of_parent (h : d.name ∉ pending) (hk : d.parent = some k) :
    built l settings pending cache d =
      extended settings d (loadWithin l settings (d.name :: pending) cache k).value := by
  rw [built, if_neg h, hk]

theorem built_of_root (h : d.name ∉ pending) (hk : d.parent = none) :
    built l settings pending cache d = ((assemble settings none d).value, cache) := by
  rw [built, if_neg h, hk]

/-! ## States of loading -/

/-- The states of a loader that was asked for an id and has nothing in its cache: the names of the
documents whose imports are being loaded, and the id that is to be loaded next. -/
inductive Loading (l : Library) (id : String) : List String → String → Prop
  | start : Loading l id [] id
  | next {pending : List String} {k k' : String} {d : Document} : Loading l id pending k →
      l.document k = .ok d → d.name ∉ pending → d.parent = some k' →
      Loading l id (d.name :: pending) k'

namespace Loading

theorem nodup (h : Loading l id pending k) : pending.Nodup := by
  induction h with
  | start => exact .nil
  | next _ _ hnew _ ih => exact ih.cons hnew

/-- **Loading ends.** No more documents are open at a time than there are. -/
theorem length_le (h : Loading l id pending k) : pending.length ≤ l.names.length := by
  have hsubset : pending ⊆ l.names := by
    induction h with
    | start => exact List.nil_subset _
    | next _ hd _ _ ih => exact List.cons_subset.2 ⟨Library.mem_names_of_document hd, ih⟩
  exact (List.subperm_of_subset h.nodup hsubset).length_le

theorem reached? (h : Loading l id pending k) : l.reached? id pending.length = some k := by
  induction h with
  | start => rfl
  | next _ hd _ hk ih =>
    rw [List.length_cons, Library.reached?, ih, Option.bind_some]
    exact Library.import?_eq_some.2 ⟨_, hd, hk⟩

/-- What is pending are the names of the documents met before. -/
theorem mem_iff {name : String} (h : Loading l id pending k) :
    name ∈ pending ↔ ∃ i k' d, i < pending.length ∧ l.reached? id i = some k' ∧
      l.document k' = .ok d ∧ d.name = name := by
  induction h with
  | start => simp
  | @next pending k k' d h hd _ _ ih =>
    rw [List.mem_cons, ih, List.length_cons]
    constructor
    · rintro (rfl | ⟨i, k', d', hi, hk', hd', hname⟩)
      · exact ⟨_, k, d, Nat.lt_succ_self _, h.reached?, hd, rfl⟩
      · exact ⟨i, k', d', Nat.lt_succ_of_lt hi, hk', hd', hname⟩
    · rintro ⟨i, k', d', hi, hk', hd', rfl⟩
      rcases Nat.lt_succ_iff_lt_or_eq.1 hi with hi | rfl
      · exact .inr ⟨i, k', d', hi, hk', hd', rfl⟩
      · rw [h.reached?] at hk'
        obtain rfl := Option.some.inj hk'
        rw [hd] at hd'
        obtain rfl := Except.ok.inj hd'
        exact .inl rfl

/-- What cannot be loaded keeps what imports it from being loaded, for the same cause. -/
theorem error {e : LoadError} (h : Loading l id pending k)
    (he : (loadWithin l settings pending [] k).value.1 = .error e) :
    (load l settings [] id).value.1 = .error e := by
  induction h with
  | start => exact he
  | @next pending k k' d _ hd hnew hk ih =>
    refine ih ?_
    rw [loadWithin_of_document rfl hd, fst_remember, built_of_parent hnew hk, extended, he]
    rfl

end Loading

/-! ## Reported cycles -/

theorem assemble_ne_cyclicImport (parent : Option Grammar) (chain : List String) :
    (assemble settings parent d).value ≠ .error (.cyclicImport chain) := by
  unfold assemble
  rw [Noted.value_bind]
  dsimp only
  split <;> rintro ⟨⟩

section Reports

variable {chain : List String} (hread : ∀ id chain, l.read id ≠ .error (.cyclicImport chain))

include hread

theorem document_ne_cyclicImport : l.document id ≠ .error (.cyclicImport chain) := by
  unfold Library.document
  split
  · next e he => 
    rintro ⟨⟩
    exact hread id chain he
  · split <;> rintro ⟨⟩

/-- A cycle is reported from a state in which the name of the next document comes up again. -/
theorem exists_loading_of_cyclicImport (h : Loading l id pending k)
    (he : (loadWithin l settings pending [] k).value.1 = .error (.cyclicImport chain)) :
    ∃ pending k d, Loading l id pending k ∧ l.document k = .ok d ∧ d.name ∈ pending ∧
      chain = (d.name :: pending).reverse := by
  induction hn : remaining l.names pending using Nat.strong_induction_on generalizing pending k with
  | _ n ih =>
    cases hd : l.document k with
    | error e =>
      rw [loadWithin_of_error rfl hd] at he
      obtain rfl := Except.error.inj he
      exact absurd hd (document_ne_cyclicImport hread)
    | ok d =>
      rw [loadWithin_of_document rfl hd, fst_remember] at he
      by_cases hmem : d.name ∈ pending
      · rw [built_of_mem hmem] at he
        cases he
        exact ⟨pending, k, d, h, hd, hmem, rfl⟩
      · cases hk : d.parent with
        | none =>
          rw [built_of_root hmem hk] at he
          replace he : (assemble settings none d).value = _ := he
          exact absurd he (assemble_ne_cyclicImport _ _)
        | some k' =>
          rw [built_of_parent hmem hk, extended] at he
          cases hload : (loadWithin l settings (d.name :: pending) [] k').value.1 with
          | ok g =>
            rw [hload] at he
            replace he : (assemble settings (some g) d).value = _ := he
            exact absurd he (assemble_ne_cyclicImport _ _)
          | error e =>
            rw [hload] at he
            obtain rfl := Except.error.inj he
            have hlt := remaining_cons_lt (Library.mem_names_of_document hd) hmem
            exact ih _ (hn ▸ hlt) (h.next hd hmem hk) hload rfl

/-- **What is reported as a cycle.** -/
theorem load_eq_cyclic_iff : (load l settings [] id).value.1 = .error (.cyclicImport chain) ↔
    ∃ pending k d, Loading l id pending k ∧ l.document k = .ok d ∧ d.name ∈ pending ∧
      chain = (d.name :: pending).reverse := by
  refine ⟨exists_loading_of_cyclicImport hread .start, ?_⟩
  rintro ⟨pending, k, d, h, hd, hmem, rfl⟩
  refine h.error ?_
  rw [loadWithin_of_document rfl hd, fst_remember, built_of_mem hmem]

end Reports

/-- A loader gets as far as the imports lead, or meets a name again before. -/
theorem exists_loading {n : Nat} (h : l.reached? id n = some k) :
    (∃ pending, pending.length = n ∧ Loading l id pending k) ∨
      ∃ pending k d, Loading l id pending k ∧ l.document k = .ok d ∧ d.name ∈ pending := by
  induction n generalizing k with
  | zero =>
    obtain rfl := Option.some.inj h
    exact .inl ⟨[], rfl, .start⟩
  | succ n ih =>
    obtain ⟨k', hk', himport⟩ := Option.bind_eq_some_iff.1 h
    obtain ⟨d, hd, hk⟩ := Library.import?_eq_some.1 himport
    rcases ih hk' with ⟨pending, rfl, hloading⟩ | hrepeats
    · by_cases hmem : d.name ∈ pending
      · exact .inr ⟨pending, k', d, hloading, hd, hmem⟩
      · exact .inl ⟨d.name :: pending, rfl, hloading.next hd hmem hk⟩
    · exact .inr hrepeats

/-- A name that comes up twice comes up again for the loader. -/
theorem exists_loading_of_name_eq {i j : Nat} {k k' : String} {d d' : Document} (hij : i < j)
    (hi : l.reached? id i = some k) (hj : l.reached? id j = some k') (hd : l.document k = .ok d)
    (hd' : l.document k' = .ok d') (hname : d.name = d'.name) :
    ∃ pending k d, Loading l id pending k ∧ l.document k = .ok d ∧ d.name ∈ pending := by
  rcases exists_loading hj with ⟨pending, rfl, h⟩ | hrepeats
  · exact ⟨pending, k', d', h, hd', h.mem_iff.2 ⟨i, k, d, hij, hi, hd, hname⟩⟩
  · exact hrepeats

theorem read_ofList_ne_cyclicImport (documents : List (String × String)) (id : String)
    (chain : List String) :
    (Library.ofList documents).read id ≠ .error (.cyclicImport chain) := by
  dsimp only [Library.ofList]
  split <;> rintro ⟨⟩

/-- **Loading ends, and reports cycles among names.** A loader with nothing in its cache follows no
more imports than there are documents. It reports a cycle if the imports come back to an id, and
also if two documents on the way have the same name under different ids. -/
theorem load_cyclic_iff (documents : List (String × String)) (settings : Settings) (id : String) :
    let l := Library.ofList documents
    (∀ pending k, Loading l id pending k → pending.length ≤ documents.length) ∧
      ((∃ chain, (load l settings [] id).value.1 = .error (.cyclicImport chain)) ↔
        l.ComesBack id ∨ l.Clashes id) := by
  intro l
  have hread := read_ofList_ne_cyclicImport documents
  have hnames : l.names.length ≤ documents.length := by
    have hle : l.names.length ≤ (documents.map Prod.snd).length := List.length_filterMap_le _ _
    rwa [List.length_map] at hle
  refine ⟨fun pending k h => h.length_le.trans hnames, ?_, ?_⟩
  · rintro ⟨chain, hchain⟩
    obtain ⟨pending, k, d, h, hd, hmem, -⟩ := (load_eq_cyclic_iff hread).1 hchain
    obtain ⟨i, k', d', hi, hk', hd', hname⟩ := h.mem_iff.1 hmem
    by_cases hsame : k' = k
    · exact .inl ⟨i, _, k', hi, hk', hsame ▸ h.reached?⟩
    · exact .inr ⟨i, _, k', k, d', d, hk', h.reached?, hsame, hd', hd, hname⟩
  · intro h
    have hrepeats : ∃ pending k d, Loading l id pending k ∧ l.document k = .ok d ∧
        d.name ∈ pending := by
      rcases h with ⟨i, j, k, hij, hi, hj⟩ | ⟨i, j, k, k', d, d', hi, hj, hne, hd, hd', hname⟩
      · obtain ⟨d, hd⟩ := Library.exists_document_of_reached? hij hi hj
        exact exists_loading_of_name_eq hij hi hj hd hd rfl
      · rcases Nat.lt_trichotomy i j with hij | rfl | hji
        · exact exists_loading_of_name_eq hij hi hj hd hd' hname
        · exact absurd (Option.some.inj (hi.symm.trans hj)) hne
        · exact exists_loading_of_name_eq hji hj hi hd' hd hname.symm
    obtain ⟨pending, k, d, hloading, hd, hmem⟩ := hrepeats
    exact ⟨_, (load_eq_cyclic_iff hread).2 ⟨pending, k, d, hloading, hd, hmem, rfl⟩⟩

/-- A document that imports one with its own name: a cycle is reported, although the imports do not
come back. -/
theorem cyclicImport_of_namesake :
    let l := Library.ofList [("A", "grammar X; import B;"), ("B", "grammar X; B: 'b';")]
    (load l {} [] "A").value.1 = .error (.cyclicImport ["X", "X"]) ∧ ¬l.ComesBack "A" := by
  intro l
  have hA : l.document "A" = .ok { name := "X", parent := some "B" } := by decide +kernel
  have hB : l.document "B" = .ok { name := "X", rules := [{ id := "B", body := "'b'" }] } := by
    decide +kernel
  constructor
  · have hread := read_ofList_ne_cyclicImport
      [("A", "grammar X; import B;"), ("B", "grammar X; B: 'b';")]
    have hloading : Loading l "A" ["X"] "B" := Loading.start.next hA List.not_mem_nil rfl
    exact (load_eq_cyclic_iff hread).2 ⟨_, _, _, hloading, hB, List.mem_singleton_self _, rfl⟩
  · have hone : l.reached? "A" 1 = some "B" := Library.import?_eq_some.2 ⟨_, hA, rfl⟩
    have hend : ∀ n, l.reached? "A" (n + 2) = none := by
      intro n
      induction n with
      | zero => rw [Library.reached?, hone, Option.bind_some, Library.import?, hB]; rfl
      | succ n ih => rw [Library.reached?, ih, Option.bind_none]
    rintro ⟨i, j, k, hij, hi, hj⟩
    rcases j with _ | _ | j
    · omega
    · obtain rfl : i = 0 := by omega
      obtain rfl : "A" = k := Option.some.inj hi
      rw [hone] at hj
      exact absurd hj (by decide)
    · rw [hend] at hj
      cases hj

end Loader

end Lexigram
