import Lexigram.Document.Statement
import Lexigram.Proofs.Spelling

/-!
# Where statements end

The statements of a document are found segment by segment. Here the splitting is taken apart into
steps of a single character.

**The run** (`Document.run`). Going through a text character by character, with what the splitting
is inside of and how many parentheses and braces are open, fails where a statement ends or a comment
begins.

**Segments** (`Document.run_segment`). A segment is passed in one go, and what belongs to the
statement of it is a text through which the run comes as well.

Main results: `Document.splitFrom_statements`, which says that texts through which the run comes and
the semicolons behind them are split off as statements, and `Document.run_of_mem_statements`, which
says that the run comes through every statement of a document.
-/

namespace Lexigram.Document

/-! ## The run -/

/-- What can stand around characters so that they end nothing. -/
inductive Fence where
  | apostrophes | quotes | brackets
  deriving DecidableEq, Repr

/-- The character that ends what is inside. -/
def Fence.close : Fence → Char
  | apostrophes => '\x27'
  | quotes => '\x22'
  | brackets => ']'

/-- Where in a statement the splitting is. -/
inductive Mode where
  /-- Between segments. -/
  | plain
  /-- Behind a slash. -/
  | slash
  /-- Behind the opening bracket of a class. -/
  | opened
  /-- Inside of a literal or a class. -/
  | inside (f : Fence)
  /-- Behind a backslash inside of one. -/
  | escape (f : Fence)
  deriving DecidableEq, Repr

/-- Where the splitting is, and how many parentheses and braces are open. -/
structure Cursor where
  mode : Mode := .plain
  parens : Nat := 0
  braces : Nat := 0
  deriving DecidableEq, Repr

namespace Cursor

/-- Where a character between segments leads to. -/
def start (p : Cursor) (c : Char) : Cursor where
  mode :=
    if c = '/' then .slash
    else if c = '\x27' then .inside .apostrophes
    else if c = '\x22' then .inside .quotes
    else if c = '[' ∧ p.braces = 0 then .opened
    else .plain
  parens := if c = '(' then p.parens + 1 else if c = ')' then p.parens - 1 else p.parens
  braces := if c = '\x7b' then p.braces + 1 else if c = '\x7d' then p.braces - 1 else p.braces

/-- Whether a character between segments ends the statement. -/
def Ends (p : Cursor) (c : Char) : Prop := c = ';' ∧ p.parens = 0 ∧ p.braces = 0

instance (p : Cursor) (c : Char) : Decidable (p.Ends c) := inferInstanceAs (Decidable (_ ∧ _ ∧ _))

/-- Where a character leads to, unless it ends the statement or begins a comment with the slash in
front of it. -/
def next? (p : Cursor) (c : Char) : Option Cursor :=
  match p.mode with
  | .plain => if p.Ends c then none else some (p.start c)
  | .slash => if p.Ends c ∨ c = '/' ∨ c = '*' then none else some (p.start c)
  | .opened => some { p with mode := if c = '\\' then .escape .brackets else .inside .brackets }
  | .inside f =>
    some
      { p with
        mode := if c = '\\' then .escape f else if c = f.close then .plain else .inside f }
  | .escape f => some { p with mode := .inside f }

/-- Between segments. -/
def Free (p : Cursor) : Prop := p.mode = .plain ∨ p.mode = .slash

/-- Where a semicolon ends the statement. -/
def Final (p : Cursor) : Prop := p.Free ∧ p.parens = 0 ∧ p.braces = 0

end Cursor

/-- Goes through a text, up to the end of the statement or the beginning of a comment. -/
def run (p : Cursor) (s : List Char) : Option Cursor := s.foldlM Cursor.next? p

section Run

variable {p q : Cursor} {c : Char} {s t inside : List Char} {f : Fence} {parens braces : Nat}

@[simp] theorem run_nil (p : Cursor) : run p [] = some p := rfl

theorem run_cons (p : Cursor) (c : Char) (s : List Char) :
    run p (c :: s) = (p.next? c).bind (run · s) := rfl

theorem run_append (p : Cursor) (s t : List Char) :
    run p (s ++ t) = (run p s).bind (run · t) := List.foldlM_append

theorem run_append_of (h : run p s = some q) : run p (s ++ t) = run q t := by
  rw [run_append, h, Option.bind_some]

/-! ### Characters without a meaning -/

/-- Whether a character has no meaning for the splitting. -/
def isInert (c : Char) : Bool :=
  c ∉ [';', '/', '*', '\x27', '\x22', '[', ']', '\\', '(', ')', '\x7b', '\x7d']

/-- Where a character without a meaning leads to. -/
def Cursor.settle (p : Cursor) : Cursor :=
  { p with
    mode :=
      match p.mode with
      | .plain | .slash => .plain
      | .opened => .inside .brackets
      | .inside f | .escape f => .inside f }

theorem next?_inert (hc : isInert c = true) (p : Cursor) : p.next? c = some p.settle := by
  simp only [isInert, List.mem_cons, List.not_mem_nil, or_false, not_or, decide_eq_true_eq] at hc
  obtain ⟨mode, parens, braces⟩ := p
  cases mode with
  | plain | slash | opened | escape f =>
    simp [Cursor.next?, Cursor.Ends, Cursor.start, Cursor.settle, hc]
  | inside f =>
    cases f <;> simp [Cursor.next?, Cursor.settle, Fence.close, hc]

theorem isInert_of_isBlank (h : Text.isBlank c = true) : isInert c = true := by
  have hall : [';', '/', '*', '\x27', '\x22', '[', ']', '\\', '(', ')', '\x7b', '\x7d'].any
      Text.isBlank = false := by decide
  rw [isInert, decide_eq_true_eq]
  exact fun hc => List.any_eq_false.1 hall c hc h

/-! ### Inside of literals and classes -/

theorem close_ne_backslash (f : Fence) : f.close ≠ '\\' := by cases f <;> decide

theorem run_sealed (h : Literal.Sealed f.close inside) :
    run ⟨.inside f, parens, braces⟩ (inside ++ f.close :: s) = run ⟨.plain, parens, braces⟩ s := by
  induction h with
  | nil => simp [run_cons, Cursor.next?, close_ne_backslash]
  | escape c _ ih => exact ih
  | char hesc hclose _ ih =>
    rw [List.cons_append, run_cons, Cursor.next?]
    simpa [hesc, hclose] using ih

/-- What leads out of a literal or a class closes it at some place. -/
theorem exists_sealed (hq : q.Free) (h : run ⟨.inside f, parens, braces⟩ s = some q) :
    ∃ inside rest, s = inside ++ f.close :: rest ∧ Literal.Sealed f.close inside ∧
      run ⟨.plain, parens, braces⟩ rest = some q := by
  have hopen : ∀ mode, run ⟨mode, parens, braces⟩ [] = some q → mode = .plain ∨ mode = .slash := by
    rintro mode ⟨⟩
    exact hq
  induction hn : s.length using Nat.strong_induction_on generalizing s with
  | _ n ih =>
    cases s with
    | nil => simpa using hopen _ h
    | cons c s =>
      rw [run_cons, Cursor.next?, Option.bind_some] at h
      dsimp only at h
      by_cases hesc : c = '\\'
      · rw [if_pos hesc] at h
        cases s with
        | nil => simpa using hopen _ h
        | cons d s =>
          obtain ⟨inside, rest, rfl, hsealed, hrest⟩ := ih s.length (by simp only [List.length_cons] at hn; omega) h rfl
          exact ⟨'\\' :: d :: inside, rest, by simp [hesc], .escape d hsealed, hrest⟩
      · rw [if_neg hesc] at h
        by_cases hclose : c = f.close
        · rw [if_pos hclose] at h
          exact ⟨[], s, by simp [hclose], .nil, h⟩
        · rw [if_neg hclose] at h
          obtain ⟨inside, rest, rfl, hsealed, hrest⟩ := ih s.length (by simp [← hn]) h rfl
          exact ⟨c :: inside, rest, rfl, .char hesc hclose hsealed, hrest⟩

theorem closeClass?_eq_split? (s : List Char) : closeClass? s = Literal.split? ']' s := by
  fun_induction closeClass? s with
  | case1 => rfl
  | case2 => rfl
  | case3 c s ih => rw [Literal.split?, ih]
  | case4 s => rfl
  | case5 c s hnil hesc hc ih =>
    have hslash : c ≠ '\\' := by
      rintro rfl
      cases s with
      | nil => exact hnil rfl rfl
      | cons d s => exact hesc d s rfl rfl
    rw [Literal.split?_cons hslash, if_neg hc, ih]

theorem run_opened (hs : s.head? ≠ some ']') (hne : s ≠ []) :
    run ⟨.opened, parens, braces⟩ s = run ⟨.inside .brackets, parens, braces⟩ s := by
  cases s with
  | nil => exact absurd rfl hne
  | cons c s =>
    have hc : c ≠ Fence.brackets.close := by
      rintro rfl
      exact hs rfl
    rw [run_cons, run_cons, Cursor.next?, Cursor.next?]
    simp only [if_neg hc]

theorem closeClass?_sealed (h : Literal.Sealed ']' inside) (rest : List Char) :
    closeClass? (inside ++ ']' :: rest) = some (inside, rest) := by
  rw [closeClass?_eq_split?]
  exact (Literal.split?_eq_some (by decide)).2 ⟨h, rfl⟩

theorem splitClass?_cons (hc : c ≠ ']') (s : List Char) :
    splitClass? (c :: s) = closeClass? (c :: s) := by
  rw [splitClass?.eq_def]
  split
  · next he => exact absurd (List.cons.inj he).1 hc
  · rfl

/-- What leads out of a class is split off as one, whatever follows. -/
theorem exists_splitClass? (hq : q.Free) (h : run ⟨.opened, parens, braces⟩ s = some q) :
    ∃ inside rest, s = inside ++ ']' :: rest ∧
      (∀ more, splitClass? (inside ++ ']' :: more) = some (inside, more)) ∧
      run ⟨.opened, parens, braces⟩ (inside ++ [']']) = some ⟨.plain, parens, braces⟩ ∧
      run ⟨.plain, parens, braces⟩ rest = some q := by
  cases s with
  | nil =>
    cases h
    simp [Cursor.Free] at hq
  | cons c s =>
    by_cases hc : c = ']'
    · subst hc
      obtain ⟨inside, rest, rfl, hsealed, hrest⟩ :=
        exists_sealed (f := .brackets) (s := s) hq h
      refine ⟨']' :: inside, rest, rfl, fun more => ?_, ?_, hrest⟩
      · rw [List.cons_append, splitClass?, closeClass?_sealed hsealed]
        rfl
      · exact run_sealed (f := .brackets) hsealed
    · rw [run_opened (by simpa using hc) (by simp)] at h
      obtain ⟨inside, rest, he, hsealed, hrest⟩ := exists_sealed hq h
      cases inside with
      | nil => exact absurd (List.cons.inj he).1 hc
      | cons c' inside =>
        obtain ⟨rfl, -⟩ := List.cons.inj he
        have hhead : (c :: inside ++ [']']).head? ≠ some ']' := by simpa using hc
        refine ⟨c :: inside, rest, he, fun more => ?_, ?_, hrest⟩
        · rw [List.cons_append, splitClass?_cons hc, ← List.cons_append, closeClass?_sealed hsealed]
        · rw [run_opened hhead (by simp)]
          exact run_sealed hsealed

end Run

/-! ## Segments -/

section Segments

variable {p : Progress} {k q : Cursor} {c : Char} {s rest : List Char} {g : Segment}

/-- The splitting is between segments, at the depths that the cursor says. -/
structure Progress.At (p : Progress) (k : Cursor) : Prop where
  free : k.Free
  parens : k.parens = p.parens
  braces : k.braces = p.braces

/-- A text does not make a comment of a slash in front of it. -/
def NoComment (s : List Char) : Prop := ∀ c ∈ s.head?, c ≠ '/' ∧ c ≠ '*'

theorem Progress.At.ends (h : p.At k) : k.Ends c ↔ c = ';' ∧ p.parens = 0 ∧ p.braces = 0 := by
  rw [Cursor.Ends, h.parens, h.braces]

/-- Between segments a character is a beginning, unless it ends something. -/
theorem Cursor.Free.next?_eq_some (hk : k.Free) :
    k.next? c = some q ↔
      ¬k.Ends c ∧ (k.mode = .slash → c ≠ '/' ∧ c ≠ '*') ∧ k.start c = q := by
  obtain ⟨mode, parens, braces⟩ := k
  rcases hk with hmode | hmode
  · obtain rfl : mode = .plain := hmode
    simp [Cursor.next?]
  · obtain rfl : mode = .slash := hmode
    simp [Cursor.next?, not_or, and_assoc]

/-! ### The three forms of a segment -/

/-- Whether a character between segments begins a literal or a class. -/
def Cursor.Opens (k : Cursor) (c : Char) : Prop :=
  c = '\x27' ∨ c = '\x22' ∨ c = '[' ∧ k.braces = 0

theorem Cursor.start_quote {f : Fence} (hf : f ≠ .brackets) (k : Cursor) :
    k.start f.close = { k with mode := .inside f } := by
  cases f <;> simp_all [start, Fence.close]

theorem Cursor.start_bracket (hk : k.braces = 0) : k.start '[' = { k with mode := .opened } := by
  simp [start, hk]

theorem Cursor.start_free (h : ¬k.Opens c) : (k.start c).Free := by
  simp only [Opens, not_or] at h
  by_cases hc : c = '/' <;> simp [Free, start, h, hc]

theorem splitSegment_quoted {f : Fence} (hf : f ≠ .brackets) {inside : List Char}
    (h : Literal.Sealed f.close inside) (inBraces : Bool) (rest : List Char) :
    splitSegment inBraces (f.close :: (inside ++ f.close :: rest)) =
      .ok ⟨f.close :: (inside ++ [f.close]), f.close :: (inside ++ [f.close]), rest⟩ := by
  have hsplit : Literal.split? f.close (inside ++ f.close :: rest) = some (inside, rest) :=
    (Literal.split?_eq_some (close_ne_backslash f)).2 ⟨h, rfl⟩
  rw [splitSegment.eq_def]
  cases f with
  | apostrophes => simp [Fence.close] at hsplit ⊢; simp [hsplit]
  | quotes => simp [Fence.close] at hsplit ⊢; simp [hsplit]
  | brackets => exact absurd rfl hf

theorem splitSegment_brackets {inside : List Char}
    (h : splitClass? (inside ++ ']' :: rest) = some (inside, rest)) :
    splitSegment false ('[' :: (inside ++ ']' :: rest)) =
      .ok ⟨'[' :: (inside ++ [']']), '[' :: (inside ++ [']']), rest⟩ := by
  rw [splitSegment.eq_def]
  simp [h]

theorem splitSegment_single {inBraces : Bool} (hquote : c ≠ '\x27' ∧ c ≠ '\x22')
    (hbracket : c = '[' → inBraces = true) (hslash : c = '/' → NoComment s) :
    splitSegment inBraces (c :: s) = .ok ⟨[c], [c], s⟩ := by
  rw [splitSegment.eq_def]
  split
  · next he =>
    obtain ⟨rfl, rfl⟩ := List.cons.inj he
    exact absurd rfl (hslash rfl '/' rfl).1
  · next he =>
    obtain ⟨rfl, rfl⟩ := List.cons.inj he
    exact absurd rfl (hslash rfl '*' rfl).2
  · next he =>
    obtain ⟨rfl, rfl⟩ := List.cons.inj he
    rw [if_neg (by simp [hquote]), if_neg (by simpa using hbracket)]
  · next he => cases he

/-- Behind a segment of a single character the splitting is where the character leads to. -/
theorem Progress.At.add_single (h : p.At k) (hfree : (k.start c).Free) :
    (p.add ⟨[c], [c], s⟩).At (k.start c) where
  free := hfree
  parens := by
    by_cases hopen : c = '('
    · simp [Progress.add, Cursor.start, h.parens, hopen]
    · by_cases hclose : c = ')'
      · simp [Progress.add, Cursor.start, h.parens, hclose]
      · simp only [Progress.add, Cursor.start, h.parens, if_neg hopen, if_neg hclose]
        split <;> simp_all
  braces := by
    by_cases hopen : c = '\x7b'
    · simp [Progress.add, Cursor.start, h.braces, hopen]
    · by_cases hclose : c = '\x7d'
      · simp [Progress.add, Cursor.start, h.braces, hclose]
      · simp only [Progress.add, Cursor.start, h.braces, if_neg hopen, if_neg hclose]
        split <;> simp_all

/-- A longer segment opens and closes nothing. -/
theorem Progress.At.add_longer (h : p.At k) (hg : 1 < g.taken.length) :
    (p.add g).At { k with mode := .plain } where
  free := .inl rfl
  parens := by
    simp only [Progress.add, h.parens]
    split <;> simp_all
  braces := by
    simp only [Progress.add, h.braces]
    split <;> simp_all

/-- **The run comes through a segment** as soon as it comes out of the text that the segment
begins. -/
theorem splitSegment_of_run (hp : p.At k) (hq : q.Free) (hrest : NoComment rest)
    (h : run k (c :: s) = some q) :
    ∃ kept left k', c :: s = kept ++ left ∧ kept ≠ [] ∧
      splitSegment (p.braces != 0) (c :: (s ++ rest)) = .ok ⟨kept, kept, left ++ rest⟩ ∧
      (p.add ⟨kept, kept, left ++ rest⟩).At k' ∧ run k' left = some q := by
  rw [run_cons] at h
  obtain ⟨k', hk', h⟩ := Option.bind_eq_some_iff.1 h
  obtain ⟨-, -, rfl⟩ := hp.free.next?_eq_some.1 hk'
  -- Literals and classes are passed in one go, all else one character at a time.
  have hlonger : ∀ inside close left, (p.add ⟨c :: (inside ++ [close]), c :: (inside ++ [close]),
      left ++ rest⟩).At { k with mode := .plain } :=
    fun _ _ _ => hp.add_longer (by simp)
  by_cases hquote : ∃ f : Fence, f ≠ .brackets ∧ c = f.close
  · obtain ⟨f, hf, rfl⟩ := hquote
    rw [Cursor.start_quote hf] at h
    obtain ⟨inside, left, rfl, hsealed, hleft⟩ := exists_sealed hq h
    refine ⟨_, left, _, by simp, by simp, ?_, hlonger inside f.close left, hleft⟩
    rw [List.append_assoc, List.cons_append]
    exact splitSegment_quoted hf hsealed _ _
  have hapostrophe : c ≠ '\x27' := fun hc => hquote ⟨.apostrophes, by simp, hc⟩
  have hquotes : c ≠ '\x22' := fun hc => hquote ⟨.quotes, by simp, hc⟩
  by_cases hbracket : c = '[' ∧ k.braces = 0
  · obtain ⟨rfl, hbraces⟩ := hbracket
    rw [Cursor.start_bracket hbraces] at h
    obtain ⟨inside, left, rfl, hsplit, -, hleft⟩ := exists_splitClass? hq h
    refine ⟨_, left, _, by simp, by simp, ?_, hlonger inside ']' left, hleft⟩
    rw [List.append_assoc, List.cons_append, ← hp.braces, hbraces]
    exact splitSegment_brackets (hsplit _)
  have hfree : (k.start c).Free := Cursor.start_free (by simp [Cursor.Opens, *])
  refine ⟨[c], s, k.start c, rfl, by simp, ?_, hp.add_single hfree, h⟩
  refine splitSegment_single ⟨hapostrophe, hquotes⟩ ?_ ?_
  · rintro rfl
    simpa [hp.braces] using hbracket
  · rintro rfl d hd
    cases s with
    | nil => exact hrest d hd
    | cons e s =>
      obtain rfl : e = d := by simpa using hd
      rw [run_cons] at h
      obtain ⟨_, hnext, -⟩ := Option.bind_eq_some_iff.1 h
      exact (hfree.next?_eq_some.1 hnext).2.1 rfl

theorem run_of_splitClass? {inside : List Char} {parens braces : Nat}
    (h : splitClass? s = some (inside, rest)) :
    run ⟨.opened, parens, braces⟩ (inside ++ [']']) = some ⟨.plain, parens, braces⟩ := by
  unfold splitClass? at h
  split at h
  · obtain ⟨⟨core, rest'⟩, hcore, he⟩ := Option.map_eq_some_iff.1 h
    cases he
    rw [closeClass?_eq_split?] at hcore
    exact run_sealed (f := .brackets) ((Literal.split?_eq_some (by decide)).1 hcore).1
  · next hhead =>
    rw [closeClass?_eq_split?] at h
    obtain ⟨hsealed, rfl⟩ := (Literal.split?_eq_some (by decide)).1 h
    have hhead : (inside ++ [']']).head? ≠ some ']' := by
      intro he
      cases inside with
      | nil => exact hhead _ rfl
      | cons c inside =>
        obtain rfl : c = ']' := by simpa using he
        exact hhead _ rfl
    rw [run_opened hhead (by simp)]
    exact run_sealed (f := .brackets) hsealed

/-- **What is kept of a segment** leads to where the splitting goes on. -/
theorem run_segment (hp : p.At k) (hends : ¬k.Ends c)
    (hslash : k.mode = .slash → NoComment (c :: s))
    (h : splitSegment (p.braces != 0) (c :: s) = .ok g) :
    ∃ k', run k g.kept = some k' ∧ (p.add g).At k' ∧ (k'.mode = .slash → NoComment g.rest) := by
  have hnext : k.next? c = some (k.start c) :=
    hp.free.next?_eq_some.2 ⟨hends, fun hmode => hslash hmode c rfl, rfl⟩
  have hplain : c = '/' → k.mode = .plain := by
    rintro rfl
    exact hp.free.resolve_right fun hmode => (hslash hmode '/' rfl).1 rfl
  unfold splitSegment at h
  split at h
  · next t he =>
    obtain ⟨rfl, rfl⟩ := List.cons.inj he
    cases h
    exact ⟨_, by rw [run_nil, ← hplain rfl], hp.add_longer (by simp), by simp⟩
  · next t he =>
    obtain ⟨rfl, rfl⟩ := List.cons.inj he
    split at h
    · cases h
      refine ⟨_, ?_, hp.add_longer (by simp), by simp⟩
      rw [run_cons, next?_inert (by decide), Cursor.settle, hplain rfl]
      rfl
    · cases h
  · next c' t hcomment hcomment' he =>
    obtain ⟨rfl, rfl⟩ := List.cons.inj he
    split at h
    · next hquote =>
      obtain ⟨f, hf, rfl⟩ : ∃ f : Fence, f ≠ .brackets ∧ c = f.close := by
        rcases hquote with rfl | rfl
        · exact ⟨.apostrophes, by simp, rfl⟩
        · exact ⟨.quotes, by simp, rfl⟩
      split at h
      · next hsplit =>
        obtain ⟨hsealed, -⟩ := (Literal.split?_eq_some (close_ne_backslash f)).1 hsplit
        cases h
        refine ⟨_, ?_, hp.add_longer (by simp), by simp⟩
        rw [List.cons_append, run_cons, hnext, Option.bind_some, Cursor.start_quote hf]
        exact run_sealed hsealed
      · cases h
    · split at h
      · next hbracket =>
        obtain ⟨rfl, hbraces⟩ := hbracket
        split at h
        · next hsplit =>
          cases h
          refine ⟨_, ?_, hp.add_longer (by simp), by simp⟩
          rw [List.cons_append, run_cons, hnext, Option.bind_some,
            Cursor.start_bracket (by simpa [hp.braces] using hbraces)]
          exact run_of_splitClass? hsplit
        · cases h
      · next hquote hbracket =>
        cases h
        have hfree : (k.start c).Free := by
          refine Cursor.start_free ?_
          rw [not_or] at hquote
          simpa [Cursor.Opens, hp.braces, hquote] using hbracket
        refine ⟨k.start c, by rw [run_cons, hnext]; rfl, hp.add_single hfree, fun hmode => ?_⟩
        have hc : c = '/' := by
          by_contra hc
          simp only [Cursor.start, if_neg hc] at hmode
          repeat' split at hmode
          all_goals cases hmode
        subst hc
        intro d hd
        cases s with
        | nil => cases hd
        | cons e s =>
          obtain rfl : e = d := by simpa using hd
          exact ⟨fun he => hcomment s rfl (by rw [he]), fun he => hcomment' s rfl (by rw [he])⟩
  · next he => cases he

end Segments

/-! ## Statements -/

section Statements

variable {p : Progress} {k q : Cursor} {c : Char} {s rest : List Char}

theorem Progress.At.see (h : p.At k) (c : Char) : (p.see c).At k := by
  unfold Progress.see
  split
  · exact ⟨h.free, h.parens, h.braces⟩
  · exact h

theorem Progress.current_see (p : Progress) (c : Char) : (p.see c).current = p.current := by
  unfold Progress.see
  split <;> rfl

theorem splitFrom_end (hp : p.At k) (hk : k.Final) (rest : List Char) :
    splitFrom p (';' :: rest) =
      (splitFrom (p.see ';').next rest).map ((p.see ';').statement?.toList ++ ·) := by
  have hsee := hp.see ';'
  rw [splitFrom, if_pos ⟨rfl, hsee.parens ▸ hk.2.1, hsee.braces ▸ hk.2.2⟩]

theorem splitFrom_cons (hp : p.At k) (hends : ¬k.Ends c) :
    splitFrom p (c :: s) =
      match splitSegment ((p.see c).braces != 0) (c :: s) with
      | .error fault => .error (.malformedDeclaration (p.see c).line fault)
      | .ok g => splitFrom ((p.see c).add g) g.rest := by
  rw [splitFrom, if_neg fun hc => hends ((hp.see c).ends.2 hc)]
  split
  · next fault hfault => rw [hfault]
  · next g hg => rw [hg]

theorem Progress.text_of_mem {st : Statement} (h : st ∈ p.statement?.toList) :
    st.text = Text.trim p.current := by
  unfold Progress.statement? at h
  dsimp only at h
  split at h
  · cases h
  · obtain rfl := List.mem_singleton.1 h
    rfl

/-- **A statement is split off** if the run comes to its end. -/
theorem splitFrom_append (hp : p.At k) (h : run k s = some q) (hq : q.Final) (rest : List Char) :
    ∃ p' : Progress, p'.current = p.current ++ s ∧
      splitFrom p (s ++ ';' :: rest) =
        (splitFrom p'.next rest).map (p'.statement?.toList ++ ·) := by
  induction hn : s.length using Nat.strong_induction_on generalizing s p k with
  | _ n ih =>
    cases s with
    | nil =>
      cases h
      exact ⟨p.see ';', by rw [Progress.current_see, List.append_nil], splitFrom_end hp hq rest⟩
    | cons c s =>
      have hends : ¬k.Ends c := by
        obtain ⟨_, hnext, -⟩ := Option.bind_eq_some_iff.1 h
        exact (hp.free.next?_eq_some.1 hnext).1
      have hcomment : NoComment (';' :: rest) := by simp [NoComment]
      obtain ⟨kept, left, k', he, hne, hsegment, hp', hleft⟩ :=
        splitSegment_of_run (hp.see c) hq.1 hcomment h
      have hlength : left.length < n := by
        have := congrArg List.length he
        have := List.length_pos_iff.2 hne
        simp only [List.length_append, List.length_cons] at *
        omega
      obtain ⟨p', hcurrent, hrest⟩ := ih left.length hlength hp' hleft rfl
      refine ⟨p', ?_, ?_⟩
      · rw [hcurrent, he, Progress.add, Progress.current_see, List.append_assoc]
      · rw [List.cons_append, splitFrom_cons hp hends, hsegment]
        exact hrest

/-- Blanks at the end of a statement change no depth. -/
theorem final_of_run_blanks (hs : ∀ c ∈ s, Text.isBlank c = true) (h : run k s = some q)
    (hq : q.Final) : k.Final := by
  induction s generalizing k with
  | nil =>
    cases h
    exact hq
  | cons c s ih =>
    rw [run_cons, next?_inert (isInert_of_isBlank (hs c List.mem_cons_self))] at h
    obtain ⟨hfree, hdepths⟩ := ih (fun d hd => hs d (List.mem_cons_of_mem _ hd)) h
    refine ⟨?_, hdepths⟩
    obtain ⟨mode, parens, braces⟩ := k
    cases mode <;> simp_all [Cursor.settle, Cursor.Free]

theorem run_blanks (hs : ∀ c ∈ s, Text.isBlank c = true) : run {} s = some {} := by
  induction s with
  | nil => rfl
  | cons c s ih =>
    rw [run_cons, next?_inert (isInert_of_isBlank (hs c List.mem_cons_self))]
    exact ih fun d hd => hs d (List.mem_cons_of_mem _ hd)

theorem exists_run_trim (h : run {} s = some q) (hq : q.Final) :
    ∃ q', run {} (Text.trim s) = some q' ∧ q'.Final := by
  obtain ⟨front, back, hfront, hback, hs⟩ := Text.exists_trim s
  rw [hs, List.append_assoc, run_append_of (run_blanks hfront), run_append] at h
  obtain ⟨q', hq', hrest⟩ := Option.bind_eq_some_iff.1 h
  exact ⟨q', hq', final_of_run_blanks hback hrest hq⟩

/-- **The run comes through every statement.** -/
theorem run_of_mem_splitFrom {sts : List Statement} {st : Statement} (hp : p.At k)
    (hcurrent : run {} p.current = some k) (hslash : k.mode = .slash → NoComment s)
    (h : splitFrom p s = .ok sts) (hst : st ∈ sts) :
    ∃ q, run {} st.text = some q ∧ q.Final := by
  induction hn : s.length using Nat.strong_induction_on generalizing s p k sts with
  | _ n ih =>
    cases s with
    | nil =>
      rw [splitFrom] at h
      split at h
      · cases h
      · cases h
        cases hst
    | cons c s =>
      by_cases hends : k.Ends c
      · obtain ⟨rfl, hdepths⟩ := hends
        rw [splitFrom_end hp ⟨hp.free, hdepths⟩] at h
        cases hrest : splitFrom (p.see ';').next s with
        | error e => rw [hrest] at h; cases h
        | ok sts' =>
          rw [hrest] at h
          cases h
          rcases List.mem_append.1 hst with hst | hst
          · rw [Progress.text_of_mem hst, Progress.current_see]
            exact exists_run_trim hcurrent ⟨hp.free, hdepths⟩
          · have hnext : (p.see ';').next.At {} := ⟨.inl rfl, rfl, rfl⟩
            exact ih s.length (by simp [← hn]) hnext rfl (by simp) hrest hst rfl
      · rw [splitFrom_cons hp hends] at h
        cases hsegment : splitSegment ((p.see c).braces != 0) (c :: s) with
        | error fault => rw [hsegment] at h; cases h
        | ok g =>
          rw [hsegment] at h
          obtain ⟨k', hrun, hp', hslash'⟩ := run_segment (hp.see c) hends hslash hsegment
          refine ih g.rest.length ?_ hp' ?_ hslash' h hst rfl
          · have := length_splitSegment hsegment
            simp only [List.length_cons] at hn
            omega
          · rw [Progress.add, Progress.current_see, run_append_of hcurrent]
            exact hrun

theorem run_of_mem_statements {src : List Char} {sts : List Statement} {st : Statement}
    (h : statements src = .ok sts) (hst : st ∈ sts) : ∃ q, run {} st.text = some q ∧ q.Final := by
  have hp : ({} : Progress).At {} := ⟨.inl rfl, rfl, rfl⟩
  exact run_of_mem_splitFrom hp rfl (by simp) h hst

/-- Nothing of a statement has been seen. -/
structure Progress.Fresh (p : Progress) : Prop where
  current : p.current = []
  parens : p.parens = 0
  braces : p.braces = 0

theorem Progress.Fresh.at (hp : p.Fresh) : p.At {} := ⟨.inl rfl, hp.parens.symm, hp.braces.symm⟩

/-- The run comes through a text that is more than blanks, to where a semicolon ends it. -/
def IsStatement (s : List Char) : Prop :=
  (Text.trim s).isEmpty = false ∧ ∃ q, run {} s = some q ∧ q.Final

theorem splitFrom_blanks (hp : p.At k) (hcurrent : ∀ c ∈ p.current, Text.isBlank c = true)
    (hs : ∀ c ∈ s, Text.isBlank c = true) : splitFrom p s = .ok [] := by
  induction s generalizing p k with
  | nil =>
    have htrim : Text.trim p.current = [] := by
      have := Text.trim_append_blank (s := []) hcurrent
      rwa [List.nil_append] at this
    rw [splitFrom]
    simp [Progress.statement?, htrim]
  | cons c s ih =>
    have hinert := isInert_of_isBlank (hs c List.mem_cons_self)
    simp only [isInert, List.mem_cons, List.not_mem_nil, or_false, not_or, decide_eq_true_eq]
      at hinert
    have hends : ¬k.Ends c := fun h => hinert.1 h.1
    have hfree : (k.start c).Free := Cursor.start_free (by simp [Cursor.Opens, hinert])
    rw [splitFrom_cons hp hends, splitSegment_single (by simp [hinert]) (by simp [hinert])
      (by simp [hinert])]
    refine ih ((hp.see c).add_single hfree) ?_ fun d hd => hs d (List.mem_cons_of_mem _ hd)
    rw [Progress.add, Progress.current_see]
    exact List.forall_mem_append.2 ⟨hcurrent, by simpa using hs c List.mem_cons_self⟩

/-- **Statements with semicolons behind them** are split off in turn. -/
theorem splitFrom_statements (hp : p.Fresh) {texts : List (List Char)} {blanks : List Char}
    (h : ∀ s ∈ texts, IsStatement s) (hblanks : ∀ c ∈ blanks, Text.isBlank c = true) :
    ∃ sts, splitFrom p (texts.flatMap (· ++ [';']) ++ blanks) = .ok sts ∧
      sts.map Statement.text = texts.map Text.trim := by
  induction texts generalizing p with
  | nil => exact ⟨[], splitFrom_blanks hp.at (by simp [hp.current]) hblanks, rfl⟩
  | cons s texts ih =>
    obtain ⟨hne, q, hrun, hq⟩ := h s List.mem_cons_self
    obtain ⟨p', hcurrent, hsplit⟩ :=
      splitFrom_append hp.at hrun hq (texts.flatMap (· ++ [';']) ++ blanks)
    obtain ⟨sts, hsts, htexts⟩ := ih (p := p'.next) ⟨rfl, rfl, rfl⟩
      fun t ht => h t (List.mem_cons_of_mem _ ht)
    rw [hp.current, List.nil_append] at hcurrent
    have hstatement : p'.statement? = some ⟨p'.startLine.getD p'.line, Text.trim s⟩ := by
      simp [Progress.statement?, hcurrent, hne]
    refine ⟨⟨p'.startLine.getD p'.line, Text.trim s⟩ :: sts, ?_, by simp [htexts]⟩
    have htext : (s :: texts).flatMap (· ++ [';']) ++ blanks =
        s ++ ';' :: (texts.flatMap (· ++ [';']) ++ blanks) := by
      simp
    rw [htext, hsplit, hsts, hstatement]
    rfl

end Statements

end Lexigram.Document
