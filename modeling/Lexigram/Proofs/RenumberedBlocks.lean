import Lexigram.Proofs.Relocation
import Lexigram.Proofs.Renumbering

/-!
# Texts under renumbered grammars

A grammar whose handles are replaced one to one makes the same of every text, with the handles
replaced.

**Lexing** (`TokenStream.ofText_renumber`). The rule that makes a token is the renumbered one. Id,
value, span and tags of the token do not tell its handle.

**Parsing** (`Parsing.stepsOf_renumber`). What can be read from a token is not its handle either, so
handles are replaced in two steps: in the rules and trees, and in the tokens that they hold.

**Processing** (`Block.ofText_renumber`). By induction on how deep texts may still be nested.

Main result: `Block.ofText_renumber`.
-/

namespace Lexigram

/-- The token with the handle of its rule replaced. -/
def Token.renumber (φ : Nat → Nat) (t : Token) : Token := { t with rule := φ t.rule }

variable {φ : Nat → Nat} {g g' : Grammar}

/-! ## Lexing -/

namespace Lexing

/-- The lexeme with the handle of its rule replaced. -/
def Lexeme.renumber (φ : Nat → Nat) (l : Lexeme) : Lexeme :=
  { l with token := l.token.renumber φ }

theorem lexemeOf_renumber (φ : Nat → Nat) (base : Nat) (r : Rule) (tree : SyntaxTree Char) :
    lexemeOf base (r.renumber φ) (tree.renumber φ) = (lexemeOf base r tree).renumber φ := by
  simp only [lexemeOf, SyntaxTree.span, SyntaxTree.units_renumber, SyntaxTree.start_renumber,
    SyntaxTree.stop_renumber]
  rfl

section Mirrored

variable (h : g.Mirrored φ g')

include h

theorem unmatchedLexeme_renumber (base : Nat) (tree : SyntaxTree Char) :
    unmatchedLexeme g' base (tree.renumber φ) = (unmatchedLexeme g base tree).renumber φ := by
  simp only [unmatchedLexeme, SyntaxTree.span, SyntaxTree.units_renumber,
    SyntaxTree.start_renumber, SyntaxTree.stop_renumber, h.settings]
  simp only [Lexeme.renumber, Token.renumber, h.unmatched]

variable (input : Input Char) (base pos : Nat)

theorem run_unmatchedAtom_renumber :
    (Matching.run g' input [Grammar.unmatchedAtom] pos).value =
      (Matching.run g input [Grammar.unmatchedAtom] pos).value.renumber φ := by
  have hatom : Atom.renumberChain φ [Grammar.unmatchedAtom] = [Grammar.unmatchedAtom] := by
    rw [Atom.renumberChain, Atom.renumberChain, Grammar.unmatchedAtom, Atom.renumber,
      Mark.renumber, h.unmatched]
  have hrun := Matching.run_renumber h (fun _ => rfl) input [Grammar.unmatchedAtom] pos
  rwa [hatom] at hrun

theorem next_renumber :
    (next g' input base pos).value =
      (next g input base pos).value.map (Lexeme.renumber φ) id := by
  have hfirst := Matching.firstAbsolute_renumber h (fun _ => rfl) input pos g.lexerRules
  rw [next, next, Noted.value_bind, Noted.value_bind, h.lexerRules, hfirst]
  cases (Matching.firstAbsolute g input pos g.lexerRules).value with
  | none =>
    dsimp only [Option.map_none]
    rw [Noted.value_bind, Noted.value_bind, run_unmatchedAtom_renumber h]
    simp only [Noted.value_bind, Noted.value_pure, SyntaxTree.stop_renumber,
      unmatchedLexeme_renumber h]
    rfl
  | some found =>
    simp only [Option.map_some, Prod.map, Noted.value_pure, lexemeOf_renumber,
      SyntaxTree.stop_renumber, id]

theorem lexemesFrom_renumber :
    (lexemesFrom g' input base pos).value =
      (lexemesFrom g input base pos).value.map (Lexeme.renumber φ) := by
  induction hn : input.size - pos using Nat.strong_induction_on generalizing pos with
  | _ m ih =>
    rw [lexemesFrom_value, lexemesFrom_value, next_renumber h]
    split
    · obtain ⟨l, stop⟩ := (next g input base pos).value
      have hrest := ih (input.size - max (pos + 1) stop) (by omega) (max (pos + 1) stop) rfl
      simp only [Prod.map_apply, id, hrest, List.map_cons]
    · rfl

end Mirrored

end Lexing

namespace TokenStream

/-- The stream with the handles of the rules replaced. -/
def renumber (φ : Nat → Nat) (s : TokenStream) : TokenStream :=
  { s with tokens := s.tokens.map (Token.renumber φ), trivia := s.trivia.map (Token.renumber φ) }

theorem ofText_renumber (h : g.Mirrored φ g') (text : List Char) (base : Nat) :
    (ofText g' text base).value = (ofText g text base).value.renumber φ := by
  rw [ofText_value, ofText_value, Lexing.lexemesFrom_renumber h, ofLexemes, ofLexemes, renumber]
  simp only [List.filter_map, List.map_map]
  rfl

end TokenStream

/-! ## Parsing -/

/-- The handle of a token is not among what can be read from it. -/
theorem Readable.keeps_renumber (φ : Nat → Nat) : Readable.Keeps (Token.renumber φ) where
  width _ := rfl
  test p ts := by cases ts <;> rfl
  standsFor? r := by
    show (if r.kind.isLexer then _ else _) = Option.map _ (if r.kind.isLexer then _ else _)
    split <;> rfl
  endsAnywhere := rfl

namespace Parsing

/-- The step with the handles of its rule and tree replaced, but not those in its tokens. -/
def Step.relabel (φ : Nat → Nat) : Step → Step
  | .group r tree => .group (r.renumber φ) (tree.renumber φ)
  | .skipped t => .skipped t

/-- The step with all handles replaced. -/
def Step.renumber (φ : Nat → Nat) (step : Step) : Step :=
  (step.relabel φ).carry (Token.renumber φ) 0

section Mirrored

variable (h : g.Mirrored φ g')

include h

theorem next_relabel (input : Input Token) (pos : Nat) (t : Token) :
    (next g' input pos t).value = (next g input pos t).value.map (Step.relabel φ) id := by
  have hfirst := Matching.firstAbsolute_renumber h (fun _ => rfl) input pos g.parserRules
  rw [next_value, next_value, h.parserRules, hfirst]
  cases (Matching.firstAbsolute g input pos g.parserRules).value with
  | none => rfl
  | some found => simp only [Option.map_some, Prod.map, id, Step.relabel, SyntaxTree.stop_renumber]

theorem stepsFrom_relabel (input : Input Token) (pos : Nat) :
    (stepsFrom g' input pos).map Noted.value =
      ((stepsFrom g input pos).map Noted.value).map (Step.relabel φ) := by
  induction hn : input.size - pos using Nat.strong_induction_on generalizing pos with
  | _ m ih =>
    rw [stepsFrom, stepsFrom]
    by_cases hp : pos < input.size
    · rw [dif_pos hp, dif_pos hp]
      split
      · next t _ =>
        have hnext := next_relabel h input pos t
        have hstop : (next g' input pos t).value.2 = (next g input pos t).value.2 := by rw [hnext]; rfl
        have hstep : (next g' input pos t).value.1 = (next g input pos t).value.1.relabel φ := by
          rw [hnext]
          rfl
        have hrest := ih (input.size - max (pos + 1) (next g input pos t).value.2) (by omega)
          (max (pos + 1) (next g input pos t).value.2) rfl
        simp only [List.map_cons, hstop, hrest]
        exact congrArg (· :: _) hstep
      · rfl
    · rw [dif_neg hp, dif_neg hp]
      rfl

theorem stepsOf_renumber (tokens : List Token) :
    (stepsOf g' (tokens.map (Token.renumber φ))).map Noted.value =
      ((stepsOf g tokens).map Noted.value).map (Step.renumber φ) := by
  have hcarry := stepsFrom_carry g' (Readable.keeps_renumber φ)
    (Input.appears_map (Readable.keeps_renumber φ) tokens) 0
  rw [stepsFrom_relabel h (.ofUnits tokens), List.map_map] at hcarry
  exact hcarry

end Mirrored

theorem treeOf_relabel (hroot : φ Grammar.root = Grammar.root) (steps : List Step) :
    treeOf (steps.map (Step.relabel φ)) = (treeOf steps).renumber φ := by
  have hfold : ∀ root : SyntaxTree Token,
      (steps.map (Step.relabel φ)).foldl addStep (root.renumber φ) =
        (steps.foldl addStep root).renumber φ := by
    induction steps with
    | nil => intro root; rfl
    | cons step steps ih =>
      intro root
      have hstep : addStep (root.renumber φ) (step.relabel φ) = (addStep root step).renumber φ := by
        cases step with
        | group r tree => exact (SyntaxTree.renumber_absorb φ root tree).symm
        | skipped t =>
          rw [SyntaxTree.renumber_eq, SyntaxTree.renumber_eq]
          rfl
      rw [List.map_cons, List.foldl_cons, List.foldl_cons, hstep, ih]
  have hbegin := SyntaxTree.renumber_begin φ (some Grammar.root) 0 (α := Token)
  rw [Option.map_some, hroot] at hbegin
  rw [treeOf, treeOf, SyntaxTree.renumber_settle, ← hfold, hbegin]

theorem treeOf_renumber (hroot : φ Grammar.root = Grammar.root) (steps : List Step) :
    treeOf (steps.map (Step.renumber φ)) =
      ((treeOf steps).renumber φ).carry (Token.renumber φ) 0 := by
  rw [← treeOf_relabel hroot, ← treeOf_carry, List.map_map]
  rfl

theorem groupings_renumber (φ : Nat → Nat) (steps : List Step) :
    groupings (steps.map (Step.renumber φ)) =
      (groupings steps).map (Option.map (Rule.renumber φ)) := by
  rw [groupings, groupings, List.flatMap_map, List.map_flatMap]
  congr 1
  funext step
  cases step with
  | group r tree =>
    simp only [Step.renumber, Step.relabel, Step.carry, SyntaxTree.units_carry,
      SyntaxTree.units_renumber, List.length_map, List.map_replicate, Option.map_some]
  | skipped t => rfl

end Parsing

/-! ## Processing -/

namespace Block

mutual

/-- The block with all handles replaced. -/
def renumber (φ : Nat → Nat) : Block → Block
  | ⟨offset, depth, stream, steps, nested⟩ =>
    ⟨offset, depth, stream.renumber φ, steps.map (.renumber φ), renumberAll φ nested⟩

/-- The blocks with all handles replaced. -/
def renumberAll (φ : Nat → Nat) : List Block → List Block
  | [] => []
  | b :: bs => renumber φ b :: renumberAll φ bs

end

theorem renumberAll_eq_map (φ : Nat → Nat) (bs : List Block) :
    renumberAll φ bs = bs.map (renumber φ) := by
  induction bs with
  | nil => rfl
  | cons b bs ih => rw [renumberAll, ih, List.map_cons]

theorem renumber_eq (φ : Nat → Nat) (b : Block) : b.renumber φ =
    { b with
      stream := b.stream.renumber φ
      steps := b.steps.map (.renumber φ)
      nested := b.nested.map (renumber φ) } := by
  obtain ⟨offset, depth, stream, steps, nested⟩ := b
  rw [renumber, renumberAll_eq_map]

/-- **Handles are only names.** A grammar whose handles are replaced one to one makes the same block
of every text, with the handles replaced. -/
theorem ofText_renumber (h : g.Mirrored φ g') (o : Options) (depth : Nat) (text : List Char)
    (offset : Nat) :
    ofText g' o depth text offset = (ofText g o depth text offset).renumber φ := by
  induction depth, text, offset using process.induct o with
  | case1 depth text offset ih =>
    have hinner : ∀ t : Token, blockInside? g' o depth (t.renumber φ) =
        (blockInside? g o depth t).map (renumber φ) := by
      intro t
      have hinside : inside? o depth (t.renumber φ) = inside? o depth t := rfl
      rw [blockInside?, blockInside?, hinside]
      cases hinside : inside? o depth t with
      | none => rfl
      | some inside =>
        have hd := (inside?_eq_some.1 hinside).2.2.1
        exact congrArg some (ih hd inside (t.span.start + 1))
    rw [ofText_eq, ofText_eq g o, renumber_eq, TokenStream.ofText_renumber h]
    simp only [TokenStream.renumber, Parsing.stepsOf_renumber h, Parsing.treeOf_renumber h.root,
      SyntaxTree.units_carry, SyntaxTree.units_renumber, List.filterMap_map, List.map_filterMap,
      Function.comp_def, hinner]

theorem tree_renumber (hroot : φ Grammar.root = Grammar.root) (b : Block) :
    (b.renumber φ).tree = (b.tree.renumber φ).carry (Token.renumber φ) 0 := by
  rw [renumber_eq, tree, tree, Parsing.treeOf_renumber hroot]

theorem groupings_renumber (φ : Nat → Nat) (b : Block) :
    (b.renumber φ).groupings = b.groupings.map (Option.map (Rule.renumber φ)) := by
  rw [renumber_eq, groupings, groupings, Parsing.groupings_renumber]

end Block

end Lexigram
