import Lexigram.Proofs.Blocks

/-!
# Nested blocks are blocks of their own

To process a text inside another one is to process it alone and to move the outcome: where the text
begins is added to all offsets, and how deep it is nested to all depths.

**Lexing** (`TokenStream.ofText_shift`). Where a text begins is added to the spans of its tokens and
is not looked at.

**Parsing** (`Parsing.stepsOf_shift`). What can be read from a token is not its span, so steps carry
over to tokens that are moved.

**Processing** (`Block.ofText_shift`). By induction on how deep texts may still be nested: whether a
token is read again depends on how much of the depth is left.

Main result: `eq_shift_of_mem_walk`.
-/

namespace Lexigram

/-! ## Lexing -/

/-- The token with its text further to the right. -/
def Token.shift (distance : Nat) (t : Token) : Token := { t with span := t.span.shift distance }

theorem Span.shift_add (s : Span) (m n : Nat) : s.shift (m + n) = (s.shift m).shift n := by
  rw [shift, shift, shift, Nat.add_assoc, Nat.add_assoc]

namespace Lexing

/-- The lexeme with its text further to the right. -/
def Lexeme.shift (distance : Nat) (l : Lexeme) : Lexeme :=
  { l with token := l.token.shift distance }

theorem lexemeOf_shift (base n : Nat) (r : Rule) (tree : SyntaxTree Char) :
    lexemeOf (base + n) r tree = (lexemeOf base r tree).shift n := by
  rw [lexemeOf, tree.span.shift_add]
  rfl

theorem unmatchedLexeme_shift (g : Grammar) (base n : Nat) (tree : SyntaxTree Char) :
    unmatchedLexeme g (base + n) tree = (unmatchedLexeme g base tree).shift n := by
  rw [unmatchedLexeme, tree.span.shift_add]
  rfl

section Base

variable (g : Grammar) (input : Input Char) (base n pos : Nat)

theorem next_base :
    (next g input (base + n) pos).value =
      (next g input base pos).value.map (Lexeme.shift n) id := by
  rw [next, next, Noted.value_bind, Noted.value_bind]
  cases (Matching.firstAbsolute g input pos g.lexerRules).value with
  | none => exact congrArg (·, _) (unmatchedLexeme_shift g base n _)
  | some found => exact congrArg (·, _) (lexemeOf_shift base n found.1 found.2)

/-- Where a text begins is added to the spans of its lexemes. -/
theorem lexemesFrom_base :
    (lexemesFrom g input (base + n) pos).value =
      (lexemesFrom g input base pos).value.map (Lexeme.shift n) := by
  induction hn : input.size - pos using Nat.strong_induction_on generalizing pos with
  | _ m ih =>
    rw [lexemesFrom_value, lexemesFrom_value, next_base]
    split
    · obtain ⟨l, stop⟩ := (next g input base pos).value
      have hrest := ih (input.size - max (pos + 1) stop) (by omega) (max (pos + 1) stop) rfl
      simp only [Prod.map_apply, id, hrest, List.map_cons]
    · rfl

end Base

end Lexing

namespace TokenStream

/-- The stream of a text further to the right. -/
def shift (distance : Nat) (s : TokenStream) : TokenStream :=
  { text := s.text
    base := s.base + distance
    tokens := s.tokens.map (Token.shift distance)
    trivia := s.trivia.map (Token.shift distance) }

theorem ofText_shift (g : Grammar) (text : List Char) (base n : Nat) :
    (ofText g text (base + n)).value = (ofText g text base).value.shift n := by
  rw [ofText_value, ofText_value, Lexing.lexemesFrom_base, ofLexemes, ofLexemes, shift]
  simp only [List.filter_map, List.map_map]
  rfl

end TokenStream

/-! ## Parsing -/

/-- The span of a token is not among what can be read from it. -/
theorem Readable.keeps_shift (n : Nat) : Readable.Keeps (Token.shift n) where
  width _ := rfl
  test p ts := by cases ts <;> rfl
  standsFor? r := by
    show (if r.kind.isLexer then _ else _) = Option.map _ (if r.kind.isLexer then _ else _)
    split <;> rfl
  endsAnywhere := rfl

namespace Input

variable {α β : Type} [Readable α] [Readable β] {f : α → β}

theorem tailsOf_map (hf : Readable.Keeps f) (s : List α) :
    tailsOf (s.map f) = (tailsOf s).map (Option.map (List.map f)) := by
  induction s with
  | nil => rfl
  | cons a s ih =>
    rw [List.map_cons, tailsOf, ih, hf.width, tailsOf, List.map_cons, List.map_append,
      List.map_replicate]
    rfl

/-- Units that are renamed show what they showed before. -/
theorem appears_map (hf : Readable.Keeps f) (s : List α) :
    (ofUnits s).Appears f 0 (ofUnits (s.map f)) where
  size := by
    rw [size, size, ofUnits, ofUnits, tailsOf_map hf, List.size_toArray, List.size_toArray,
      List.length_map, Nat.zero_add]
  rest? pos := by
    rw [rest?, rest?, ofUnits, ofUnits, tailsOf_map hf, List.getElem?_toArray,
      List.getElem?_toArray, List.getElem?_map, Nat.zero_add]
    cases (tailsOf s)[pos]? <;> rfl

end Input

namespace Parsing

theorem stepsOf_shift (g : Grammar) (tokens : List Token) (n : Nat) :
    (stepsOf g (tokens.map (Token.shift n))).map Noted.value =
      ((stepsOf g tokens).map Noted.value).map (Step.carry (Token.shift n) 0) :=
  stepsFrom_carry g (Readable.keeps_shift n) (Input.appears_map (Readable.keeps_shift n) tokens) 0

theorem foldl_addStep_carry (f : Token → Token) (n : Nat) (steps : List Step)
    (root : SyntaxTree Token) :
    (steps.map (Step.carry f n)).foldl addStep (root.carry f n) =
      (steps.foldl addStep root).carry f n := by
  induction steps generalizing root with
  | nil => rfl
  | cons step steps ih =>
    have hstep : addStep (root.carry f n) (step.carry f n) = (addStep root step).carry f n := by
      cases step with
      | group r tree => exact (SyntaxTree.carry_absorb f n root tree).symm
      | skipped t =>
        rw [SyntaxTree.carry_eq, SyntaxTree.carry_eq]
        rfl
    rw [List.map_cons, List.foldl_cons, List.foldl_cons, hstep, ih]

theorem treeOf_carry (f : Token → Token) (steps : List Step) :
    treeOf (steps.map (Step.carry f 0)) = (treeOf steps).carry f 0 := by
  rw [treeOf, treeOf, SyntaxTree.carry_settle, ← foldl_addStep_carry, SyntaxTree.carry_begin]

theorem groupings_carry (f : Token → Token) (n : Nat) (steps : List Step) :
    groupings (steps.map (Step.carry f n)) = groupings steps := by
  rw [groupings, groupings, List.flatMap_map]
  congr 1
  funext step
  cases step with
  | group r tree => simp only [Step.carry, SyntaxTree.units_carry, List.length_map]
  | skipped t => rfl

end Parsing

/-! ## Processing -/

namespace Block

mutual

/-- The block of a text further to the right and nested more deeply. -/
def shift (distance deeper : Nat) : Block → Block
  | ⟨offset, depth, stream, steps, nested⟩ =>
    ⟨offset + distance, depth + deeper, stream.shift distance,
      steps.map (.carry (Token.shift distance) 0), shiftAll distance deeper nested⟩

/-- The blocks of texts further to the right and nested more deeply. -/
def shiftAll (distance deeper : Nat) : List Block → List Block
  | [] => []
  | b :: bs => shift distance deeper b :: shiftAll distance deeper bs

end

section Shift

variable (n k : Nat)

theorem shiftAll_eq_map (bs : List Block) : shiftAll n k bs = bs.map (shift n k) := by
  induction bs with
  | nil => rfl
  | cons b bs ih => rw [shiftAll, ih, List.map_cons]

theorem shift_eq (b : Block) : b.shift n k =
    { offset := b.offset + n, depth := b.depth + k, stream := b.stream.shift n,
      steps := b.steps.map (.carry (Token.shift n) 0), nested := b.nested.map (shift n k) } := by
  obtain ⟨offset, depth, stream, steps, nested⟩ := b
  rw [shift, shiftAll_eq_map]

/-- The options with which texts may be nested more deeply. -/
def Options.deepen (o : Options) : Options := { o with maxDepth := o.maxDepth + k }

theorem inside?_shift (o : Options) (depth : Nat) (t : Token) :
    inside? (o.deepen k) (depth + k) (t.shift n) = inside? o depth t := by
  have hd : decide (depth + k < (o.deepen k).maxDepth) = decide (depth < o.maxDepth) :=
    decide_eq_decide.2 Nat.add_lt_add_iff_right
  rw [inside?, inside?, hd]
  rfl

/-- **Processing carries over.** To process a text further to the right and nested more deeply, with
as much depth left, is to process it and to move the block. -/
theorem ofText_shift (g : Grammar) (o : Options) (depth : Nat) (text : List Char) (offset : Nat) :
    ofText g (o.deepen k) (depth + k) text (offset + n) =
      (ofText g o depth text offset).shift n k := by
  induction depth, text, offset using process.induct o with
  | case1 depth text offset ih =>
    have hinner : ∀ t : Token, blockInside? g (o.deepen k) (depth + k) (t.shift n) =
        (blockInside? g o depth t).map (shift n k) := by
      intro t
      rw [blockInside?, blockInside?, inside?_shift]
      cases hinside : inside? o depth t with
      | none => rfl
      | some inside =>
        have hd := (inside?_eq_some.1 hinside).2.2.1
        -- The text inside the token moves along with the token.
        have hblock := ih hd inside (t.span.start + 1)
        rw [Nat.add_right_comm depth 1 k, Nat.add_right_comm t.span.start 1 n] at hblock
        exact congrArg some hblock
    rw [ofText_eq, ofText_eq g o, shift_eq, TokenStream.ofText_shift]
    simp only [TokenStream.shift, Parsing.stepsOf_shift, Parsing.treeOf_carry,
      SyntaxTree.units_carry, List.filterMap_map, List.map_filterMap, Function.comp_def, hinner]

theorem tree_shift (b : Block) : (b.shift n k).tree = b.tree.carry (Token.shift n) 0 := by
  rw [shift_eq, tree, tree, Parsing.treeOf_carry]

theorem groupings_shift (b : Block) : (b.shift n k).groupings = b.groupings := by
  rw [shift_eq, groupings, groupings, Parsing.groupings_carry]

end Shift

/-- **Nested blocks are blocks of their own.** A block that is nested in another is what processing
its text alone makes with as much depth as is left, moved to where its text begins and to how deep
it is nested. So are its tree and the rules that grouped its tokens. -/
theorem eq_shift_of_mem_walk (g : Grammar) (o : Options) (text : List Char) :
    ∀ b ∈ (process g o 0 text 0).value.1.walk, b.depth ≤ o.maxDepth ∧
      let left : Options := { o with maxDepth := o.maxDepth - b.depth }
      let alone := (process g left 0 b.stream.text 0).value.1
      b = alone.shift b.offset b.depth ∧
        b.tree = alone.tree.carry (Token.shift b.offset) 0 ∧ b.groupings = alone.groupings := by
  intro b hb
  have hinv := walk_induction (p := fun b => b.Made g o ∧ b.depth ≤ o.maxDepth)
    (fun b hb n hn => ⟨hb.1.of_mem_nested hn, (hb.1.depth_nested hn).2⟩)
    ⟨made_ofText g o 0 text 0, by rw [depth_ofText]; exact Nat.zero_le _⟩ b hb
  obtain ⟨hmade, hdepth⟩ := hinv
  refine ⟨hdepth, ?_⟩
  intro left alone
  have hleft : left.deepen b.depth = o := by
    show ({ o with maxDepth := o.maxDepth - b.depth + b.depth } : Options) = o
    rw [Nat.sub_add_cancel hdepth]
  have hshift : b = alone.shift b.offset b.depth := by
    have hmoved := ofText_shift b.offset b.depth g left 0 b.stream.text 0
    rw [hleft, Nat.zero_add, Nat.zero_add] at hmoved
    exact hmade.trans hmoved
  exact ⟨hshift, (congrArg tree hshift).trans (tree_shift b.offset b.depth alone),
    (congrArg groupings hshift).trans (groupings_shift b.offset b.depth alone)⟩

set_option maxRecDepth 4000 in
/-- The text inside the inner list, where texts may be nested no more deeply. -/
theorem eq_shift_of_inner_list :
    let list : Definition := { id := "LIST", body := "'[' ~']'* ']'", options := ["retokenize"] }
    let pair : Definition := { id := "PAIR", body := "'(' ~')'* ')'", options := ["retokenize"] }
    let b := ((({} : Builder).compile list).1.compile pair).1
    let g := (b.compile { id := "value", body := "LIST | PAIR" }).1.build.value
    let o : Options := { maxDepth := 2 }
    ∃ b ∈ (process g o 0 ['[', '(', 'ä', ')', ']'] 0).value.1.walk,
      (b.depth, b.offset) = (2, 2) ∧ b.depth ≤ o.maxDepth ∧
        let left : Options := { o with maxDepth := o.maxDepth - b.depth }
        let alone := (process g left 0 b.stream.text 0).value.1
        b = alone.shift b.offset b.depth ∧
          b.tree = alone.tree.carry (Token.shift b.offset) 0 ∧ b.groupings = alone.groupings := by
  intro list pair b g o
  have hplaces : (process g o 0 ['[', '(', 'ä', ')', ']'] 0).value.1.walk.map
      (fun b => (b.depth, b.offset)) = [(0, 0), (1, 1), (2, 2)] := by
    unfold o g b pair list
    cbv
  have hmem : (2, 2) ∈ (process g o 0 ['[', '(', 'ä', ')', ']'] 0).value.1.walk.map
      fun b => (b.depth, b.offset) := by
    rw [hplaces]
    decide
  obtain ⟨inner, hinner, hplace⟩ := List.mem_map.1 hmem
  exact ⟨inner, hinner, hplace, eq_shift_of_mem_walk g o _ inner hinner⟩

end Block

end Lexigram
