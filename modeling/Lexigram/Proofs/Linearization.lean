import Lexigram.Proofs.Blocks

/-!
# The events tell the blocks

What happens while a text is processed is told by the block that comes out, from the outermost text
to the innermost.

**Lexing** (`Lexing.filterMap_lexemeEvent?`). Each turn of the lexer tells the token that it keeps, so
the events of its loop are the tokens of the stream in their order.

**The order** (`linearize`). A block is told by its text, by its tokens, and then from token to token
by the children of its tree and the tokens in none of them. A child is followed by the blocks that
stand inside its tokens.

**Steps** (`weave_stepped`). Going through the children and the tokens between them is going
through the steps that made the tree.

**Nested blocks** (`Made.filter_nested`). Tokens begin at different places, so where a nested block
begins tells the token that it stands inside.

Main result: `events_eq_linearize`.
-/

namespace Lexigram

open Matching (runRule)

/-! ## The events of lexing -/

/-- The event of a token, by the rule that made it. -/
def Block.announce (t : Token) : Event :=
  if t.rule = Grammar.unmatched then .unmatched t else .token t

namespace Lexing

open Block (announce lexemeEvent?)

variable {g : Grammar} (hg : g.Built) (input : Input Char) (base : Nat)

include hg

/-- A turn of the lexer tells the token that it keeps, and nothing if it keeps none. -/
theorem lexemeEvent?_next (pos : Nat) :
    let l := (next g input base pos).value.1
    lexemeEvent? l = if l.skipped then none else some (announce l.token) := by
  rw [next, Noted.value_bind, Matching.firstAbsolute_value]
  cases hr : g.lexerRules.find? fun r => (runRule g input r pos).value.isAbsolute with
  | none => rfl
  | some r =>
    have htwo := hg.two_le_handle (Grammar.mem_rules_of_mem_candidates (List.mem_of_find?_eq_some hr))
    have hne : r.handle ≠ Grammar.unmatched := fun he => by
      replace he : r.handle = 1 := he
      omega
    have hannounce : announce (lexemeOf base r (runRule g input r pos).value).token =
        .token (lexemeOf base r (runRule g input r pos).value).token := if_neg hne
    show lexemeEvent? (lexemeOf base r (runRule g input r pos).value) =
      if r.options.skip then none else some (announce (lexemeOf base r _).token)
    rw [hannounce]
    cases hskip : r.options.skip <;> simp [lexemeEvent?, lexemeOf, Block.tokenEvent, hskip]

/-- **The lexer tells the tokens** in the order in which they are kept. By induction on the turns of
its loop. -/
theorem filterMap_lexemeEvent? (pos : Nat) :
    let ls := (lexemesFrom g input base pos).value
    ls.filterMap lexemeEvent? = ((ls.filter fun l => !l.skipped).map Lexeme.token).map announce := by
  induction hn : input.size - pos using Nat.strong_induction_on generalizing pos with
  | _ n ih =>
    rw [lexemesFrom_value]
    split
    · have hrest := ih _ (by omega) (max (pos + 1) (next g input base pos).value.2) rfl
      have hturn := lexemeEvent?_next hg input base pos
      dsimp only at hrest hturn ⊢
      rw [List.filterMap_cons, hturn, hrest, List.filter_cons]
      cases (next g input base pos).value.1.skipped <;> rfl
    · rfl

end Lexing

/-! ## The order of a block -/

namespace Block

open Parsing (Step Stepped treeOf)

/-- The events of the children of a tree from a token on, each followed by those of the texts inside
its tokens, and between them the events of the tokens that lie in none. -/
def weave (inner : Token → List Event) (tokens : List Token) :
    Nat → List (SyntaxTree Token) → List Event
  | i, [] => (tokens.drop i).map .skipped
  | i, c :: cs =>
    ((tokens.drop i).take (c.start - i)).map .skipped ++
      .grouped c.rule c.units :: (c.units.flatMap inner ++ weave inner tokens c.stop cs)

mutual

/-- The events that tell a block. -/
def linearize : Block → List Event
  | ⟨offset, depth, stream, steps, nested⟩ =>
    let told := linearizeAll nested
    .entered offset (Text.byteLength stream.text) depth :: stream.tokens.map announce ++
      weave (fun t => (told.filter fun n => n.1 = t.span.start + 1).flatMap Prod.snd)
        stream.tokens 0 (treeOf steps).children

/-- Where some blocks begin, each with the events that tell it. -/
def linearizeAll : List Block → List (Nat × List Event)
  | [] => []
  | b :: bs => (b.offset, linearize b) :: linearizeAll bs

end

theorem linearizeAll_eq_map (bs : List Block) :
    linearizeAll bs = bs.map fun b => (b.offset, b.linearize) := by
  induction bs with
  | nil => rfl
  | cons b bs ih => rw [linearizeAll, ih, List.map_cons]

/-- The events of the blocks that begin inside a token. -/
def innerEvents (b : Block) (t : Token) : List Event :=
  (b.nested.filter fun n => n.offset = t.span.start + 1).flatMap linearize

theorem linearize_eq (b : Block) :
    b.linearize = .entered b.offset b.length b.depth :: b.stream.tokens.map announce ++
      weave b.innerEvents b.stream.tokens 0 b.tree.children := by
  obtain ⟨offset, depth, stream, steps, nested⟩ := b
  rw [linearize, linearizeAll_eq_map]
  simp only [List.filter_map, List.flatMap_map]
  rfl

/-! ## Steps -/

section Weave

variable {inner : Token → List Event} {tokens : List Token} {i : Nat}

theorem weave_skipped {t : Token} (ht : tokens[i]? = some t) {cs : List (SyntaxTree Token)}
    (hcs : ∀ c ∈ cs, i < c.start) :
    weave inner tokens i cs = .skipped t :: weave inner tokens (i + 1) cs := by
  obtain ⟨hi, rfl⟩ := List.getElem?_eq_some_iff.1 ht
  have hdrop := List.drop_eq_getElem_cons hi
  cases cs with
  | nil => rw [weave, weave, hdrop, List.map_cons]
  | cons c cs =>
    have hlt := hcs c List.mem_cons_self
    have hstart : c.start - i = c.start - (i + 1) + 1 := by omega
    rw [weave, weave, hdrop, hstart, List.take_succ_cons, List.map_cons, List.cons_append]

theorem weave_grouped {c : SyntaxTree Token} (hc : c.start = i) (cs : List (SyntaxTree Token)) :
    weave inner tokens i (c :: cs) =
      .grouped c.rule c.units :: (c.units.flatMap inner ++ weave inner tokens c.stop cs) := by
  rw [weave, hc, Nat.sub_self, List.take_zero, List.map_nil, List.nil_append]

/-- To go through the trees of some steps is to go through the steps. -/
theorem weave_stepped {g : Grammar} {steps : List Step} (h : Stepped g tokens i steps) :
    weave inner tokens i (steps.filterMap Step.tree?) = steps.flatMap (stepEvents inner) := by
  induction h with
  | done => rw [List.filterMap_nil, weave, List.drop_length]; rfl
  | @step pos stop step steps hstep hsteps ih =>
    cases hstep with
    | group hfirst hs ha =>
      rw [List.filterMap_cons_some (f := Step.tree?) rfl, weave_grouped hs.start, ih,
        List.flatMap_cons, stepEvents, List.cons_append]
    | skipped hfirst ht =>
      rw [List.filterMap_cons_none (f := Step.tree?) rfl, weave_skipped ht.getElem?_single, ih,
        List.flatMap_cons, stepEvents, List.singleton_append]
      intro c hc
      obtain ⟨r, hr⟩ := Parsing.mem_trees.1 hc
      exact (hsteps.isStep hr).1

end Weave

/-! ## Nested blocks -/

section Made

variable {g : Grammar} {o : Options} {b : Block} {t : Token} (hg : g.Built) (h : b.Made g o)

include hg h

/-- Among the grouped tokens, no other one begins where a token does. -/
theorem Made.filter_units (ht : t ∈ b.tree.units) :
    b.tree.units.filter (fun u => u.span.start = t.span.start) = [t] := by
  have hlt := (h.starts_lt hg).sublist h.units_sublist
  have hstarts : (b.tree.units.map fun t => t.span.start).Nodup :=
    List.pairwise_map.2 (hlt.imp Nat.ne_of_lt)
  have hsame : ∀ u ∈ b.tree.units, u.span.start = t.span.start ↔ u = t := fun u hu =>
    ⟨List.inj_on_of_nodup_map hstarts hu ht, fun he => he ▸ rfl⟩
  rw [List.filter_congr fun u hu => decide_eq_decide.2 (hsame u hu), List.filter_eq,
    List.count_eq_one_of_mem hstarts.of_map ht, List.replicate_one]

/-- The nested block that begins inside a token is that of the text inside the token. -/
theorem Made.filter_nested (ht : t ∈ b.tree.units) :
    b.nested.filter (fun n => n.offset = t.span.start + 1) =
      (blockInside? g o b.depth t).toList := by
  have hfilter : ∀ u : Token,
      (blockInside? g o b.depth u).filter (fun n => n.offset = t.span.start + 1) =
        if decide (u.span.start = t.span.start) then blockInside? g o b.depth u else none := by
    intro u
    rw [blockInside?]
    cases inside? o b.depth u with
    | none => exact (ite_self none).symm
    | some inside =>
      rw [Option.map_some, Option.filter_some, offset_ofText]
      simp only [Nat.add_right_cancel_iff]
  rw [h.nested_eq, List.filter_filterMap, List.filterMap_congr fun u _ => hfilter u,
    ← List.filterMap_filter, h.filter_units hg ht, List.filterMap_eq_flatMap_toList,
    List.flatMap_singleton]

/-- What is told of the text inside a token is told of the block that begins there. -/
theorem Made.innerEvents_eq (ht : t ∈ b.tree.units) :
    b.innerEvents t = ((blockInside? g o b.depth t).map linearize).getD [] := by
  rw [innerEvents, h.filter_nested hg ht]
  cases blockInside? g o b.depth t with
  | none => rfl
  | some n => exact List.flatMap_singleton linearize n

end Made

/-- **A text is told by its block.** By induction on how deep texts may still be nested. -/
theorem eventsOf_eq_linearize {g : Grammar} (hg : g.Built) (o : Options) (depth : Nat)
    (text : List Char) (offset : Nat) :
    eventsOf g o depth text offset = (ofText g o depth text offset).linearize := by
  induction depth, text, offset using process.induct o with
  | case1 depth text offset ih =>
    have hmade := made_ofText g o depth text offset
    have htokens : (Lexing.lexemesFrom g (.ofUnits text) offset 0).value.filterMap lexemeEvent? =
        (ofText g o depth text offset).stream.tokens.map announce := by
      rw [stream_ofText, TokenStream.ofText_value]
      exact Lexing.filterMap_lexemeEvent? hg _ offset 0
    have hinside : ∀ t, eventsInside g o depth t =
        ((blockInside? g o depth t).map linearize).getD [] := by
      intro t
      rw [eventsInside, blockInside?, Option.map_map]
      cases hinside : inside? o depth t with
      | none => rfl
      | some inside => exact ih (inside?_eq_some.1 hinside).2.2.1 inside (t.span.start + 1)
    have hsteps : ∀ step ∈ (ofText g o depth text offset).steps,
        stepEvents (eventsInside g o depth) step =
          stepEvents (ofText g o depth text offset).innerEvents step := by
      intro step hstep
      cases step with
      | skipped t => rfl
      | group r c =>
        have hunits : ∀ t ∈ c.units, t ∈ (ofText g o depth text offset).tree.units := by
          intro t ht
          rw [tree, Parsing.units_treeOf, Parsing.children_treeOf, List.mem_flatMap]
          exact ⟨c, Parsing.mem_trees.2 ⟨r, hstep⟩, ht⟩
        have hinner : ∀ t ∈ c.units, eventsInside g o depth t =
            (ofText g o depth text offset).innerEvents t := by
          intro t ht
          rw [hinside, hmade.innerEvents_eq hg (hunits t ht), depth_ofText]
        rw [stepEvents, stepEvents, List.flatMap_congr hinner]
    rw [eventsOf_eq, linearize_eq, htokens, offset_ofText, depth_ofText, length, text_ofText, tree,
      Parsing.children_treeOf, weave_stepped hmade.stepped, List.flatMap_congr hsteps]

/-- **The events tell the blocks.** The events of processing a text by a built grammar are those
that tell the block that comes out, at every depth of nesting. None is missing, none is there twice,
and they come in the order in which the blocks are told. -/
theorem events_eq_linearize {g : Grammar} (hg : g.Built) (o : Options) (text : List Char) :
    (process g o 0 text 0).value.2 = (process g o 0 text 0).value.1.linearize :=
  eventsOf_eq_linearize hg o 0 text 0

set_option maxRecDepth 4000 in
/-- A list with a pair in it, which are read again, and a character behind it that no rule groups.
What is inside the list is told before the character is stepped over. -/
theorem events_eq_linearize_of_list :
    let list : Definition := { id := "LIST", body := "'[' ~']'* ']'", options := ["retokenize"] }
    let pair : Definition := { id := "PAIR", body := "'(' ~')'* ')'", options := ["retokenize"] }
    let b := ((({} : Builder).compile list).1.compile pair).1
    let g := (b.compile { id := "value", body := "LIST | PAIR" }).1.build.value
    let r := (process g {} 0 ['[', '(', 'a', ')', ']', 'b'] 0).value
    g.Built ∧ r.2 = r.1.linearize ∧ r.2.map Event.render =
      ["block at 0 of 6 bytes, depth 0", "token LIST \"[(a)]\" (0,5)",
        "unmatched UNMATCHED \"b\" (5,6)", "tree of 1 tokens (0..5)",
        "block at 1 of 3 bytes, depth 1", "token PAIR \"(a)\" (1,4)",
        "tree of 1 tokens (1..4)", "block at 2 of 1 bytes, depth 2",
        "unmatched UNMATCHED \"a\" (2,3)", "skipped UNMATCHED \"a\" (2,3)",
        "skipped UNMATCHED \"b\" (5,6)"] := by
  intro list pair b g r
  have hg : g.Built := .of_reachable (.compile _ (.compile _ (.compile _ (.new {}))))
  refine ⟨hg, events_eq_linearize hg {} _, ?_⟩
  unfold r g b pair list
  cbv

end Block

end Lexigram
