import Lexigram.Block
import Lexigram.Proofs.Partition

/-!
# Blocks and what is nested in them

Processing a text reads it and then does the same for the text inside some of its tokens.

**What is read again** (`inside?`). Of a token that a rule grouped, the text between its delimiters,
if the rule of the token asks for it and if texts may be nested more deeply.

**One text** (`process_value`). The nested blocks are those of the texts inside the grouped tokens,
in the order of the tokens. The events of such a text follow those of the group of its token.

**Blocks of their texts** (`Made`). A block that processing makes is what processing its own text
makes, from its offset and its depth, and so are the blocks nested in it. What is known of one text
is thereby known of each block, at any depth (`walk_induction`).

Main results: `process_value`, `process_ensures`.
-/

namespace Lexigram

/-! ## Computations along a list -/

namespace Noted

variable {β ε : Type}

@[simp] theorem value_filterMapM (f : ε → Noted (Option β)) (xs : List ε) :
    (xs.filterMapM f).value = xs.filterMap fun x => (f x).value := by
  induction xs with
  | nil => rfl
  | cons x xs ih =>
    rw [List.filterMapM_cons, value_bind, List.filterMap_cons]
    cases (f x).value with
    | none => exact ih
    | some b => rw [value_bind, value_pure, ih]

theorem Avoids.filterMapM {kind : Notice → Bool} {f : ε → Noted (Option β)} {xs : List ε}
    (h : ∀ x ∈ xs, (f x).Avoids kind fun _ => True) :
    (xs.filterMapM f).Avoids kind fun _ => True := by
  induction xs with
  | nil => exact .pure trivial
  | cons x xs ih =>
    have hrest := ih fun y hy => h y (List.mem_cons_of_mem x hy)
    rw [List.filterMapM_cons]
    refine (h x List.mem_cons_self).bind fun found _ => ?_
    cases found with
    | none => exact hrest
    | some b => exact hrest.bind fun bs _ => .pure trivial

end Noted

/-! ## Delimiters -/

namespace Delimiters

/-- Delimiters are ASCII characters. -/
theorem utf8Size_of_isPunctuation {c : Char} (h : isPunctuation c) : c.utf8Size = 1 := by
  rw [isPunctuation, Bool.and_eq_true, Bool.and_eq_true, decide_eq_true_eq, decide_eq_true_eq] at h
  have hle : c.val ≤ 126 := h.1.2
  rw [Char.utf8Size, if_pos (UInt32.le_trans hle (by decide))]

theorem utf8Size_of_closing? {first last : Char} (h : closing? first = some last) :
    first.utf8Size = 1 ∧ last.utf8Size = 1 := by
  unfold closing? at h
  split at h
  case h_9 c =>
    split at h
    · next hc =>
      cases h
      exact ⟨utf8Size_of_isPunctuation hc, utf8Size_of_isPunctuation hc⟩
    · cases h
  all_goals
    cases h
    try exact ⟨rfl, rfl⟩

/-- What is stripped off a text is one byte at each of its ends. -/
theorem strip?_eq_some {s inside : List Char} (h : strip? s = some inside) :
    ∃ first last, s = first :: (inside ++ [last]) ∧ first.utf8Size = 1 ∧ last.utf8Size = 1 := by
  cases s with
  | nil => cases h
  | cons first rest =>
    rw [strip?] at h
    cases hclose : closing? first with
    | none => rw [hclose] at h; cases h
    | some close =>
      cases hlast : rest.getLast? with
      | none => rw [hclose, hlast] at h; cases h
      | some last =>
        rw [hclose, hlast] at h
        dsimp only at h
        split at h
        · next he =>
          cases h
          subst he
          refine ⟨first, last, ?_, utf8Size_of_closing? hclose⟩
          rw [List.dropLast_append_getLast? last hlast]
        · cases h

end Delimiters
namespace Block

open Parsing (Step stepsOf treeOf)

/-- The text inside a token that is to be read again, in a block of some depth. -/
def inside? (o : Options) (depth : Nat) (t : Token) : Option (List Char) :=
  if o.retokenize && t.hasOption "retokenize" && decide (depth < o.maxDepth) then
    Delimiters.strip? t.value
  else none

/-- The events of a step, with those of the texts inside its tokens. -/
def stepEvents (inner : Token → List Event) : Step → List Event
  | .skipped t => [.skipped t]
  | .group _ tree => .grouped tree.rule tree.units :: tree.units.flatMap inner

section Process

variable (g : Grammar) (o : Options) (depth : Nat) (text : List Char) (offset : Nat)

/-- The block of a text that begins at some offset and is nested at some depth. -/
def ofText : Block := (process g o depth text offset).value.1

/-- The events of a text that begins at some offset and is nested at some depth. -/
def eventsOf : List Event := (process g o depth text offset).value.2

/-- How the texts inside the tokens of a block are processed, if they are. -/
def again? : Option (List Char → Nat → Processed) :=
  if depth < o.maxDepth then some (process g o (depth + 1)) else none

/-- What processing the text inside a token leaves. -/
def processInside? (t : Token) : Option (Block × List Event) :=
  (inside? o depth t).map fun inside => (process g o (depth + 1) inside (t.span.start + 1)).value

/-- The block of the text inside a token. -/
def blockInside? (t : Token) : Option Block :=
  (inside? o depth t).map fun inside => ofText g o (depth + 1) inside (t.span.start + 1)

/-- The events of the text inside a token. -/
def eventsInside (t : Token) : List Event :=
  ((inside? o depth t).map fun inside =>
    eventsOf g o (depth + 1) inside (t.span.start + 1)).getD []

/-! ## One text -/

theorem process_eq :
    process g o depth text offset = (do
      let lexemes ← Lexing.lexemesFrom g (.ofUnits text) offset 0
      let stream := TokenStream.ofLexemes text offset lexemes
      let steps ← (stepsOf g stream.tokens).mapM fun step => do
        let step ← step
        pure (step, ← finishStep o (again? g o depth) step)
      let block : Block :=
        { offset, depth, stream, steps := steps.map Prod.fst
          nested := steps.flatMap fun s => s.2.1 }
      pure (block, .entered offset (Text.byteLength text) depth ::
        lexemes.filterMap lexemeEvent? ++ steps.flatMap fun s => s.2.2)) := by
  rw [process]
  rfl

theorem retokenize_value {t : Token} (ho : o.retokenize = true)
    (ht : t.hasOption "retokenize" = true) :
    (retokenize o (again? g o depth) t).value = processInside? g o depth t := by
  rw [retokenize, processInside?, inside?, again?, ho, ht]
  by_cases hd : depth < o.maxDepth
  · rw [if_pos hd, decide_eq_true hd]
    cases Delimiters.strip? t.value <;> rfl
  · rw [if_neg hd, decide_eq_false hd]
    cases Delimiters.strip? t.value <;> rfl

/-- Tokens whose rule does not ask for it are not read again. -/
theorem filterMap_retokenize (ts : List Token) :
    (if o.retokenize then ts.filter (·.hasOption "retokenize") else []).filterMap
      (fun t => (retokenize o (again? g o depth) t).value) =
        ts.filterMap (processInside? g o depth) := by
  split
  · next ho =>
    rw [List.filterMap_filter]
    refine List.filterMap_congr fun t _ => ?_
    split
    · next ht => exact retokenize_value g o depth ho ht
    · next ht =>
      rw [processInside?, inside?, Bool.eq_false_iff.2 ht, Bool.and_false]
      rfl
  · next ho =>
    refine (List.filterMap_eq_nil_iff.2 fun t _ => ?_).symm
    rw [processInside?, inside?, Bool.eq_false_iff.2 ho, Bool.false_and]
    rfl

theorem finishStep_group (r : Rule) (tree : SyntaxTree Token) :
    (finishStep o (again? g o depth) (.group r tree)).value =
      (tree.units.filterMap (blockInside? g o depth),
        stepEvents (eventsInside g o depth) (.group r tree)) := by
  have hblocks : (tree.units.filterMap (processInside? g o depth)).map Prod.fst =
      tree.units.filterMap (blockInside? g o depth) := by
    rw [List.map_filterMap]
    refine List.filterMap_congr fun t _ => ?_
    rw [processInside?, blockInside?, Option.map_map]
    rfl
  have hevents : (tree.units.filterMap (processInside? g o depth)).flatMap Prod.snd =
      tree.units.flatMap (eventsInside g o depth) := by
    rw [List.filterMap_eq_flatMap_toList, List.flatMap_assoc]
    refine List.flatMap_congr fun t _ => ?_
    rw [processInside?, eventsInside]
    cases inside? o depth t with
    | none => rfl
    | some inside => exact List.flatMap_singleton Prod.snd _
  rw [finishStep, Noted.value_bind, Noted.value_filterMapM, Noted.value_pure,
    filterMap_retokenize, hblocks, hevents]
  rfl

theorem finishStep_events (step : Step) :
    (finishStep o (again? g o depth) step).value.2 = stepEvents (eventsInside g o depth) step := by
  cases step with
  | group r tree => rw [finishStep_group]
  | skipped t => rfl

/-- The nested blocks of some steps are those of the tokens that the steps grouped. -/
theorem flatMap_finishStep (steps : List Step) :
    (steps.flatMap fun step => (finishStep o (again? g o depth) step).value.1) =
      (treeOf steps).units.filterMap (blockInside? g o depth) := by
  rw [Parsing.units_treeOf, Parsing.children_treeOf, List.filterMap_flatMap]
  induction steps with
  | nil => rfl
  | cons step steps ih =>
    rw [List.flatMap_cons, ih]
    cases step with
    | group r tree =>
      rw [finishStep_group, List.filterMap_cons_some (f := Step.tree?) rfl, List.flatMap_cons]
    | skipped t => rw [List.filterMap_cons_none (f := Step.tree?) rfl]; rfl

/-- **What processing one text leaves.** -/
theorem process_value :
    (process g o depth text offset).value =
      let lexemes := (Lexing.lexemesFrom g (.ofUnits text) offset 0).value
      let stream := TokenStream.ofLexemes text offset lexemes
      let steps := (stepsOf g stream.tokens).map Noted.value
      ({ offset, depth, stream, steps,
         nested := (treeOf steps).units.filterMap (blockInside? g o depth) },
        .entered offset (Text.byteLength text) depth ::
          lexemes.filterMap lexemeEvent? ++ steps.flatMap (stepEvents (eventsInside g o depth))) := by
  rw [process_eq, Noted.value_bind, Noted.value_bind, Noted.value_mapM, Noted.value_pure]
  simp only [Noted.value_bind, Noted.value_pure, List.map_map, List.flatMap_map, finishStep_events]
  rw [← flatMap_finishStep, List.flatMap_map]
  rfl

theorem ofText_eq :
    ofText g o depth text offset =
      let stream := (TokenStream.ofText g text offset).value
      let steps := (stepsOf g stream.tokens).map Noted.value
      { offset, depth, stream, steps,
        nested := (treeOf steps).units.filterMap (blockInside? g o depth) } := by
  rw [ofText, process_value, TokenStream.ofText_value]

@[simp] theorem offset_ofText : (ofText g o depth text offset).offset = offset := by
  rw [ofText_eq]

@[simp] theorem depth_ofText : (ofText g o depth text offset).depth = depth := by
  rw [ofText_eq]

theorem stream_ofText :
    (ofText g o depth text offset).stream = (TokenStream.ofText g text offset).value := by
  rw [ofText_eq]

@[simp] theorem text_ofText : (ofText g o depth text offset).stream.text = text := by
  rw [stream_ofText, TokenStream.ofText_value]
  rfl

theorem steps_ofText :
    (ofText g o depth text offset).steps =
      (stepsOf g (ofText g o depth text offset).stream.tokens).map Noted.value := by
  rw [stream_ofText, ofText_eq]

/-- The nested blocks are those of the texts inside the grouped tokens. -/
theorem nested_ofText :
    (ofText g o depth text offset).nested =
      (ofText g o depth text offset).tree.units.filterMap (blockInside? g o depth) := by
  rw [tree, steps_ofText, stream_ofText, ofText_eq]

/-- The events are those of the lexemes and then those of the steps, with the events of the nested
blocks between them. -/
theorem eventsOf_eq :
    eventsOf g o depth text offset =
      .entered offset (Text.byteLength text) depth ::
        (Lexing.lexemesFrom g (.ofUnits text) offset 0).value.filterMap lexemeEvent? ++
          (ofText g o depth text offset).steps.flatMap (stepEvents (eventsInside g o depth)) := by
  rw [steps_ofText, stream_ofText, TokenStream.ofText_value, eventsOf, process_value]

end Process

theorem inside?_eq_some {o : Options} {depth : Nat} {t : Token} {inside : List Char} :
    inside? o depth t = some inside ↔ o.retokenize = true ∧ t.hasOption "retokenize" = true ∧
      depth < o.maxDepth ∧ Delimiters.strip? t.value = some inside := by
  rw [inside?, Option.ite_none_right_eq_some, Bool.and_eq_true, Bool.and_eq_true,
    decide_eq_true_eq, and_assoc, and_assoc]

/-! ## Blocks of their texts -/

/-- A block is what processing its text leaves. -/
def Made (g : Grammar) (o : Options) (b : Block) : Prop :=
  b = ofText g o b.depth b.stream.text b.offset

theorem made_ofText (g : Grammar) (o : Options) (depth : Nat) (text : List Char) (offset : Nat) :
    (ofText g o depth text offset).Made g o := by
  rw [Made, depth_ofText, text_ofText, offset_ofText]

section Made

variable {g : Grammar} {o : Options} {b n : Block} (h : b.Made g o)

include h

theorem Made.stream_eq : b.stream = (TokenStream.ofText g b.stream.text b.offset).value := by
  have hstream := congrArg Block.stream h
  rwa [stream_ofText] at hstream

theorem Made.steps_eq : b.steps = (stepsOf g b.stream.tokens).map Noted.value := by
  rw [h]
  exact steps_ofText g o _ _ _

theorem Made.nested_eq :
    b.nested = b.tree.units.filterMap (blockInside? g o b.depth) := by
  have hnested := congrArg Block.nested h
  rwa [nested_ofText, ← show b = _ from h] at hnested

theorem Made.mem_nested :
    n ∈ b.nested ↔ ∃ t ∈ b.tree.units, ∃ inside, inside? o b.depth t = some inside ∧
      ofText g o (b.depth + 1) inside (t.span.start + 1) = n := by
  rw [h.nested_eq]
  simp only [blockInside?, List.mem_filterMap, Option.map_eq_some_iff]

theorem Made.of_mem_nested (hn : n ∈ b.nested) : n.Made g o := by
  obtain ⟨t, -, inside, -, rfl⟩ := h.mem_nested.1 hn
  exact made_ofText g o _ _ _

theorem Made.depth_nested (hn : n ∈ b.nested) :
    n.depth = b.depth + 1 ∧ n.depth ≤ o.maxDepth := by
  obtain ⟨t, -, inside, hinside, rfl⟩ := h.mem_nested.1 hn
  have hd := (inside?_eq_some.1 hinside).2.2.1
  rw [depth_ofText]
  exact ⟨rfl, hd⟩

theorem Made.stepped : Parsing.Stepped g b.stream.tokens 0 b.steps := by
  rw [h.steps_eq]
  exact Parsing.stepsFrom_stepped g b.stream.tokens (boundary_zero _)

/-- The grouped tokens are some of the tokens, in their order. -/
theorem Made.units_sublist : b.tree.units.Sublist b.stream.tokens := by
  rw [tree, Parsing.units_treeOf, Parsing.children_treeOf]
  exact h.stepped.units_sublist

variable (hg : g.Built)

include hg

theorem Made.tiles : Tiles b.stream.text b.offset 0 b.stream.all := by
  have htiles := TokenStream.tiles_all hg b.stream.text b.offset
  rwa [← h.stream_eq] at htiles

theorem Made.tokens_apart :
    b.stream.tokens.Pairwise fun t u => t.span.stop ≤ u.span.start := by
  rw [h.stream_eq]
  exact TokenStream.tokens_apart hg b.stream.text b.offset

theorem Made.tokens_nodup : b.stream.tokens.Nodup := by
  rw [h.stream_eq]
  exact TokenStream.tokens_nodup hg b.stream.text b.offset

theorem Made.partitions : Parsing.Partitions g b.stream.tokens b.steps :=
  h.stepped.partitions (h.tokens_nodup hg)

theorem Made.start_lt_stop {t : Token} (ht : t ∈ b.stream.tokens) : t.span.start < t.span.stop :=
  (h.tiles hg).nonempty t (TokenStream.mem_all.2 (.inl ht))

/-- Each token begins before the next ones do. -/
theorem Made.starts_lt : b.stream.tokens.Pairwise fun t u => t.span.start < u.span.start :=
  (h.tokens_apart hg).imp_of_mem fun ht _ hle => Nat.lt_of_lt_of_le (h.start_lt_stop hg ht) hle

/-- The grouped tokens stand in the order of the text. -/
theorem Made.units_apart : b.tree.units.Pairwise fun t u => t.span.stop ≤ u.span.start :=
  (h.tokens_apart hg).sublist h.units_sublist

end Made

/-! ## All texts -/

/-- Processing a text leaves no fault. -/
theorem process_ensures {g : Grammar} (hg : g.Built) (o : Options) (depth : Nat)
    (text : List Char) (offset : Nat) :
    (process g o depth text offset).Ensures fun _ => True := by
  induction depth, text, offset using process.induct o with
  | case1 depth text offset ih =>
    have hretokenize : ∀ t, (retokenize o (again? g o depth) t).Ensures fun _ => True := by
      intro t
      unfold retokenize
      split
      · exact (Noted.Avoids.note (p := fun _ => True) rfl trivial).bind fun _ _ => .pure trivial
      · unfold again?
        by_cases hd : depth < o.maxDepth
        · rw [if_pos hd]
          exact (ih hd _ _).map
        · rw [if_neg hd]
          exact (Noted.Avoids.note (p := fun _ => True) rfl trivial).bind fun _ _ => .pure trivial
    have hfinish : ∀ step, (finishStep o (again? g o depth) step).Ensures fun _ => True := by
      intro step
      cases step with
      | skipped t => exact .pure trivial
      | group r tree =>
        exact (Noted.Avoids.filterMapM fun t _ => hretokenize t).bind fun _ _ => .pure trivial
    rw [process_eq]
    refine (Lexing.lexemesFrom_ensures hg text offset (boundary_zero text)).bind fun lexemes _ => ?_
    refine (Noted.Avoids.mapM fun step hstep => ?_).bind fun _ _ => .pure trivial
    refine (Parsing.stepsFrom_ensures g _ (boundary_zero _) step hstep).bind fun step _ => ?_
    exact (hfinish step).bind fun _ _ => .pure trivial

/-- What passes from a block to those nested in it passes to all blocks in it. -/
theorem walk_induction {p : Block → Prop} (hp : ∀ b, p b → ∀ n ∈ b.nested, p n) {b : Block}
    (h : p b) : ∀ c ∈ b.walk, p c := by
  refine (walk.mutual_induct (fun b => p b → ∀ c ∈ b.walk, p c)
    (fun bs => (∀ b ∈ bs, p b) → ∀ c ∈ walkAll bs, p c) ?block ?nil ?cons).1 b h
  case block =>
    intro offset depth stream steps nested ih h c hc
    rw [walk, List.mem_cons] at hc
    rcases hc with rfl | hc
    · exact h
    · exact ih (hp _ h) c hc
  case nil =>
    intro _ c hc
    rw [walkAll] at hc
    exact absurd hc List.not_mem_nil
  case cons =>
    intro b bs ihb ihbs h c hc
    rw [walkAll, List.mem_append] at hc
    rcases hc with hc | hc
    · exact ihb (h b List.mem_cons_self) c hc
    · exact ihbs (fun d hd => h d (List.mem_cons_of_mem b hd)) c hc

end Block

end Lexigram
