import Lexigram.Proofs.Grouping
import Lexigram.Proofs.Shifting
import Mathlib

/-!
# Reading restarts anywhere

Lexing and parsing can begin again between any two of their pieces: what they make from there on is
what they make of the rest alone.

**Turns** (`Matching.firstAbsolute_shift`, `Lexing.next_shift`). The candidates are tried against
what is left, so a turn behind some units is the turn without them, shifted.

**Loops** (`Lexing.lexemesFrom_shift`, `Parsing.stepsFrom_shift`). A loop that goes on behind some
units is the loop over the others, by induction on what is left.

**Pieces** (`Lexing.lexemesFrom_split`, `Parsing.stepsFrom_split`). Wherever the pieces are divided,
those that follow are the pieces of the loop that goes on from there.

Main result: `reading_restarts`.
-/

namespace Lexigram

open Readable (extent extent_nil extent_append extent_cons extent_chars extent_tokens)

/-! ## Candidates -/

namespace Matching

theorem firstAbsolute_shift {α : Type} [Readable α] (g : Grammar) (front back : List α) (pos : Nat)
    (rules : List Rule) :
    (firstAbsolute g (.ofUnits (front ++ back)) (extent front + pos) rules).value =
      (firstAbsolute g (.ofUnits back) pos rules).value.map
        (Prod.map id (SyntaxTree.shift (extent front))) := by
  rw [firstAbsolute_carry g Readable.keeps_id (Input.appears_shift front back),
    SyntaxTree.carry_id_eq]

end Matching

/-! ## Lexing -/

namespace Lexing

section Shift

variable (g : Grammar) (front back : List Char) (base pos : Nat)

theorem span_shift {α : Type} (t : SyntaxTree α) (n : Nat) :
    (t.shift n).span.shift base = t.span.shift (base + n) := by
  rw [SyntaxTree.span, SyntaxTree.span, SyntaxTree.start_shift, SyntaxTree.stop_shift, Span.shift,
    Span.shift]
  congr 1
  · show n + t.start + base = t.start + (base + n)
    omega
  · show n + t.stop + base = t.stop + (base + n)
    omega

theorem next_shift :
    (next g (.ofUnits (front ++ back)) base (extent front + pos)).value =
      (next g (.ofUnits back) (base + extent front) pos).value.map id (extent front + ·) := by
  rw [next, next, Noted.value_bind, Noted.value_bind, Matching.firstAbsolute_shift]
  cases (Matching.firstAbsolute g (.ofUnits back) pos g.lexerRules).value with
  | none =>
    simp only [Option.map_none, Noted.value_bind, Noted.value_pure, Matching.run_shift,
      unmatchedLexeme, SyntaxTree.units_shift, SyntaxTree.stop_shift, span_shift, Prod.map_apply,
      id]
  | some found =>
    simp only [Option.map_some, Prod.map, Noted.value_pure, lexemeOf, SyntaxTree.units_shift,
      SyntaxTree.stop_shift, span_shift, id]

/-- The loop behind some characters is the loop over the others. -/
theorem lexemesFrom_shift :
    (lexemesFrom g (.ofUnits (front ++ back)) base (extent front + pos)).value =
      (lexemesFrom g (.ofUnits back) (base + extent front) pos).value := by
  induction hn : (Input.ofUnits back).size - pos using Nat.strong_induction_on generalizing pos with
  | _ n ih =>
    rw [lexemesFrom_value, lexemesFrom_value, Input.size_shift, next_shift]
    by_cases hp : pos < (Input.ofUnits back).size
    · rw [if_pos hp, if_pos (Nat.add_lt_add_left hp _)]
      obtain ⟨l, stop⟩ := (next g (.ofUnits back) (base + extent front) pos).value
      have hmax : max (extent front + pos + 1) (extent front + stop) =
          extent front + max (pos + 1) stop := by omega
      have hrest := ih ((Input.ofUnits back).size - max (pos + 1) stop) (by omega)
        (max (pos + 1) stop) rfl
      simp only [Prod.map_apply, id, hmax, hrest]
    · rw [if_neg hp, if_neg (by omega)]

end Shift

/-- Where lexemes are divided, the loop goes on with those that follow. -/
theorem lexemesFrom_split {g : Grammar} (hg : g.Built) (text : List Char) (base : Nat)
    {pos : Nat} (h : Boundary text pos) {ls ls' : List Lexeme}
    (hsplit : (lexemesFrom g (.ofUnits text) base pos).value = ls ++ ls') :
    ∃ stop, Spans text pos stop (ls.flatMap fun l => l.token.value) ∧
      (∀ l ∈ ls, l.token.span.start < stop + base) ∧
      ls' = (lexemesFrom g (.ofUnits text) base stop).value := by
  induction ls generalizing pos with
  | nil => exact ⟨pos, h.spans_nil, fun l hl => absurd hl List.not_mem_nil, hsplit.symm⟩
  | cons l ls ih =>
    have hlexed := (lexemesFrom_ensures hg text base h).2
    rw [hsplit] at hlexed
    have hp : pos < extent text := by
      cases hlexed with
      | turn hturn _ => exact Nat.lt_of_lt_of_le hturn.lt hturn.value.boundary_stop.le
    obtain ⟨front, c, back, rfl, rfl⟩ := h.exists_of_lt hp
    rw [lexemesFrom_of_lt hg, Noted.value_bind, Noted.value_bind, Noted.value_pure,
      List.cons_append] at hsplit
    obtain ⟨rfl, hrest⟩ := List.cons.inj hsplit
    have hturn := (next_ensures hg front back c base).2
    obtain ⟨stop, hspans, hstarts, hls'⟩ := ih hturn.value.boundary_stop hrest
    refine ⟨stop, ?_, fun l hl => ?_, hls'⟩
    · rw [List.flatMap_cons]
      exact hturn.value.append hspans
    · rcases List.mem_cons.1 hl with rfl | hl
      · rw [hturn.span]
        exact Nat.add_lt_add_right (Nat.lt_of_lt_of_le hturn.lt hspans.le) base
      · exact hstarts l hl

end Lexing

namespace TokenStream

open Lexing (Lexeme Lexed lexemesFrom)

/-- The tokens and the trivia of a stream that begin at a position of the outermost text or behind
it, as the stream of the text that is left there. -/
def continued (s : TokenStream) (text : List Char) (pos : Nat) : TokenStream :=
  { text
    base := pos
    tokens := s.tokens.filter fun t => pos ≤ t.span.start
    trivia := s.trivia.filter fun t => pos ≤ t.span.start }

theorem filter_map_append {ls ls' : List Lexeme} {pos : Nat} (p : Lexeme → Bool)
    (h : ∀ l ∈ ls, l.token.span.start < pos) (h' : ∀ l ∈ ls', pos ≤ l.token.span.start) :
    (((ls ++ ls').filter p).map Lexeme.token).filter (fun t => pos ≤ t.span.start) =
      (ls'.filter p).map Lexeme.token := by
  have hbefore : ((ls.filter p).map Lexeme.token).filter (fun t => pos ≤ t.span.start) = [] := by
    refine List.filter_eq_nil_iff.2 fun t ht => ?_
    obtain ⟨l, hl, rfl⟩ := List.mem_map.1 ht
    have hlt := h l (List.mem_of_mem_filter hl)
    rw [decide_eq_true_eq]
    omega
  have hbehind : ((ls'.filter p).map Lexeme.token).filter (fun t => pos ≤ t.span.start) =
      (ls'.filter p).map Lexeme.token := by
    refine List.filter_eq_self.2 fun t ht => ?_
    obtain ⟨l, hl, rfl⟩ := List.mem_map.1 ht
    exact decide_eq_true (h' l (List.mem_of_mem_filter hl))
  rw [List.filter_append, List.map_append, List.filter_append, hbefore, hbehind, List.nil_append]

/-- **Lexing restarts between any two entries.** What stands before them is the text of the entries
so far, and the entries from there on are those of the text that is left. -/
theorem ofText_continued {g : Grammar} (hg : g.Built) {text : List Char} {base : Nat}
    {before behind : List Token}
    (h : (ofText g text base).value.all = before ++ behind) :
    ∃ front back, text = front ++ back ∧ front = before.flatMap Token.value ∧
      (ofText g back (base + Text.byteLength front)).value =
        (ofText g text base).value.continued back (base + Text.byteLength front) := by
  have hzero := boundary_zero text
  have hlexed := (Lexing.lexemesFrom_ensures hg text base hzero).2
  rw [ofText_value, all_ofLexemes hlexed] at h
  obtain ⟨ls, ls', hls, rfl, rfl⟩ := List.map_eq_append_iff.1 h
  obtain ⟨stop, ⟨none, back, htext, hnone, hstop⟩, hstarts, hls'⟩ :=
    Lexing.lexemesFrom_split hg text base hzero hls
  -- Nothing stands before the first entry.
  obtain rfl : none = [] := by
    by_contra hne
    have := Readable.extent_pos hne
    omega
  rw [List.nil_append] at htext hstop
  generalize hfront : (ls.flatMap fun l => l.token.value) = front at htext hstop
  subst htext
  have hshift := Lexing.lexemesFrom_shift g front back base 0
  rw [Nat.add_zero, ← hstop, ← hls', hstop, extent_chars] at hshift
  refine ⟨front, back, rfl, ?_, ?_⟩
  · rw [← hfront, List.flatMap_map]
  · have hbehind : ∀ l ∈ ls', base + Text.byteLength front ≤ l.token.span.start := by
      have hback := (Lexing.lexemesFrom_ensures hg back (base + Text.byteLength front)
        (boundary_zero back)).2
      intro l hl
      rw [hshift] at hl
      have hle := hback.le_start hl
      omega
    have hbefore : ∀ l ∈ ls, l.token.span.start < base + Text.byteLength front := by
      intro l hl
      have hlt := hstarts l hl
      rwa [hstop, extent_chars, Nat.add_comm] at hlt
    rw [ofText_value, ofText_value, hls, ← hshift, continued]
    simp only [ofLexemes, filter_map_append _ hbefore hbehind]

end TokenStream

/-! ## Parsing -/

namespace Parsing

/-- The step moved to the right. -/
def Step.shift (distance : Nat) : Step → Step
  | .group r tree => .group r (tree.shift distance)
  | .skipped t => .skipped t

theorem Step.tree?_shift (n : Nat) (step : Step) :
    (step.shift n).tree? = step.tree?.map (SyntaxTree.shift n) := by
  cases step <;> rfl

theorem Step.carry_id (n : Nat) (step : Step) : step.carry id n = step.shift n := by
  cases step with
  | group r tree => exact congrArg (Step.group r) (tree.carry_id n)
  | skipped t => rfl

/-- The loop behind some tokens is the loop over the others. -/
theorem stepsFrom_shift (g : Grammar) (front back : List Token) (pos : Nat) :
    (stepsFrom g (.ofUnits (front ++ back)) (extent front + pos)).map Noted.value =
      ((stepsFrom g (.ofUnits back) pos).map Noted.value).map (Step.shift (extent front)) := by
  rw [stepsFrom_carry g Readable.keeps_id (Input.appears_shift front back)]
  exact List.map_congr_left fun step _ => step.carry_id _

/-- Where steps are divided, the loop goes on with those that follow. -/
theorem stepsFrom_split (g : Grammar) (tokens : List Token) {pos : Nat}
    (h : Boundary tokens pos) {before behind : List Step}
    (hsplit : (stepsFrom g (.ofUnits tokens) pos).map Noted.value = before ++ behind) :
    Boundary tokens (pos + (groupings before).length) ∧
      (∀ tree ∈ before.filterMap Step.tree?, tree.start < pos + (groupings before).length) ∧
      behind = (stepsFrom g (.ofUnits tokens) (pos + (groupings before).length)).map
        Noted.value := by
  induction before generalizing pos with
  | nil => exact ⟨h, fun tree ht => absurd ht List.not_mem_nil, hsplit.symm⟩
  | cons step before ih =>
    have hstepped := stepsFrom_stepped g tokens h
    rw [hsplit] at hstepped
    have hp : pos < extent tokens := by
      cases hstepped with
      | step hstep _ => exact Nat.lt_of_lt_of_le hstep.lt hstep.boundary_stop.le
    obtain ⟨front, t, back, rfl, rfl⟩ := h.exists_of_lt hp
    rw [stepsFrom_of_lt, List.map_cons, Noted.value_map, List.cons_append] at hsplit
    obtain ⟨rfl, hrest⟩ := List.cons.inj hsplit
    have hstep := next_isStep g front back t
    have hlength := hstep.length_groupings
    obtain ⟨hboundary, hstarts, hbehind⟩ := ih hstep.boundary_stop hrest
    generalize (next g (.ofUnits (front ++ t :: back)) (extent front) t).value = turn at *
    obtain ⟨step, stop⟩ := turn
    have hcount : extent front + (groupings (step :: before)).length =
        stop + (groupings before).length := by
      rw [← List.singleton_append, groupings_append, List.length_append, ← Nat.add_assoc]
      exact congrArg (· + (groupings before).length) hlength
    refine ⟨by rwa [hcount], fun tree ht => ?_, by rwa [hcount]⟩
    rw [hcount]
    obtain ⟨step', hmem, htree⟩ := List.mem_filterMap.1 ht
    rcases List.mem_cons.1 hmem with rfl | hmem
    · have hlt := hstep.lt
      rw [hstep.start_eq htree]
      omega
    · exact hstarts tree (List.mem_filterMap.2 ⟨step', hmem, htree⟩)

/-- **Parsing restarts between any two steps.** The steps from there on are those of the tokens that
are left, shifted, and so are the children of the tree. -/
theorem stepsOf_continued (g : Grammar) {tokens : List Token} {before behind : List Step}
    (h : (stepsOf g tokens).map Noted.value = before ++ behind) :
    let k := (groupings before).length
    let later := (stepsOf g (tokens.drop k)).map Noted.value
    later.map (Step.shift k) = behind ∧
      (treeOf later).children.map (SyntaxTree.shift k) =
        (treeOf (before ++ behind)).children.filter fun t => k ≤ t.start := by
  intro k later
  have hzero := boundary_zero tokens
  obtain ⟨hboundary, hstarts, hbehind⟩ := stepsFrom_split g tokens hzero h
  rw [Nat.zero_add] at hboundary hstarts hbehind
  obtain ⟨front, back, rfl, hk⟩ := hboundary
  have hfront : k = front.length := hk.trans (extent_tokens front)
  have hlater : later = (stepsFrom g (.ofUnits back) 0).map Noted.value := by
    show (stepsOf g ((front ++ back).drop k)).map Noted.value = _
    rw [hfront, List.drop_left]
    rfl
  clear_value later
  have hsteps : later.map (Step.shift k) = behind := by
    have hshift := stepsFrom_shift g front back 0
    rw [Nat.add_zero, ← hk, ← hbehind, ← hlater] at hshift
    exact hshift.symm
  refine ⟨hsteps, ?_⟩
  have hbefore : (before.filterMap Step.tree?).filter (fun t => k ≤ t.start) = [] := by
    refine List.filter_eq_nil_iff.2 fun tree ht => ?_
    have hlt := hstarts tree ht
    rw [decide_eq_true_eq]
    omega
  have hmoved : (later.filterMap Step.tree?).map (SyntaxTree.shift k) =
      behind.filterMap Step.tree? := by
    rw [← hsteps, List.filterMap_map, List.map_filterMap]
    refine List.filterMap_congr fun step _ => ?_
    exact (Step.tree?_shift k step).symm
  have hkept : (behind.filterMap Step.tree?).filter (fun t => k ≤ t.start) =
      behind.filterMap Step.tree? := by
    refine List.filter_eq_self.2 fun tree ht => ?_
    rw [← hmoved] at ht
    obtain ⟨tree', -, rfl⟩ := List.mem_map.1 ht
    rw [SyntaxTree.start_shift]
    exact decide_eq_true (Nat.le_add_right k tree'.start)
  rw [children_treeOf, children_treeOf, List.filterMap_append, List.filter_append, hbefore, hkept,
    hmoved, List.nil_append]

end Parsing

/-- **Reading depends only on what is left and restarts anywhere.** To match behind some units is to
match the other units alone and to shift the tree. Between any two entries of a text, tokens and
trivia from there on are those of the text that is left, begun at that offset. Between any two steps
through some tokens, the steps and the children of the tree from there on are those of the tokens
that are left, shifted. -/
theorem reading_restarts {g : Grammar} (hg : g.Built) :
    (∀ {α : Type} [Readable α] (front back : List α) (handle : Nat),
      (Matching.runNode g (.ofUnits (front ++ back)) handle (extent front)).value =
        (Matching.runNode g (.ofUnits back) handle 0).value.shift (extent front)) ∧
    (∀ (text : List Char) (base : Nat) (before behind : List Token),
      (TokenStream.ofText g text base).value.all = before ++ behind →
      ∃ front back, text = front ++ back ∧ front = before.flatMap Token.value ∧
        (TokenStream.ofText g back (base + Text.byteLength front)).value =
          (TokenStream.ofText g text base).value.continued back
            (base + Text.byteLength front)) ∧
    (∀ (tokens : List Token) (before behind : List Parsing.Step),
      (Parsing.stepsOf g tokens).map Noted.value = before ++ behind →
      let k := (Parsing.groupings before).length
      let later := (Parsing.stepsOf g (tokens.drop k)).map Noted.value
      later.map (Parsing.Step.shift k) = behind ∧
        (Parsing.treeOf later).children.map (SyntaxTree.shift k) =
          (Parsing.treeOf (before ++ behind)).children.filter fun t => k ≤ t.start) :=
  ⟨fun front back handle => Matching.runNode_shift g front back handle 0,
    fun _ _ _ _ h => TokenStream.ofText_continued hg h,
    fun _ _ _ h => Parsing.stepsOf_continued g h⟩

set_option maxRecDepth 4000 in
/-- Behind a word and a blank, and behind the step that groups the word. -/
theorem reading_restarts_behind_blank :
    let b := (({} : Builder).compile { id := "A", body := "'a'*? 'b'" }).1
    let b := (b.compile { id := "WS", body := "' '+ -> skip" }).1
    let g := (b.compile { id := "word", body := "A" }).1.build.value
    let stream := (TokenStream.ofText g ['a', 'b', ' ', 'b'] 7).value
    let steps := (Parsing.stepsOf g stream.tokens).map Noted.value
    let later := (Parsing.stepsOf g (stream.tokens.drop 1)).map Noted.value
    g.Built ∧ stream.all = stream.all.take 2 ++ stream.all.drop 2 ∧
      steps = steps.take 1 ++ steps.drop 1 ∧
      (stream.all.take 2).flatMap Token.value = ['a', 'b', ' '] ∧
      (Parsing.groupings (steps.take 1)).length = 1 ∧
      (∃ back, ['a', 'b', ' ', 'b'] = ['a', 'b', ' '] ++ back ∧
        (TokenStream.ofText g back 10).value = stream.continued back 10) ∧
      later.map (Parsing.Step.shift 1) = steps.drop 1 ∧
      (Parsing.treeOf later).children.map (SyntaxTree.shift 1) =
        (Parsing.treeOf steps).children.filter fun t => 1 ≤ t.start := by
  intro b b' g stream steps later
  have hg : g.Built := .of_reachable (.compile _ (.compile _ (.compile _ (.new {}))))
  have hall : stream.all = stream.all.take 2 ++ stream.all.drop 2 :=
    (List.take_append_drop 2 stream.all).symm
  have hsteps : steps = steps.take 1 ++ steps.drop 1 := (List.take_append_drop 1 steps).symm
  have hfront : (stream.all.take 2).flatMap Token.value = ['a', 'b', ' '] := by
    unfold stream g b' b
    cbv
  have hcount : (Parsing.groupings (steps.take 1)).length = 1 := by
    unfold steps stream g b' b
    cbv
  obtain ⟨-, hlexing, hparsing⟩ := reading_restarts hg
  obtain ⟨front, back, htext, hvalues, hstream⟩ :=
    hlexing ['a', 'b', ' ', 'b'] 7 (stream.all.take 2) (stream.all.drop 2) hall
  obtain ⟨hlater, hchildren⟩ :=
    hparsing stream.tokens (steps.take 1) (steps.drop 1) hsteps
  rw [hfront] at hvalues
  subst hvalues
  rw [hcount] at hlater hchildren
  rw [← hsteps] at hchildren
  exact ⟨hg, hall, hsteps, hfront, hcount, ⟨back, htext, hstream⟩, hlater, hchildren⟩

end Lexigram
