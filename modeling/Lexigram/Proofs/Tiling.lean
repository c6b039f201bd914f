import Lexigram.Lexing
import Lexigram.Proofs.Arena
import Lexigram.Proofs.Trees
import Mathlib.Data.List.Chain
import Mathlib.Data.List.Find

/-!
# Tokens tile the text

Reading a text cuts it into pieces: no character is lost and none is read twice.

**One turn** (`IsLexeme`). Where a token begins, the first rule that consumes something makes it, or
else the unmatched rule, which consumes one character. Either way the position moves on, and the
token has the text in between.

**The loop** (`Lexed`). The next token begins where the one before ended, up to the end of the text.
`lexemesFrom_of_lt` is the loop without its safeguard against standing still: it is never needed.

**The pieces** (`Tiles`). Tokens and trivia, put together in the order of the text, are the lexemes
again, so what holds of the loop holds of them.

Main result: `ofText_tiles`.
-/

namespace Lexigram

open Readable (extent extent_nil extent_cons extent_append)
open Matching (runRule runNode)

/-! ## Candidates -/

namespace Matching

variable {α : Type} [Readable α]

theorem firstAbsolute_value (g : Grammar) (input : Input α) (pos : Nat) (rules : List Rule) :
    (firstAbsolute g input pos rules).value =
      (rules.find? fun r => (runRule g input r pos).value.isAbsolute).map fun r =>
        (r, (runRule g input r pos).value) := by
  induction rules with
  | nil => rfl
  | cons r rules ih =>
    rw [firstAbsolute, Noted.value_bind, List.find?_cons]
    cases h : (runRule g input r pos).value.isAbsolute with
    | true => rfl
    | false => exact ih

theorem firstAbsolute_ensures (g : Grammar) (s : List α) {pos : Nat} (h : Boundary s pos)
    (rules : List Rule) :
    (firstAbsolute g (.ofUnits s) pos rules).Ensures fun found =>
      ∀ r tree, found = some (r, tree) → SyntaxTree.Settled s pos tree ∧ tree.isAbsolute := by
  induction rules with
  | nil => exact .pure fun r tree he => by simp at he
  | cons r rules ih =>
    rw [firstAbsolute]
    refine (run_ensures g s [r.head] h).bind fun tree ht => ?_
    split
    · next ha =>
      refine .pure fun q tree' he => ?_
      cases he
      exact ⟨ht, ha⟩
    · exact ih

/-- The tree of one character that the unmatched rule accepts. -/
def unmatchedTree (front : List Char) (c : Char) : SyntaxTree Char :=
  { rule := some Grammar.unmatched
    start := extent front
    stop := extent (front ++ [c])
    units := [c]
    state := .resolved
    children := [] }

theorem test_any (c : Char) (s : List Char) :
    Readable.test Pattern.any (c :: s) = some c.utf8Size := by
  show (if CharClass.all.contains c then some c.utf8Size else none) = some c.utf8Size
  exact if_pos (CharClass.contains_all c)

section Unmatched

variable (g : Grammar) (front back : List Char) (c : Char) (active : List (Nat × Nat))

theorem extent_lt_size : extent front < (Input.ofUnits (front ++ c :: back)).size := by
  have hwidth := Readable.width_pos c
  rw [Input.size_ofUnits, extent_append, extent_cons]
  omega

theorem isAbsolute_unmatchedTree : (unmatchedTree front c).isAbsolute = true := by
  have hne : (extent (front ++ [c]) == extent front) = false :=
    beq_false_of_ne (Nat.ne_of_gt (Readable.extent_lt_append front c))
  show (true && !(extent (front ++ [c]) == extent front)) = true
  rw [hne]
  rfl

theorem attempt_unmatchedAtom :
    attempt g (.ofUnits (front ++ c :: back)) active [[]] Grammar.unmatchedAtom (extent front) =
      pure (some (unmatchedTree front c)) := by
  have hslice : (Input.ofUnits (front ++ c :: back)).slice (extent front) (extent (front ++ [c])) =
      pure [c] := Input.slice_ofUnits front [c] back
  have hstop : extent front + c.utf8Size = extent (front ++ [c]) := by
    rw [extent_append]
    rfl
  have honce : once g (.ofUnits (front ++ c :: back)) active [[]] Grammar.unmatchedAtom
      (extent front) = pure (some (unmatchedTree front c)) := by
    rw [Grammar.unmatchedAtom, once, Input.test_ofUnits, test_any, pure_bind]
    simp only [Option.map_some, hstop]
    rw [leaf, hslice, pure_bind]
    rfl
  rw [attempt, honce, pure_bind]
  rfl

theorem turns_unmatchedAtom :
    turns g (.ofUnits (front ++ c :: back)) active [[]] Grammar.unmatchedAtom
        (.begin (some Grammar.unmatched) (extent front)) 0 =
      pure ({ unmatchedTree front c with state := .pending }, 1) := by
  have hgo : 0 < Grammar.unmatchedAtom.mark.quantifier.max ∧
      extent front < (Input.ofUnits (front ++ c :: back)).size :=
    ⟨Nat.one_pos, extent_lt_size front back c⟩
  have hlazy : Grammar.unmatchedAtom.mark.quantifier.lazy = false := rfl
  have hstop : (SyntaxTree.begin (some Grammar.unmatched) (extent front) : SyntaxTree Char).stop =
      extent front := rfl
  have hlt : extent front < (unmatchedTree front c).stop := Readable.extent_lt_append front c
  rw [turns, hstop, dif_pos hgo, hlazy, Bool.false_and, if_neg Bool.false_ne_true, pure_bind,
    if_neg Bool.false_ne_true, attempt_unmatchedAtom, pure_bind]
  dsimp only
  rw [expectMergeable_eq rfl, pure_bind, dif_pos hlt, turns,
    dif_neg fun h => absurd h.1 (Nat.lt_irrefl 1)]
  rfl

/-- **The unmatched rule accepts any character.** -/
theorem run_unmatchedAtom :
    run g (.ofUnits (front ++ c :: back)) [Grammar.unmatchedAtom] (extent front) =
      pure (unmatchedTree front c) := by
  have hturns := turns_unmatchedAtom g front back c [(Grammar.unmatchedAtom.handle, extent front)]
  have hrepeated : repeated g (.ofUnits (front ++ c :: back))
      [(Grammar.unmatchedAtom.handle, extent front)] [[]] Grammar.unmatchedAtom (extent front) =
        pure (unmatchedTree front c) := by
    rw [repeated, if_neg (by decide)]
    show (turns _ _ _ _ _ (.begin (some Grammar.unmatched) _) 0 >>= _) = _
    rw [hturns, pure_bind]
    rfl
  rw [run, if_pos (extent_lt_size front back c), steps]
  show (repeated _ _ _ _ _ (extent front) >>= _) = _
  rw [hrepeated, pure_bind]
  rfl

end Unmatched

end Matching

/-! ## One turn -/

namespace Lexing

/-- The handles of the rules that are tried, in their order. -/
def candidates (g : Grammar) : List Nat := g.lexerRules.map Rule.handle ++ [Grammar.unmatched]

/-- The first rule that consumes something at a position. -/
def first? (g : Grammar) (text : List Char) (pos : Nat) : Option Nat :=
  (candidates g).find? fun handle => (runNode g (.ofUnits text) handle pos).value.isAbsolute

/-- A lexeme has the text between two positions and was made by the first rule that consumes
something at the first of them. -/
structure IsLexeme (g : Grammar) (text : List Char) (base pos stop : Nat) (l : Lexeme) : Prop where
  lt : pos < stop
  span : l.token.span = ⟨pos + base, stop + base⟩
  value : Spans text pos stop l.token.value
  first : first? g text pos = some l.token.rule
  /-- What the unmatched rule accepts is one character and makes a token. -/
  unmatched : l.token.rule = Grammar.unmatched → l.token.value.length = 1 ∧ l.skipped = false

theorem runNode_handle {g : Grammar} (hg : g.Built) (input : Input Char) {r : Rule}
    (hr : r ∈ g.rules) (pos : Nat) : runNode g input r.handle pos = runRule g input r pos := by
  rw [runNode, hg.chain?_handle hr]
  rfl

/-- The rules are tried by their handles. -/
theorem first?_eq {g : Grammar} (hg : g.Built) (text : List Char) (pos : Nat) :
    first? g text pos =
      ((g.lexerRules.find? fun r => (runRule g (.ofUnits text) r pos).value.isAbsolute).map
        Rule.handle).or
        ([Grammar.unmatched].find? fun handle =>
          (runNode g (.ofUnits text) handle pos).value.isAbsolute) := by
  have hrules : g.lexerRules.find?
      ((fun handle => (runNode g (.ofUnits text) handle pos).value.isAbsolute) ∘ Rule.handle) =
        g.lexerRules.find? fun r => (runRule g (.ofUnits text) r pos).value.isAbsolute := by
    refine List.find?_congr fun r hr => ?_
    rw [Function.comp_apply, runNode_handle hg _ (Grammar.mem_rules_of_mem_candidates hr)]
  rw [first?, candidates, List.find?_append, List.find?_map, hrules]

theorem lexemeOf_isLexeme {g : Grammar} (hg : g.Built) {text : List Char} {pos base : Nat}
    {r : Rule} {tree : SyntaxTree Char} (hr : r ∈ g.rules)
    (ht : SyntaxTree.Settled text pos tree) (ha : tree.isAbsolute)
    (hfirst : first? g text pos = some r.handle) :
    IsLexeme g text base pos tree.stop (lexemeOf base r tree) := by
  have hsound := ht.wellFormed.sound
  obtain rfl := ht.start
  rw [SyntaxTree.isAbsolute, Bool.and_eq_true, SyntaxTree.isEmpty, Bool.not_eq_true'] at ha
  have hne : tree.stop ≠ tree.start := ne_of_beq_false ha.2
  exact {
    lt := Nat.lt_of_le_of_ne hsound.start_le_stop (Ne.symm hne)
    span := rfl
    value := hsound.units
    first := hfirst
    unmatched := fun hu => by
      have htwo := hg.two_le_handle hr
      replace hu : r.handle = 1 := hu
      omega }

theorem unmatchedLexeme_isLexeme {g : Grammar} {front back : List Char} {c : Char} (base : Nat)
    (hfirst : first? g (front ++ c :: back) (extent front) = some Grammar.unmatched) :
    IsLexeme g (front ++ c :: back) base (extent front) (extent (front ++ [c]))
      (unmatchedLexeme g base (Matching.unmatchedTree front c)) where
  lt := Readable.extent_lt_append front c
  span := rfl
  value := ⟨front, back, rfl, rfl, rfl⟩
  first := hfirst
  unmatched := fun _ => ⟨rfl, rfl⟩

/-- **One turn makes progress.** The lexeme at a position before the end of the text is made without
a fault, and it ends behind the position. -/
theorem next_ensures {g : Grammar} (hg : g.Built) (front back : List Char) (c : Char)
    (base : Nat) :
    (next g (.ofUnits (front ++ c :: back)) base (extent front)).Ensures fun turn =>
      IsLexeme g (front ++ c :: back) base (extent front) turn.2 turn.1 := by
  have hpos : Boundary (front ++ c :: back) (extent front) := ⟨front, c :: back, rfl, rfl⟩
  have hfirst := first?_eq hg (front ++ c :: back) (extent front)
  refine (Matching.firstAbsolute_ensures g _ hpos g.lexerRules).value.bind fun found hf => ?_
  obtain ⟨hfound, hvalue⟩ := hf
  rw [Matching.firstAbsolute_value] at hvalue
  cases hr : g.lexerRules.find? fun r =>
      (runRule g (.ofUnits (front ++ c :: back)) r (extent front)).value.isAbsolute with
  | none =>
    have hrun := Matching.run_unmatchedAtom g front back c
    have hnode : runNode g (.ofUnits (front ++ c :: back)) Grammar.unmatched (extent front) =
        pure (Matching.unmatchedTree front c) := hrun
    rw [hr, Option.map_none, Option.none_or, List.find?_cons, hnode, Noted.value_pure,
      Matching.isAbsolute_unmatchedTree] at hfirst
    rw [hr, Option.map_none] at hvalue
    subst hvalue
    dsimp only
    rw [hrun, pure_bind]
    refine (Noted.Avoids.note (p := fun _ => True) rfl trivial).bind fun _ _ => .pure ?_
    exact unmatchedLexeme_isLexeme base hfirst
  | some r =>
    rw [hr, Option.map_some, Option.some_or] at hfirst
    rw [hr, Option.map_some] at hvalue
    subst hvalue
    obtain ⟨htree, habsolute⟩ := hfound r _ rfl
    have hmem := Grammar.mem_rules_of_mem_candidates (List.mem_of_find?_eq_some hr)
    exact .pure (lexemeOf_isLexeme hg hmem htree habsolute hfirst)

/-! ## The loop -/

/-- Lexemes follow each other from a position to the end of the text. -/
inductive Lexed (g : Grammar) (text : List Char) (base : Nat) : Nat → List Lexeme → Prop
  | done : Lexed g text base (extent text) []
  | turn {pos stop : Nat} {l : Lexeme} {ls : List Lexeme} :
      IsLexeme g text base pos stop l → Lexed g text base stop ls → Lexed g text base pos (l :: ls)

theorem lexemesFrom_value (g : Grammar) (input : Input Char) (base pos : Nat) :
    (lexemesFrom g input base pos).value =
      if pos < input.size then
        let turn := (next g input base pos).value
        turn.1 :: (lexemesFrom g input base (max (pos + 1) turn.2)).value
      else [] := by
  rw [lexemesFrom]
  split <;> rfl

/-- The next turn begins where the one before ended. -/
theorem lexemesFrom_of_lt {g : Grammar} (hg : g.Built) (front back : List Char) (c : Char)
    (base : Nat) :
    lexemesFrom g (.ofUnits (front ++ c :: back)) base (extent front) = (do
      let turn ← next g (.ofUnits (front ++ c :: back)) base (extent front)
      let rest ← lexemesFrom g (.ofUnits (front ++ c :: back)) base turn.2
      pure (turn.1 :: rest)) := by
  have hlt := (next_ensures hg front back c base).2.lt
  have hmax : max (extent front + 1)
      (next g (.ofUnits (front ++ c :: back)) base (extent front)).value.2 =
        (next g (.ofUnits (front ++ c :: back)) base (extent front)).value.2 :=
    Nat.max_eq_right hlt
  rw [lexemesFrom, if_pos (Matching.extent_lt_size front back c)]
  refine Noted.bind_congr ?_
  show (lexemesFrom _ _ _ (max (extent front + 1) (next _ _ _ _).value.2) >>= _) = _
  rw [hmax]

/-- **The loop reads the whole text.** It leaves no fault, and its lexemes follow each other up to
the end. -/
theorem lexemesFrom_ensures {g : Grammar} (hg : g.Built) (text : List Char) (base : Nat)
    {pos : Nat} (h : Boundary text pos) :
    (lexemesFrom g (.ofUnits text) base pos).Ensures (Lexed g text base pos) := by
  induction hn : extent text - pos using Nat.strong_induction_on generalizing pos with
  | _ n ih =>
    by_cases hp : pos < extent text
    · obtain ⟨front, c, back, rfl, rfl⟩ := h.exists_of_lt hp
      rw [lexemesFrom_of_lt hg]
      refine (next_ensures hg front back c base).bind fun turn hturn => ?_
      have hlt := hturn.lt
      refine (ih (extent (front ++ c :: back) - turn.2) ?_ hturn.value.boundary_stop rfl).bind ?_
      · omega
      · intro rest hrest
        exact .pure (.turn hturn hrest)
    · have hend : pos = extent text := Nat.le_antisymm h.le (Nat.le_of_not_lt hp)
      rw [lexemesFrom, if_neg (by rwa [Input.size_ofUnits]), hend]
      exact .pure .done

/-- No lexeme begins before the position from which they follow each other. -/
theorem Lexed.le_start {g : Grammar} {text : List Char} {base pos : Nat} {ls : List Lexeme}
    (h : Lexed g text base pos ls) {l : Lexeme} (hl : l ∈ ls) :
    pos + base ≤ l.token.span.start := by
  induction h with
  | done => simp at hl
  | turn hturn _ ih =>
    rcases List.mem_cons.1 hl with rfl | hl
    · rw [hturn.span]
    · have hlt := hturn.lt
      have hle := ih hl
      omega

/-- What is known of one lexeme is known of each of them. -/
theorem Lexed.exists_isLexeme {g : Grammar} {text : List Char} {base pos : Nat}
    {ls : List Lexeme} (h : Lexed g text base pos ls) {l : Lexeme} (hl : l ∈ ls) :
    ∃ start stop, IsLexeme g text base start stop l := by
  induction h with
  | done => simp at hl
  | turn hturn _ ih =>
    rcases List.mem_cons.1 hl with rfl | hl
    · exact ⟨_, _, hturn⟩
    · exact ih hl

/-- Each lexeme ends before the next ones begin. -/
theorem Lexed.apart {g : Grammar} {text : List Char} {base pos : Nat} {ls : List Lexeme}
    (h : Lexed g text base pos ls) :
    (ls.map Lexeme.token).Pairwise fun t u => t.span.stop ≤ u.span.start := by
  induction h with
  | done => exact .nil
  | turn hturn hrest ih =>
    rw [List.map_cons]
    refine .cons (fun u hu => ?_) ih
    obtain ⟨l, hl, rfl⟩ := List.mem_map.1 hu
    rw [hturn.span]
    exact hrest.le_start hl

theorem Lexed.pairwise {g : Grammar} {text : List Char} {base pos : Nat} {ls : List Lexeme}
    (h : Lexed g text base pos ls) :
    (ls.map Lexeme.token).Pairwise fun t u => t.span.start < u.span.start := by
  refine h.apart.imp_of_mem fun {t u} ht _ hle => Nat.lt_of_lt_of_le ?_ hle
  obtain ⟨l, hl, rfl⟩ := List.mem_map.1 ht
  obtain ⟨start, stop, hlexeme⟩ := h.exists_isLexeme hl
  rw [hlexeme.span]
  exact Nat.add_lt_add_right hlexeme.lt base

end Lexing

/-! ## The pieces -/

/-- Tokens cover a text from a position to its end, each behind the one before. The text begins at
`base` in the outermost text. -/
structure Tiles (text : List Char) (base pos : Nat) (ts : List Token) : Prop where
  starts : ∀ t ∈ ts.head?, t.span.start = pos + base
  joined : ts.IsChain fun t u => u.span.start = t.span.stop
  nonempty : ∀ t ∈ ts, t.span.start < t.span.stop
  ends : (ts.map fun t => t.span.stop).getLastD (pos + base) = Text.byteLength text + base
  values : ∀ t ∈ ts, base ≤ t.span.start ∧
    Spans text (t.span.start - base) (t.span.stop - base) t.value

theorem Tiles.nil (text : List Char) (base : Nat) :
    Tiles text base (Text.byteLength text) [] where
  starts := by simp
  joined := .nil
  nonempty := by simp
  ends := rfl
  values := by simp

theorem Tiles.cons {text : List Char} {base pos stop : Nat} {t : Token} {ts : List Token}
    (hspan : t.span = ⟨pos + base, stop + base⟩) (hlt : pos < stop)
    (hvalue : Spans text pos stop t.value) (h : Tiles text base stop ts) :
    Tiles text base pos (t :: ts) where
  starts := by
    intro u hu
    cases hu
    rw [hspan]
  joined := by
    refine h.joined.cons fun u hu => ?_
    rw [h.starts u hu, hspan]
  nonempty := by
    intro u hu
    rcases List.mem_cons.1 hu with rfl | hu
    · rw [hspan]
      show pos + base < stop + base
      omega
    · exact h.nonempty u hu
  ends := by
    rw [List.map_cons, List.getLastD_cons, hspan]
    exact h.ends
  values := by
    intro u hu
    rcases List.mem_cons.1 hu with rfl | hu
    · rw [hspan]
      refine ⟨Nat.le_add_left base pos, ?_⟩
      rwa [Nat.add_sub_cancel, Nat.add_sub_cancel]
    · exact h.values u hu

theorem Lexing.Lexed.tiles {g : Grammar} {text : List Char} {base pos : Nat}
    {ls : List Lexing.Lexeme} (h : Lexing.Lexed g text base pos ls) :
    Tiles text base pos (ls.map Lexing.Lexeme.token) := by
  induction h with
  | done =>
    rw [Readable.extent_chars]
    exact .nil text base
  | turn hturn _ ih => exact .cons hturn.span hturn.lt hturn.value ih

namespace TokenStream

open Lexing (Lexeme Lexed)

theorem ofText_value (g : Grammar) (text : List Char) (base : Nat) :
    (ofText g text base).value =
      ofLexemes text base (Lexing.lexemesFrom g (.ofUnits text) base 0).value :=
  rfl

theorem mem_all {s : TokenStream} {t : Token} : t ∈ s.all ↔ t ∈ s.tokens ∨ t ∈ s.trivia := by
  rw [all, List.mem_mergeSort, List.mem_append]

/-- **Sorting puts the lexemes together again.** -/
theorem all_ofLexemes {g : Grammar} {text : List Char} {base pos : Nat} {ls : List Lexeme}
    (h : Lexed g text base pos ls) : (ofLexemes text base ls).all = ls.map Lexeme.token := by
  have hstrict := h.pairwise
  have hperm : (ofLexemes text base ls).all.Perm (ls.map Lexeme.token) := by
    refine (List.mergeSort_perm _ _).trans ?_
    have hsplit := (List.filter_append_perm (fun l : Lexeme => !l.skipped) ls).map Lexeme.token
    rw [List.map_append] at hsplit
    simpa only [ofLexemes, Bool.not_not] using hsplit
  have hsorted : (ofLexemes text base ls).all.Pairwise fun t u => t.span.start ≤ u.span.start := by
    refine (List.pairwise_mergeSort ?_ ?_ _).imp fun htu => of_decide_eq_true htu
    · intro t u v htu huv
      rw [decide_eq_true_eq] at htu huv ⊢
      exact Nat.le_trans htu huv
    · intro t u
      rw [Bool.or_eq_true, decide_eq_true_eq, decide_eq_true_eq]
      exact Nat.le_total _ _
  -- Two lists that are sorted by what tells their members apart are the same.
  have hstarts : ((ls.map Lexeme.token).map fun t => t.span.start).Nodup :=
    List.pairwise_map.2 (hstrict.imp Nat.ne_of_lt)
  refine List.Perm.eq_of_pairwise (fun t u ht hu htu hut => ?_) hsorted
    (hstrict.imp Nat.le_of_lt) hperm
  exact List.inj_on_of_nodup_map hstarts (hperm.mem_iff.1 ht) hu (Nat.le_antisymm htu hut)

/-- The tokens and the trivia of a stream cover a text from `base` on. -/
structure Covers (g : Grammar) (text : List Char) (base : Nat) (stream : TokenStream) : Prop where
  tiles : Tiles text base 0 stream.all
  /-- Each was made by the first rule that consumes something where it begins. -/
  first : ∀ t ∈ stream.all, Lexing.first? g text (t.span.start - base) = some t.rule
  /-- What the unmatched rule made is one character and not trivia. -/
  unmatched : ∀ t ∈ stream.all, t.rule = Grammar.unmatched →
    t.value.length = 1 ∧ t ∉ stream.trivia

/-- **Tokens tile the text.** Reading a text by a built grammar leaves no fault. Tokens and trivia
together cover the text from `base` on, each behind the one before, none empty and each with its
text. -/
theorem ofText_tiles {g : Grammar} (hg : g.Built) (text : List Char) (base : Nat) :
    (ofText g text base).Ensures (Covers g text base) := by
  have hzero : Boundary text 0 := ⟨[], text, rfl, rfl⟩
  refine (Lexing.lexemesFrom_ensures hg text base hzero).bind fun ls hls => .pure ?_
  have hall : (ofLexemes text base ls).all = ls.map Lexeme.token := all_ofLexemes hls
  show Covers g text base (ofLexemes text base ls)
  constructor
  case tiles =>
    rw [hall]
    exact hls.tiles
  case first =>
    intro t ht
    rw [hall] at ht
    obtain ⟨l, hl, rfl⟩ := List.mem_map.1 ht
    obtain ⟨start, stop, hlexeme⟩ := hls.exists_isLexeme hl
    rw [hlexeme.span, Nat.add_sub_cancel]
    exact hlexeme.first
  case unmatched =>
    intro t ht hu
    rw [hall] at ht
    obtain ⟨l, hl, rfl⟩ := List.mem_map.1 ht
    obtain ⟨start, stop, hlexeme⟩ := hls.exists_isLexeme hl
    refine ⟨(hlexeme.unmatched hu).1, fun htrivia => ?_⟩
    -- A lexeme of the same rule that is skipped would be one of the unmatched rule as well.
    obtain ⟨l', hl', he⟩ := List.mem_map.1 htrivia
    rw [List.mem_filter] at hl'
    obtain ⟨start', stop', hlexeme'⟩ := hls.exists_isLexeme hl'.1
    have hkept := (hlexeme'.unmatched (he ▸ hu)).2
    rw [hl'.2] at hkept
    exact Bool.noConfusion hkept

/-- With a left-recursive rule, a rule for blanks that are skipped, and a character for which there
is no rule. -/
theorem ofText_tiles_with_blanks :
    let b := (({} : Builder).compile { id := "A", body := "A 'a' | 'a'*? 'b'" }).1
    let g := (b.compile { id := "WS", body := "' '+ -> skip" }).1.build.value
    g.Built ∧ (ofText g ['a', 'b', ' ', 'ä'] 7).Ensures (Covers g ['a', 'b', ' ', 'ä'] 7) :=
  have h := Grammar.Built.of_reachable (.compile _ (.compile _ (.new {})))
  ⟨h, ofText_tiles h _ 7⟩

/-! ## The tokens alone -/

section Tokens

variable {g : Grammar} (hg : g.Built) (text : List Char) (base : Nat)

include hg

theorem tiles_all : Tiles text base 0 (ofText g text base).value.all := by
  have hlexed := (Lexing.lexemesFrom_ensures hg text base (boundary_zero text)).2
  rw [ofText_value, all_ofLexemes hlexed]
  exact hlexed.tiles

/-- Each token ends before the next ones begin. -/
theorem tokens_apart :
    (ofText g text base).value.tokens.Pairwise fun t u => t.span.stop ≤ u.span.start :=
  (Lexing.lexemesFrom_ensures hg text base (boundary_zero text)).2.apart.sublist
    (List.filter_sublist.map Lexeme.token)

theorem tokens_nonempty :
    ∀ t ∈ (ofText g text base).value.tokens, t.span.start < t.span.stop :=
  fun t ht => (tiles_all hg text base).nonempty t (mem_all.2 (.inl ht))

theorem tokens_nodup : (ofText g text base).value.tokens.Nodup := by
  refine (tokens_apart hg text base).imp_of_mem fun {t u} ht _ hle he => ?_
  subst he
  exact absurd (tokens_nonempty hg text base t ht) (Nat.not_lt.2 hle)

end Tokens

end TokenStream

end Lexigram
