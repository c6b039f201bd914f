import Lexigram.Parsing
import Lexigram.Proofs.Carrying
import Lexigram.Proofs.Tiling

/-!
# Steps through the tokens

Grouping tokens goes step by step from the first token to the last, and each step begins where the
one before ended.

**One step** (`IsStep`). Where a step begins, the first rule that consumes something groups the
tokens that it matches, or else the token there is stepped over. Either way the position moves on.

**The loop** (`Stepped`). Steps follow each other up to the last token. `stepsFrom_of_lt` is the
loop without its safeguard against standing still, which is never needed.

**Tokens inside tokens** (`stepsFrom_carry`). The loop sees no more of the tokens than matching
does, so its steps carry over to where the tokens appear.

Main result: `stepsFrom_stepped`.
-/

namespace Lexigram.Parsing

open Readable (extent extent_tokens)
open Matching (firstAbsolute)

/-- The tree of a step, if it has one. -/
def Step.tree? : Step → Option (SyntaxTree Token)
  | .group _ tree => some tree
  | .skipped _ => none

/-- A step leads from one token to another. -/
inductive IsStep (g : Grammar) (tokens : List Token) : Nat → Nat → Step → Prop
  | group {pos : Nat} {r : Rule} {tree : SyntaxTree Token} :
      (firstAbsolute g (.ofUnits tokens) pos g.parserRules).value = some (r, tree) →
      SyntaxTree.Settled tokens pos tree → tree.isAbsolute →
      IsStep g tokens pos tree.stop (.group r tree)
  | skipped {pos : Nat} {t : Token} :
      (firstAbsolute g (.ofUnits tokens) pos g.parserRules).value = none →
      Spans tokens pos (pos + 1) [t] → IsStep g tokens pos (pos + 1) (.skipped t)

/-- Steps follow each other from a position to the last token. -/
inductive Stepped (g : Grammar) (tokens : List Token) : Nat → List Step → Prop
  | done : Stepped g tokens tokens.length []
  | step {pos stop : Nat} {step : Step} {steps : List Step} :
      IsStep g tokens pos stop step → Stepped g tokens stop steps →
      Stepped g tokens pos (step :: steps)

section Steps

variable {g : Grammar} {tokens : List Token} {pos stop : Nat} {step : Step}

theorem IsStep.lt (h : IsStep g tokens pos stop step) : pos < stop := by
  cases h with
  | @group r tree hfirst hs ha =>
    rw [SyntaxTree.isAbsolute, Bool.and_eq_true, SyntaxTree.isEmpty, Bool.not_eq_true'] at ha
    have hne : tree.stop ≠ tree.start := ne_of_beq_false ha.2
    have hstart := hs.start
    have hle := hs.le
    omega
  | skipped hfirst ht => exact Nat.lt_succ_self pos

theorem IsStep.boundary_stop (h : IsStep g tokens pos stop step) : Boundary tokens stop := by
  cases h with
  | group hfirst hs ha => exact hs.wellFormed.boundary_stop
  | skipped hfirst ht => exact ht.boundary_stop

/-- A step says of each of its tokens what grouped it. -/
theorem IsStep.length_groupings (h : IsStep g tokens pos stop step) :
    pos + (groupings [step]).length = stop := by
  cases h with
  | @group r tree hfirst hs ha =>
    obtain ⟨front, back, -, hstart, hstop⟩ := hs.wellFormed.sound.units
    rw [extent_tokens, hs.start] at hstart
    rw [extent_tokens, List.length_append] at hstop
    simp only [groupings, List.flatMap_cons, List.flatMap_nil, List.append_nil,
      List.length_replicate]
    omega
  | skipped hfirst ht => rfl

/-- The tree of a step begins where the step begins. -/
theorem IsStep.start_eq (h : IsStep g tokens pos stop step) {tree : SyntaxTree Token}
    (ht : step.tree? = some tree) : tree.start = pos := by
  cases h with
  | group hfirst hs ha =>
    cases ht
    exact hs.start
  | skipped hfirst hread => cases ht

end Steps

theorem groupings_append (steps steps' : List Step) :
    groupings (steps ++ steps') = groupings steps ++ groupings steps' := List.flatMap_append

/-- The tree of some steps has the trees of the steps as children. -/
theorem children_treeOf (steps : List Step) :
    (treeOf steps).children = steps.filterMap Step.tree? := by
  have hfold : ∀ root : SyntaxTree Token,
      (steps.foldl addStep root).children = root.children ++ steps.filterMap Step.tree? := by
    intro root
    induction steps generalizing root with
    | nil => rw [List.foldl_nil, List.filterMap_nil, List.append_nil]
    | cons step steps ih =>
      rw [List.foldl_cons, ih]
      cases step with
      | group r tree =>
        rw [List.filterMap_cons_some (f := Step.tree?) (b := tree) rfl, addStep, SyntaxTree.absorb,
          List.append_assoc]
        rfl
      | skipped t =>
        rw [List.filterMap_cons_none (f := Step.tree?) rfl]
        rfl
  rw [treeOf, SyntaxTree.settle]
  split
  · exact hfold _
  · exact hfold _

/-! ## The loop -/

section Loop

variable (g : Grammar) (front back : List Token) (t : Token)

theorem next_value (input : Input Token) (pos : Nat) (t : Token) :
    (next g input pos t).value =
      match (firstAbsolute g input pos g.parserRules).value with
      | some (r, tree) => (.group r tree, tree.stop)
      | none => (.skipped t, pos + 1) := by
  rw [next, Noted.value_bind]
  cases (firstAbsolute g input pos g.parserRules).value with
  | none => rfl
  | some found => rfl

theorem next_isStep :
    IsStep g (front ++ t :: back) (extent front)
      (next g (.ofUnits (front ++ t :: back)) (extent front) t).value.2
      (next g (.ofUnits (front ++ t :: back)) (extent front) t).value.1 := by
  have hpos : Boundary (front ++ t :: back) (extent front) := ⟨front, t :: back, rfl, rfl⟩
  have hfound := (Matching.firstAbsolute_ensures g _ hpos g.parserRules).2
  rw [next_value]
  cases hfirst : (firstAbsolute g (.ofUnits (front ++ t :: back)) (extent front)
      g.parserRules).value with
  | none =>
    refine .skipped hfirst ⟨front, back, rfl, rfl, ?_⟩
    rw [extent_tokens, extent_tokens, List.length_append, List.length_singleton]
  | some found =>
    obtain ⟨r, tree⟩ := found
    obtain ⟨hs, ha⟩ := hfound r tree hfirst
    exact .group hfirst hs ha

/-- The next step begins where the one before ended. -/
theorem stepsFrom_of_lt :
    stepsFrom g (.ofUnits (front ++ t :: back)) (extent front) =
      (Prod.fst <$> next g (.ofUnits (front ++ t :: back)) (extent front) t) ::
        stepsFrom g (.ofUnits (front ++ t :: back))
          (next g (.ofUnits (front ++ t :: back)) (extent front) t).value.2 := by
  have hlt := (next_isStep g front back t).lt
  have hsize : extent front < (Input.ofUnits (front ++ t :: back)).size := by
    rw [Input.size_ofUnits, extent_tokens, extent_tokens, List.length_append, List.length_cons]
    omega
  have hread : ((Input.ofUnits (front ++ t :: back)).rest? (extent front)).bind List.head? =
      some t := by
    rw [Input.rest?_ofUnits]
    rfl
  rw [stepsFrom, dif_pos hsize]
  split
  · next t' ht' =>
    rw [hread] at ht'
    cases ht'
    dsimp only
    rw [Nat.max_eq_right hlt]
  · next hnone => simp [hread] at hnone

theorem stepsFrom_length (tokens : List Token) :
    stepsFrom g (.ofUnits tokens) tokens.length = [] := by
  rw [stepsFrom, dif_neg]
  rw [Input.size_ofUnits, extent_tokens]
  exact Nat.lt_irrefl _

end Loop

/-- **The loop steps through all tokens.** -/
theorem stepsFrom_stepped (g : Grammar) (tokens : List Token) {pos : Nat}
    (h : Boundary tokens pos) :
    Stepped g tokens pos ((stepsFrom g (.ofUnits tokens) pos).map Noted.value) := by
  induction hn : tokens.length - pos using Nat.strong_induction_on generalizing pos with
  | _ n ih =>
    have hle := h.le
    rw [extent_tokens] at hle
    by_cases hp : pos < tokens.length
    · obtain ⟨front, t, back, rfl, rfl⟩ := h.exists_of_lt (by rwa [extent_tokens])
      have hstep := next_isStep g front back t
      have hlt := hstep.lt
      rw [stepsFrom_of_lt, List.map_cons]
      refine .step hstep (ih _ ?_ hstep.boundary_stop rfl)
      omega
    · obtain rfl : pos = tokens.length := by omega
      rw [stepsFrom_length]
      exact .done

/-! ## Tokens inside tokens -/

/-- The step with its tokens renamed, moved to the right. -/
def Step.carry (f : Token → Token) (distance : Nat) : Step → Step
  | .group r tree => .group r (tree.carry f distance)
  | .skipped t => .skipped (f t)

section Carry

variable (g : Grammar) {f : Token → Token} {n : Nat} {input image : Input Token}
variable (hf : Readable.Keeps f) (h : input.Appears f n image)

include hf h

theorem next_carry (pos : Nat) (t : Token) :
    (next g image (n + pos) (f t)).value =
      (next g input pos t).value.map (Step.carry f n) (n + ·) := by
  rw [next_value, next_value, Matching.firstAbsolute_carry g hf h]
  cases (firstAbsolute g input pos g.parserRules).value with
  | none => rfl
  | some found => simp only [Option.map_some, Prod.map, id, Step.carry, SyntaxTree.stop_carry]

/-- The loop over tokens that appear among others is the loop there. -/
theorem stepsFrom_carry (pos : Nat) :
    (stepsFrom g image (n + pos)).map Noted.value =
      ((stepsFrom g input pos).map Noted.value).map (Step.carry f n) := by
  induction hn : input.size - pos using Nat.strong_induction_on generalizing pos with
  | _ m ih =>
    rw [stepsFrom, stepsFrom]
    by_cases hp : pos < input.size
    · rw [dif_pos hp, dif_pos ((h.lt_size_iff pos).2 hp), h.rest?]
      cases hread : input.rest? pos with
      | none => rfl
      | some s =>
        cases s with
        | nil => rfl
        | cons t s =>
          have hnext := next_carry g hf h pos t
          have hstop : (next g image (n + pos) (f t)).value.2 =
              n + (next g input pos t).value.2 := by rw [hnext]; rfl
          have hstep : (next g image (n + pos) (f t)).value.1 =
              (next g input pos t).value.1.carry f n := by rw [hnext]; rfl
          have hmax : max (n + pos + 1) (n + (next g input pos t).value.2) =
              n + max (pos + 1) (next g input pos t).value.2 := by omega
          have hrest := ih (input.size - max (pos + 1) (next g input pos t).value.2) (by omega)
            (max (pos + 1) (next g input pos t).value.2) rfl
          simp only [Option.map_some, Option.bind_some, List.map_cons, List.head?_cons, hstop,
            hmax, hrest]
          exact congrArg (· :: _) hstep
    · rw [dif_neg hp, dif_neg (hp ∘ (h.lt_size_iff pos).1)]
      rfl

end Carry

end Lexigram.Parsing
