import Lexigram.CompileError
import Lexigram.Literal

/-!
# The outline of a rule body

Before the atoms of a rule body are read, the body is split at its terminator, its arrow and the
ends of its groups. Literals and classes are sealed for this purpose: what stands inside them
splits nothing, nor does a character behind a backslash. `splitTop` finds the first place outside
of sealed pieces and groups; whatever it cuts off is put together again from its parts.
-/

namespace Lexigram.Outline

/-! ## Sealed pieces -/

/-- Splits a text inside a class, at some depth of further brackets, at the bracket that closes the
class. -/
def closeClass? (depth : Nat) : List Char → Option (List Char × List Char)
  | [] => none
  | ['\\'] => none
  | '\\' :: c :: s => (closeClass? depth s).map fun (inside, rest) => ('\\' :: c :: inside, rest)
  | c :: s =>
    if c = '[' then
      (closeClass? (depth + 1) s).map fun (inside, rest) => (c :: inside, rest)
    else if c = ']' then
      match depth with
      | 0 => some ([], s)
      | depth + 1 => (closeClass? depth s).map fun (inside, rest) => (c :: inside, rest)
    else (closeClass? depth s).map fun (inside, rest) => (c :: inside, rest)

/-- The beginning of a class behind its opening bracket in which a closing bracket stands for
itself. -/
def classLead : List Char → List Char
  | '^' :: ']' :: _ => ['^', ']']
  | '^' :: _ => ['^']
  | ']' :: _ => [']']
  | _ => []

/-- Splits a text behind an opening bracket into the inside of the class and what follows the
closing bracket. -/
def splitClass? (s : List Char) : Option (List Char × List Char) :=
  let lead := classLead s
  (closeClass? 0 (s.drop lead.length)).map fun (inside, rest) => (lead ++ inside, rest)

theorem eq_of_closeClass? {depth : Nat} {s inside rest : List Char}
    (h : closeClass? depth s = some (inside, rest)) : s = inside ++ ']' :: rest := by
  fun_induction closeClass? depth s generalizing inside with
  | case1 | case2 => simp at h
  | case3 depth c s ih =>
    obtain ⟨⟨i, r⟩, hi, he⟩ := Option.map_eq_some_iff.1 h
    obtain ⟨rfl, rfl⟩ := Prod.mk.inj he
    simp [ih hi]
  | case4 depth s _ _ ih | case6 s _ _ _ depth ih | case7 depth _ s _ _ _ _ ih =>
    obtain ⟨⟨i, r⟩, hi, he⟩ := Option.map_eq_some_iff.1 h
    obtain ⟨rfl, rfl⟩ := Prod.mk.inj he
    simp [ih hi]
  | case5 s =>
    obtain ⟨rfl, rfl⟩ := Prod.mk.inj (Option.some.inj h)
    simp

theorem classLead_append_drop (s : List Char) : classLead s ++ s.drop (classLead s).length = s := by
  unfold classLead
  split <;> rfl

theorem eq_of_splitClass? {s inside rest : List Char} (h : splitClass? s = some (inside, rest)) :
    s = inside ++ ']' :: rest := by
  obtain ⟨⟨i, r⟩, hi, he⟩ := Option.map_eq_some_iff.1 h
  obtain ⟨rfl, rfl⟩ := Prod.mk.inj he
  rw [List.append_assoc, ← eq_of_closeClass? hi, classLead_append_drop]

/-- Splits a text, found at the byte `pos`, behind its first sealed piece or single character. -/
def splitPiece (rule : String) (pos : Nat) : List Char → Except CompileError (List Char × List Char)
  | '\x27' :: s =>
    match Literal.split? '\x27' s with
    | some (inside, rest) => .ok ('\x27' :: inside ++ ['\x27'], rest)
    | none => .error (.unterminatedLiteral rule pos)
  | '[' :: s =>
    match splitClass? s with
    | some (inside, rest) => .ok ('[' :: inside ++ [']'], rest)
    | none => .error (.unterminatedClass rule pos)
  | '\\' :: c :: s => .ok (['\\', c], s)
  | c :: s => .ok ([c], s)
  | [] => .ok ([], [])

theorem eq_of_splitPiece {rule : String} {pos : Nat} {s piece rest : List Char}
    (h : splitPiece rule pos s = .ok (piece, rest)) : s = piece ++ rest := by
  unfold splitPiece at h
  split at h
  · split at h
    · next hs =>
      obtain ⟨rfl, rfl⟩ := Prod.mk.inj (Except.ok.inj h)
      simp [Literal.eq_of_split? hs]
    · simp at h
  · split at h
    · next hs =>
      obtain ⟨rfl, rfl⟩ := Prod.mk.inj (Except.ok.inj h)
      simp [eq_of_splitClass? hs]
    · simp at h
  all_goals
    obtain ⟨rfl, rfl⟩ := Prod.mk.inj (Except.ok.inj h)
    rfl

theorem length_splitPiece {rule : String} {pos : Nat} {c : Char} {s piece rest : List Char}
    (h : splitPiece rule pos (c :: s) = .ok (piece, rest)) : rest.length ≤ s.length := by
  have he := congrArg List.length (eq_of_splitPiece h)
  have hp : piece ≠ [] := by
    unfold splitPiece at h
    split at h
    · split at h
      · obtain ⟨rfl, -⟩ := Prod.mk.inj (Except.ok.inj h)
        simp
      · simp at h
    · split at h
      · obtain ⟨rfl, -⟩ := Prod.mk.inj (Except.ok.inj h)
        simp
      · simp at h
    · obtain ⟨rfl, -⟩ := Prod.mk.inj (Except.ok.inj h)
      simp
    · obtain ⟨rfl, -⟩ := Prod.mk.inj (Except.ok.inj h)
      simp
    · simp_all
  have := List.length_pos_iff.2 hp
  simp only [List.length_cons, List.length_append] at he
  omega

/-! ## The top level -/

/-- The depth of groups behind a piece that begins with `c`. -/
def depthAfter (c : Char) (depth : Nat) : Nat :=
  if c = '(' then depth + 1 else if c = ')' then depth - 1 else depth

/-- Splits a text, found at the byte `pos`, before the first place on the top level at which `stop`
holds of what follows. -/
def splitTop (rule : String) (stop : List Char → Bool) (depth pos : Nat) :
    List Char → Except CompileError (Option (List Char × List Char))
  | [] => .ok none
  | c :: s =>
    if depth = 0 ∧ stop (c :: s) then .ok (some ([], c :: s))
    else
      match h : splitPiece rule pos (c :: s) with
      | .error e => .error e
      | .ok (piece, rest) =>
        have := length_splitPiece h
        (splitTop rule stop (depthAfter c depth) (pos + Text.byteLength piece) rest).map
          (Option.map fun (front, back) => (piece ++ front, back))
termination_by s => s.length
decreasing_by simp only [List.length_cons]; omega

theorem eq_of_splitTop {rule : String} {stop : List Char → Bool} {depth pos : Nat}
    {s front back : List Char} (h : splitTop rule stop depth pos s = .ok (some (front, back))) :
    s = front ++ back := by
  fun_induction splitTop rule stop depth pos s generalizing front with
  | case1 => simp at h
  | case2 =>
    obtain ⟨rfl, rfl⟩ := Prod.mk.inj (Option.some.inj (Except.ok.inj h))
    rfl
  | case3 => simp at h
  | case4 depth pos c s hs piece rest hp hl ih =>
    cases ht : splitTop rule stop (depthAfter c depth) (pos + Text.byteLength piece) rest with
    | error => rw [ht] at h; simp [Except.map] at h
    | ok r =>
      rw [ht] at h
      obtain ⟨⟨f, b⟩, hr, he⟩ := Option.map_eq_some_iff.1 (Except.ok.inj h)
      obtain ⟨rfl, rfl⟩ := Prod.mk.inj he
      rw [eq_of_splitPiece hp, ih (ht.trans (congrArg _ hr)), List.append_assoc]

end Lexigram.Outline
