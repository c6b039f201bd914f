/-!
# What remains of a list

Searches end because they use a member of a finite list at each turn and never use one twice.
`remaining` counts the members that are left, and using one makes fewer of them.
-/

namespace Lexigram

variable {α : Type} [DecidableEq α]

/-- How many members of a list are not in use. -/
def remaining (all used : List α) : Nat := all.countP fun a => a ∉ used

theorem remaining_cons_le (all used : List α) (a : α) :
    remaining all (a :: used) ≤ remaining all used := by
  refine List.countP_mono_left fun b _ h => ?_
  simp only [List.mem_cons, not_or, decide_eq_true_eq] at h ⊢
  exact h.2

theorem remaining_cons_lt {all used : List α} {a : α} (ha : a ∈ all) (hu : a ∉ used) :
    remaining all (a :: used) < remaining all used := by
  induction all with
  | nil => simp at ha
  | cons b all ih =>
    have hle := remaining_cons_le all used a
    unfold remaining at ih hle ⊢
    rw [List.countP_cons, List.countP_cons]
    by_cases hab : b = a
    · rw [if_neg (by simp [hab]), if_pos (by simp [hab, hu])]
      omega
    · have hlt := ih ((List.mem_cons.1 ha).resolve_left (Ne.symm hab))
      by_cases hb : b ∈ used
      · rw [if_neg (by simp [hb]), if_neg (by simp [hb])]
        omega
      · rw [if_pos (by simp [hab, hb]), if_pos (by simp [hb])]
        omega

end Lexigram
