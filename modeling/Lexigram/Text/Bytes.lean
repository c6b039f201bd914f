/-!
# Byte offsets

Offsets, spans and lengths count the bytes of a text in UTF-8. The lists of characters that the
readers work on are measured here.
-/

namespace Lexigram.Text

/-- The number of bytes of a text. -/
def byteLength : List Char → Nat
  | [] => 0
  | c :: s => c.utf8Size + byteLength s

@[simp] theorem byteLength_nil : byteLength [] = 0 := rfl

@[simp] theorem byteLength_cons (c : Char) (s : List Char) :
    byteLength (c :: s) = c.utf8Size + byteLength s := rfl

@[simp] theorem byteLength_append (s t : List Char) :
    byteLength (s ++ t) = byteLength s + byteLength t := by
  induction s with
  | nil => simp
  | cons c s ih => simp [ih, Nat.add_assoc]

theorem byteLength_eq_foldr (s : List Char) :
    byteLength s = s.foldr (fun c n => c.utf8Size + n) 0 := by
  induction s with
  | nil => rfl
  | cons c s ih => rw [byteLength_cons, List.foldr_cons, ih]

/-- The characters of a text that begin at the byte `n` or later. -/
def dropBytes : Nat → List Char → List Char
  | _, [] => []
  | 0, s => s
  | n + 1, c :: s => dropBytes (n + 1 - c.utf8Size) s

end Lexigram.Text
