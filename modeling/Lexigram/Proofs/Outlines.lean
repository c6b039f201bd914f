import Lexigram.Proofs.Spelling

/-!
# Texts that the outline goes through

The outline of a rule body is split at the first place on the top level that fits. Here is which
texts hold no such place.

**Passing** (`Outline.Passes`). A text is passed if the splitting comes out behind it at the depth
at which it went in, whatever follows. Literals, classes, single characters without a meaning, and
what is put together of them and of parentheses around them, are passed.

**The scan** (`Outline.scan`). Going through a text character by character, with the state in
which the splitting is, tells whether it finds a semicolon.

Main results: `Outline.Passes.group`, `Outline.passes_leaf` and `Outline.splitTop_semicolon`.
-/

namespace Lexigram.Outline

/-! ## Passing -/

/-- The places at which bodies and groups are split begin with one of three characters. -/
def Stops (stop : List Char → Bool) : Prop :=
  ∀ c s, stop (c :: s) = true → c = ')' ∨ c = ';' ∨ c = '-'

/-- The splitting goes through a text and comes out at the same depth. -/
def Passes (u : List Char) : Prop :=
  ∀ (rule : String) {stop : List Char → Bool}, Stops stop → ∀ depth pos rest,
    splitTop rule stop depth pos (u ++ rest) =
      (splitTop rule stop depth (pos + Text.byteLength u) rest).map
        (Option.map fun (front, back) => (u ++ front, back))

theorem splitTop_piece {rule : String} {stop : List Char → Bool} {depth pos : Nat} {c : Char}
    {s piece rest : List Char} (hstop : ¬(depth = 0 ∧ stop (c :: s) = true))
    (hpiece : splitPiece rule pos (c :: s) = .ok (piece, rest)) :
    splitTop rule stop depth pos (c :: s) =
      (splitTop rule stop (depthAfter c depth) (pos + Text.byteLength piece) rest).map
        (Option.map fun (front, back) => (piece ++ front, back)) := by
  rw [splitTop, if_neg hstop]
  split
  · next e he => rw [hpiece] at he; cases he
  · next piece' rest' he =>
    rw [hpiece] at he
    cases he
    rfl

namespace Passes

theorem nil : Passes [] := by
  intro rule stop _ depth pos rest
  rw [List.nil_append, Text.byteLength_nil, Nat.add_zero]
  cases splitTop rule stop depth pos rest with
  | error e => rfl
  | ok split => cases split <;> rfl

theorem append {u v : List Char} (hu : Passes u) (hv : Passes v) : Passes (u ++ v) := by
  intro rule stop hs depth pos rest
  rw [List.append_assoc, hu rule hs, hv rule hs, Text.byteLength_append, ← Nat.add_assoc]
  cases splitTop rule stop depth (pos + Text.byteLength u + Text.byteLength v) rest with
  | error e => rfl
  | ok split =>
    cases split with
    | none => rfl
    | some split => simp only [Except.map, Option.map_some, List.append_assoc]

/-- A piece that neither opens nor closes a group. -/
theorem piece {c : Char} {u : List Char} (hc : c ∉ ['(', ')', ';', '-'])
    (hpiece : ∀ rule pos rest, splitPiece rule pos (c :: u ++ rest) = .ok (c :: u, rest)) :
    Passes (c :: u) := by
  intro rule stop hs depth pos rest
  simp only [List.mem_cons, List.not_mem_nil, or_false, not_or] at hc
  have hstop : ¬(depth = 0 ∧ stop (c :: (u ++ rest)) = true) := by
    rintro ⟨-, hstop⟩
    rcases hs _ _ hstop with h | h | h <;> simp [h] at hc
  have hdepth : depthAfter c depth = depth := by
    rw [depthAfter, if_neg hc.1, if_neg hc.2.1]
  rw [List.cons_append, splitTop_piece hstop (hpiece rule pos rest), hdepth]

/-- A character without a meaning for the outline. -/
theorem char {c : Char} (hc : c ∉ ['\x27', '[', '\\', '(', ')', ';', '-']) : Passes [c] := by
  simp only [List.mem_cons, List.not_mem_nil, or_false, not_or] at hc
  obtain ⟨hquote, hbracket, hslash, hopen, hclose, hsemi, hminus⟩ := hc
  refine piece (by simp [hopen, hclose, hsemi, hminus]) fun rule pos rest => ?_
  rw [List.singleton_append, splitPiece.eq_def]
  split <;> simp_all

theorem chars {u : List Char} (hu : ∀ c ∈ u, c ∉ ['\x27', '[', '\\', '(', ')', ';', '-']) :
    Passes u := by
  induction u with
  | nil => exact nil
  | cons c u ih =>
    exact (char (hu c List.mem_cons_self)).append (ih fun d hd => hu d (List.mem_cons_of_mem _ hd))

theorem literal {inside : List Char} (h : Literal.Sealed '\x27' inside) :
    Passes ('\x27' :: (inside ++ ['\x27'])) := by
  refine piece (by decide) fun rule pos rest => ?_
  have hs := (Literal.split?_eq_some (by decide)).2
    (⟨h, rfl⟩ : _ ∧ inside ++ '\x27' :: rest = inside ++ '\x27' :: rest)
  rw [List.cons_append, List.append_assoc, List.singleton_append, splitPiece, hs]
  rfl

theorem brackets {inside : List Char} (h : splitClass? (inside ++ [']']) = some (inside, [])) :
    Passes ('[' :: inside ++ [']']) := by
  rw [List.cons_append]
  refine piece (by decide) fun rule pos rest => ?_
  rw [List.cons_append, List.append_assoc, List.singleton_append, splitPiece,
    splitClass?_append h]
  rfl

/-- Parentheses around a text that is passed. -/
theorem group {u : List Char} (hu : Passes u) : Passes ('(' :: u ++ [')']) := by
  intro rule stop hs depth pos rest
  have hopen : ¬(depth = 0 ∧ stop ('(' :: (u ++ ([')'] ++ rest))) = true) := by
    rintro ⟨-, hstop⟩
    have := hs _ _ hstop
    simp at this
  have hclose : ¬(depth + 1 = 0 ∧ stop (')' :: rest) = true) := by simp
  have hfirst : ∀ pos, splitPiece rule pos ('(' :: (u ++ ([')'] ++ rest))) =
      .ok (['('], u ++ ([')'] ++ rest)) := fun _ => rfl
  have hlast : ∀ pos, splitPiece rule pos (')' :: rest) = .ok ([')'], rest) := fun _ => rfl
  rw [List.cons_append, List.cons_append, List.append_assoc, splitTop_piece hopen (hfirst pos)]
  show Except.map _ (splitTop rule stop (depth + 1) _ _) = _
  rw [hu rule hs, List.singleton_append, splitTop_piece hclose (hlast _)]
  show Except.map _ (Except.map _ (Except.map _ (splitTop rule stop depth _ _))) = _
  have hlength : pos + Text.byteLength ['('] + Text.byteLength u + Text.byteLength [')'] =
      pos + Text.byteLength ('(' :: (u ++ [')'])) := by
    simp only [Text.byteLength_cons, Text.byteLength_nil, Text.byteLength_append]
    omega
  rw [hlength]
  cases splitTop rule stop depth (pos + Text.byteLength ('(' :: (u ++ [')']))) rest with
  | error e => rfl
  | ok split =>
    cases split with
    | none => rfl
    | some split => simp [Except.map]

end Passes

/-! ### The parts of a body -/

/-- The characters of which the printed parts of a body consist, apart from leaves and groups. -/
def isQuiet (c : Char) : Bool :=
  c ∉ ['\x27', '[', '\\', '(', ')', ';', '-']

theorem Passes.quiet {u : List Char} (hu : ∀ c ∈ u, isQuiet c = true) : Passes u :=
  .chars fun c hc => of_decide_eq_true (hu c hc)

theorem isQuiet_of_isAsciiBlank {c : Char} (h : Text.isAsciiBlank c = true) : isQuiet c = true := by
  simp only [Text.isAsciiBlank, Bool.or_eq_true, beq_iff_eq] at h
  rcases h with (((rfl | rfl) | rfl) | rfl) | rfl <;> decide

theorem isQuiet_of_isNameChar {c : Char} (h : Rule.isNameChar c = true) : isQuiet c = true := by
  rw [isQuiet, decide_eq_true_eq]
  intro hc
  simp only [List.mem_cons, List.not_mem_nil, or_false] at hc
  rcases hc with rfl | rfl | rfl | rfl | rfl | rfl | rfl <;> revert h <;> decide

theorem isQuiet_of_isAsciiDigit {c : Char} (h : Text.isAsciiDigit c = true) : isQuiet c = true := by
  rw [isQuiet, decide_eq_true_eq]
  intro hc
  simp only [List.mem_cons, List.not_mem_nil, or_false] at hc
  rcases hc with rfl | rfl | rfl | rfl | rfl | rfl | rfl <;> revert h <;> decide

theorem passes_name {name : List Char} (h : Rule.IsName name) : Passes name := by
  obtain ⟨c, s, rfl, hc, hs⟩ := h
  refine .quiet fun d hd => isQuiet_of_isNameChar ?_
  rcases List.mem_cons.1 hd with rfl | hd
  · exact Rule.isNameChar_of_isNameStart hc
  · exact hs d hd

theorem passes_leaf {l : Leaf} (h : l.Spelled) : Passes l.value := by
  have hblanks : ∀ {gap : List Char}, (∀ c ∈ gap, Text.isAsciiBlank c) → Passes gap :=
    fun hgap => .quiet fun c hc => isQuiet_of_isAsciiBlank (hgap c hc)
  cases h with
  | text hinside => exact .literal hinside
  | range hlower hupper hgap hgap' =>
    next lower upper gap gap' lo hi p =>
    have hdots : Passes ['.', '.'] := .quiet (List.all_eq_true.1 (by decide))
    have hall := (Passes.literal hlower).append ((hblanks hgap).append (hdots.append
      ((hblanks hgap').append (.literal hupper))))
    simpa using hall
  | expression hcore hp =>
    next core source anchored anchoredEnd p =>
    have hcaret : Passes (caret anchored) := .quiet (by cases anchored <;> exact List.all_eq_true.1 rfl)
    have hdollar : Passes (dollar anchoredEnd) := .quiet (by cases anchoredEnd <;> exact List.all_eq_true.1 rfl)
    refine (hcaret.append ?_).append hdollar
    cases hcore with
    | dot => exact .quiet (List.all_eq_true.1 (by decide))
    | brackets hinside => exact .brackets hinside

theorem passes_quantifier (q : Quantifier) : Passes q.render := by
  have hdigits : ∀ n, Passes (Text.decimal n) := fun n =>
    .quiet fun c hc => isQuiet_of_isAsciiDigit (Text.isAsciiDigit_of_mem_decimal n c hc)
  have hquiet : ∀ {u : List Char}, (∀ c ∈ u, isQuiet c = true) → Passes u := Passes.quiet
  obtain ⟨kind, min, max, lazy⟩ := q
  have hmark : ∀ {u : List Char}, Passes u → Passes (if lazy then u ++ ['?'] else u) := by
    intro u hu
    split
    · exact hu.append (.quiet (List.all_eq_true.1 (by decide)))
    · exact hu
  cases kind with
  | once => exact .nil
  | zeroOrMore | oneOrMore | optional => exact hmark (.quiet (List.all_eq_true.1 (by decide)))
  | range =>
    refine hmark ?_
    dsimp only
    split
    · exact ((hquiet (List.all_eq_true.1 (by decide))).append (hdigits _)).append (.quiet (List.all_eq_true.1 (by decide)))
    · split
      · exact ((hquiet (List.all_eq_true.1 (by decide))).append (hdigits _)).append (.quiet (List.all_eq_true.1 (by decide)))
      · exact ((((hquiet (List.all_eq_true.1 (by decide))).append (hdigits _)).append (.quiet (List.all_eq_true.1 (by decide)))).append
          (hdigits _)).append (.quiet (List.all_eq_true.1 (by decide)))

/-! ## The scan for semicolons -/

/-- Where in a text the splitting is. -/
inductive Mode where
  /-- Between pieces. -/
  | plain
  /-- Behind a backslash. -/
  | escape
  /-- In a literal. -/
  | quote
  /-- Behind a backslash in a literal. -/
  | quoteEscape
  /-- Behind the opening bracket of a class. -/
  | opened
  /-- Behind the circumflex at the beginning of a class. -/
  | circumflex
  /-- In a class, at some depth of further brackets. -/
  | inside (depth : Nat)
  /-- Behind a backslash in a class. -/
  | insideEscape (depth : Nat)
  deriving DecidableEq, Repr

/-- Where the splitting is, and in how many groups. -/
structure Cursor where
  mode : Mode
  depth : Nat
  deriving DecidableEq, Repr

/-- Where a character in a class leads to. -/
def classStep (depth : Nat) (c : Char) : Mode :=
  if c = '\\' then .insideEscape depth
  else if c = '[' then .inside (depth + 1)
  else if c = ']' then
    match depth with
    | 0 => .plain
    | depth + 1 => .inside depth
  else .inside depth

namespace Cursor

/-- Where a character leads to. -/
def next (p : Cursor) (c : Char) : Cursor :=
  match p.mode with
  | .plain =>
    if c = '\x27' then { p with mode := .quote }
    else if c = '[' then { p with mode := .opened }
    else if c = '\\' then { p with mode := .escape }
    else { p with depth := depthAfter c p.depth }
  | .escape => { p with mode := .plain }
  | .quote =>
    if c = '\\' then { p with mode := .quoteEscape }
    else if c = '\x27' then { p with mode := .plain }
    else p
  | .quoteEscape => { p with mode := .quote }
  | .opened =>
    if c = '^' then { p with mode := .circumflex }
    else if c = ']' then { p with mode := .inside 0 }
    else { p with mode := classStep 0 c }
  | .circumflex =>
    if c = ']' then { p with mode := .inside 0 } else { p with mode := classStep 0 c }
  | .inside depth => { p with mode := classStep depth c }
  | .insideEscape depth => { p with mode := .inside depth }

/-- Where a character leads to, unless it is a semicolon on the top level. -/
def next? (p : Cursor) (c : Char) : Option Cursor :=
  if p.mode = .plain ∧ p.depth = 0 ∧ c = ';' then none else some (p.next c)

/-- Between pieces, and not in the middle of one that has yet to be closed. -/
def Settled (p : Cursor) : Prop := p.mode = .plain ∨ p.mode = .escape

end Cursor

/-- Goes through a text, up to a semicolon on the top level. -/
def scan (p : Cursor) (s : List Char) : Option Cursor := s.foldlM Cursor.next? p

section Scan

variable {p : Cursor} {c : Char} {s inside : List Char} {depth k : Nat}

@[simp] theorem scan_nil (p : Cursor) : scan p [] = some p := rfl

theorem scan_cons (p : Cursor) (c : Char) (s : List Char) :
    scan p (c :: s) = (p.next? c).bind (scan · s) := rfl

theorem scan_append (p : Cursor) (s t : List Char) :
    scan p (s ++ t) = (scan p s).bind (scan · t) := List.foldlM_append

theorem scan_cons_of_mode (h : p.mode ≠ .plain) : scan p (c :: s) = scan (p.next c) s := by
  rw [scan_cons, Cursor.next?, if_neg fun hp => h hp.1]
  rfl

theorem scan_quote (h : Literal.Sealed '\x27' inside) :
    scan ⟨.quote, depth⟩ (inside ++ ['\x27']) = some ⟨.plain, depth⟩ := by
  induction h with
  | nil => rfl
  | escape c _ ih => exact ih
  | char hesc hquote _ ih =>
    rw [List.cons_append, scan_cons_of_mode (by simp), Cursor.next]
    dsimp only
    rw [if_neg hesc, if_neg hquote]
    exact ih

theorem scan_inside (h : Sealed k inside) :
    scan ⟨.inside k, depth⟩ (inside ++ [']']) = some ⟨.plain, depth⟩ := by
  induction h with
  | nil => rfl
  | escape c _ ih => exact ih
  | opened _ ih => exact ih
  | closed _ ih => exact ih
  | char hesc hopen hclose _ ih =>
    rw [List.cons_append, scan_cons_of_mode (by simp), Cursor.next]
    dsimp only
    unfold classStep
    rw [if_neg hesc, if_neg hopen, if_neg hclose]
    exact ih

/-- The lead of a class is behind it once something follows. -/
theorem scan_opened (h : s.drop (classLead s).length ≠ []) :
    scan ⟨.opened, depth⟩ s = scan ⟨.inside 0, depth⟩ (s.drop (classLead s).length) := by
  unfold classLead at h ⊢
  split at h
  · rfl
  · next t hlead =>
    match t with
    | [] => exact absurd rfl h
    | c :: t =>
      have hc : c ≠ ']' := by
        rintro rfl
        exact hlead _ rfl
      show scan ⟨.circumflex, depth⟩ (c :: t) = scan ⟨.inside 0, depth⟩ (c :: t)
      rw [scan_cons_of_mode (by simp), scan_cons_of_mode (by simp), Cursor.next, Cursor.next]
      dsimp only
      rw [if_neg hc]
  · rfl
  · next hpair hcaret hbracket =>
    match s with
    | [] => exact absurd rfl h
    | c :: t =>
      have hc : c ≠ '^' := by
        rintro rfl
        exact hcaret _ rfl
      have hc' : c ≠ ']' := by
        rintro rfl
        exact hbracket _ rfl
      show scan ⟨.opened, depth⟩ (c :: t) = scan ⟨.inside 0, depth⟩ (c :: t)
      rw [scan_cons_of_mode (by simp), scan_cons_of_mode (by simp), Cursor.next, Cursor.next]
      dsimp only
      rw [if_neg hc, if_neg hc']

theorem scan_brackets (h : splitClass? (inside ++ [']']) = some (inside, [])) :
    scan ⟨.opened, depth⟩ (inside ++ [']']) = some ⟨.plain, depth⟩ := by
  obtain ⟨⟨core, r⟩, hcore, he⟩ := Option.map_eq_some_iff.1 h
  obtain ⟨hinside, rfl⟩ := Prod.mk.inj he
  obtain ⟨hsealed, hdrop⟩ := closeClass?_eq_some.1 hcore
  rw [scan_opened (by simp [hdrop]), hdrop]
  exact scan_inside hsealed

/-- A literal that does not close is left open. -/
theorem scan_quote_open (h : Literal.split? '\x27' s = none) :
    ∃ p, scan ⟨.quote, depth⟩ s = some p ∧ ¬p.Settled := by
  fun_induction Literal.split? '\x27' s with
  | case1 => exact ⟨_, rfl, by simp [Cursor.Settled]⟩
  | case2 => exact ⟨_, rfl, by simp [Cursor.Settled, Cursor.next]⟩
  | case3 c s ih => exact ih (by simpa using h)
  | case4 => simp at h
  | case5 c s hnil hesc hc ih =>
    have hslash : c ≠ '\\' := by
      rintro rfl
      cases s with
      | nil => exact hnil rfl rfl
      | cons d s => exact hesc d s rfl rfl
    rw [scan_cons_of_mode (by simp), Cursor.next]
    dsimp only
    rw [if_neg hslash, if_neg hc]
    exact ih (by simpa using h)

theorem scan_inside_open (h : closeClass? k s = none) :
    ∃ p, scan ⟨.inside k, depth⟩ s = some p ∧ ¬p.Settled := by
  fun_induction closeClass? k s with
  | case1 => exact ⟨_, rfl, by simp [Cursor.Settled]⟩
  | case2 => exact ⟨_, rfl, by simp [Cursor.Settled, Cursor.next, classStep]⟩
  | case3 k c s ih => exact ih (by simpa using h)
  | case4 k s _ _ ih => exact ih (by simpa using h)
  | case5 => simp at h
  | case6 s _ _ _ k ih => exact ih (by simpa using h)
  | case7 k c s hnil hesc hopen hclose ih =>
    have hslash : c ≠ '\\' := by
      rintro rfl
      cases s with
      | nil => exact hnil rfl rfl
      | cons d s => exact hesc d s rfl rfl
    rw [scan_cons_of_mode (by simp), Cursor.next]
    dsimp only
    unfold classStep
    rw [if_neg hslash, if_neg hopen, if_neg hclose]
    exact ih (by simpa using h)

theorem scan_brackets_open (h : splitClass? s = none) :
    ∃ p, scan ⟨.opened, depth⟩ s = some p ∧ ¬p.Settled := by
  have hclose : closeClass? 0 (s.drop (classLead s).length) = none := by
    simpa [splitClass?] using h
  by_cases hdrop : s.drop (classLead s).length = []
  · unfold classLead at hdrop
    split at hdrop
    · obtain rfl : _ = [] := hdrop
      exact ⟨_, rfl, by simp [Cursor.Settled, Cursor.next]⟩
    · obtain rfl : _ = [] := hdrop
      exact ⟨_, rfl, by simp [Cursor.Settled, Cursor.next]⟩
    · obtain rfl : _ = [] := hdrop
      exact ⟨_, rfl, by simp [Cursor.Settled, Cursor.next]⟩
    · obtain rfl : s = [] := hdrop
      exact ⟨_, rfl, by simp [Cursor.Settled]⟩
  · rw [scan_opened hdrop]
    exact scan_inside_open hclose

end Scan

/-! ### The splitting by the scan -/

section Splitting

variable {rule : String} {pos depth : Nat} {c : Char} {s piece rest : List Char}

/-- A piece leads from between pieces to between pieces, if it is not a backslash at the end. -/
theorem scan_piece (hsemi : ¬(depth = 0 ∧ c = ';'))
    (h : splitPiece rule pos (c :: s) = .ok (piece, rest)) :
    scan ⟨.plain, depth⟩ piece = some ⟨.plain, depthAfter c depth⟩ ∨
      rest = [] ∧ scan ⟨.plain, depth⟩ piece = some ⟨.escape, depth⟩ := by
  have hfirst : ∀ u, scan ⟨.plain, depth⟩ (c :: u) = scan (Cursor.next ⟨.plain, depth⟩ c) u := by
    intro u
    rw [scan_cons, Cursor.next?, if_neg fun hp => hsemi hp.2]
    rfl
  unfold splitPiece at h
  split at h
  · next t he =>
    cases he
    split at h
    · next inside rest' hs =>
      cases h
      left
      rw [List.cons_append, hfirst]
      exact scan_quote ((Literal.split?_eq_some (by decide)).1 hs).1
    · simp at h
  · next t he =>
    cases he
    split at h
    · next inside rest' hs =>
      cases h
      left
      rw [List.cons_append, hfirst]
      exact scan_brackets (splitClass?_append hs [])
    · simp at h
  · next d t he =>
    cases he
    cases h
    left
    rw [hfirst]
    rfl
  · next d t hquote hbracket hslash he =>
    cases he
    cases h
    have hc : c ≠ '\x27' := fun hc => hquote hc
    have hc' : c ≠ '[' := fun hc => hbracket hc
    rw [hfirst]
    by_cases hc'' : c = '\\'
    · right
      subst hc''
      refine ⟨?_, rfl⟩
      cases s with
      | nil => rfl
      | cons d s => exact absurd rfl (hslash d s rfl)
    · left
      rw [Cursor.next]
      dsimp only
      rw [if_neg hc, if_neg hc', if_neg hc'']
      rfl
  · next he => cases he

/-- A piece that is not closed is left open to the end. -/
theorem scan_piece_open {e : CompileError} (h : splitPiece rule pos (c :: s) = .error e) :
    ∃ p, scan ⟨.plain, depth⟩ (c :: s) = some p ∧ ¬p.Settled := by
  unfold splitPiece at h
  split at h
  · next t he =>
    cases he
    split at h
    · simp at h
    · next hs =>
      rw [scan_cons, Cursor.next?, if_neg (by simp)]
      exact scan_quote_open hs
  · next t he =>
    cases he
    split at h
    · simp at h
    · next hs =>
      rw [scan_cons, Cursor.next?, if_neg (by simp)]
      exact scan_brackets_open hs
  · simp at h
  · simp at h
  · simp at h

/-- The places at which a body is split off its terminator. -/
def isSemicolon (s : List Char) : Bool := s.head? == some ';'

theorem isSemicolon_cons : isSemicolon (c :: s) = true ↔ c = ';' := by
  simp [isSemicolon]

/-- **The scan finds what the splitting finds.** -/
theorem splitTop_semicolon :
    splitTop rule isSemicolon depth pos s = .ok none ↔
      ∃ p, scan ⟨.plain, depth⟩ s = some p ∧ p.Settled := by
  induction depth, pos, s using splitTop.induct rule isSemicolon with
  | case1 depth pos => exact ⟨fun _ => ⟨_, rfl, .inl rfl⟩, fun _ => by rw [splitTop]⟩
  | case2 depth pos c s hs =>
    rw [splitTop, if_pos hs]
    rw [isSemicolon_cons] at hs
    constructor
    · intro h
      cases h
    · rintro ⟨p, hp, -⟩
      rw [scan_cons, Cursor.next?, if_pos ⟨rfl, hs.1, hs.2⟩] at hp
      cases hp
  | case3 depth pos c s hs e he =>
    obtain ⟨p, hp, hopen⟩ : ∃ p, scan ⟨.plain, depth⟩ (c :: s) = some p ∧ ¬p.Settled :=
      scan_piece_open he
    rw [splitTop, if_neg hs]
    constructor
    · intro h
      split at h
      · cases h
      · next hok => rw [he] at hok; cases hok
    · rintro ⟨p', hp', hsettled⟩
      rw [hp] at hp'
      cases hp'
      exact absurd hsettled hopen
  | case4 depth pos c s hs piece rest hp hl ih =>
    rw [splitTop_piece hs hp]
    rw [isSemicolon_cons] at hs
    have hmap : (splitTop rule isSemicolon (depthAfter c depth) (pos + Text.byteLength piece)
        rest).map (Option.map fun (front, back) => (piece ++ front, back)) = .ok none ↔
        splitTop rule isSemicolon (depthAfter c depth) (pos + Text.byteLength piece) rest =
          .ok none := by
      cases splitTop rule isSemicolon (depthAfter c depth) (pos + Text.byteLength piece) rest with
      | error e => simp [Except.map]
      | ok split => cases split <;> simp [Except.map]
    rw [hmap, ih, eq_of_splitPiece hp]
    rcases scan_piece hs hp with hscan | ⟨rfl, hscan⟩
    · rw [scan_append, hscan]
      rfl
    · rw [List.append_nil, hscan]
      exact ⟨fun _ => ⟨_, rfl, .inr rfl⟩, fun _ => ⟨_, rfl, .inl rfl⟩⟩

theorem scan_of_splitTop {front back : List Char}
    (h : splitTop rule isSemicolon depth pos s = .ok (some (front, back))) :
    scan ⟨.plain, depth⟩ front = some ⟨.plain, 0⟩ := by
  fun_induction splitTop rule isSemicolon depth pos s generalizing front with
  | case1 => simp at h
  | case2 depth pos c s hs =>
    cases h
    rw [hs.1]
    rfl
  | case3 => simp at h
  | case4 depth pos c s hs piece rest hp hl ih =>
    rw [isSemicolon_cons] at hs
    cases ht : splitTop rule isSemicolon (depthAfter c depth) (pos + Text.byteLength piece) rest with
    | error => rw [ht] at h; simp [Except.map] at h
    | ok r =>
      rw [ht] at h
      obtain ⟨⟨f, b⟩, hr, he⟩ := Option.map_eq_some_iff.1 (Except.ok.inj h)
      cases he
      have hrest := ih (ht.trans (congrArg _ hr))
      rcases scan_piece hs hp with hscan | ⟨rfl, -⟩
      · rw [scan_append, hscan]
        exact hrest
      · rw [splitTop] at ht
        cases ht
        cases hr

/-- Whatever is looked for, it is found between pieces and outside of groups. -/
theorem eq_plain_of_splitTop {stop : List Char → Bool} {front back : List Char} {p : Cursor}
    (h : splitTop rule stop depth pos s = .ok (some (front, back)))
    (hscan : scan ⟨.plain, depth⟩ front = some p) : p = ⟨.plain, 0⟩ := by
  fun_induction splitTop rule stop depth pos s generalizing front with
  | case1 => simp at h
  | case2 depth pos c s hs =>
    cases h
    cases hscan
    rw [hs.1]
  | case3 => simp at h
  | case4 depth pos c s hs piece rest hp hl ih =>
    cases ht : splitTop rule stop (depthAfter c depth) (pos + Text.byteLength piece) rest with
    | error => rw [ht] at h; simp [Except.map] at h
    | ok r =>
      rw [ht] at h
      obtain ⟨⟨f, b⟩, hr, he⟩ := Option.map_eq_some_iff.1 (Except.ok.inj h)
      cases he
      have hsemi : ¬(depth = 0 ∧ c = ';') := by
        rintro ⟨rfl, rfl⟩
        obtain ⟨rfl, rfl⟩ : [';'] = piece ∧ s = rest := Prod.mk.inj (Except.ok.inj hp)
        cases hscan
      rcases scan_piece hsemi hp with hpiece | ⟨rfl, -⟩
      · rw [scan_append, hpiece] at hscan
        exact ih (ht.trans (congrArg _ hr)) hscan
      · rw [splitTop] at ht
        cases ht
        cases hr

end Splitting

end Lexigram.Outline
