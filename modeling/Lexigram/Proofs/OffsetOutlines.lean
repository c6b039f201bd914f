import Lexigram.Proofs.Offsets
import Lexigram.Proofs.Reading

/-!
# Outlines by offsets

Rule bodies are split at their terminator, their arrow and the ends of their groups before their
atoms are read. Here they are split by offsets into the bytes of the body. A backslash makes the
scanning jump over two bytes, which may end inside a character or behind the part that is read.

**Wide bytes** (`Leads`). Inside a character there are wide bytes only, and on those every scanner
goes on to the next byte. So it comes out behind the character. Behind the part that is read every
scanner stops.

**Scanners**. Each finds the offset of what the splitting of characters finds, or fails with the
same error.

Main results: `Offsets.findTop_tracks` and `Offsets.closingParen_tracks`.
-/

namespace Lexigram

open Text (byte? slice? byteLength byteLength_append byteLength_cons byteLength_nil IsWide)

namespace Offsets

open Guarded (Tracks demand stuck)

/-! ## Scanners -/

/-- The offset of the first byte that fails a test, or of the end. -/
def skipWhile (src : List Char) (p : Char → Bool) (stop pos : Nat) : Option Nat :=
  if pos < stop then
    (byte? src pos).bind fun b => if p b then skipWhile src p stop (pos + 1) else some pos
  else some pos
termination_by stop - pos

/-- The offset of the quote that closes a literal, from an offset inside of it on. -/
def closingQuote? (src : List Char) (quote : Char) (i : Nat) : Option Nat :=
  match h : byte? src i with
  | none => none
  | some b =>
    if b = '\\' then closingQuote? src quote (i + 2)
    else if b = quote then some i
    else closingQuote? src quote (i + 1)
termination_by byteLength src - i
decreasing_by all_goals have := Text.lt_of_byte? h; omega

/-- The offset behind the literal that begins at an offset. The search for its end is not bounded,
its end has to be. -/
def skipQuoted (src : List Char) (rule : String) (stop pos : Nat) : Guarded Nat :=
  if byte? src pos = some '\x27' then
    match closingQuote? src '\x27' (pos + 1) with
    | some close =>
      if close < stop then pure (close + 1) else .fail (.unterminatedLiteral rule pos)
    | none => .fail (.unterminatedLiteral rule pos)
  else stuck

/-- The offset behind the bracket that closes a class, from an offset inside of it on. -/
def closeClass (src : List Char) (stop : Nat) (e : CompileError) (depth i : Nat) : Guarded Nat :=
  if i < stop then do
    let b ← demand (byte? src i)
    if b = '\\' then closeClass src stop e depth (i + 2)
    else if b = '[' then closeClass src stop e (depth + 1) (i + 1)
    else if b = ']' then
      match depth with
      | 0 => pure (i + 1)
      | depth + 1 => closeClass src stop e depth (i + 1)
    else closeClass src stop e depth (i + 1)
  else .fail e
termination_by stop - i

/-- The offset behind a byte that may be there, whether that is still read or not. -/
def skipByte (src : List Char) (d : Char) (i : Nat) : Nat :=
  if byte? src i = some d then i + 1 else i

/-- The offset behind the beginning of a class in which a closing bracket stands for itself. -/
def leadEnd (src : List Char) (i : Nat) : Nat := skipByte src ']' (skipByte src '^' i)

/-- The offset behind the class that begins at an offset. -/
def skipClass (src : List Char) (rule : String) (stop pos : Nat) : Guarded Nat :=
  closeClass src stop (.unterminatedClass rule pos) 0 (leadEnd src (pos + 1))

/-- The offset behind the sealed piece or the byte `b` at an offset. -/
def skipPiece (src : List Char) (rule : String) (stop pos : Nat) (b : Char) : Guarded Nat :=
  if b = '\x27' then skipQuoted src rule stop pos
  else if b = '[' then skipClass src rule stop pos
  else if b = '\\' then pure (pos + 2)
  else pure (pos + 1)

/-- The bytes that the search on the top level deals with by itself. -/
def isStructural (b : Char) : Bool := ['\x27', '[', '\\', '(', ')'].contains b

/-- Whether the search on the top level ends at an offset with the byte `b`. -/
def endsAt (holds : Nat → Option Bool) (depth i : Nat) (b : Char) : Option Bool :=
  if depth = 0 ∧ isStructural b = false then holds i else some false

/-- The first offset outside of sealed pieces and groups at which `holds` holds. -/
def findTop (src : List Char) (rule : String) (stop : Nat) (holds : Nat → Option Bool)
    (depth i : Nat) : Guarded (Option Nat) :=
  if i < stop then do
    let b ← demand (byte? src i)
    let found ← demand (endsAt holds depth i b)
    if found then pure (some i)
    else
      let next ← skipPiece src rule stop i b
      if i < next then findTop src rule stop holds (Outline.depthAfter b depth) next else stuck
  else pure none
termination_by stop - i

/-- The offset of the parenthesis that closes the group in which the depth is one. -/
def closingParen (src : List Char) (rule : String) (stop depth i : Nat) : Guarded (Option Nat) :=
  if i < stop then do
    let b ← demand (byte? src i)
    if b = ')' then
      match depth with
      | 0 => stuck
      | 1 => pure (some i)
      | depth + 2 => closingParen src rule stop (depth + 1) (i + 1)
    else
      let next ← skipPiece src rule stop i b
      if i < next then
        closingParen src rule stop (if b = '(' then depth + 1 else depth) next
      else stuck
  else pure none
termination_by stop - i

/-! ## Wide bytes -/

section Wide

variable {β : Type} {src : List Char} {stop n i j : Nat}

/-- All bytes from one offset to another are wide, or both offsets are behind what is read. -/
def Leads (src : List Char) (stop i j : Nat) : Prop :=
  (i ≤ j ∧ ∀ k, i ≤ k → k < j → ∃ b, byte? src k = some b ∧ IsWide b) ∨ (stop ≤ i ∧ j = stop)

/-- What goes on to the next byte at wide ones goes on to the first byte that is not wide. -/
theorem eq_of_wide {f : Nat → β}
    (hf : ∀ k b, k < n → byte? src k = some b → IsWide b → f k = f (k + 1)) (hij : i ≤ j)
    (hjn : j ≤ n) (hwide : ∀ k, i ≤ k → k < j → ∃ b, byte? src k = some b ∧ IsWide b) :
    f i = f j := by
  induction hij with
  | refl => rfl
  | step hij ih =>
    rename_i j
    obtain ⟨b, hb, hw⟩ := hwide j hij (Nat.lt_succ_self j)
    rw [ih (by omega) fun k hi hk => hwide k hi (by omega)]
    exact hf j b (by omega) hb hw

theorem Leads.eq {f : Nat → β}
    (hf : ∀ k b, k < stop → byte? src k = some b → IsWide b → f k = f (k + 1))
    (hend : ∀ k, stop ≤ k → f k = f stop) (hj : j ≤ stop) (h : Leads src stop i j) :
    f i = f j := by
  rcases h with ⟨hij, hwide⟩ | ⟨hi, rfl⟩
  · exact eq_of_wide hf hij hj hwide
  · exact hend i hi

theorem Leads.refl (src : List Char) (stop i : Nat) : Leads src stop i i :=
  .inl ⟨Nat.le_refl i, fun k hi hk => by omega⟩

end Wide

variable {src s : List Char} {rule : String} {stop pos i : Nat} {b c : Char}

theorem isAsciiBlank_of_isWide (hc : IsWide c) : Text.isAsciiBlank c = false := by
  simp [Text.isAsciiBlank, hc.ne (d := ' ') (by decide), hc.ne (d := '\t') (by decide),
    hc.ne (d := '\n') (by decide), hc.ne (d := '\x0c') (by decide), hc.ne (d := '\r') (by decide)]

/-- **Bytes are skipped as the characters are**, if no wide character passes the test. -/
theorem skipWhile_spans {p : Char → Bool} (hp : ∀ w, IsWide w → p w = false)
    (h : Spans src pos stop s) :
    ∃ next, skipWhile src p stop pos = some next ∧ Spans src pos next (s.takeWhile p) ∧
      Spans src next stop (s.dropWhile p) := by
  induction s generalizing pos with
  | nil =>
    obtain rfl : stop = pos := h.stop_eq_add
    exact ⟨stop, by rw [skipWhile, if_neg (Nat.lt_irrefl _)], h, h⟩
  | cons c s ih =>
    obtain ⟨b, hb, hlike⟩ := h.exists_byte?
    rw [skipWhile, if_pos h.lt, hb, Option.bind_some, hlike.test hp]
    by_cases hc : p c = true
    · have hnarrow : ¬IsWide c := fun hw => by simp [hp c hw] at hc
      have hbyte : pos + byteLength [c] = pos + 1 := by simp [Text.utf8Size_of_not_wide hnarrow]
      obtain ⟨next, hnext, htaken, hleft⟩ := ih (h.tail_narrow hnarrow)
      rw [if_pos hc, List.takeWhile_cons_of_pos hc, List.dropWhile_cons_of_pos hc]
      refine ⟨next, hnext, ?_, hleft⟩
      exact (hbyte ▸ h.take (u := [c])).append htaken
    · rw [if_neg hc, List.takeWhile_cons_of_neg hc, List.dropWhile_cons_of_neg hc]
      exact ⟨pos, rfl, h.boundary_start.spans_nil, h⟩

/-! ## Literals -/

/-- No escape begins where a text begins neither with a lone backslash nor with one in front of a
character. -/
theorem ne_of_cases {d : Char} (hnil : c = d → s = [] → False)
    (hcons : ∀ e t, c = d → s = e :: t → False) : c ≠ d := by
  intro hc
  cases s with
  | nil => exact hnil hc rfl
  | cons e t => exact hcons e t hc rfl

/-- The offset behind the character that closes a piece, given how the text at an offset inside of
the piece is split there. -/
def closedAt (e : CompileError) (i : Nat) : Option (List Char × List Char) → Guarded Nat
  | some (inside, _) => pure (i + byteLength inside + 1)
  | none => .fail e

theorem closedAt_map {e : CompileError} (u : List Char) (split : Option (List Char × List Char)) :
    closedAt e i (split.map fun (inside, rest) => (u ++ inside, rest)) =
      closedAt e (i + byteLength u) split := by
  cases split with
  | none => rfl
  | some split => simp [closedAt, Nat.add_assoc]

section Quotes

variable {quote : Char}

theorem closingQuote?_step (hb : byte? src i = some b) :
    closingQuote? src quote i =
      if b = '\\' then closingQuote? src quote (i + 2)
      else if b = quote then some i
      else closingQuote? src quote (i + 1) := by
  rw [closingQuote?]
  split
  · next hnone => simp [hb] at hnone
  · next hsome =>
    rw [hb] at hsome
    cases hsome
    rfl

theorem le_of_closingQuote? {close : Nat} (h : closingQuote? src quote i = some close) :
    i ≤ close := by
  fun_induction closingQuote? src quote i with
  | case1 => cases h
  | case2 i hb ih =>
    have := ih h
    omega
  | case3 i hb hesc =>
    cases h
    exact Nat.le_refl _
  | case4 i b hb hesc hc ih =>
    have := ih h
    omega

theorem closingQuote?_wide (hq : ¬IsWide quote) (hb : byte? src i = some b) (hw : IsWide b) :
    closingQuote? src quote i = closingQuote? src quote (i + 1) := by
  rw [closingQuote?_step hb, if_neg (hw.ne (by decide)), if_neg (hw.ne hq)]

theorem closingQuote?_char (hq : ¬IsWide quote) (h : Spans src i stop (c :: s)) (hesc : c ≠ '\\')
    (hc : c ≠ quote) :
    closingQuote? src quote i = closingQuote? src quote (i + c.utf8Size) := by
  by_cases hw : IsWide c
  · exact eq_of_wide (fun k b _ => closingQuote?_wide hq) (Nat.le_add_right _ _) (Nat.le_refl _)
      fun k hi hk => h.byte?_wide hw hi hk
  · rw [closingQuote?_step (h.byte?_first hw), if_neg hesc, if_neg hc,
      Text.utf8Size_of_not_wide hw]

theorem closingQuote?_escape (hq : ¬IsWide quote) (h : Spans src i stop ('\\' :: c :: s)) :
    closingQuote? src quote i = closingQuote? src quote (i + 1 + c.utf8Size) := by
  rw [closingQuote?_step (h.byte?_first (by decide)), if_pos rfl]
  exact eq_of_wide (fun k b _ => closingQuote?_wide hq)
    (Nat.add_le_add_left c.utf8Size_pos (i + 1)) (Nat.le_refl _)
    fun k hi hk => (h.tail_narrow (by decide)).byte?_inside hi hk

/-- **The closing quote is found where the literal closes.** If the literal does not close within
what is read, a closing quote may only be found behind that. -/
theorem closingQuote?_split (hq : ¬IsWide quote) (h : Spans src i stop s) :
    match Literal.split? quote s with
    | some (inside, _) => closingQuote? src quote i = some (i + byteLength inside)
    | none => ∀ close ∈ closingQuote? src quote i, stop ≤ close := by
  fun_induction Literal.split? quote s generalizing i with
  | case1 =>
    obtain rfl : stop = i := h.stop_eq_add
    exact fun close hclose => le_of_closingQuote? hclose
  | case2 =>
    intro close hclose
    rw [closingQuote?_step (h.byte?_first (by decide)), if_pos rfl] at hclose
    have hle := le_of_closingQuote? hclose
    have hstop : stop = i + 1 := h.stop_eq_add
    omega
  | case3 c s ih =>
    have htail := (h.tail_narrow (by decide)).tail
    have hrest := ih htail
    rw [closingQuote?_escape hq h]
    cases hs : Literal.split? quote s with
    | none => rwa [hs] at hrest
    | some split =>
      rw [hs] at hrest
      dsimp only [Option.map_some] at hrest ⊢
      rw [hrest]
      simp only [byteLength_cons, Option.some.injEq]
      have : '\\'.utf8Size = 1 := by decide
      omega
  | case4 s hnil hesc =>
    rw [closingQuote?_step (h.byte?_first hq), if_neg (ne_of_cases hnil hesc), if_pos rfl]
    rfl
  | case5 c s hnil hesc hc ih =>
    have hrest := ih h.tail
    rw [closingQuote?_char hq h (ne_of_cases hnil hesc) hc]
    cases hs : Literal.split? quote s with
    | none => rwa [hs] at hrest
    | some split =>
      rw [hs] at hrest
      dsimp only [Option.map_some] at hrest ⊢
      rw [hrest, byteLength_cons, Nat.add_assoc]

theorem skipQuoted_eq (h : Spans src pos stop ('\x27' :: s)) :
    skipQuoted src rule stop pos =
      closedAt (.unterminatedLiteral rule pos) (pos + 1) (Literal.split? '\x27' s) := by
  have hinside := h.tail_narrow (by decide)
  have hclose := closingQuote?_split (show ¬IsWide '\x27' by decide) hinside
  rw [skipQuoted, if_pos (h.byte?_first (by decide))]
  cases hs : Literal.split? '\x27' s with
  | none =>
    rw [hs] at hclose
    cases hfound : closingQuote? src '\x27' (pos + 1) with
    | none => rfl
    | some close =>
      have hle := hclose close hfound
      dsimp only
      rw [if_neg (by omega)]
      rfl
  | some split =>
    obtain ⟨inside, rest⟩ := split
    rw [hs] at hclose
    dsimp only at hclose
    have hstop := hinside.stop_eq_add
    rw [Literal.eq_of_split? hs, byteLength_append, byteLength_cons] at hstop
    have hpos := '\x27'.utf8Size_pos
    rw [hclose]
    dsimp only
    rw [if_pos (by omega)]
    rfl

end Quotes

/-! ## Classes -/

section Classes

variable {e : CompileError} {depth : Nat}

theorem closeClass_step (hi : i < stop) (hb : byte? src i = some b) :
    closeClass src stop e depth i =
      if b = '\\' then closeClass src stop e depth (i + 2)
      else if b = '[' then closeClass src stop e (depth + 1) (i + 1)
      else if b = ']' then
        match depth with
        | 0 => pure (i + 1)
        | depth + 1 => closeClass src stop e depth (i + 1)
      else closeClass src stop e depth (i + 1) := by
  rw [closeClass.eq_def, if_pos hi, hb, Guarded.demand_bind]

theorem closeClass_end (hi : stop ≤ i) : closeClass src stop e depth i = .fail e := by
  rw [closeClass.eq_def, if_neg (by omega)]

theorem closeClass_wide (hi : i < stop) (hb : byte? src i = some b) (hw : IsWide b) :
    closeClass src stop e depth i = closeClass src stop e depth (i + 1) := by
  rw [closeClass_step hi hb, if_neg (hw.ne (by decide)), if_neg (hw.ne (by decide)),
    if_neg (hw.ne (by decide))]

/-- **The closing bracket is found where the class closes.** -/
theorem closeClass_split (h : Spans src i stop s) :
    closeClass src stop e depth i = closedAt e i (Outline.closeClass? depth s) := by
  fun_induction Outline.closeClass? depth s generalizing i with
  | case1 =>
    obtain rfl : stop = i := h.stop_eq_add
    exact closeClass_end (Nat.le_refl _)
  | case2 =>
    have hstop : stop = i + 1 := h.stop_eq_add
    rw [closeClass_step h.lt (h.byte?_first (by decide)), if_pos rfl]
    exact closeClass_end (by omega)
  | case3 depth c s ih =>
    have hinside := h.tail_narrow (by decide)
    have hwalk : closeClass src stop e depth (i + 1 + 1) =
        closeClass src stop e depth (i + 1 + c.utf8Size) :=
      eq_of_wide (fun k b => closeClass_wide) (Nat.add_le_add_left c.utf8Size_pos (i + 1))
        hinside.tail.le fun k hi hk => hinside.byte?_inside hi hk
    rw [closeClass_step h.lt (h.byte?_first (by decide)), if_pos rfl, hwalk, ih hinside.tail,
      Nat.add_assoc]
    exact (closedAt_map ['\\', c] _).symm
  | case4 depth s hnil hesc ih =>
    rw [closeClass_step h.lt (h.byte?_first (by decide)), if_neg (by decide), if_pos rfl,
      ih (h.tail_narrow (by decide))]
    exact (closedAt_map ['['] _).symm
  | case5 s hnil hesc =>
    rw [closeClass_step h.lt (h.byte?_first (by decide)), if_neg (by decide), if_neg (by decide),
      if_pos rfl]
    rfl
  | case6 s hnil hesc hopen depth ih =>
    rw [closeClass_step h.lt (h.byte?_first (by decide)), if_neg (by decide), if_neg (by decide),
      if_pos rfl]
    dsimp only
    rw [ih (h.tail_narrow (by decide))]
    exact (closedAt_map [']'] _).symm
  | case7 depth c s hnil hesc hopen hclose ih =>
    have hwalk : closeClass src stop e depth i = closeClass src stop e depth (i + c.utf8Size) := by
      by_cases hw : IsWide c
      · exact eq_of_wide (fun k b => closeClass_wide) (Nat.le_add_right _ _) h.tail.le
          fun k hi hk => h.byte?_wide hw hi hk
      · rw [closeClass_step h.lt (h.byte?_first hw), if_neg (ne_of_cases hnil hesc), if_neg hopen,
          if_neg hclose, Text.utf8Size_of_not_wide hw]
    rw [hwalk, ih h.tail]
    exact (closedAt_map [c] _).symm

theorem le_skipByte (src : List Char) (d : Char) (i : Nat) : i ≤ skipByte src d i := by
  unfold skipByte
  split
  · exact Nat.le_succ i
  · exact Nat.le_refl i

theorem skipByte_eq {d : Char} (h : Spans src i stop (c :: s)) (hd : ¬IsWide d) :
    skipByte src d i = if c = d then i + 1 else i := by
  simp only [skipByte, h.byte?_eq_some_iff hd]

theorem le_leadEnd (src : List Char) (i : Nat) : i ≤ leadEnd src i :=
  Nat.le_trans (le_skipByte src '^' i) (le_skipByte src ']' _)

/-- The two looks at the beginning of a class may go beyond what is read. -/
theorem leadEnd_eq (h : Spans src i stop s) :
    leadEnd src i = i + byteLength (Outline.classLead s) ∨
      stop ≤ leadEnd src i ∧ i + byteLength (Outline.classLead s) = stop := by
  have hcaret : '^'.utf8Size = 1 := by decide
  have hbracket : ']'.utf8Size = 1 := by decide
  cases s with
  | nil =>
    obtain rfl : stop = i := h.stop_eq_add
    exact .inr ⟨le_leadEnd src stop, rfl⟩
  | cons c t =>
    by_cases hc : c = '^'
    · subst hc
      have htail := h.tail_narrow (by decide)
      rw [leadEnd, skipByte_eq h (by decide), if_pos rfl]
      cases t with
      | nil =>
        have hstop : stop = i + 1 := htail.stop_eq_add
        have hle := le_skipByte src ']' (i + 1)
        exact .inr ⟨by omega, hstop.symm⟩
      | cons d u =>
        rw [skipByte_eq htail (by decide)]
        by_cases hd : d = ']'
        · subst hd
          simp [Outline.classLead, hcaret, hbracket]
        · simp [Outline.classLead, hd, hcaret]
    · rw [leadEnd, skipByte_eq h (by decide), if_neg hc, skipByte_eq h (by decide)]
      by_cases hd : c = ']'
      · subst hd
        simp [Outline.classLead, hbracket]
      · simp [Outline.classLead, hc, hd]

theorem skipClass_eq (h : Spans src pos stop ('[' :: s)) :
    skipClass src rule stop pos =
      closedAt (.unterminatedClass rule pos) (pos + 1) (Outline.splitClass? s) := by
  have hinside := h.tail_narrow (by decide)
  have hcore : Spans src (pos + 1 + byteLength (Outline.classLead s)) stop
      (s.drop (Outline.classLead s).length) := by
    rw [← Outline.classLead_append_drop s] at hinside
    exact hinside.drop
  have hlead : skipClass src rule stop pos = closeClass src stop (.unterminatedClass rule pos) 0
      (pos + 1 + byteLength (Outline.classLead s)) := by
    rw [skipClass]
    rcases leadEnd_eq hinside with heq | ⟨hle, heq⟩
    · rw [heq]
    · rw [closeClass_end hle, closeClass_end (Nat.le_of_eq heq.symm)]
  rw [hlead, closeClass_split hcore]
  exact (closedAt_map _ _).symm

end Classes

/-! ## Pieces -/

theorem inside_of_boundary {offset : Nat} {e : CompileError} (h : Boundary src offset)
    (he : e.offset? = some offset) : e.Inside src := by
  intro k hk
  obtain rfl : k = offset := by simpa [he] using hk.symm
  have hle := h.le
  rw [Readable.extent_chars] at hle
  exact ⟨hle, h⟩

theorem inside_of_none {e : CompileError} (he : e.offset? = none) : e.Inside src := by
  intro k hk
  rw [he] at hk
  cases hk

/-- What skipping a piece has to do with the piece that is split off. -/
def Skips (src : List Char) (stop i next : Nat) (split : List Char × List Char) : Prop :=
  i < next ∧ Leads src stop next (i + byteLength split.1)

theorem closedAt_tracks {e : CompileError} {close : Char} (he : e.Inside src) (hc : ¬IsWide c)
    (hclose : ¬IsWide close) (split : Option (List Char × List Char)) :
    Tracks src (Skips src stop i) (closedAt e (i + 1) split)
      (.lift (match split with
        | some (inside, rest) => .ok (c :: inside ++ [close], rest)
        | none => .error e)) := by
  cases split with
  | none => exact Tracks.fail he
  | some split =>
    obtain ⟨inside, rest⟩ := split
    have hlength : byteLength (c :: inside ++ [close]) = 1 + byteLength inside + 1 := by
      simp [Text.utf8Size_of_not_wide hc, Text.utf8Size_of_not_wide hclose, Nat.add_assoc]
    have hnext : i + byteLength (c :: inside ++ [close]) = i + 1 + byteLength inside + 1 := by omega
    exact Tracks.pure ⟨by omega, hnext ▸ Leads.refl src stop _⟩

theorem skipPiece_tracks (rule : String) (h : Spans src i stop (c :: s)) (hb : Text.LooksLike b c) :
    Tracks src (Skips src stop i) (skipPiece src rule stop i b)
      (.lift (Outline.splitPiece rule i (c :: s))) := by
  have hlike {d : Char} (hd : ¬IsWide d) : b = d ↔ c = d := hb.eq_iff hd
  unfold skipPiece
  simp only [hlike (d := '\x27') (by decide), hlike (d := '[') (by decide),
    hlike (d := '\\') (by decide)]
  by_cases hquote : c = '\x27'
  · subst hquote
    rw [if_pos rfl, skipQuoted_eq h]
    exact closedAt_tracks (inside_of_boundary h.boundary_start rfl) (by decide) (by decide) _
  by_cases hclass : c = '['
  · subst hclass
    rw [if_neg (by decide), if_pos rfl, skipClass_eq h]
    exact closedAt_tracks (inside_of_boundary h.boundary_start rfl) (by decide) (by decide) _
  by_cases hesc : c = '\\'
  · subst hesc
    rw [if_neg (by decide), if_neg (by decide), if_pos rfl]
    have hinside := h.tail_narrow (by decide)
    cases s with
    | nil =>
      have hstop : stop = i + 1 := hinside.stop_eq_add
      exact Tracks.pure ⟨by omega, .inr ⟨by omega, hstop.symm⟩⟩
    | cons d t =>
      have hlength : i + byteLength ['\\', d] = i + 1 + d.utf8Size := (Nat.add_assoc ..).symm
      refine Tracks.pure ⟨by omega, .inl ⟨?_, fun k hi hk => ?_⟩⟩
      · have hpos := d.utf8Size_pos
        dsimp only
        omega
      · exact hinside.byte?_inside hi (hlength ▸ hk)
  · have hpiece : Outline.splitPiece rule i (c :: s) = .ok ([c], s) := by
      simp [Outline.splitPiece, hesc]
    rw [if_neg hquote, if_neg hclass, if_neg hesc, hpiece]
    refine Tracks.pure ⟨by omega, .inl ⟨?_, fun k hi hk => ?_⟩⟩
    · exact Nat.add_le_add_left c.utf8Size_pos i
    · exact h.byte?_inside hi hk

/-! ## The top level -/

/-- What is found of a place in a text that begins at an offset: the offset of the place. -/
def Finds (src : List Char) (stop i : Nat) : Option Nat → Option (List Char × List Char) → Prop
  | none, none => True
  | some place, some (front, back) => Spans src i place front ∧ Spans src place stop back
  | _, _ => False

theorem Finds.map {j : Nat} {found : Option Nat} {split : Option (List Char × List Char)}
    {piece : List Char} (hpiece : Spans src i j piece) (h : Finds src stop j found split) :
    Finds src stop i found (split.map fun (front, back) => (piece ++ front, back)) := by
  cases found with
  | none => cases split with
    | none => exact h
    | some split => exact h
  | some place => cases split with
    | none => exact h
    | some split => exact ⟨hpiece.append h.1, h.2⟩

section TopLevel

variable {holds : Nat → Option Bool} {test : List Char → Bool} {depth : Nat}

/-- A test on bytes agrees with a test on what is left, which no piece passes that is dealt with in
another way. -/
structure Agrees (src : List Char) (stop : Nat) (holds : Nat → Option Bool)
    (test : List Char → Bool) : Prop where
  first : ∀ {i c s}, Spans src i stop (c :: s) → holds i = some (test (c :: s))
  wide : ∀ {i b}, byte? src i = some b → IsWide b → holds i = some false
  plain : ∀ {c s}, test (c :: s) = true → isStructural c = false

theorem isStructural_of_isWide (hc : IsWide c) : isStructural c = false := by
  simp [isStructural, hc.ne (d := '\x27') (by decide), hc.ne (d := '[') (by decide),
    hc.ne (d := '\\') (by decide), hc.ne (d := '(') (by decide), hc.ne (d := ')') (by decide)]

theorem depthAfter_like (hb : Text.LooksLike b c) :
    Outline.depthAfter b depth = Outline.depthAfter c depth := by
  simp only [Outline.depthAfter, hb.eq_iff (d := '(') (by decide),
    hb.eq_iff (d := ')') (by decide)]

theorem findTop_end (hi : stop ≤ i) : findTop src rule stop holds depth i = pure none := by
  rw [findTop, if_neg (by omega)]

theorem skipPiece_wide (hw : IsWide b) : skipPiece src rule stop i b = pure (i + 1) := by
  simp [skipPiece, hw.ne (d := '\x27') (by decide), hw.ne (d := '[') (by decide),
    hw.ne (d := '\\') (by decide)]

theorem findTop_step (hi : i < stop) (hb : byte? src i = some b)
    (hholds : depth = 0 → isStructural b = false → holds i = some false) :
    findTop src rule stop holds depth i = (do
      let next ← skipPiece src rule stop i b
      if i < next then findTop src rule stop holds (Outline.depthAfter b depth) next
      else stuck) := by
  have hends : endsAt holds depth i b = some false := by
    unfold endsAt
    split
    · next h => exact hholds h.1 h.2
    · rfl
  rw [findTop, if_pos hi, hb, Guarded.demand_bind, hends, Guarded.demand_bind,
    if_neg Bool.false_ne_true]

theorem findTop_wide (hagrees : Agrees src stop holds test) (hi : i < stop)
    (hb : byte? src i = some b) (hw : IsWide b) :
    findTop src rule stop holds depth i = findTop src rule stop holds depth (i + 1) := by
  have hdepth : Outline.depthAfter b depth = depth := by
    rw [Outline.depthAfter, if_neg (hw.ne (by decide)), if_neg (hw.ne (by decide))]
  rw [findTop_step hi hb fun _ _ => hagrees.wide hb hw, skipPiece_wide hw, Guarded.pure_bind,
    if_pos (Nat.lt_succ_self i), hdepth]

/-- **A place on the top level is found at its offset.** -/
theorem findTop_tracks (hagrees : Agrees src stop holds test) (h : Spans src i stop s) :
    Tracks src (Finds src stop i) (findTop src rule stop holds depth i)
      (.lift (Outline.splitTop rule test depth i s)) := by
  fun_induction Outline.splitTop rule test depth i s with
  | case1 depth i =>
    obtain rfl : stop = i := h.stop_eq_add
    rw [findTop_end (Nat.le_refl _)]
    exact Tracks.pure trivial
  | case2 depth i c s hs =>
    obtain ⟨b, hb, hlike⟩ := h.exists_byte?
    have hplain : isStructural b = false :=
      (hlike.test fun w => isStructural_of_isWide).trans (hagrees.plain hs.2)
    have hends : endsAt holds depth i b = some true := by
      rw [endsAt, if_pos ⟨hs.1, hplain⟩, hagrees.first h, hs.2]
    rw [findTop, if_pos h.lt, hb, Guarded.demand_bind, hends, Guarded.demand_bind, if_pos rfl]
    exact Tracks.pure ⟨h.boundary_start.spans_nil, h⟩
  | case3 depth i c s hs e hp =>
    obtain ⟨b, hb, hlike⟩ := h.exists_byte?
    have hpiece := skipPiece_tracks rule h hlike
    rw [hp] at hpiece
    rw [findTop_step h.lt hb fun hdepth _ => by simpa [hdepth, hagrees.first h] using hs]
    exact hpiece.bind_error _
  | case4 depth i c s hs piece rest hp hl ih =>
    obtain ⟨b, hb, hlike⟩ := h.exists_byte?
    have hpiece := skipPiece_tracks rule h hlike
    rw [hp] at hpiece
    rw [findTop_step h.lt hb fun hdepth _ => by simpa [hdepth, hagrees.first h] using hs]
    refine hpiece.bind_ok fun next hskips => ?_
    have hspans : Spans src i stop (piece ++ rest) := Outline.eq_of_splitPiece hp ▸ h
    have hnext : findTop src rule stop holds (Outline.depthAfter b depth) next =
        findTop src rule stop holds (Outline.depthAfter c depth) (i + byteLength piece) := by
      rw [depthAfter_like hlike]
      refine hskips.2.eq (fun k b hk => findTop_wide hagrees hk) (fun k hk => ?_) hspans.drop.le
      rw [findTop_end hk, findTop_end (Nat.le_refl stop)]
    rw [if_pos hskips.1, hnext]
    exact (ih hspans.drop).map fun found split hfinds => hfinds.map hspans.take

end TopLevel

/-! ## Groups -/

section Groups

variable {depth : Nat}

theorem closingParen_end (hi : stop ≤ i) : closingParen src rule stop depth i = pure none := by
  rw [closingParen.eq_def, if_neg (by omega)]

theorem closingParen_step (hi : i < stop) (hb : byte? src i = some b) (hclose : b ≠ ')') :
    closingParen src rule stop depth i = (do
      let next ← skipPiece src rule stop i b
      if i < next then
        closingParen src rule stop (if b = '(' then depth + 1 else depth) next
      else stuck) := by
  rw [closingParen.eq_def, if_pos hi, hb, Guarded.demand_bind, if_neg hclose]

theorem closingParen_close (hi : i < stop) (hb : byte? src i = some ')') :
    closingParen src rule stop (depth + 2) i = closingParen src rule stop (depth + 1) (i + 1) := by
  rw [closingParen.eq_def, if_pos hi, hb, Guarded.demand_bind, if_pos rfl]

theorem closingParen_wide (hi : i < stop) (hb : byte? src i = some b) (hw : IsWide b) :
    closingParen src rule stop depth i = closingParen src rule stop depth (i + 1) := by
  rw [closingParen_step hi hb (hw.ne (by decide)), skipPiece_wide hw, Guarded.pure_bind,
    if_pos (Nat.lt_succ_self i), if_neg (hw.ne (by decide))]

theorem closingParen_leads {next j : Nat} (h : Leads src stop next j) (hj : j ≤ stop) :
    closingParen src rule stop depth next = closingParen src rule stop depth j :=
  h.eq (fun _ _ hk => closingParen_wide hk)
    (fun k hk => by rw [closingParen_end hk, closingParen_end (Nat.le_refl stop)]) hj

/-- **The parenthesis that closes a group is found at its offset**, counting the depth from the
opening one on and not from the inside. -/
theorem closingParen_tracks (h : Spans src i stop s) :
    Tracks src (Finds src stop i) (closingParen src rule stop (depth + 1) i)
      (.lift (Outline.splitTop rule (·.head? == some ')') depth i s)) := by
  fun_induction Outline.splitTop rule (·.head? == some ')') depth i s with
  | case1 depth i =>
    obtain rfl : stop = i := h.stop_eq_add
    rw [closingParen_end (Nat.le_refl _)]
    exact Tracks.pure trivial
  | case2 depth i c s hs =>
    obtain ⟨rfl, hc⟩ := hs
    obtain rfl : c = ')' := by simpa using hc
    rw [closingParen.eq_def, if_pos h.lt, h.byte?_first (by decide), Guarded.demand_bind, if_pos rfl]
    exact Tracks.pure ⟨h.boundary_start.spans_nil, h⟩
  | case3 depth i c s hs e hp =>
    obtain ⟨b, hb, hlike⟩ := h.exists_byte?
    have hpiece := skipPiece_tracks rule h hlike
    rw [hp] at hpiece
    have hc : c ≠ ')' := by
      rintro rfl
      simp [Outline.splitPiece] at hp
    rw [closingParen_step h.lt hb (mt (hlike.eq_iff (by decide)).1 hc)]
    exact hpiece.bind_error _
  | case4 depth i c s hs piece rest hp hl ih =>
    have hspans : Spans src i stop (piece ++ rest) := Outline.eq_of_splitPiece hp ▸ h
    have hrest : Tracks src (Finds src stop i)
        (closingParen src rule stop (Outline.depthAfter c depth + 1) (i + byteLength piece))
        (.lift ((Outline.splitTop rule (·.head? == some ')') (Outline.depthAfter c depth)
          (i + byteLength piece) rest).map
            (Option.map fun (front, back) => (piece ++ front, back)))) :=
      (ih hspans.drop).map fun found split hfinds => hfinds.map hspans.take
    by_cases hc : c = ')'
    · subst hc
      obtain ⟨rfl, rfl⟩ : piece = [')'] ∧ rest = s := by simpa [Outline.splitPiece, eq_comm] using hp
      cases depth with
      | zero => simp at hs
      | succ depth =>
        rw [closingParen_close h.lt (h.byte?_first (by decide))]
        exact hrest
    · obtain ⟨b, hb, hlike⟩ := h.exists_byte?
      have hpiece := skipPiece_tracks rule h hlike
      rw [hp] at hpiece
      rw [closingParen_step h.lt hb (mt (hlike.eq_iff (by decide)).1 hc)]
      refine hpiece.bind_ok fun next hskips => ?_
      have hdepth : (if b = '(' then depth + 1 + 1 else depth + 1) =
          Outline.depthAfter c depth + 1 := by
        simp only [Outline.depthAfter, hlike.eq_iff (d := '(') (by decide), if_neg hc]
        split <;> rfl
      rw [if_pos hskips.1, hdepth, closingParen_leads hskips.2 hspans.drop.le]
      exact hrest

end Groups

end Offsets

end Lexigram
