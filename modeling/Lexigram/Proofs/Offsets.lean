import Lexigram.Proofs.Trees

/-!
# Reading by offsets

The readers work on the characters that are left of a text. One can also read by offsets into the
bytes of the whole text. Then an offset may lie behind the end or inside a character, and a text may
be cut where it cannot be cut.

**Bytes and slices** (`Text.byte?`, `Text.slice?`). A byte has to be there, and a slice begins and
ends between characters, in this order. Otherwise there is none.

**Guarded steps** (`Guarded`). A step that uses an offset may have no outcome at all, beside being a
step that may fail.

**Tracking** (`Guarded.Tracks`). A guarded step tracks a step on characters if it has an outcome,
and the same one: related values, or the same error, and the same diagnostics. All offsets in them
lie between characters of the text.

Main results: `Text.slice?_eq_some`, `Spans.byte?_wide` and `Guarded.Tracks.bind`.
-/

namespace Lexigram

open Readable (extent extent_append extent_chars)

/-! ## Bytes and slices -/

namespace Text

/-- The bytes of a character in UTF-8, each as the character with its number. -/
def bytesOf (c : Char) : List Char := (String.utf8EncodeChar c).map Char.ofUInt8

/-- The bytes of a text in UTF-8. -/
def bytes (s : List Char) : List Char := s.flatMap bytesOf

/-- The byte at an offset. -/
def byte? (src : List Char) (i : Nat) : Option Char := (bytes src)[i]?

/-- Splits a text at an offset between two characters. -/
def cut? : Nat → List Char → Option (List Char × List Char)
  | 0, s => some ([], s)
  | _ + 1, [] => none
  | n + 1, c :: s =>
    if c.utf8Size ≤ n + 1 then
      (cut? (n + 1 - c.utf8Size) s).map fun (front, back) => (c :: front, back)
    else none

/-- The text from one offset to another, if both are between characters and in order. -/
def slice? (src : List Char) (start stop : Nat) : Option (List Char) :=
  if start ≤ stop then
    (cut? start src).bind fun (_, back) => (cut? (stop - start) back).map Prod.fst
  else none

/-- A character that takes more than one byte, or one of its bytes. -/
def IsWide (c : Char) : Prop := 128 ≤ c.toNat

instance : DecidablePred IsWide := fun c => inferInstanceAs (Decidable (128 ≤ c.toNat))

theorem IsWide.ne {w d : Char} (hw : IsWide w) (hd : ¬IsWide d) : w ≠ d := by
  rintro rfl
  exact hd hw

/-- A byte is a character, or both are wide. -/
def LooksLike (b c : Char) : Prop := b = c ∨ IsWide b ∧ IsWide c

/-- Bytes that look alike pass the same tests that no wide one passes. -/
theorem LooksLike.test {b c : Char} (h : LooksLike b c) {p : Char → Bool}
    (hp : ∀ w, IsWide w → p w = false) : p b = p c := by
  rcases h with rfl | ⟨hb, hc⟩
  · rfl
  · rw [hp b hb, hp c hc]

theorem LooksLike.eq_iff {b c d : Char} (h : LooksLike b c) (hd : ¬IsWide d) : b = d ↔ c = d := by
  rcases h with rfl | ⟨hb, hc⟩
  · rfl
  · constructor
    · rintro rfl
      exact absurd hb hd
    · rintro rfl
      exact absurd hc hd

theorem length_bytesOf (c : Char) : (bytesOf c).length = c.utf8Size := by
  rw [bytesOf, List.length_map, String.length_utf8EncodeChar]

theorem bytes_append (s t : List Char) : bytes (s ++ t) = bytes s ++ bytes t :=
  List.flatMap_append

theorem bytes_cons (c : Char) (s : List Char) : bytes (c :: s) = bytesOf c ++ bytes s :=
  List.flatMap_cons

theorem length_bytes (s : List Char) : (bytes s).length = byteLength s := by
  induction s with
  | nil => rfl
  | cons c s ih => rw [bytes_cons, List.length_append, length_bytesOf, byteLength_cons, ih]

theorem lt_of_byte? {src : List Char} {i : Nat} {b : Char} (h : byte? src i = some b) :
    i < byteLength src := by
  rw [← length_bytes]
  exact (List.getElem?_eq_some_iff.1 h).1

theorem utf8Size_of_not_wide {c : Char} (hc : ¬IsWide c) : c.utf8Size = 1 := by
  rw [Char.utf8Size_eq_one_iff, UInt32.le_iff_toNat_le]
  exact Nat.le_of_lt_succ (Nat.lt_of_not_le hc)

/-- A character of one byte is that byte. -/
theorem bytesOf_of_not_wide {c : Char} (hc : ¬IsWide c) : bytesOf c = [c] := by
  have hlt : c.val.toNat < 128 := Nat.lt_of_not_le hc
  rw [bytesOf, String.utf8EncodeChar_eq_singleton (utf8Size_of_not_wide hc), List.map_singleton]
  congr 1
  apply Char.ext
  apply UInt32.toNat_inj.1
  show c.val.toUInt8.toUInt32.toNat = c.val.toNat
  rw [UInt8.toNat_toUInt32, UInt32.toNat_toUInt8]
  omega

/-- The bytes of a wide character are wide. -/
theorem isWide_of_mem_bytesOf {c b : Char} (hc : IsWide c) (hb : b ∈ bytesOf c) : IsWide b := by
  obtain ⟨n, hn, rfl⟩ := List.mem_map.1 hb
  show 128 ≤ n.toUInt32.toNat
  rw [UInt8.toNat_toUInt32]
  have hv : ¬c.val.toNat ≤ 127 := by
    have : 128 ≤ c.val.toNat := hc
    omega
  unfold String.utf8EncodeChar at hn
  dsimp only at hn
  rw [if_neg hv] at hn
  split at hn
  · simp only [List.mem_cons, List.not_mem_nil, or_false] at hn
    rcases hn with rfl | rfl <;> rw [UInt8.toNat_ofNat'] <;> omega
  · split at hn
    · simp only [List.mem_cons, List.not_mem_nil, or_false] at hn
      rcases hn with rfl | rfl | rfl <;> rw [UInt8.toNat_ofNat'] <;> omega
    · simp only [List.mem_cons, List.not_mem_nil, or_false] at hn
      rcases hn with rfl | rfl | rfl | rfl <;> rw [UInt8.toNat_ofNat'] <;> omega

theorem cut?_eq_some {n : Nat} {s front back : List Char} :
    cut? n s = some (front, back) ↔ s = front ++ back ∧ n = byteLength front := by
  constructor
  · intro h
    fun_induction cut? n s generalizing front with
    | case1 =>
      cases h
      exact ⟨rfl, rfl⟩
    | case2 => cases h
    | case3 n c s hle ih =>
      obtain ⟨⟨f, b⟩, hf, he⟩ := Option.map_eq_some_iff.1 h
      cases he
      obtain ⟨rfl, hn⟩ := ih hf
      exact ⟨rfl, by rw [byteLength_cons]; omega⟩
    | case4 => cases h
  · rintro ⟨rfl, rfl⟩
    induction front with
    | nil => cases back <;> rfl
    | cons c front ih =>
      have hpos := c.utf8Size_pos
      obtain ⟨k, hk⟩ : ∃ k, c.utf8Size + byteLength front = k + 1 :=
        ⟨c.utf8Size + byteLength front - 1, by omega⟩
      have hrest : k + 1 - c.utf8Size = byteLength front := by omega
      rw [List.cons_append, byteLength_cons, hk, cut?, if_pos (by omega), hrest, ih]
      rfl

end Text

section Texts

open Text (byteLength byteLength_append byteLength_cons byteLength_nil byte? slice? cut? IsWide)

variable {src s t u : List Char} {i j : Nat} {c : Char}

theorem spans_iff :
    Spans src i j s ↔
      ∃ front back, src = front ++ (s ++ back) ∧ i = byteLength front ∧ j = i + byteLength s := by
  simp only [Spans, extent_append, extent_chars]
  constructor
  · rintro ⟨front, back, hs, rfl, hj⟩
    exact ⟨front, back, hs, rfl, hj⟩
  · rintro ⟨front, back, hs, rfl, hj⟩
    exact ⟨front, back, hs, rfl, hj⟩

theorem spans_whole (src : List Char) : Spans src 0 (byteLength src) src :=
  spans_iff.2 ⟨[], [], by simp, rfl, (Nat.zero_add _).symm⟩

/-- **A slice is the text between its offsets**, and there is one whenever there is such a text. -/
theorem Text.slice?_eq_some : slice? src i j = some s ↔ Spans src i j s := by
  rw [spans_iff]
  unfold slice?
  constructor
  · intro h
    split at h
    · obtain ⟨⟨front, back⟩, hfront, h⟩ := Option.bind_eq_some_iff.1 h
      obtain ⟨⟨inside, rest⟩, hinside, rfl⟩ := Option.map_eq_some_iff.1 h
      obtain ⟨rfl, rfl⟩ := Text.cut?_eq_some.1 hfront
      obtain ⟨rfl, hj⟩ := Text.cut?_eq_some.1 hinside
      dsimp only at hj ⊢
      exact ⟨front, rest, rfl, rfl, by omega⟩
    · cases h
  · rintro ⟨front, back, rfl, rfl, rfl⟩
    have hfront : cut? (byteLength front) (front ++ (s ++ back)) = some (front, s ++ back) :=
      Text.cut?_eq_some.2 ⟨rfl, rfl⟩
    have hinside : cut? (byteLength s) (s ++ back) = some (s, back) :=
      Text.cut?_eq_some.2 ⟨rfl, rfl⟩
    rw [if_pos (Nat.le_add_right _ _), hfront, Option.bind_some, Nat.add_sub_cancel_left]
    dsimp only
    rw [hinside]
    rfl

/-- No text begins inside of a character. -/
example : slice? ['\u00e9', 'a'] 1 3 = none := by decide

namespace Spans

theorem stop_eq_add (h : Spans src i j s) : j = i + byteLength s := by
  obtain ⟨_, _, -, -, hj⟩ := spans_iff.1 h
  exact hj

theorem boundary_start (h : Spans src i j s) : Boundary src i := by
  obtain ⟨front, back, hs, hi, -⟩ := h
  exact ⟨front, s ++ back, hs, hi⟩

theorem take (h : Spans src i j (u ++ s)) : Spans src i (i + byteLength u) u := by
  obtain ⟨front, back, rfl, rfl, -⟩ := spans_iff.1 h
  exact spans_iff.2 ⟨front, s ++ back, by simp, rfl, rfl⟩

theorem drop (h : Spans src i j (u ++ s)) : Spans src (i + byteLength u) j s := by
  obtain ⟨front, back, rfl, rfl, rfl⟩ := spans_iff.1 h
  refine spans_iff.2 ⟨front ++ u, back, by simp, by simp, ?_⟩
  rw [byteLength_append, Nat.add_assoc]

theorem tail (h : Spans src i j (c :: s)) : Spans src (i + c.utf8Size) j s := drop (u := [c]) h

theorem tail_narrow (h : Spans src i j (c :: s)) (hc : ¬IsWide c) : Spans src (i + 1) j s := by
  have htail := h.tail
  rwa [Text.utf8Size_of_not_wide hc] at htail

theorem lt (h : Spans src i j (c :: s)) : i < j := by
  have hpos := c.utf8Size_pos
  have hstop := h.stop_eq_add
  rw [byteLength_cons] at hstop
  omega

theorem stop_le (h : Spans src i j s) : j ≤ byteLength src := by
  rw [← extent_chars]
  exact h.boundary_stop.le

/-- The bytes of the first character of a text. -/
theorem byte?_eq (h : Spans src i j (c :: s)) {k : Nat} (hk : k < c.utf8Size) :
    byte? src (i + k) = (Text.bytesOf c)[k]? := by
  obtain ⟨front, back, rfl, rfl, -⟩ := spans_iff.1 h
  rw [byte?, Text.bytes_append, List.getElem?_append_right (by rw [Text.length_bytes]; omega),
    Text.length_bytes, Nat.add_sub_cancel_left, List.cons_append, Text.bytes_cons,
    List.getElem?_append_left (by rwa [Text.length_bytesOf])]

theorem byte?_first (h : Spans src i j (c :: s)) (hc : ¬IsWide c) : byte? src i = some c := by
  have hbyte := h.byte?_eq (k := 0) c.utf8Size_pos
  rwa [Text.bytesOf_of_not_wide hc] at hbyte

/-- **All bytes of a wide character are wide.** -/
theorem byte?_wide (h : Spans src i j (c :: s)) (hc : IsWide c) {k : Nat} (hi : i ≤ k)
    (hk : k < i + c.utf8Size) : ∃ b, byte? src k = some b ∧ IsWide b := by
  obtain ⟨n, rfl⟩ := Nat.exists_eq_add_of_le hi
  have hn : n < (Text.bytesOf c).length := by
    rw [Text.length_bytesOf]
    omega
  refine ⟨(Text.bytesOf c)[n], ?_, Text.isWide_of_mem_bytesOf hc (List.getElem_mem hn)⟩
  rw [h.byte?_eq (by omega), List.getElem?_eq_getElem hn]

/-- The first byte of a text looks like its first character. -/
theorem exists_byte? (h : Spans src i j (c :: s)) : ∃ b, byte? src i = some b ∧ Text.LooksLike b c := by
  by_cases hc : IsWide c
  · obtain ⟨b, hb, hwide⟩ := h.byte?_wide hc (Nat.le_refl i) (Nat.lt_add_of_pos_right c.utf8Size_pos)
    exact ⟨b, hb, .inr ⟨hwide, hc⟩⟩
  · exact ⟨c, h.byte?_first hc, .inl rfl⟩

theorem byte?_eq_some_iff (h : Spans src i j (c :: s)) {d : Char} (hd : ¬IsWide d) :
    byte? src i = some d ↔ c = d := by
  obtain ⟨b, hb, hlike⟩ := h.exists_byte?
  rw [hb, Option.some.injEq, hlike.eq_iff hd]

/-- Inside of a character there are wide bytes only. -/
theorem byte?_inside (h : Spans src i j (c :: s)) {k : Nat} (hi : i < k)
    (hk : k < i + c.utf8Size) : ∃ b, byte? src k = some b ∧ IsWide b := by
  by_cases hc : IsWide c
  · exact h.byte?_wide hc (Nat.le_of_lt hi) hk
  · rw [Text.utf8Size_of_not_wide hc] at hk
    omega

end Spans

end Texts

/-! ## Guarded steps -/

/-- The outcome of a step that uses offsets, if it has one: there is none if an offset is out of
range or inside a character, or if a number falls below zero. -/
def Guarded (α : Type) : Type := Option (Checked α)

namespace Guarded

variable {α β γ δ : Type}

instance : Monad Guarded where
  pure a := some (pure a)
  bind m f :=
    match m with
    | none => none
    | some ⟨ds, .ok a⟩ => Option.map (Checked.after ds) (f a)
    | some ⟨ds, .error e⟩ => some ⟨ds, .error e⟩

/-- A value that has to be there. -/
def demand (o : Option α) : Guarded α := o.map pure

/-- A step that has no outcome. -/
def stuck : Guarded α := none

/-- A step that uses no offsets. -/
def free (x : Checked α) : Guarded α := some x

def fail (e : CompileError) : Guarded α := free (.fail e)

/-- A step that only leaves diagnostics. -/
def warn (ds : List Diagnostic) : Guarded Unit := free (.warn ds)

theorem demand_bind (a : α) (f : α → Guarded β) : demand (some a) >>= f = f a := by
  show Option.map (Checked.after []) (f a) = f a
  cases f a <;> rfl

theorem pure_bind (a : α) (f : α → Guarded β) : pure a >>= f = f a := demand_bind a f

end Guarded

/-! ## Tracking -/

/-- A span within a text. -/
def Span.Inside (src : List Char) (s : Span) : Prop :=
  s.start ≤ s.stop ∧ s.stop ≤ Text.byteLength src ∧ Boundary src s.start ∧ Boundary src s.stop

/-- An error that points into a text, if it points anywhere. -/
def CompileError.Inside (src : List Char) (e : CompileError) : Prop :=
  ∀ offset ∈ e.offset?, offset ≤ Text.byteLength src ∧ Boundary src offset

/-- A step all of whose offsets lie within a text. -/
structure Checked.Inside {α : Type} (src : List Char) (x : Checked α) : Prop where
  diagnostics : ∀ d ∈ x.diagnostics, d.span.Inside src
  error : ∀ e, x.result = .error e → e.Inside src

theorem Spans.inside {src s : List Char} {i j : Nat} (h : Spans src i j s) :
    Span.Inside src ⟨i, j⟩ :=
  ⟨h.le, h.stop_le, h.boundary_start, h.boundary_stop⟩

/-- The outcomes of two steps agree. -/
def CompileError.Agree {α β : Type} (src : List Char) (R : β → α → Prop) :
    Except CompileError β → Except CompileError α → Prop
  | .ok b, .ok a => R b a
  | .error e, .error e' => e = e' ∧ e.Inside src
  | _, _ => False

namespace Guarded

variable {α β γ δ : Type} {src : List Char} {R : β → α → Prop} {S : δ → γ → Prop}

/-- A guarded step has an outcome, and it is the one of a step on characters. -/
def Tracks (src : List Char) (R : β → α → Prop) (m : Guarded β) (x : Checked α) : Prop :=
  ∃ y : Checked β, m = some y ∧ y.diagnostics = x.diagnostics ∧
    (∀ d ∈ x.diagnostics, d.span.Inside src) ∧ CompileError.Agree src R y.result x.result

theorem Tracks.eq {m : Guarded α} {x : Checked α} (h : Tracks src (· = ·) m x) : m = some x := by
  obtain ⟨⟨ds, y⟩, rfl, hdiagnostics, -, hresult⟩ := h
  obtain ⟨ds', x⟩ := x
  obtain rfl : ds = ds' := hdiagnostics
  cases y <;> cases x
  · rw [hresult.1]
  · cases hresult
  · cases hresult
  · rw [show _ = _ from hresult]

theorem Tracks.inside {m : Guarded β} {x : Checked α} (h : Tracks src R m x) : x.Inside src := by
  obtain ⟨⟨ds, y⟩, rfl, -, hinside, hresult⟩ := h
  refine ⟨hinside, fun e he => ?_⟩
  rw [he] at hresult
  cases y with
  | ok b => cases hresult
  | error e' =>
    obtain ⟨rfl, herror⟩ := hresult
    exact herror

theorem Tracks.pure {a : α} {b : β} (h : R b a) : Tracks src R (pure b) (pure a) :=
  ⟨_, rfl, rfl, List.forall_mem_nil _, h⟩

theorem Tracks.fail {e : CompileError} (h : e.Inside src) :
    Tracks src R (fail e) (Checked.fail e) :=
  ⟨_, rfl, rfl, List.forall_mem_nil _, rfl, h⟩

/-- **Steps in a row are tracked one by one.** -/
theorem Tracks.bind {m : Guarded β} {x : Checked α} {f : β → Guarded δ} {g : α → Checked γ}
    (h : Tracks src R m x) (hf : ∀ b a, x.result = .ok a → R b a → Tracks src S (f b) (g a)) :
    Tracks src S (m >>= f) (x >>= g) := by
  obtain ⟨⟨ds, y⟩, rfl, rfl, hinside, hresult⟩ := h
  obtain ⟨ds, x⟩ := x
  cases y with
  | error e =>
    cases x with
    | ok a => cases hresult
    | error e' => exact ⟨_, rfl, rfl, hinside, hresult⟩
  | ok b =>
    cases x with
    | error e => cases hresult
    | ok a =>
      obtain ⟨z, hz, hdiagnostics, hinside', hresult'⟩ := hf b a rfl hresult
      refine ⟨.after ds z, ?_, ?_, ?_, hresult'⟩
      · show Option.map (Checked.after ds) (f b) = _
        rw [hz]
        rfl
      · show ds ++ z.diagnostics = ds ++ (g a).diagnostics
        rw [hdiagnostics]
      · exact List.forall_mem_append.2 ⟨hinside, hinside'⟩

/-- A step that was read already is tracked by what reads it again. -/
theorem Tracks.bind_ok {m : Guarded β} {a : α} {f : β → Guarded δ} {x : Checked γ}
    (h : Tracks src R m (.lift (.ok a))) (hf : ∀ b, R b a → Tracks src S (f b) x) :
    Tracks src S (m >>= f) x := by
  have hbind := h.bind (g := fun _ => x) fun b a' ha hR => hf b (by cases ha; exact hR)
  exact hbind

theorem Tracks.bind_error {m : Guarded β} {e : CompileError} (f : β → Guarded δ)
    (h : Tracks src R m (.lift (.error e))) : Tracks src S (m >>= f) (.lift (.error e)) :=
  h.bind (g := fun _ => .lift (.error e)) fun _ _ hok => nomatch hok

theorem Tracks.mono {R' : β → α → Prop} {m : Guarded β} {x : Checked α} (h : Tracks src R m x)
    (hR : ∀ b a, R b a → R' b a) : Tracks src R' m x := by
  obtain ⟨⟨ds, y⟩, hm, hdiagnostics, hinside, hresult⟩ := h
  obtain ⟨ds', x⟩ := x
  refine ⟨_, hm, hdiagnostics, hinside, ?_⟩
  cases y <;> cases x
  · exact hresult
  · exact hresult
  · exact hresult
  · exact hR _ _ hresult

theorem Tracks.map {r : Except CompileError α} {m : Guarded β} {f : α → γ} {R' : β → γ → Prop}
    (h : Tracks src R m (.lift r)) (hf : ∀ b a, R b a → R' b (f a)) :
    Tracks src R' m (.lift (r.map f)) := by
  obtain ⟨⟨ds, y⟩, hm, hdiagnostics, hinside, hresult⟩ := h
  refine ⟨_, hm, hdiagnostics, hinside, ?_⟩
  cases y <;> cases r
  · exact hresult
  · exact hresult
  · exact hresult
  · exact hf _ _ hresult

/-- A value that is there is used without an outcome of its own. -/
theorem Tracks.demand {o : Option δ} {d : δ} {f : δ → Guarded β} {x : Checked α} (ho : o = some d)
    (h : Tracks src R (f d) x) : Tracks src R (demand o >>= f) x := by
  rw [ho, demand_bind]
  exact h

theorem Tracks.warn {ds : List Diagnostic} {f : Unit → Guarded β} {x : Checked α}
    (hds : ∀ d ∈ ds, d.span.Inside src) (h : Tracks src R (f ()) x) :
    Tracks src R (warn ds >>= f) (.after ds x) := by
  obtain ⟨y, hy, hdiagnostics, hinside, hresult⟩ := h
  refine ⟨.after ds y, ?_, ?_, List.forall_mem_append.2 ⟨hds, hinside⟩, hresult⟩
  · show Option.map (Checked.after ds) (f ()) = _
    rw [hy]
    rfl
  · show ds ++ y.diagnostics = ds ++ x.diagnostics
    rw [hdiagnostics]

end Guarded

end Lexigram
