import Lexigram.Proofs.Blocks

/-!
# Blocks nest properly

The texts that are read again lie inside each other as the tokens do that they are taken from.

**Pieces** (`Spans.trans`). A piece of a piece of a text is a piece of the text. A delimiter is one
byte, so the text between the delimiters of a token begins one byte behind the token and ends one
byte before it does.

**Tokens** (`mem_units_iff`). The tokens that are grouped are those whose index lies in a child of
the tree. They stand in the order of the text, and so do the blocks of their insides.

**The bound** (`Nests.bound`). A text that is nested is shorter by two bytes than the text around
it. So texts are not nested more deeply than half the length of the outermost one, whatever the
options allow.

Main result: `process_nests`.
-/

namespace Lexigram

open Readable (extent extent_append extent_cons extent_chars)

/-! ## Pieces -/

section Pieces

variable {α : Type} [Readable α] {s units : List α} {start stop : Nat}

theorem Spans.stop_eq (h : Spans s start stop units) : stop = start + extent units := by
  obtain ⟨front, back, -, rfl, rfl⟩ := h
  exact extent_append front units

/-- A piece of a piece is a piece. -/
theorem Spans.trans {piece : List α} {start' stop' : Nat} (h : Spans s start stop units)
    (h' : Spans units start' stop' piece) : Spans s (start + start') (start + stop') piece := by
  obtain ⟨front, back, rfl, rfl, -⟩ := h
  obtain ⟨front', back', rfl, rfl, rfl⟩ := h'
  refine ⟨front ++ front', back' ++ back, ?_, ?_, ?_⟩
  · simp only [List.append_assoc]
  · rw [extent_append]
  · rw [List.append_assoc, extent_append front]

end Pieces

/-- What grows along a list tells its members apart. -/
theorem index_eq_of_pairwise {β : Type} {f : β → Nat} {xs : List β} {i j : Nat} {x y : β}
    (h : xs.Pairwise fun x y => f x < f y) (hi : xs[i]? = some x) (hj : xs[j]? = some y)
    (he : f x = f y) : i = j := by
  have hnodup : (xs.map f).Nodup := List.pairwise_map.2 (h.imp Nat.ne_of_lt)
  have hlt : i < (xs.map f).length := by
    rw [List.length_map]
    exact (List.getElem?_eq_some_iff.1 hi).1
  refine (List.getElem?_inj hlt hnodup).1 ?_
  rw [List.getElem?_map, List.getElem?_map, hi, hj, Option.map_some, Option.map_some, he]

/-- A text between delimiters begins behind one byte and is followed by one byte. -/
theorem Delimiters.spans_strip? {s inside : List Char} (h : strip? s = some inside) :
    Spans s 1 (1 + Text.byteLength inside) inside ∧ extent s = Text.byteLength inside + 2 := by
  obtain ⟨first, last, rfl, hfirst, hlast⟩ := strip?_eq_some h
  have hone : extent [first] = 1 := hfirst
  refine ⟨⟨[first], [last], rfl, hone.symm, ?_⟩, ?_⟩
  · rw [extent_append, hone, extent_chars]
  · rw [extent_cons, extent_append, extent_chars]
    show first.utf8Size + (Text.byteLength inside + last.utf8Size) = _
    omega

namespace Block

/-! ## Tokens -/

/-- A child of the tree of a block holds the token at an index. -/
def Consumes (b : Block) (i : Nat) : Prop := ∃ c ∈ b.tree.children, c.Holds i

/-- The token at an index is grouped, and its rule asks for it to be read again. -/
structure Rereads (b : Block) (i : Nat) (t : Token) : Prop where
  token : b.stream.tokens[i]? = some t
  consumed : b.Consumes i
  marked : t.hasOption "retokenize" = true

/-- A block has the text inside a token. -/
structure Fills (n : Block) (t : Token) : Prop where
  text : Delimiters.strip? t.value = some n.stream.text
  offset : n.offset = t.span.start + 1

/-- The block of the text inside a token fills the token. -/
theorem fills_ofText (g : Grammar) {o : Options} {depth : Nat} {t : Token} {inside : List Char}
    (h : inside? o depth t = some inside) :
    (ofText g o (depth + 1) inside (t.span.start + 1)).Fills t := by
  refine ⟨?_, offset_ofText g o _ _ _⟩
  rw [text_ofText]
  exact (inside?_eq_some.1 h).2.2.2

section Tokens

variable {g : Grammar} {o : Options} {b : Block} (hg : g.Built) (h : b.Made g o)

include hg h

/-- The grouped tokens are those whose index lies in a child of the tree. -/
theorem Made.mem_units_iff {t : Token} :
    t ∈ b.tree.units ↔ ∃ i, b.stream.tokens[i]? = some t ∧ b.Consumes i := by
  have hparts := h.partitions hg
  have hn := h.tokens_nodup hg
  rw [tree, hparts.units, List.mem_flatMap]
  constructor
  · rintro ⟨c, hc, ht⟩
    obtain ⟨i, hi⟩ := List.mem_iff_getElem?.1 ((hparts.slices c hc).subset ht)
    exact ⟨i, hi, c, hc, ((hparts.slices c hc).mem_iff hn hi).1 ht⟩
  · rintro ⟨i, hi, c, hc, hholds⟩
    exact ⟨c, hc, ((hparts.slices c hc).mem_iff hn hi).2 hholds⟩

/-- Tokens that begin at one place are one token. -/
theorem Made.index_eq {i j : Nat} {t u : Token} (hi : b.stream.tokens[i]? = some t)
    (hj : b.stream.tokens[j]? = some u) (he : t.span.start = u.span.start) : i = j :=
  index_eq_of_pairwise (h.starts_lt hg) hi hj he

theorem Made.inside_text {t : Token} (ht : t ∈ b.stream.all) :
    b.offset ≤ t.span.start ∧ t.span.stop ≤ b.offset + b.length := by
  obtain ⟨hle, hvalue⟩ := (h.tiles hg).values t ht
  have hstop := hvalue.boundary_stop.le
  rw [extent_chars] at hstop
  rw [length]
  omega

/-- The text inside a token, in the text of the block. -/
theorem Made.spans_inside {t : Token} {inside : List Char} (ht : t ∈ b.stream.tokens)
    (hinside : Delimiters.strip? t.value = some inside) :
    t.span.stop = t.span.start + Text.byteLength inside + 2 ∧
      Spans b.stream.text (t.span.start - b.offset + 1)
        (t.span.start - b.offset + (1 + Text.byteLength inside)) inside := by
  obtain ⟨hle, hvalue⟩ := (h.tiles hg).values t (TokenStream.mem_all.2 (.inl ht))
  obtain ⟨hspans, hextent⟩ := Delimiters.spans_strip? hinside
  have hlt := h.start_lt_stop hg ht
  have hstop := hvalue.stop_eq
  rw [hextent] at hstop
  exact ⟨by omega, hvalue.trans hspans⟩

end Tokens

/-! ## Nesting -/

/-- A nested block has the text inside one token of the block that it is nested in. The outermost
text is `text`. -/
structure NestsIn (o : Options) (text : List Char) (b n : Block) : Prop where
  /-- There is one token that has the text of the nested block inside. -/
  token : ∃! i, ∃ t, b.Rereads i t ∧ n.Fills t
  /-- The text begins behind the first byte of the token and ends before the last one. -/
  inside : ∀ i t, b.Rereads i t → n.Fills t →
    t.span.start < n.offset ∧ n.offset + n.length < t.span.stop
  spans : Spans text n.offset (n.offset + n.length) n.stream.text
  depth : n.depth = b.depth + 1
  depth_le : n.depth ≤ o.maxDepth
  tokens : ∀ t ∈ n.stream.all, n.offset ≤ t.span.start ∧ t.span.stop ≤ n.offset + n.length

/-- The blocks nested in a block lie inside its tokens. The outermost text is `text`. -/
structure Nests (o : Options) (text : List Char) (b : Block) : Prop where
  nested : ∀ n ∈ b.nested, NestsIn o text b n
  /-- The nested blocks stand in the order of the text and do not touch. -/
  apart : b.nested.Pairwise fun m n => m.offset + m.length < n.offset
  /-- A token that is read again has one nested block. -/
  once : o.retokenize = true → b.depth < o.maxDepth → ∀ i t, b.Rereads i t →
    (Delimiters.strip? t.value).isSome → ∃! k : Nat, ∃ n ∈ b.nested[k]?, n.Fills t
  off : o.retokenize = false → b.nested = []
  /-- Each time that a text is nested, it is two bytes shorter. -/
  bound : 2 * b.depth + b.length ≤ Text.byteLength text

/-- A block has the text at its offset in the outermost text. -/
structure Placed (text : List Char) (b : Block) : Prop where
  spans : Spans text b.offset (b.offset + b.length) b.stream.text
  bound : 2 * b.depth + b.length ≤ Text.byteLength text

section Nesting

variable {g : Grammar} {o : Options} {b n : Block} {text : List Char}
variable (hg : g.Built) (h : b.Made g o) (hb : b.Placed text)

include hg h

/-- A nested block fills a token that is read again. -/
theorem Made.exists_fills (hn : n ∈ b.nested) : ∃ i t, b.Rereads i t ∧ n.Fills t := by
  obtain ⟨t, ht, inside, hinside, rfl⟩ := h.mem_nested.1 hn
  obtain ⟨i, hi, hconsumed⟩ := (h.mem_units_iff hg).1 ht
  have hmarked := (inside?_eq_some.1 hinside).2.1
  exact ⟨i, t, ⟨hi, hconsumed, hmarked⟩, fills_ofText g hinside⟩

/-- Where the block begins and ends that fills a token. -/
theorem Made.ends_of_fills {t : Token} (ht : t ∈ b.stream.tokens) (hn : n.Fills t) :
    n.offset = t.span.start + 1 ∧ n.offset + n.length + 1 = t.span.stop := by
  obtain ⟨hstop, -⟩ := h.spans_inside hg ht hn.text
  have hoffset := hn.offset
  rw [length]
  omega

/-- A token that is read again has a nested block, if texts may be nested more deeply. -/
theorem Made.exists_nested (ho : o.retokenize = true) (hd : b.depth < o.maxDepth) {i : Nat}
    {t : Token} (ht : b.Rereads i t) (hstrip : (Delimiters.strip? t.value).isSome) :
    ∃ n ∈ b.nested, n.Fills t := by
  obtain ⟨inside, hinside⟩ := Option.isSome_iff_exists.1 hstrip
  have hunit := (h.mem_units_iff hg).2 ⟨i, ht.token, ht.consumed⟩
  have hagain := inside?_eq_some.2 ⟨ho, ht.marked, hd, hinside⟩
  exact ⟨_, h.mem_nested.2 ⟨t, hunit, inside, hagain, rfl⟩, fills_ofText g hagain⟩

/-- The nested blocks stand in the order of the tokens that they fill. -/
theorem Made.nested_apart : b.nested.Pairwise fun m n => m.offset + m.length < n.offset := by
  have hmem : ∀ {t}, t ∈ b.tree.units → t ∈ b.stream.tokens := fun ht => h.units_sublist.subset ht
  rw [h.nested_eq, List.pairwise_filterMap]
  refine (h.units_apart hg).imp_of_mem fun {t u} ht hu hle m hm n hn => ?_
  obtain ⟨inside, hinside, rfl⟩ := Option.map_eq_some_iff.1 hm
  obtain ⟨inside', hinside', rfl⟩ := Option.map_eq_some_iff.1 hn
  have hleft := h.ends_of_fills hg (hmem ht) (fills_ofText g hinside)
  have hright := h.ends_of_fills hg (hmem hu) (fills_ofText g hinside')
  omega

theorem Made.placed_nested (hb : b.Placed text) (hn : n ∈ b.nested) : n.Placed text := by
  obtain ⟨i, t, ht, hfills⟩ := h.exists_fills hg hn
  have hmem := List.mem_of_getElem? ht.token
  obtain ⟨hstop, hspans⟩ := h.spans_inside hg hmem hfills.text
  obtain ⟨hle, hle'⟩ := h.inside_text hg (TokenStream.mem_all.2 (.inl hmem))
  have hoffset := hfills.offset
  have hlength : n.length = Text.byteLength n.stream.text := rfl
  have hbound := hb.bound
  have hdepth := (h.depth_nested hn).1
  constructor
  case spans =>
    have hpiece := hb.spans.trans hspans
    rwa [show b.offset + (t.span.start - b.offset + 1) = n.offset by omega,
      show b.offset + (t.span.start - b.offset + (1 + Text.byteLength n.stream.text)) =
        n.offset + n.length by omega] at hpiece
  -- The token takes two bytes more than the text inside it, and it is within the block.
  case bound => omega

theorem Made.nestsIn (hb : b.Placed text) (hn : n ∈ b.nested) : NestsIn o text b n := by
  obtain ⟨i, t, ht, hfills⟩ := h.exists_fills hg hn
  constructor
  case token =>
    refine ⟨i, ⟨t, ht, hfills⟩, ?_⟩
    rintro j ⟨u, hu, hfills'⟩
    have hoffset := hfills.offset
    have hoffset' := hfills'.offset
    exact h.index_eq hg hu.token ht.token (by omega)
  case inside =>
    intro j u hu hfills'
    have hends := h.ends_of_fills hg (List.mem_of_getElem? hu.token) hfills'
    omega
  case spans => exact (h.placed_nested hg hb hn).spans
  case depth => exact (h.depth_nested hn).1
  case depth_le => exact (h.depth_nested hn).2
  case tokens => exact fun u hu => (h.of_mem_nested hn).inside_text hg hu

theorem Made.nests (hb : b.Placed text) : Nests o text b := by
  constructor
  case nested => exact fun n hn => h.nestsIn hg hb hn
  case apart => exact h.nested_apart hg
  case once =>
    intro ho hd i t ht hstrip
    obtain ⟨n, hn, hfills⟩ := h.exists_nested hg ho hd ht hstrip
    obtain ⟨k, hk⟩ := List.mem_iff_getElem?.1 hn
    refine ⟨k, ⟨n, hk, hfills⟩, ?_⟩
    rintro l ⟨m, hl, hfills'⟩
    have hoffset : m.offset = n.offset := hfills'.offset.trans hfills.offset.symm
    refine index_eq_of_pairwise (f := Block.offset) ?_ hl hk hoffset
    exact (h.nested_apart hg).imp fun hlt => Nat.lt_of_le_of_lt (Nat.le_add_right _ _) hlt
  case off =>
    intro ho
    refine List.eq_nil_iff_forall_not_mem.2 fun n hn => ?_
    obtain ⟨t, -, inside, hinside, -⟩ := h.mem_nested.1 hn
    exact Bool.false_ne_true (ho.symm.trans (inside?_eq_some.1 hinside).1)
  case bound => exact hb.bound

end Nesting

/-- **Blocks nest properly.** Processing a text by a built grammar leaves no fault. At any depth the
blocks nested in a block are those of the texts inside its tokens that are read again, one for each
of these tokens, in their order and strictly inside them. -/
theorem process_nests {g : Grammar} (hg : g.Built) (o : Options) (text : List Char) :
    (process g o 0 text 0).Ensures fun r => ∀ b ∈ r.1.walk, Nests o text b := by
  have houter : (ofText g o 0 text 0).Placed text := by
    constructor
    case spans =>
      rw [offset_ofText, length, text_ofText, Nat.zero_add]
      exact ⟨[], [], (List.append_nil text).symm, rfl, (extent_chars text).symm⟩
    case bound =>
      rw [depth_ofText, length, text_ofText, Nat.mul_zero, Nat.zero_add]
  refine ⟨(process_ensures hg o 0 text 0).1, fun b hb => ?_⟩
  obtain ⟨hmade, hplaced⟩ := walk_induction (p := fun b => b.Made g o ∧ b.Placed text)
    (fun b hb n hn => ⟨hb.1.of_mem_nested hn, hb.1.placed_nested hg hb.2 hn⟩)
    ⟨made_ofText g o 0 text 0, houter⟩ b hb
  exact hmade.nests hg hplaced

set_option maxRecDepth 4000 in
/-- A list in a list: the text inside the outer one is read again, and so is that inside the inner
one. -/
theorem process_nests_twice :
    let list : Definition := { id := "LIST", body := "'[' ~']'* ']'", options := ["retokenize"] }
    let pair : Definition := { id := "PAIR", body := "'(' ~')'* ')'", options := ["retokenize"] }
    let b := ((({} : Builder).compile list).1.compile pair).1
    let g := (b.compile { id := "value", body := "LIST | PAIR" }).1.build.value
    let text := ['[', '(', 'ä', ')', ']']
    g.Built ∧ (process g {} 0 text 0).Ensures (fun r => ∀ b ∈ r.1.walk, Nests {} text b) ∧
      (process g {} 0 text 0).value.1.walk.map (fun b => (b.depth, b.offset, b.length)) =
        [(0, 0, 6), (1, 1, 4), (2, 2, 2)] := by
  intro list pair b g text
  have hg : g.Built := .of_reachable (.compile _ (.compile _ (.compile _ (.new {}))))
  refine ⟨hg, process_nests hg {} text, ?_⟩
  unfold text g b pair list
  cbv

end Block

end Lexigram
