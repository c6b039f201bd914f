import Lexigram.Grammar.Node
import Lexigram.Proofs.Commands
import Lexigram.Proofs.Redisplay

/-!
# Displaying undoes reading

The body of a rule as it is displayed is read as the same alternatives and the same command, up to
the text that groups remember of what is inside of them.

**Parts of a body** (`Rule.readBody_eq_ok`). A body that is read is a text of alternatives, perhaps
an arrow with a command, and perhaps a semicolon.

**Nodes** (`Node.Retitled`). Of the nodes of a rule, those of groups may get another value, and
nothing else changes.

Main result: `Rule.readBody_render`.
-/

namespace Lexigram

/-! ## The parts of a body -/

namespace Rule

open Outline (scan isSemicolon)

section Parts

variable {id : String} {cap base : Nat} {src text body : List Char} {command : Option Command}

/-- Whether a text begins with an arrow. -/
def isArrow (s : List Char) : Bool := ['-', '>'].isPrefixOf s

theorem splitTerminator_eq_ok (h : splitTerminator id src = .ok text) :
    Outline.splitTop id isSemicolon 0 0 src = .ok none ∧ text = src ∨
      ∃ back, Outline.splitTop id isSemicolon 0 0 src = .ok (some (text, ';' :: back)) ∧
        ∀ c ∈ back, Text.isAsciiBlank c = true := by
  unfold splitTerminator at h
  change (Outline.splitTop id isSemicolon 0 0 src >>= _) = _ at h
  cases hsplit : Outline.splitTop id isSemicolon 0 0 src with
  | error e => rw [hsplit] at h; cases h
  | ok split =>
    rw [hsplit] at h
    cases split with
    | none =>
      cases h
      exact .inl ⟨rfl, rfl⟩
    | some split =>
      obtain ⟨front, back⟩ := split
      have hstop := Outline.stop_of_splitTop hsplit
      cases back with
      | nil => cases hstop
      | cons c back =>
        obtain rfl := Outline.isSemicolon_cons.1 hstop
        change (if (skipBlanks back).isEmpty = true then _ else _) = _ at h
        split at h
        · next hempty =>
          cases h
          refine .inr ⟨back, rfl, ?_⟩
          exact List.dropWhile_eq_nil_iff.1 (List.isEmpty_iff.1 hempty)
        · cases h

theorem splitCommand_eq_ok (h : splitCommand id text = .ok (body, command)) :
    Outline.splitTop id isArrow 0 0 text = .ok none ∧ body = text ∧ command = none ∨
      ∃ back c, Outline.splitTop id isArrow 0 0 text = .ok (some (body, '-' :: '>' :: back)) ∧
        Command.read? back = some c ∧ command = some c := by
  unfold splitCommand at h
  change (Outline.splitTop id isArrow 0 0 text >>= _) = _ at h
  cases hsplit : Outline.splitTop id isArrow 0 0 text with
  | error e => rw [hsplit] at h; cases h
  | ok split =>
    rw [hsplit] at h
    cases split with
    | none =>
      cases h
      exact .inl ⟨rfl, rfl, rfl⟩
    | some split =>
      obtain ⟨front, back⟩ := split
      have hstop := Outline.stop_of_splitTop hsplit
      obtain ⟨back, rfl⟩ : ∃ t, back = '-' :: '>' :: t := by
        obtain ⟨t, ht⟩ := List.isPrefixOf_iff_prefix.1 hstop
        exact ⟨t, ht.symm⟩
      dsimp only [bind, Except.bind] at h
      cases hread : Command.read? back with
      | none => rw [hread] at h; cases h
      | some c =>
        rw [hread] at h
        cases h
        exact .inr ⟨back, c, rfl, hread, rfl⟩

/-- **What a body is read from.** -/
theorem readBody_eq_ok {alternatives : List (List Atom)} :
    (readBody id cap base src).result = .ok (alternatives, command) ↔
      ∃ text body read, splitTerminator id src = .ok text ∧
        splitCommand id text = .ok (body, command) ∧ (Text.trim body).isEmpty = false ∧
        (readAlternatives ⟨id, cap, Text.byteLength body⟩ 0 true (base + 1) body).result =
          .ok read ∧ alternatives = read.1 :: read.2.1 := by
  unfold readBody
  rw [Checked.result_bind, Checked.result_lift]
  constructor
  · intro h
    cases htext : splitTerminator id src with
    | error e => rw [htext] at h; cases h
    | ok text =>
      rw [htext] at h
      cases hbody : splitCommand id text with
      | error e =>
        change ((splitCommand id text : Except CompileError _) >>= _) = _ at h
        rw [hbody] at h
        cases h
      | ok split =>
        obtain ⟨body, command'⟩ := split
        change ((splitCommand id text : Except CompileError _) >>= _) = _ at h
        rw [hbody] at h
        change Checked.result (if (Text.trim body).isEmpty = true then _ else _) = _ at h
        split at h
        · cases h
        · next hne =>
          obtain ⟨read, hread, h⟩ := Checked.result_bind_eq_ok.1 h
          cases h
          exact ⟨text, body, read, rfl, hbody, by simpa using hne, hread, rfl⟩
  · rintro ⟨text, body, read, htext, hbody, hne, hread, rfl⟩
    rw [htext]
    change ((splitCommand id text : Except CompileError _) >>= _) = _
    rw [hbody]
    change Checked.result (if (Text.trim body).isEmpty = true then _ else _) = _
    rw [hne, if_neg (by simp), Checked.result_bind, hread]
    rfl

/-- No semicolon comes to the surface in front of the terminator. -/
theorem settled_of_splitTerminator (h : splitTerminator id src = .ok text) :
    ∃ p, scan ⟨.plain, 0⟩ text = some p ∧ p.Settled := by
  rcases splitTerminator_eq_ok h with ⟨hnone, rfl⟩ | ⟨back, hsome, -⟩
  · exact Outline.splitTop_semicolon.1 hnone
  · exact ⟨_, Outline.scan_of_splitTop hsome, .inl rfl⟩

/-- A command that was read has a text in which no semicolon comes to the surface. -/
theorem spelled_of_splitCommand {c : Command} (h : splitCommand id text = .ok (body, some c))
    (htext : ∃ p, scan ⟨.plain, 0⟩ text = some p ∧ p.Settled) :
    c.Spelled ∧ ∃ p, scan ⟨.plain, 0⟩ c.text = some p ∧ p.Settled := by
  rcases splitCommand_eq_ok h with ⟨-, -, hnone⟩ | ⟨back, c', hsplit, hread, hc⟩
  · cases hnone
  · cases hc
    obtain ⟨hspelled, hwritten⟩ := Command.read?_eq_some hread
    refine ⟨hspelled, Outline.settled_text hspelled hwritten ?_⟩
    rw [Outline.eq_of_splitTop hsplit, Outline.scan_append] at htext
    obtain ⟨p, hp, hsettled⟩ := htext
    obtain ⟨q, hq, hback⟩ := Option.bind_eq_some_iff.1 hp
    obtain rfl := Outline.eq_plain_of_splitTop hsplit hq
    exact ⟨p, hback, hsettled⟩

end Parts

/-! ## Displayed bodies are split where they were put together -/

open Outline (Passes Stops)

theorem stops_isSemicolon : Stops isSemicolon := by
  intro c s hc
  exact .inr (.inl (Outline.isSemicolon_cons.1 hc))

theorem stops_isArrow : Stops isArrow := by
  intro c s hc
  obtain ⟨t, ht⟩ := List.isPrefixOf_iff_prefix.1 hc
  exact .inr (.inr (List.cons.inj ht).1.symm)

/-- The text behind the alternatives of a rule. -/
def commandText : Option Command → List Char
  | none => []
  | some c => ' ' :: c.render.toList

/-- What is displayed of a rule behind its colon. -/
def renderBody (alternatives : List (List Atom)) (command : Option Command) : List Char :=
  Atom.renderAlternatives alternatives ++ commandText command

theorem splitTerminator_append {id : String} {u v : List Char} (hu : Passes u)
    (hv : ∃ p, scan ⟨.plain, 0⟩ v = some p ∧ p.Settled) :
    splitTerminator id (u ++ v) = .ok (u ++ v) := by
  unfold splitTerminator
  change Outline.splitTop id isSemicolon 0 0 (u ++ v) >>= _ = _
  rw [hu id stops_isSemicolon, Outline.splitTop_semicolon.2 hv]
  rfl

theorem splitCommand_append {id : String} {u : List Char} (hu : Passes u) {c : Command}
    (hc : c.Spelled) :
    splitCommand id (u ++ commandText (some c)) = .ok (u ++ [' '], some c) := by
  have hblank : Passes (u ++ [' ']) := hu.append (.quiet (List.all_eq_true.1 (by decide)))
  unfold splitCommand
  change Outline.splitTop id isArrow 0 0 (u ++ ' ' :: c.render.toList) >>= _ = _
  rw [c.toList_render, ← List.singleton_append, ← List.append_assoc, hblank id stops_isArrow,
    Outline.splitTop, if_pos ⟨rfl, rfl⟩]
  dsimp only [bind, Except.bind, Except.map, Option.map_some]
  rw [Command.read?_text hc]
  simp only [List.append_nil]
  rfl

theorem splitCommand_none {id : String} {u : List Char} (hu : Passes u) :
    splitCommand id u = .ok (u, none) := by
  unfold splitCommand
  change Outline.splitTop id isArrow 0 0 u >>= _ = _
  rw [← List.append_nil u, hu id stops_isArrow, Outline.splitTop]
  rfl

end Rule

/-! ## Retitled atoms -/

namespace Atom

theorem handle_retitle (a : Atom) : a.retitle.handle = a.handle := by cases a <;> rfl

mutual

theorem render_retitle : ∀ a : Atom, a.retitle.render = a.render
  | .leaf _ _ => rfl
  | .reference _ _ => rfl
  | .group _ _ _ alternatives => by
    rw [retitle, render, render, renderAlternatives_retitle alternatives]

theorem renderChain_retitle : ∀ atoms : List Atom, renderChain (retitleChain atoms) = renderChain atoms
  | [] => rfl
  | [a] => by
    rw [retitleChain, retitleChain, renderChain_single, renderChain_single, render_retitle a]
  | a :: b :: atoms => by
    have htail := renderChain_retitle (b :: atoms)
    rw [retitleChain] at htail
    rw [retitleChain, retitleChain, renderChain_cons, renderChain_cons, render_retitle a, htail]

theorem renderAlternatives_retitle : ∀ alternatives : List (List Atom),
    renderAlternatives (retitleAll alternatives) = renderAlternatives alternatives
  | [] => rfl
  | [atoms] => by
    rw [retitleAll, retitleAll, renderAlternatives_single, renderAlternatives_single,
      renderChain_retitle atoms]
  | atoms :: others :: alternatives => by
    have htail := renderAlternatives_retitle (others :: alternatives)
    rw [retitleAll] at htail
    rw [retitleAll, retitleAll, renderAlternatives_cons, renderAlternatives_cons,
      renderChain_retitle atoms, htail]

end

end Atom

/-- The nodes are the same, unless they are groups: these may have different values. -/
def Node.Retitled (n n' : Node) : Prop :=
  n' = if n.kind = .composite ∧ n.owner.isSome then { n with value := n'.value } else n

namespace Grammar

open Atom (retitle retitleChain retitleAll)

section Nodes

variable (g : Grammar) (r : Rule) (rest : List (List Atom))

theorem head?_retitle (atoms : List Atom) :
    (retitleChain atoms).head?.map Atom.handle = atoms.head?.map Atom.handle := by
  cases atoms with
  | nil => rfl
  | cons a atoms => exact congrArg some a.handle_retitle

theorem headHandles_retitle (alternatives : List (List Atom)) :
    headHandles (retitleAll alternatives) = headHandles alternatives := by
  unfold headHandles
  induction alternatives with
  | nil => rfl
  | cons atoms alternatives ih =>
    rw [retitleAll, List.filterMap_cons, List.filterMap_cons, head?_retitle, ih]

theorem referenceKind_ne_composite (name : String) : g.referenceKind name ≠ .composite := by
  unfold referenceKind
  split
  · simp
  · simp
  · split <;> simp

theorem atomNode_retitle (prev next : Option Nat) (a : Atom) :
    (g.atomNode r prev next a).Retitled
      (g.atomNode { r with alternatives := rest } prev next a.retitle) := by
  cases a with
  | leaf m l =>
    rw [Node.Retitled, if_neg (by cases hl : l.kind <;> simp [atomNode, hl])]
    rfl
  | reference m name =>
    rw [Node.Retitled, if_neg fun h => g.referenceKind_ne_composite name h.1]
    rfl
  | group m lookahead value alternatives =>
    rw [Node.Retitled, if_pos ⟨rfl, rfl⟩]
    simp only [retitle, atomNode, headHandles_retitle]
    rfl

mutual

theorem nodesOfAtom_retitle : ∀ (a : Atom) (prev next : Option Nat),
    List.Forall₂ Node.Retitled (g.nodesOfAtom r prev next a)
      (g.nodesOfAtom { r with alternatives := rest } prev next a.retitle)
  | .leaf m l, prev, next => .cons (atomNode_retitle g r rest prev next (.leaf m l)) .nil
  | .reference m name, prev, next =>
    .cons (atomNode_retitle g r rest prev next (.reference m name)) .nil
  | .group m lookahead value alternatives, prev, next => by
    have hnode := atomNode_retitle g r rest prev next (.group m lookahead value alternatives)
    have hinner := nodesOfAlternatives_retitle alternatives
    rw [nodesOfAtom, retitle, nodesOfAtom]
    exact .cons hnode hinner

theorem nodesOfChain_retitle : ∀ (atoms : List Atom) (prev : Option Nat),
    List.Forall₂ Node.Retitled (g.nodesOfChain r prev atoms)
      (g.nodesOfChain { r with alternatives := rest } prev (retitleChain atoms))
  | [], _ => by
    rw [retitleChain, nodesOfChain, nodesOfChain]
    exact .nil
  | a :: atoms, prev => by
    rw [retitleChain, nodesOfChain, nodesOfChain, head?_retitle, Atom.handle_retitle]
    exact List.rel_append (nodesOfAtom_retitle a prev _) (nodesOfChain_retitle atoms _)

theorem nodesOfAlternatives_retitle : ∀ alternatives : List (List Atom),
    List.Forall₂ Node.Retitled (g.nodesOfAlternatives r alternatives)
      (g.nodesOfAlternatives { r with alternatives := rest } (retitleAll alternatives))
  | [] => by
    rw [retitleAll, nodesOfAlternatives, nodesOfAlternatives]
    exact .nil
  | atoms :: alternatives => by
    rw [retitleAll, nodesOfAlternatives, nodesOfAlternatives]
    exact List.rel_append (nodesOfChain_retitle atoms _) (nodesOfAlternatives_retitle alternatives)

end

end Nodes

theorem nodesOfRule_retitle (g : Grammar) (r : Rule) :
    List.Forall₂ Node.Retitled (g.nodesOfRule r)
      (g.nodesOfRule { r with alternatives := retitleAll r.alternatives }) := by
  refine .cons ?_ (nodesOfAlternatives_retitle g r _ r.alternatives)
  rw [Node.Retitled, if_neg (by simp)]
  simp only [headHandles_retitle]

end Grammar

/-! ## Bodies are read again -/

namespace Rule

open Outline (scan)

variable {id : String} {base : Nat} {src : List Char} {alternatives : List (List Atom)}
  {command : Option Command}

/-- The displayed body is read as the retitled alternatives. -/
theorem readBody_renderBody
    (h : (readBody id Quantifier.unbounded base src).result = .ok (alternatives, command)) :
    (readBody id Quantifier.unbounded base (renderBody alternatives command)).result =
      .ok (Atom.retitleAll alternatives, command) := by
  obtain ⟨hne, hspelled⟩ := readBody_spelled (Nat.le_refl _) h
  obtain ⟨next, hcounts⟩ := readBody_counts h
  obtain ⟨text, body, read, htext, hbody, -, -, -⟩ := readBody_eq_ok.1 h
  have hsettled := settled_of_splitTerminator htext
  have hpasses := Atom.passes_renderAlternatives alternatives hspelled
  obtain ⟨c, t, hstart, hc⟩ := Atom.renderAlternatives_starts hne hspelled
  -- Behind the alternatives nothing stands but the blank in front of the arrow.
  obtain ⟨gap, hgap, hsplit, hsurface⟩ : ∃ gap, (∀ c ∈ gap, c = ' ') ∧
      splitCommand id (renderBody alternatives command) =
        .ok (Atom.renderAlternatives alternatives ++ gap, command) ∧
      ∃ p, scan ⟨.plain, 0⟩ (commandText command) = some p ∧ p.Settled := by
    cases command with
    | none =>
      refine ⟨[], by simp, ?_, ⟨_, rfl, .inl rfl⟩⟩
      rw [renderBody, commandText, List.append_nil]
      exact splitCommand_none hpasses
    | some c =>
      obtain ⟨hcommand, hsurface⟩ := spelled_of_splitCommand hbody hsettled
      refine ⟨[' '], by simp, splitCommand_append hpasses hcommand, ?_⟩
      rw [commandText, c.toList_render]
      exact hsurface
  have hread : (readAlternatives ⟨id, Quantifier.unbounded,
      Text.byteLength (Atom.renderAlternatives alternatives ++ gap)⟩ 0 true (base + 1)
      (Atom.renderAlternatives alternatives ++ gap)).result.map Atom.asAlternatives =
        .ok (Atom.retitleAll alternatives, next) :=
    Atom.read_renderAlternatives alternatives hne hspelled rfl hcounts hgap
  have htrim : (Text.trim (Atom.renderAlternatives alternatives ++ gap)).isEmpty = false := by
    rw [hstart]
    exact Text.trim_ne_nil (not_blank_of_isAtomStart hc) _
  cases hread' : (readAlternatives ⟨id, Quantifier.unbounded,
      Text.byteLength (Atom.renderAlternatives alternatives ++ gap)⟩ 0 true (base + 1)
      (Atom.renderAlternatives alternatives ++ gap)).result with
  | error e => rw [hread'] at hread; cases hread
  | ok read' =>
    rw [hread'] at hread
    exact readBody_eq_ok.2 ⟨_, _, read', splitTerminator_append hpasses hsurface, hsplit, htrim,
      hread', (Prod.mk.inj (Except.ok.inj hread)).1.symm⟩

/-- **Displaying undoes reading.** -/
theorem readBody_render (g : Grammar) (r : Rule)
    (h : (readBody r.id Quantifier.unbounded r.handle src).result =
      .ok (r.alternatives, r.command)) :
    ∃ alternatives,
      (readBody r.id Quantifier.unbounded r.handle
        (renderBody r.alternatives r.command)).result = .ok (alternatives, r.command) ∧
      List.Forall₂ Node.Retitled (g.nodesOfRule r) (g.nodesOfRule { r with alternatives }) ∧
      renderBody alternatives r.command = renderBody r.alternatives r.command := by
  refine ⟨Atom.retitleAll r.alternatives, readBody_renderBody h, g.nodesOfRule_retitle r, ?_⟩
  rw [renderBody, renderBody, Atom.renderAlternatives_retitle]

/-- Blanks that are not displayed, anchors, and parameters with gaps between them. -/
theorem readBody_render_of_push :
    let body := "(\t'a'|~ [b-c]{ 2 , }$ )*? B -> push( x ,,y ) ;".toList
    let g : Grammar := ⟨none, none, {}, [], [], []⟩
    ∃ alternatives command,
      let r : Rule := { id := "A", kind := .lexer, handle := 2, alternatives, command }
      (readBody "A" Quantifier.unbounded 2 body).result = .ok (alternatives, command) ∧
      renderBody alternatives command = "('a' | ~[b-c]${2,})*? B -> push(x, y)".toList ∧
      ∃ alternatives',
        (readBody "A" Quantifier.unbounded 2 (renderBody alternatives command)).result =
          .ok (alternatives', command) ∧
        List.Forall₂ Node.Retitled (g.nodesOfRule r)
          (g.nodesOfRule { r with alternatives := alternatives' }) ∧
        renderBody alternatives' command = renderBody alternatives command := by
  intro body g
  have hread : (readBody "A" Quantifier.unbounded 2 body).result.map
      (fun read => renderBody read.1 read.2) =
        .ok "('a' | ~[b-c]${2,})*? B -> push(x, y)".toList := by
    decide +kernel
  cases h : (readBody "A" Quantifier.unbounded 2 body).result with
  | error e => rw [h] at hread; cases hread
  | ok read =>
    rw [h] at hread
    exact ⟨read.1, read.2, rfl, Except.ok.inj hread, readBody_render g
      { id := "A", kind := .lexer, handle := 2, alternatives := read.1, command := read.2 } h⟩

end Rule

end Lexigram
