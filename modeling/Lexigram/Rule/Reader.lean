import Lexigram.Diagnostic
import Lexigram.Rule.Atom
import Lexigram.Rule.Outline

/-!
# Reading rule bodies

A rule body holds alternatives between bars, then perhaps an arrow with a command, then perhaps a
semicolon. Blanks may stand between atoms. `readBody` returns the alternatives, with handles counted
upwards from the one of the rule, and the command.

Readers work on the characters that are left of a region: the body without its command, or the
inside of a group. What is left determines the offset, so no reader has to count.
-/

namespace Lexigram.Rule

/-- The part of a rule body that is being read. -/
structure Region where
  rule : String
  /-- The greatest count of a range that is open above. -/
  cap : Nat
  /-- The offset at which the part ends. -/
  stop : Nat

/-- The offset at which what is left of a region begins. -/
def Region.offset (r : Region) (left : List Char) : Nat := r.stop - Text.byteLength left

/-- Refuses the body for a fault where the characters `left` begin. -/
def Region.fail {α : Type} (r : Region) (left : List Char) (fault : BodyFault) : Checked α :=
  .fail (.malformedBody r.rule (r.offset left) fault)

def skipBlanks (s : List Char) : List Char := s.dropWhile Text.isAsciiBlank

theorem length_skipBlanks (s : List Char) : (skipBlanks s).length ≤ s.length :=
  (List.dropWhile_sublist _).length_le

/-- What was read of a text when `rest` is left of it. -/
def readPart (s rest : List Char) : List Char := s.take (s.length - rest.length)

/-! ## Literals -/

/-- The warnings for the escapes without a meaning in a literal whose inside begins at `offset`. -/
def escapeWarnings (rule : String) (offset : Nat) (inside : List Char) : List Diagnostic :=
  (Literal.unknownEscapes offset inside).map fun (pos, c) =>
    .warning rule ⟨pos, pos + c.utf8Size⟩ (.unknownEscape c)

/-- Reads a text between apostrophes. -/
def readQuoted (r : Region) (s : List Char) : Checked (List Char × List Char) :=
  match Literal.split? '\x27' (s.drop 1) with
  | none => .fail (.unterminatedLiteral r.rule (r.offset s))
  | some (inside, rest) =>
    .after (escapeWarnings r.rule (r.offset s + 1) inside) (pure (Literal.unescape inside, rest))

/-- Reads a literal, or a range between two literals of one character each. -/
def readLiteral (r : Region) (s : List Char) : Checked (Leaf × List Char) := do
  let (text, rest) ← readQuoted r s
  if text.isEmpty then r.fail s .emptyLiteral
  else
    match skipBlanks rest with
    | '.' :: '.' :: t =>
      let t := skipBlanks t
      if t.head? = some '\x27' then do
        let (upper, rest) ← readQuoted r t
        match text, upper with
        | [lo], [hi] =>
          match Pattern.range? lo hi with
          | some p => pure (⟨.literal, readPart s rest, p, false⟩, rest)
          | none =>
            .fail (.invalidExpression r.rule (String.ofList (Pattern.rangeSource lo hi)))
        | _, _ => r.fail s .boundsNotSingle
      else r.fail t .literalExpectedAfterRange
    | _ =>
      match Pattern.literal? text with
      | some p => pure (⟨.literal, readPart s rest, p, false⟩, rest)
      | none => .fail (.invalidExpression r.rule (String.ofList (Pattern.escape text)))

/-! ## Expressions -/

/-- Takes the dollar sign of an anchored expression off a text. -/
def readDollar : List Char → Bool × List Char
  | '$' :: s => (true, s)
  | s => (false, s)

/-- Splits a class or a dot off a text, as the source of its pattern. -/
def splitClassSource (r : Region) (s t : List Char) : Checked (List Char × List Char) :=
  match t with
  | '[' :: u =>
    match Outline.splitClass? u with
    | some (inside, rest) => pure ('[' :: inside ++ [']'], rest)
    | none => .fail (.unterminatedClass r.rule (r.offset t))
  | '.' :: rest => pure (Pattern.anySource, rest)
  | _ => r.fail s .classExpectedAfterAnchor

/-- Reads a class or a dot, with the anchors around it. -/
def readExpression (r : Region) (s : List Char) : Checked (Leaf × List Char) := do
  let anchor := if s.head? = some '^' then ['^'] else []
  let (body, rest) ← splitClassSource r s (s.drop anchor.length)
  let (anchoredEnd, rest) := readDollar rest
  let source := anchor ++ body
  match Pattern.ofSource? source with
  | some p => pure (⟨.expression, readPart s rest, p, anchoredEnd⟩, rest)
  | none => .fail (.invalidExpression r.rule (String.ofList source))

/-! ## Heads of atoms -/

/-- An atom before its quantifier and without its inside. -/
inductive Head where
  | leaf (l : Leaf)
  | reference (name : List Char)
  | group (lookahead : Bool)

/-- Whether the atom has alternatives inside. -/
def Head.isGroup : Head → Bool
  | group _ => true
  | leaf _ | reference _ => false

/-- What is read of an atom up to its quantifier. -/
structure Opening where
  inverted : Bool
  head : Head
  /-- The inside of a group. -/
  inside : List Char
  rest : List Char

/-- Whether a reference may begin with a character. -/
def isNameStart (c : Char) : Bool := c.isAlpha || c == '_'

/-- Whether a character may stand in a reference. -/
def isNameChar (c : Char) : Bool := c.isAlphanum || c == '_'

/-- Splits the inside of a group off the text `inner` behind its opening parenthesis, which is the
first character of `s`. -/
def splitGroup (r : Region) (s inner : List Char) (fault : BodyFault) :
    Checked (List Char × List Char) := do
  match ← .lift (Outline.splitTop r.rule (·.head? == some ')') 0 (r.offset inner) inner) with
  | some (inside, _ :: rest) =>
    if (Text.trim inside).isEmpty then r.fail s fault else pure (inside, rest)
  | _ => .fail (.unmatchedParenthesis r.rule (r.offset s))

/-- Reads an atom without its mark of inversion. -/
def readHead (r : Region) (inverted : Bool) (start s : List Char) : Checked Opening :=
  match s with
  | [] => r.fail start .atomExpectedAfterTilde
  | '\x27' :: _ => do
    let (l, rest) ← readLiteral r s
    pure ⟨inverted, .leaf l, [], rest⟩
  | '(' :: '?' :: '!' :: inner =>
    if inverted then r.fail start .invertedLookahead
    else do
      let (inside, rest) ← splitGroup r s inner .emptyLookahead
      pure ⟨inverted, .group true, inside, rest⟩
  | '(' :: inner => do
    let (inside, rest) ← splitGroup r s inner .emptyGroup
    pure ⟨inverted, .group false, inside, rest⟩
  | ')' :: _ => .fail (.unmatchedParenthesis r.rule (r.offset s))
  | c :: _ =>
    if c = '^' ∨ c = '[' ∨ c = '.' then do
      let (l, rest) ← readExpression r s
      pure ⟨inverted, .leaf l, [], rest⟩
    else if isNameStart c then
      pure ⟨inverted, .reference (s.takeWhile isNameChar), [], s.dropWhile isNameChar⟩
    else r.fail s .unexpectedCharacter

/-- Reads an atom up to its quantifier. -/
def readOpening (r : Region) (s : List Char) : Checked Opening :=
  match s with
  | '~' :: t => readHead r true s (skipBlanks t)
  | s => readHead r false s s

/-! ## What follows the head of an atom -/

/-- Reads the quantifier of an atom, if there is one. -/
def readQuantifier (r : Region) (s : List Char) : Checked (Quantifier × List Char) :=
  match s with
  | c :: _ =>
    if c = '*' ∨ c = '+' ∨ c = '?' ∨ c = '\x7b' then
      match Quantifier.read? r.cap s with
      | some q => pure q
      | none => r.fail s .invalidQuantifier
    else pure (.once, s)
  | [] => pure (.once, s)

/-- Reads the dollar sign that may stand behind the quantifier of an expression. It anchors the
whole repetition, as the one in front of the quantifier does. -/
def readEndAnchor (head : Head) (s : List Char) : Head × List Char :=
  match head, s with
  | .leaf ⟨.expression, value, pattern, false⟩, '$' :: rest =>
    (.leaf ⟨.expression, value ++ ['$'], pattern, true⟩, rest)
  | _, _ => (head, s)

/-- The atom with a given head and, for a group, inside. -/
def Head.toAtom (head : Head) (mark : Mark) (inside : List Char)
    (alternatives : List (List Atom)) : Atom :=
  match head with
  | leaf l => .leaf mark l
  | reference name => .reference mark (String.ofList name)
  | group lookahead => .group mark lookahead (Text.trim inside) alternatives

/-! ## Readers leave less than they were given -/

@[simp] theorem Region.result_fail {α : Type} (r : Region) (left : List Char) (fault : BodyFault) :
    (r.fail left fault : Checked α).result =
      .error (.malformedBody r.rule (r.offset left) fault) := rfl

theorem length_readQuoted {r : Region} {s : List Char} {p : List Char × List Char}
    (h : (readQuoted r s).result = .ok p) : p.2.length < s.length := by
  unfold readQuoted at h
  split at h
  · simp at h
  · next inside rest hs =>
    have hl := congrArg List.length (Literal.eq_of_split? hs)
    simp only [Checked.result_after, Checked.result_pure, Except.ok.injEq] at h
    subst h
    simp only [List.length_drop, List.length_append, List.length_cons] at hl
    dsimp only
    omega

theorem length_readLiteral {r : Region} {s : List Char} {p : Leaf × List Char}
    (h : (readLiteral r s).result = .ok p) : p.2.length < s.length := by
  unfold readLiteral at h
  obtain ⟨⟨text, rest⟩, hq, h⟩ := Checked.result_bind_eq_ok.1 h
  have hr := length_readQuoted hq
  dsimp only at h hr
  split at h
  · simp at h
  · split at h
    · next t ht =>
      have hb := length_skipBlanks rest
      rw [ht] at hb
      have ht := length_skipBlanks t
      split at h
      · obtain ⟨⟨upper, rest'⟩, hq', h⟩ := Checked.result_bind_eq_ok.1 h
        have hr' := length_readQuoted hq'
        dsimp only at h hr'
        split at h
        · split at h
          · simp only [Checked.result_pure, Except.ok.injEq] at h
            subst h
            simp only [List.length_cons] at hb ⊢
            omega
          · simp at h
        · simp at h
      · simp at h
    · split at h
      · simp only [Checked.result_pure, Except.ok.injEq] at h
        subst h
        exact hr
      · simp at h

theorem length_splitClassSource {r : Region} {s t : List Char} {p : List Char × List Char}
    (h : (splitClassSource r s t).result = .ok p) : p.2.length < t.length := by
  unfold splitClassSource at h
  split at h
  · split at h
    · next hs =>
      have hl := congrArg List.length (Outline.eq_of_splitClass? hs)
      simp only [Checked.result_pure, Except.ok.injEq] at h
      subst h
      simp only [List.length_append, List.length_cons] at hl ⊢
      omega
    · simp at h
  · simp only [Checked.result_pure, Except.ok.injEq] at h
    subst h
    simp
  · simp at h

theorem length_readDollar (s : List Char) : (readDollar s).2.length ≤ s.length := by
  unfold readDollar
  split <;> simp

theorem length_readExpression {r : Region} {s : List Char} {p : Leaf × List Char}
    (h : (readExpression r s).result = .ok p) : p.2.length < s.length := by
  unfold readExpression at h
  dsimp only at h
  obtain ⟨⟨body, rest⟩, hq, h⟩ := Checked.result_bind_eq_ok.1 h
  have hr := length_splitClassSource hq
  have hd := length_readDollar rest
  dsimp only at h hr
  split at h
  · simp only [Checked.result_pure, Except.ok.injEq] at h
    subst h
    simp only [List.length_drop] at hr ⊢
    omega
  · simp at h

theorem length_splitGroup {r : Region} {s inner : List Char} {fault : BodyFault}
    {p : List Char × List Char} (h : (splitGroup r s inner fault).result = .ok p) :
    p.1.length < inner.length ∧ p.2.length < inner.length := by
  unfold splitGroup at h
  obtain ⟨o, ho, h⟩ := Checked.result_bind_eq_ok.1 h
  split at h
  · have hl := congrArg List.length (Outline.eq_of_splitTop ho)
    simp only [List.length_append, List.length_cons] at hl
    split at h
    · simp at h
    · simp only [Checked.result_pure, Except.ok.injEq] at h
      subst h
      constructor <;> dsimp only <;> omega
  · simp at h

theorem length_readHead {r : Region} {inverted : Bool} {start s : List Char} {o : Opening}
    (h : (readHead r inverted start s).result = .ok o) :
    o.inside.length < s.length ∧ o.rest.length < s.length := by
  unfold readHead at h
  split at h
  · simp at h
  · obtain ⟨_, hl, h⟩ := Checked.result_bind_eq_ok.1 h
    cases h
    exact ⟨by simp, length_readLiteral hl⟩
  · split at h
    · simp at h
    · obtain ⟨_, hl, h⟩ := Checked.result_bind_eq_ok.1 h
      cases h
      have := length_splitGroup hl
      simp only [List.length_cons]
      omega
  · obtain ⟨_, hl, h⟩ := Checked.result_bind_eq_ok.1 h
    cases h
    have := length_splitGroup hl
    simp only [List.length_cons]
    omega
  · simp at h
  · next c t _ _ _ _ =>
    split at h
    · obtain ⟨_, hl, h⟩ := Checked.result_bind_eq_ok.1 h
      cases h
      exact ⟨by simp, length_readExpression hl⟩
    · split at h
      · next hc =>
        cases h
        have hn : isNameChar c = true := by
          simp only [isNameStart, Bool.or_eq_true] at hc
          simp only [isNameChar, Char.isAlphanum, Bool.or_eq_true]
          exact hc.imp_left .inl
        refine ⟨by simp, ?_⟩
        rw [List.dropWhile_cons_of_pos hn]
        exact Nat.lt_succ_of_le (List.dropWhile_sublist _).length_le
      · simp at h

theorem length_readOpening {r : Region} {s : List Char} {o : Opening}
    (h : (readOpening r s).result = .ok o) :
    o.inside.length < s.length ∧ o.rest.length < s.length := by
  unfold readOpening at h
  split at h
  · next t =>
    have := length_readHead h
    have := length_skipBlanks t
    simp only [List.length_cons]
    omega
  · exact length_readHead h

theorem length_readQuantifier {r : Region} {s : List Char} {p : Quantifier × List Char}
    (h : (readQuantifier r s).result = .ok p) : p.2.length ≤ s.length := by
  unfold readQuantifier at h
  split at h
  · split at h
    · split at h
      · next q hq =>
        cases h
        exact Nat.le_of_lt (Quantifier.length_read? hq)
      · simp at h
    · cases h
      exact Nat.le_refl _
  · cases h
    exact Nat.le_refl _

theorem length_readEndAnchor (head : Head) (s : List Char) :
    (readEndAnchor head s).2.length ≤ s.length := by
  unfold readEndAnchor
  split <;> simp

/-! ## Alternatives -/

/-- Reads on in the alternatives of a region. The current alternative began where `start` says, and
`first` says that none of its atoms has been read. The atoms to come take the handles from `base`
on. The answer is what is left of the current alternative, the alternatives behind it, and the next
handle. -/
def readAlternatives (r : Region) (start : Nat) (first : Bool) (base : Nat) (s : List Char) :
    Checked (List Atom × List (List Atom) × Nat) :=
  match s with
  | [] =>
    if first then .fail (.malformedBody r.rule start .emptyAlternative) else pure ([], [], base)
  | c :: t =>
    if Text.isAsciiBlank c then readAlternatives r start first base t
    else if c = '|' then
      if first then .fail (.malformedBody r.rule start .emptyAlternative)
      else do
        let (atoms, others, base) ← readAlternatives r (r.offset t) true base t
        pure ([], atoms :: others, base)
    else
      match _ho : readOpening r (c :: t) with
      | ⟨ds, .error e⟩ => ⟨ds, .error e⟩
      | ⟨ds, .ok o⟩ =>
        .after ds do
          let (inner, next) ←
            (if o.head.isGroup then do
              let stop := r.offset o.rest - 1
              let region : Region := { r with stop }
              let (atoms, others, next) ←
                readAlternatives region (region.offset o.inside) true (base + 1) o.inside
              pure (atoms :: others, next)
            else pure ([], base + 1))
          match _hq : readQuantifier r o.rest with
          | ⟨_, .error e⟩ => .fail e
          | ⟨_, .ok (quantifier, rest)⟩ =>
            let closed := readEndAnchor o.head rest
            let (atoms, others, next) ← readAlternatives r start false next closed.2
            let atom := closed.1.toAtom ⟨base, o.inverted, quantifier⟩ o.inside inner
            pure (atom :: atoms, others, next)
termination_by s.length
decreasing_by
  · simp
  · simp
  · exact (length_readOpening (congrArg Checked.result _ho)).1
  · have hl := length_readOpening (congrArg Checked.result _ho)
    have hr := length_readQuantifier (congrArg Checked.result _hq)
    have ha := length_readEndAnchor o.head rest
    exact Nat.lt_of_le_of_lt (Nat.le_trans ha hr) hl.2

/-! ## Bodies -/

/-- Cuts the terminator off a rule body. Only blanks may follow it. -/
def splitTerminator (rule : String) (src : List Char) : Except CompileError (List Char) := do
  match ← Outline.splitTop rule (·.head? == some ';') 0 0 src with
  | some (front, _ :: back) =>
    let rest := skipBlanks back
    if rest.isEmpty then pure front
    else
      let offset := Text.byteLength src - Text.byteLength rest
      throw (.malformedBody rule offset .inputAfterTerminator)
  | _ => pure src

/-- Cuts the command off a rule body without its terminator. -/
def splitCommand (rule : String) (src : List Char) :
    Except CompileError (List Char × Option Command) := do
  match ← Outline.splitTop rule (fun s => ['-', '>'].isPrefixOf s) 0 0 src with
  | some (front, _ :: _ :: back) =>
    match Command.read? back with
    | some command => pure (front, some command)
    | none => throw (.malformedBody rule (Text.byteLength front) .malformedCommand)
  | _ => pure (src, none)

/-- Reads the body of a rule whose own handle is `base`. -/
def readBody (rule : String) (cap base : Nat) (src : List Char) :
    Checked (List (List Atom) × Option Command) := do
  let (body, command) ← .lift (splitTerminator rule src >>= splitCommand rule)
  if (Text.trim body).isEmpty then .fail (.emptyRule rule)
  else
    let (atoms, others, _) ←
      readAlternatives ⟨rule, cap, Text.byteLength body⟩ 0 true (base + 1) body
    pure (atoms :: others, command)

end Lexigram.Rule
