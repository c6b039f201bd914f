import Lexigram.Proofs.Outlines

/-!
# Displayed commands are read again

A command is displayed behind its rule in a form of its own: its name, and its parameters with a
comma and a blank between any two.

**Parameters** (`Command.Woven`). The texts in which the same parameters stand differ in the gaps
between them. Gaps consist of blanks and commas, and whoever goes through the text character by
character and takes no notice of how long a gap is (`Command.Absorbs`) comes out the same
(`Command.Woven.run_eq`).

**Texts of commands** (`Command.Written`). The reader of commands takes a name, and parameters
between parentheses, off a text of one of two forms.

Main results: `Command.read?_text`, which says that what is displayed is read as the same command,
and `Command.settled_text`, which says that no semicolon comes to the surface in it.
-/

namespace Lexigram

theorem Outline.isQuiet_of_isBlank {c : Char} (h : Text.isBlank c = true) : isQuiet c = true := by
  rw [isQuiet, decide_eq_true_eq]
  intro hc
  simp only [List.mem_cons, List.not_mem_nil, or_false] at hc
  rcases hc with rfl | rfl | rfl | rfl | rfl | rfl | rfl <;> revert h <;> decide

theorem Outline.isQuiet_of_isWord {c : Char} (h : Text.isWord c = true) : isQuiet c = true := by
  have hwords : ['\x27', '[', '\\', '(', ')', ';', '-'].any Text.isWord = false := by
    decide +kernel
  rw [isQuiet, decide_eq_true_eq]
  exact fun hc => List.any_eq_false.1 hwords c hc h

namespace Command

/-! ## Gaps -/

/-- Whether a character may stand between parameters. -/
def isGap (c : Char) : Bool := Text.isBlank c || c == ','

theorem isGap_of_isBlank {c : Char} (h : Text.isBlank c = true) : isGap c = true := by
  rw [isGap, h, Bool.true_or]

theorem isGap_append {u v : List Char} (hu : ∀ c ∈ u, isGap c = true)
    (hv : ∀ c ∈ v, isGap c = true) : ∀ c ∈ u ++ v, isGap c = true :=
  List.forall_mem_append.2 ⟨hu, hv⟩

/-- A text in which some parameters stand with gaps between them. -/
inductive Woven : List (List Char) → List Char → Prop where
  | none : Woven [] []
  | one (param : List Char) : Woven [param] param
  | more {param next gap s : List Char} {params : List (List Char)} (hne : gap ≠ [])
      (hgap : ∀ c ∈ gap, isGap c = true) (h : Woven (next :: params) s) :
      Woven (param :: next :: params) (param ++ (gap ++ s))

/-- Of a gap, a step function sees only that it is there. -/
structure Absorbs {σ : Type} (step : σ → Char → Option σ) (settle : σ → σ) : Prop where
  gap : ∀ p c, isGap c = true → step p c = some (settle p)
  settle : ∀ p, settle (settle p) = settle p

section Run

variable {σ : Type} {step : σ → Char → Option σ} {settle : σ → σ}

theorem Absorbs.run_gap (ha : Absorbs step settle) {gap : List Char} (hne : gap ≠ [])
    (hgap : ∀ c ∈ gap, isGap c = true) (p : σ) : gap.foldlM step p = some (settle p) := by
  induction gap generalizing p with
  | nil => exact absurd rfl hne
  | cons c gap ih =>
    rw [List.foldlM_cons, ha.gap p c (hgap c List.mem_cons_self)]
    cases gap with
    | nil => rfl
    | cons d gap =>
      have hrest := ih (by simp) (fun e he => hgap e (List.mem_cons_of_mem _ he)) (settle p)
      rw [ha.settle] at hrest
      exact hrest

/-- **How long the gaps are does not matter.** -/
theorem Woven.run_eq (ha : Absorbs step settle) {params : List (List Char)} {u v : List Char}
    (hu : Woven params u) (hv : Woven params v) (p : σ) : u.foldlM step p = v.foldlM step p := by
  induction hu generalizing v p with
  | none =>
    cases hv
    rfl
  | one param =>
    cases hv
    rfl
  | more hne hgap _ ih =>
    cases hv with
    | more hne' hgap' hv =>
      simp only [List.foldlM_append, ha.run_gap hne hgap, ha.run_gap hne' hgap', ih hv]

end Run

/-! ## Parameters -/

/-- The parameters among the pieces between commas. -/
def parametersOf (pieces : List (List Char)) : List (List Char) :=
  (pieces.map Text.trim).filter fun p => !p.isEmpty

/-- The texts of the parameters. -/
def texts (c : Command) : List (List Char) := c.parameters.map String.toList

theorem map_toList_readParameters (inside : List Char) :
    (readParameters inside).map String.toList = parametersOf (inside.splitOn ',') := by
  rw [readParameters, List.map_map]
  exact List.map_id'' (fun _ => String.toList_ofList) _

theorem parametersOf_cons (piece : List Char) (pieces : List (List Char)) :
    parametersOf (piece :: pieces) =
      (if (Text.trim piece).isEmpty then [] else [Text.trim piece]) ++ parametersOf pieces := by
  rw [parametersOf, List.map_cons, List.filter_cons]
  cases (Text.trim piece).isEmpty <;> rfl

/-- What can be between two commas. -/
structure IsParameter (p : List Char) : Prop where
  ne : p ≠ []
  trim : Text.trim p = p
  comma : ',' ∉ p

theorem mem_of_mem_splitOn {s piece : List Char} (h : piece ∈ s.splitOn ',') :
    ∀ c ∈ piece, c ∈ s ∧ c ≠ ',' := by
  induction s generalizing piece with
  | nil =>
    rw [List.splitOn_nil, List.mem_singleton] at h
    simp [h]
  | cons d s ih =>
    rw [List.splitOn_cons_eq_if_modifyHead] at h
    intro c hc
    split at h
    · rcases List.mem_cons.1 h with rfl | h
      · cases hc
      · exact (ih h c hc).imp_left (List.mem_cons_of_mem _)
    · next hd =>
      obtain ⟨first, pieces, hs⟩ := List.exists_cons_of_ne_nil (List.splitOn_ne_nil ',' s)
      rw [hs] at h ih
      rcases List.mem_cons.1 h with rfl | h
      · rcases List.mem_cons.1 hc with rfl | hc
        · exact ⟨List.mem_cons_self, by simpa using hd⟩
        · exact (ih List.mem_cons_self c hc).imp_left (List.mem_cons_of_mem _)
      · exact (ih (List.mem_cons_of_mem _ h) c hc).imp_left (List.mem_cons_of_mem _)

theorem isParameter_of_mem {s p : List Char} (h : p ∈ parametersOf (s.splitOn ',')) :
    IsParameter p ∧ ∀ c ∈ p, c ∈ s := by
  obtain ⟨hp, hne⟩ := List.mem_filter.1 h
  obtain ⟨piece, hpiece, rfl⟩ := List.mem_map.1 hp
  obtain ⟨front, back, -, -, hs⟩ := Text.exists_trim piece
  have hmem : ∀ c ∈ Text.trim piece, c ∈ piece := by
    intro c hc
    rw [hs]
    simp [hc]
  have hsplit := fun c hc => mem_of_mem_splitOn hpiece c (hmem c hc)
  exact ⟨⟨by simpa using hne, Text.trim_trim piece, fun hc => (hsplit _ hc).2 rfl⟩,
    fun c hc => (hsplit c hc).1⟩

/-- What is split at commas is a gap, the parameters with gaps between them, and a gap. -/
theorem exists_woven {pieces : List (List Char)} (hne : pieces ≠ []) :
    ∃ front core back, (∀ c ∈ front, isGap c = true) ∧ (∀ c ∈ back, isGap c = true) ∧
      [','].intercalate pieces = front ++ (core ++ back) ∧ Woven (parametersOf pieces) core := by
  induction pieces with
  | nil => exact absurd rfl hne
  | cons piece pieces ih =>
    obtain ⟨lead, trail, hlead, htrail, hpiece⟩ := Text.exists_trim piece
    replace hlead := fun c hc => isGap_of_isBlank (hlead c hc)
    replace htrail := fun c hc => isGap_of_isBlank (htrail c hc)
    rw [parametersOf_cons]
    generalize Text.trim piece = param at hpiece ⊢
    subst hpiece
    cases pieces with
    | nil =>
      rw [List.intercalate_singleton]
      refine ⟨lead, param, trail, hlead, htrail, List.append_assoc .., ?_⟩
      split
      · next hempty =>
        rw [List.isEmpty_iff.1 hempty]
        exact .none
      · exact .one _
    | cons second pieces =>
      obtain ⟨front, core, back, hfront, hback, hrest, hcore⟩ := ih (by simp)
      rw [List.intercalate_cons_cons, hrest]
      have hgap : ∀ c ∈ trail ++ ',' :: front, isGap c = true :=
        isGap_append htrail (List.forall_mem_cons.2 ⟨rfl, hfront⟩)
      split
      · next hempty =>
        rw [List.isEmpty_iff.1 hempty]
        exact ⟨lead ++ (trail ++ ',' :: front), core, back, isGap_append hlead hgap, hback,
          by simp, hcore⟩
      · cases hparams : parametersOf (second :: pieces) with
        | nil =>
          rw [hparams] at hcore
          cases hcore
          exact ⟨lead, param, trail ++ ',' :: front ++ back, hlead, isGap_append hgap hback,
            by simp, .one _⟩
        | cons next params =>
          rw [hparams] at hcore
          exact ⟨lead, _, back, hlead, hback, by simp, .more (by simp) hgap hcore⟩

/-! ## Reading -/

/-- The command can be read. -/
structure Spelled (c : Command) : Prop where
  name : ∃ d s, c.name.toList = d :: s ∧ Text.isBlank d = false ∧ ∀ e ∈ d :: s, Text.isWord e = true
  parameter : ∀ p ∈ c.texts, IsParameter p ∧ '\n' ∉ p

/-- The texts behind an arrow from which a command is read. -/
inductive Written (c : Command) : List Char → Prop where
  | bare {lead trail : List Char} (hparams : c.parameters = [])
      (hlead : ∀ d ∈ lead, Text.isBlank d = true) (htrail : ∀ d ∈ trail, Text.isBlank d = true) :
      Written c (lead ++ (c.name.toList ++ trail))
  | call {lead gap front core back trail : List Char} (hlead : ∀ d ∈ lead, Text.isBlank d = true)
      (hgap : ∀ d ∈ gap, Text.isBlank d = true) (hfront : ∀ d ∈ front, isGap d = true)
      (hcore : Woven c.texts core) (hback : ∀ d ∈ back, isGap d = true)
      (htrail : ∀ d ∈ trail, Text.isBlank d = true) :
      Written c
        (lead ++ (c.name.toList ++ (gap ++ '(' :: (front ++ (core ++ (back ++ ')' :: trail))))))

theorem read?_eq_some {src : List Char} {c : Command} (h : read? src = some c) :
    c.Spelled ∧ Written c src := by
  obtain ⟨lead, hlead, hsrc⟩ := Text.exists_trimStart src
  have hword := List.takeWhile_append_dropWhile (p := Text.isWord) (l := Text.trimStart src)
  have hname : ∀ d ∈ (Text.trimStart src).takeWhile Text.isWord, Text.isWord d = true :=
    List.all_eq_true.1 List.all_takeWhile
  have hhead := fun d => Text.not_blank_of_mem_head? (s := src) (c := d)
  unfold read? at h
  dsimp only at h
  rw [← hword] at hsrc hhead
  generalize (Text.trimStart src).takeWhile Text.isWord = name at h hsrc hname hhead
  generalize (Text.trimStart src).dropWhile Text.isWord = rest at h hsrc hhead
  cases name with
  | nil => simp at h
  | cons d s =>
    rw [if_neg (by simp)] at h
    obtain ⟨gap, trail, hgap, htrail, hrest⟩ := Text.exists_trim rest
    have hd : Text.isBlank d = false := hhead d rfl
    rw [hsrc, hrest]
    split at h
    · next hempty =>
      cases h
      refine ⟨⟨⟨d, s, String.toList_ofList, hd, hname⟩, by simp [texts]⟩, ?_⟩
      have hbare := Written.bare (c := ⟨String.ofList (d :: s), []⟩) rfl hlead
        (List.forall_mem_append.2 ⟨hgap, htrail⟩)
      rw [hempty, List.append_nil]
      simpa using hbare
    · next tail htail =>
      split at h
      · next inside hinside =>
        split at h
        · simp at h
        · next hline =>
          cases h
          have htexts : texts ⟨String.ofList (d :: s), readParameters inside.reverse⟩ =
              parametersOf (inside.reverse.splitOn ',') := map_toList_readParameters _
          obtain ⟨front, core, back, hfront, hback, hsplit, hcore⟩ :=
            exists_woven (List.splitOn_ne_nil ',' inside.reverse)
          rw [List.intercalate_splitOn] at hsplit
          rw [← htexts] at hcore
          refine ⟨⟨⟨d, s, String.toList_ofList, hd, hname⟩, fun p hp => ?_⟩, ?_⟩
          · rw [htexts] at hp
            obtain ⟨hparam, hmem⟩ := isParameter_of_mem hp
            exact ⟨hparam, fun hc => hline (by simpa using hmem _ hc)⟩
          · have hcall := Written.call hlead hgap hfront hcore hback htrail
            have htail' : tail = front ++ (core ++ back) ++ [')'] := by
              rw [← hsplit, ← List.reverse_cons, ← hinside, List.reverse_reverse]
            rw [htail, htail']
            simpa using hcall
      · simp at h
    · simp at h

/-! ## Displaying -/

theorem intercalate_comma (p : List Char) (ps : List (List Char)) :
    [',', ' '].intercalate (p :: ps) = [','].intercalate (p :: ps.map (' ' :: ·)) := by
  induction ps generalizing p with
  | nil => rfl
  | cons q ps ih =>
    rw [List.intercalate_cons_cons, ih, List.map_cons, List.intercalate_cons_cons]
    cases ps <;> simp

theorem parametersOf_intercalate {params : List (List Char)} (h : ∀ p ∈ params, IsParameter p) :
    parametersOf (([',', ' '].intercalate params).splitOn ',') = params := by
  cases params with
  | nil => rfl
  | cons p ps =>
    have hblank : ∀ q ∈ ps, Text.trim (' ' :: q) = q := by
      intro q hq
      have hdrop : Text.trim ([' '] ++ q) = Text.trim q := Text.trim_blank_append (List.all_eq_true.1 (by decide))
      exact hdrop.trans (h q (List.mem_cons_of_mem _ hq)).trim
    have hcomma : ∀ q ∈ p :: ps.map (' ' :: ·), ',' ∉ q := by
      intro q hq
      rcases List.mem_cons.1 hq with rfl | hq
      · exact (h _ List.mem_cons_self).comma
      · obtain ⟨q', hq', rfl⟩ := List.mem_map.1 hq
        simp [(h q' (List.mem_cons_of_mem _ hq')).comma]
    have htrim : (p :: ps.map (' ' :: ·)).map Text.trim = p :: ps := by
      rw [List.map_cons, (h p List.mem_cons_self).trim, List.map_map]
      exact congrArg (p :: ·) ((List.map_congr_left hblank).trans (List.map_id'' (fun _ => rfl) _))
    rw [intercalate_comma, List.splitOn_intercalate _ hcomma (by simp), parametersOf, htrim]
    exact List.filter_eq_self.2 fun q hq => by simp [(h q hq).ne]

theorem mem_intercalate {params : List (List Char)} {d : Char}
    (h : d ∈ [',', ' '].intercalate params) : d = ',' ∨ d = ' ' ∨ ∃ p ∈ params, d ∈ p := by
  induction params with
  | nil => cases h
  | cons p params ih =>
    cases params with
    | nil =>
      rw [List.intercalate_singleton] at h
      exact .inr (.inr ⟨p, List.mem_cons_self, h⟩)
    | cons q params =>
      rw [List.intercalate_cons_cons, List.append_assoc, List.mem_append] at h
      rcases h with h | h
      · exact .inr (.inr ⟨p, List.mem_cons_self, h⟩)
      · simp only [List.cons_append, List.nil_append, List.mem_cons] at h
        rcases h with h | h | h
        · exact .inl h
        · exact .inr (.inl h)
        · exact (ih h).imp_right (.imp_right fun ⟨p', hp', hd⟩ =>
            ⟨p', List.mem_cons_of_mem _ hp', hd⟩)

theorem woven_intercalate (params : List (List Char)) :
    Woven params ([',', ' '].intercalate params) := by
  induction params with
  | nil => exact .none
  | cons p params ih =>
    cases params with
    | nil =>
      rw [List.intercalate_singleton]
      exact .one p
    | cons q params =>
      rw [List.intercalate_cons_cons, List.append_assoc]
      exact .more (by simp) (List.all_eq_true.1 (by decide)) ih

/-- What is displayed of a command behind its arrow. -/
def text (c : Command) : List Char :=
  ' ' :: (c.name.toList ++
    if c.parameters.isEmpty then []
    else '(' :: ([',', ' '].intercalate c.texts ++ [')']))

theorem toList_render (c : Command) : c.render.toList = '-' :: '>' :: c.text := by
  rw [render, text, texts]
  split <;> simp [toString]

theorem texts_eq_nil {c : Command} : c.texts = [] ↔ c.parameters.isEmpty = true := by
  rw [texts, List.map_eq_nil_iff, List.isEmpty_iff]

/-- **What is displayed is read as the same command.** -/
theorem read?_text {c : Command} (h : c.Spelled) : read? c.text = some c := by
  obtain ⟨d, s, hname, hd, hword⟩ := h.name
  have hstart : Text.trimStart c.text = c.text.drop 1 := by
    rw [text, hname]
    exact (List.dropWhile_cons_of_pos (by decide)).trans (Text.trimStart_of_not_blank hd _)
  have hparen : Text.isWord '(' = false := by decide +kernel
  have hnil : c.name.toList.isEmpty = false := by rw [hname]; rfl
  rw [← hname] at hword
  unfold read?
  dsimp only
  rw [hstart, text, List.drop_succ_cons, List.drop_zero]
  by_cases hparams : c.parameters.isEmpty = true
  · rw [if_pos hparams, List.append_nil, List.takeWhile_eq_self_iff.2 hword,
      List.dropWhile_eq_nil_iff.2 hword, hnil]
    obtain ⟨name, params⟩ := c
    obtain rfl := List.isEmpty_iff.1 hparams
    simp [Text.trim, Text.trimStart, Text.trimEnd]
  · rw [if_neg hparams, List.takeWhile_append_of_pos hword, List.dropWhile_append_of_pos hword,
      List.takeWhile_cons_of_neg (by simp [hparen]), List.dropWhile_cons_of_neg (by simp [hparen]),
      List.append_nil, hnil]
    generalize hinside : [',', ' '].intercalate c.texts = inside
    have htrim : Text.trim ('(' :: (inside ++ [')'])) = '(' :: (inside ++ [')']) := by
      rw [Text.trim, Text.trimStart_of_not_blank (by decide), Text.trimEnd, ← List.cons_append,
        List.reverse_append]
      exact (congrArg List.reverse (List.dropWhile_cons_of_neg (by decide))).trans (by simp)
    have hline : inside.reverse.contains '\n' = false := by
      rw [List.contains_reverse, List.contains_eq_mem, decide_eq_false_iff_not, ← hinside]
      intro hmem
      rcases mem_intercalate hmem with h' | h' | ⟨p, hp, hmem⟩
      · simp at h'
      · simp at h'
      · exact (h.parameter p hp).2 hmem
    have hread : readParameters inside = c.parameters := by
      have htexts := map_toList_readParameters inside
      rw [← hinside, parametersOf_intercalate fun p hp => (h.parameter p hp).1, hinside] at htexts
      exact List.map_injective_iff.2 (fun _ _ => String.toList_inj.1) htexts
    rw [htrim]
    simp only [List.reverse_append, List.reverse_singleton, List.singleton_append, hline]
    rw [if_neg (by simp), List.reverse_reverse, hread, String.ofList_toList]
    rfl

end Command

/-! ## No semicolon comes to the surface -/

namespace Outline

open Command (isGap Absorbs Written)

/-- Where a gap leads to. -/
def Cursor.settle (p : Cursor) : Cursor :=
  { p with
    mode :=
      match p.mode with
      | .plain | .escape => .plain
      | .quote | .quoteEscape => .quote
      | .opened | .circumflex => .inside 0
      | .inside depth | .insideEscape depth => .inside depth }

theorem isQuiet_of_isGap {c : Char} (h : isGap c = true) : isQuiet c = true := by
  rw [isGap, Bool.or_eq_true, beq_iff_eq] at h
  rcases h with h | rfl
  · exact isQuiet_of_isBlank h
  · decide

theorem ne_of_isGap {c d : Char} (h : isGap c = true) (hd : isGap d = false) : c ≠ d := by
  rintro rfl
  rw [h] at hd
  cases hd

theorem absorbs : Absorbs Cursor.next? Cursor.settle where
  gap p c h := by
    have hquiet := isQuiet_of_isGap h
    have hbracket := ne_of_isGap h (d := ']') (by decide)
    have hcaret := ne_of_isGap h (d := '^') (by decide)
    simp only [isQuiet, List.mem_cons, List.not_mem_nil, or_false, not_or, decide_eq_true_eq]
      at hquiet
    obtain ⟨mode, depth⟩ := p
    rw [Cursor.next?, if_neg fun hp => hquiet.2.2.2.2.2.1 hp.2.2]
    cases mode <;> simp [Cursor.next, Cursor.settle, classStep, depthAfter, *]
  settle p := by
    obtain ⟨mode, depth⟩ := p
    cases mode <;> rfl

theorem scan_quiet {u : List Char} (h : ∀ c ∈ u, isQuiet c = true) (depth : Nat) :
    scan ⟨.plain, depth⟩ u = some ⟨.plain, depth⟩ := by
  induction u with
  | nil => rfl
  | cons c u ih =>
    have hc := h c List.mem_cons_self
    simp only [isQuiet, List.mem_cons, List.not_mem_nil, or_false, not_or, decide_eq_true_eq] at hc
    rw [scan_cons, Cursor.next?, if_neg fun hp => hc.2.2.2.2.2.1 hp.2.2]
    have hnext : Cursor.next ⟨.plain, depth⟩ c = ⟨.plain, depth⟩ := by
      simp [Cursor.next, depthAfter, hc]
    rw [hnext]
    exact ih fun d hd => h d (List.mem_cons_of_mem _ hd)

/-- Neither gaps nor a parenthesis lead out of a piece that has yet to be closed. -/
theorem scan_unsettled {p : Cursor} (hp : ¬p.Settled) {u : List Char}
    (h : ∀ c ∈ u, isGap c = true ∨ c = ')') : ∃ q, scan p u = some q ∧ ¬q.Settled := by
  induction u generalizing p with
  | nil => exact ⟨p, rfl, hp⟩
  | cons c u ih =>
    have hplain : p.mode ≠ .plain := fun hmode => hp (.inl hmode)
    rw [scan_cons_of_mode hplain]
    refine ih ?_ fun d hd => h d (List.mem_cons_of_mem _ hd)
    obtain ⟨mode, depth⟩ := p
    rcases h c List.mem_cons_self with hc | rfl
    · have hnext := absorbs.gap ⟨mode, depth⟩ c hc
      rw [Cursor.next?, if_neg fun h => hplain h.1, Option.some.injEq] at hnext
      rw [hnext]
      cases mode <;> simp_all [Cursor.Settled, Cursor.settle]
    · cases mode <;> simp_all [Cursor.Settled, Cursor.next, classStep]

theorem Cursor.Settled.scan_closed {p : Cursor} (hp : p.Settled) :
    ∃ q, scan p [')'] = some q ∧ q.Settled := by
  obtain ⟨mode, depth⟩ := p
  rcases hp with rfl | rfl
  · refine ⟨⟨.plain, depthAfter ')' depth⟩, ?_, .inl rfl⟩
    rw [scan_cons, Cursor.next?, if_neg (by simp)]
    rfl
  · exact ⟨⟨.plain, depth⟩, rfl, .inl rfl⟩

/-- **No semicolon comes to the surface in what is displayed** unless one did in what was read. -/
theorem settled_text {c : Command} (hc : c.Spelled) {src : List Char} (hsrc : Written c src)
    (h : ∃ p, scan ⟨.plain, 0⟩ src = some p ∧ p.Settled) :
    ∃ p, scan ⟨.plain, 0⟩ c.text = some p ∧ p.Settled := by
  have hblanks : ∀ {u : List Char}, (∀ d ∈ u, Text.isBlank d = true) → ∀ d ∈ u, isQuiet d = true :=
    fun h d hd => isQuiet_of_isBlank (h d hd)
  have hname : ∀ d ∈ c.name.toList, isQuiet d = true := by
    obtain ⟨d, s, hname, -, hword⟩ := hc.name
    rw [hname]
    exact fun e he => isQuiet_of_isWord (hword e he)
  have htext : scan ⟨.plain, 0⟩ (' ' :: c.name.toList) = some ⟨.plain, 0⟩ :=
    scan_quiet (List.forall_mem_cons.2 ⟨by decide, hname⟩) 0
  rw [Command.text, ← List.cons_append, scan_append, htext, Option.bind_some]
  split
  · exact ⟨_, rfl, .inl rfl⟩
  · next hparams =>
    cases hsrc with
    | bare hnil => exact absurd (List.isEmpty_iff.2 hnil) hparams
    | call hlead hgap hfront hcore hback htrail =>
      next lead gap front core back trail =>
      have hopen : ∀ u, scan ⟨.plain, 0⟩ ('(' :: u) = scan ⟨.plain, 1⟩ u := fun _ => rfl
      rw [scan_append, scan_quiet (hblanks hlead), Option.bind_some, scan_append, scan_quiet hname,
        Option.bind_some, scan_append, scan_quiet (hblanks hgap), Option.bind_some, hopen,
        scan_append, scan_quiet fun d hd => isQuiet_of_isGap (hfront d hd), Option.bind_some,
        scan_append] at h
      rw [hopen, scan_append]
      have hsame : scan ⟨.plain, 1⟩ core = scan ⟨.plain, 1⟩ ([',', ' '].intercalate c.texts) :=
        hcore.run_eq absorbs (Command.woven_intercalate c.texts) _
      rw [← hsame]
      cases hscan : scan ⟨.plain, 1⟩ core with
      | none => simp [hscan] at h
      | some q =>
        rw [hscan, Option.bind_some] at h
        rw [Option.bind_some]
        refine Cursor.Settled.scan_closed ?_
        by_contra hq
        obtain ⟨p, hp, hp'⟩ := scan_unsettled hq (u := back ++ ')' :: trail) (by
          intro d hd
          rcases List.mem_append.1 hd with hd | hd
          · exact .inl (hback d hd)
          · rcases List.mem_cons.1 hd with hd | hd
            · exact .inr hd
            · exact .inl (Command.isGap_of_isBlank (htrail d hd)))
        obtain ⟨p', hp'', hsettled⟩ := h
        rw [hp] at hp''
        cases hp''
        exact hp' hsettled

end Outline

end Lexigram
