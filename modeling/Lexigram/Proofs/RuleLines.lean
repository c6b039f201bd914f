import Lexigram.Proofs.Members
import Lexigram.Proofs.Reordering
import Mathlib

/-!
# Displayed rules

A rule is displayed on a line of its own, in the form in which a document declares it. The line is one
statement of the document, and what is read of it depends on the attributes alone.

**Bodies** (`Document.exists_run_renderBody`). What a document declares has been split off from a
document, so its body leaves the splitting where a statement may end. What is displayed of the body
does so too, and there are no blanks around it.

**Declared definitions** (`Document.declared_of_read`). The id, the order and the body of a definition
that was read can be read again. There are no bounds on its tags: these are what may be illegible.

**Options** (`RuleOptions.ofTags_declaredTags`). The order of the tags of a rule is not kept, but the
options that they set are.

Main results: `Rule.Compiled.declares` and `Rule.Compiled.refuses`, which say what becomes of a line.
-/

namespace Lexigram

/-! ## The ends of displayed bodies -/

/-- The text ends in a character that is no blank. -/
def Text.EndsFirm (s : List Char) : Prop := ∃ t c, s = t ++ [c] ∧ Text.isBlank c = false

section Ends

open Text (EndsFirm)

variable {u v : List Char} {c : Char}

theorem Text.EndsFirm.append (h : EndsFirm v) (u : List Char) : EndsFirm (u ++ v) := by
  obtain ⟨t, c, rfl, hc⟩ := h
  exact ⟨u ++ t, c, (List.append_assoc _ _ _).symm, hc⟩

theorem Text.EndsFirm.concat (hc : Text.isBlank c = false) (u : List Char) : EndsFirm (u ++ [c]) :=
  ⟨u, c, rfl, hc⟩

theorem Text.EndsFirm.of_forall (hne : u ≠ []) (hu : ∀ c ∈ u, Text.isBlank c = false) :
    EndsFirm u :=
  ⟨u.dropLast, u.getLast hne, (List.dropLast_append_getLast hne).symm, hu _ (List.getLast_mem hne)⟩

theorem Text.EndsFirm.not_blank (h : EndsFirm u) : ∀ c ∈ u.getLast?, Text.isBlank c = false := by
  obtain ⟨t, c, rfl, hc⟩ := h
  simpa using hc

theorem Leaf.Spelled.endsFirm {l : Leaf} (h : l.Spelled) : EndsFirm l.value := by
  cases h with
  | text => exact .append (.concat (by decide) _) ['\x27']
  | @range lower upper gap gap' =>
    exact ⟨'\x27' :: (lower ++ '\x27' :: (gap ++ '.' :: '.' :: (gap' ++ '\x27' :: upper))), '\x27',
      by simp, by decide⟩
  | @expression core source anchored anchoredEnd p hcore hp =>
    cases anchoredEnd with
    | true => exact .concat (by decide) _
    | false =>
      cases hcore with
      | dot => exact ⟨caret anchored, '.', by simp [dollar], by decide⟩
      | @brackets inside hinside =>
        exact ⟨caret anchored ++ '[' :: inside, ']', by simp [dollar], by decide⟩

theorem Quantifier.endsFirm_render {q : Quantifier} (h : q.kind ≠ .once) : EndsFirm q.render := by
  have hlazy : ∀ {u : List Char}, EndsFirm u → EndsFirm (if q.lazy then u ++ ['?'] else u) := by
    intro u hu
    split
    · exact .concat (by decide) _
    · exact hu
  obtain ⟨kind, min, max, lazy⟩ := q
  cases kind with
  | once => exact absurd rfl h
  | zeroOrMore => exact hlazy ⟨[], '*', rfl, by decide⟩
  | oneOrMore => exact hlazy ⟨[], '+', rfl, by decide⟩
  | optional => exact hlazy ⟨[], '?', rfl, by decide⟩
  | range =>
    refine hlazy ?_
    dsimp only
    split_ifs
    · exact .concat (by decide) _
    · exact ⟨'\x7b' :: (Text.decimal min ++ [',']), '\x7d', by simp, by decide⟩
    · exact .concat (by decide) _

namespace Atom

open Rule (Head)

theorem endsFirm_head {head : Head} {inverted : Bool} (h : head.Spelled inverted)
    (inside : List Char) : EndsFirm (head.text inside) := by
  cases head with
  | leaf l => exact h.endsFirm
  | reference name =>
    obtain ⟨c, s, rfl, hc, hs⟩ := h
    have hchars : ∀ d ∈ c :: s, Rule.isNameChar d = true :=
      List.forall_mem_cons.2 ⟨Rule.isNameChar_of_isNameStart hc, hs⟩
    exact .of_forall (by simp [Head.text]) fun d hd =>
      Text.isBlank_of_isWord (Text.isWord_of_isNameChar (hchars d hd))
  | group lookahead => exact .concat (by decide) _

theorem endsFirm_render {a : Atom} (h : a.Spelled) : EndsFirm a.render := by
  rw [render_eq]
  by_cases hk : a.mark.quantifier.kind = .once
  · rw [Rule.render_once hk, List.append_nil]
    exact (endsFirm_head h.head _).append _
  · exact (Quantifier.endsFirm_render hk).append _

theorem endsFirm_renderChain {atoms : List Atom} (hne : atoms ≠ []) (h : SpelledChain atoms) :
    EndsFirm (renderChain atoms) := by
  induction atoms with
  | nil => exact absurd rfl hne
  | cons a atoms ih =>
    cases atoms with
    | nil =>
      rw [renderChain_single]
      exact endsFirm_render h.1
    | cons b atoms =>
      rw [renderChain_cons]
      exact (ih (by simp) h.2).append _

theorem endsFirm_renderAlternatives {alternatives : List (List Atom)} (hne : alternatives ≠ [])
    (h : SpelledAll alternatives) : EndsFirm (renderAlternatives alternatives) := by
  induction alternatives with
  | nil => exact absurd rfl hne
  | cons atoms alternatives ih =>
    cases alternatives with
    | nil =>
      rw [renderAlternatives_single]
      exact endsFirm_renderChain h.1 h.2.1
    | cons others alternatives =>
      rw [renderAlternatives_cons]
      exact (ih (by simp) h.2.2).append _

end Atom

theorem Command.endsFirm_text {c : Command} (h : c.Spelled) : EndsFirm c.text := by
  obtain ⟨d, s, hname, -, hword⟩ := h.name
  rw [text, ← List.singleton_append]
  refine EndsFirm.append ?_ _
  split
  · rw [List.append_nil, hname]
    exact .of_forall (by simp) fun e he => Text.isBlank_of_isWord (hword e he)
  · refine EndsFirm.append ?_ _
    exact EndsFirm.append (.concat (by decide) _) ['(']

end Ends

/-! ## Displayed bodies in documents -/

open Rule (renderBody commandText readBody)
open Atom (renderAlternatives)

section Bodies

variable {id : String} {base : Nat} {src : List Char} {alternatives : List (List Atom)}
  {command : Option Command}

theorem Rule.endsFirm_renderBody
    (h : (readBody id Quantifier.unbounded base src).result = .ok (alternatives, command)) :
    Text.EndsFirm (renderBody alternatives command) := by
  obtain ⟨hne, hspelled⟩ := readBody_spelled (Nat.le_refl _) h
  cases command with
  | none =>
    rw [renderBody, commandText, List.append_nil]
    exact Atom.endsFirm_renderAlternatives hne hspelled
  | some c =>
    obtain ⟨text, body, read, htext, hbody, -, -, -⟩ := readBody_eq_ok.1 h
    obtain ⟨hc, -⟩ := spelled_of_splitCommand hbody (settled_of_splitTerminator htext)
    rw [renderBody, commandText, c.toList_render]
    exact .append (.append (Command.endsFirm_text hc) [' ', '-', '>']) _

/-- What is displayed of a body stands without blanks around it. -/
theorem Rule.trim_renderBody
    (h : (readBody id Quantifier.unbounded base src).result = .ok (alternatives, command)) :
    Text.trim (renderBody alternatives command) = renderBody alternatives command := by
  obtain ⟨hne, hspelled⟩ := readBody_spelled (Nat.le_refl _) h
  refine Text.trim_eq_self ?_ (endsFirm_renderBody h).not_blank
  obtain ⟨c, t, ht, hc⟩ := Atom.renderAlternatives_starts hne hspelled
  rw [renderBody, ht]
  rintro d ⟨⟩
  exact not_blank_of_isAtomStart hc

namespace Document

open Rule (splitTerminator splitCommand readBody_eq_ok)

/-- A statement does not end behind a semicolon. -/
theorem not_final_of_semicolon {p k : Cursor} (h : p.next? ';' = some k) : ¬k.Final := by
  rintro ⟨hfree, hparens, hbraces⟩
  obtain ⟨mode, parens, braces⟩ := p
  cases mode with
  | plain =>
    rw [Cursor.next?, Option.ite_none_left_eq_some] at h
    obtain ⟨hends, h⟩ := h
    cases h
    exact hends ⟨rfl, hparens, hbraces⟩
  | slash =>
    rw [Cursor.next?, Option.ite_none_left_eq_some] at h
    obtain ⟨hends, h⟩ := h
    cases h
    exact hends (.inl ⟨rfl, hparens, hbraces⟩)
  | opened =>
    cases h
    simp [Cursor.Free] at hfree
  | inside f =>
    cases h
    cases f <;> simp [Cursor.Free, Fence.close] at hfree
  | escape f =>
    cases h
    simp [Cursor.Free] at hfree

/-- The body of a statement has no terminator. -/
theorem splitTerminator_of_run {text : List Char} {q : Cursor} (hrun : run {} src = some q)
    (hq : q.Final) (h : splitTerminator id src = .ok text) : text = src := by
  rcases Rule.splitTerminator_eq_ok h with ⟨-, rfl⟩ | ⟨back, hsplit, hback⟩
  · rfl
  · rw [Outline.eq_of_splitTop hsplit, run_append] at hrun
    obtain ⟨p, -, hrun⟩ := Option.bind_eq_some_iff.1 hrun
    rw [run_cons] at hrun
    obtain ⟨k, hk, hrun⟩ := Option.bind_eq_some_iff.1 hrun
    have hblanks : ∀ c ∈ back, Text.isBlank c = true := fun c hc =>
      Text.isBlank_of_isAsciiBlank (hback c hc)
    exact absurd (final_of_run_blanks hblanks hrun hq) (not_final_of_semicolon hk)

/-- **A displayed body** ends the statement where the one that was read does. -/
theorem exists_run_renderBody
    (h : (readBody id Quantifier.unbounded base src).result = .ok (alternatives, command))
    {q : Cursor} (hrun : run {} src = some q) (hq : q.Final) :
    ∃ q', run {} (renderBody alternatives command) = some q' ∧ q'.Final := by
  obtain ⟨text, front, read, htext, hfront, -, hread, rfl⟩ := readBody_eq_ok.1 h
  obtain rfl := splitTerminator_of_run hrun hq htext
  have halike := alike_render hread
  have hcalm : ({} : Cursor).Calm := .inl rfl
  rcases Rule.splitCommand_eq_ok hfront with ⟨-, rfl, rfl⟩ | ⟨back, c, hsplit, hc, rfl⟩
  · rw [renderBody, commandText, List.append_nil, ← halike.run_eq {} hcalm]
    exact ⟨q, hrun, hq⟩
  · obtain ⟨hspelled, hwritten⟩ := Command.read?_eq_some hc
    rw [Outline.eq_of_splitTop hsplit, run_append] at hrun
    obtain ⟨p, hp, hrun⟩ := Option.bind_eq_some_iff.1 hrun
    have hpcalm := halike.calm {} p hcalm hp
    have harrow : ∀ u : List Char, (∀ d ∈ u, isIdle d = true) → run p u = some p := fun u hu =>
      Idle.chars hu p hpcalm
    have hback : run p back = some q := by
      have := run_append_of (t := back) (harrow ['-', '>'] (List.all_eq_true.1 (by decide)))
      exact this.symm.trans hrun
    rw [renderBody, commandText, c.toList_render, run_append_of (halike.run_eq {} hcalm ▸ hp)]
    have hfront := run_append_of (t := c.text) (harrow [' ', '-', '>'] (List.all_eq_true.1 (by decide)))
    obtain ⟨q', hq', hfinal⟩ := exists_run_text hspelled hwritten hpcalm hback hq
    exact ⟨q', hfront.trans hq', hfinal⟩

end Document

end Bodies

/-! ## What documents declare -/

namespace Document

open Attributes (InRange)

/-- The definition that a declaration with some attributes makes. -/
def Declaration.definitionWith (d : Declaration) (isFragment : Bool) (a : Attributes) :
    Definition where
  id := String.ofList d.id
  body := String.ofList (Text.trim d.body)
  order := a.order
  categories := a.categories
  options :=
    if isFragment && !a.options.contains "fragment" then a.options ++ ["fragment"] else a.options

/-- A definition that a document can declare. -/
structure Declared (e : Definition) : Prop where
  id : IsId e.id.toList
  order : ∀ n, e.order = some n → InRange n
  body : ∃ q, run {} e.body.toList = some q ∧ q.Final

section Declared

variable {s text : List Char} {q : Cursor} {isFragment : Bool} {d : Declaration} {e : Definition}
  {a : Attributes}

theorem toDefinition_none (h : d.attributes = none) :
    d.toDefinition isFragment = .ok (d.definitionWith isFragment {}) := by
  rw [Declaration.toDefinition, h]
  rfl

theorem toDefinition_some (h : d.attributes = some text) (ha : Attributes.read? text = some a) :
    d.toDefinition isFragment = .ok (d.definitionWith isFragment a) := by
  simp only [Declaration.toDefinition, h, ha]
  rfl

theorem toDefinition_error (h : d.attributes = some text) (ha : Attributes.read? text = none) :
    d.toDefinition isFragment = .error (.invalidAttributes (String.ofList d.id)) := by
  simp only [Declaration.toDefinition, h, ha]
  rfl

theorem declared_of_toDefinition (h : splitDeclaration? s = some (isFragment, d))
    (he : d.toDefinition isFragment = .ok e) (hrun : run {} s = some q) (hq : q.Final) :
    Declared e := by
  obtain ⟨lead, gap, tail, hlead, hid, hgap, htail, rfl⟩ := splitDeclaration?_eq_some h
  have hinert : ∀ c ∈ lead ++ (d.id ++ gap), isInert c = true := by
    simp only [List.forall_mem_append]
    exact ⟨fun c hc => (hlead c hc).elim isInert_of_isWord isInert_of_isBlank,
      fun c hc => isInert_of_isWord (hid.isWord c hc), fun c hc => isInert_of_isBlank (hgap c hc)⟩
  have htailrun : run {} tail = some q := by
    rw [← hrun, ← run_append_of (Idle.inert hinert {} (.inl rfl))]
    simp
  -- What stands in front of the body leaves the splitting where it was.
  obtain ⟨a, rfl, horder, hbody⟩ : ∃ a, e = d.definitionWith isFragment a ∧
      (∀ n, a.order = some n → InRange n) ∧ run {} d.body = some q := by
    obtain ⟨id, attributes, body⟩ := d
    cases htail with
    | colon body =>
      rw [toDefinition_none rfl] at he
      refine ⟨{}, (Except.ok.inj he).symm, by simp, ?_⟩
      rwa [run_cons, next?_inert (by decide)] at htailrun
    | @braces text braces body hcut =>
      obtain ⟨gap', hgap', rfl⟩ := eq_of_splitBraces? hcut
      cases ha : Attributes.read? ('\x7b' :: braces) with
      | none =>
        rw [toDefinition_error rfl ha] at he
        cases he
      | some a =>
        obtain ⟨hpassed, horder⟩ := Attributes.run_of_read? ha 0
        rw [toDefinition_some rfl ha] at he
        have hgaprun : run {} (gap' ++ [':']) = some {} := by
          refine Idle.inert (List.forall_mem_append.2 ⟨fun c hc => ?_, ?_⟩) {} (.inl rfl)
          · exact isInert_of_isBlank (hgap' c hc)
          · exact List.forall_mem_singleton.2 (by decide)
        refine ⟨a, (Except.ok.inj he).symm, horder, ?_⟩
        rw [← htailrun, ← List.cons_append, run_append_of hpassed, ← run_append_of hgaprun]
        simp
  refine ⟨?_, horder, ?_⟩
  · rwa [Declaration.definitionWith, String.toList_ofList]
  · rw [Declaration.definitionWith, String.toList_ofList]
    exact exists_run_trim hbody hq

/-- A statement adds at most one rule, which it declares. -/
theorem declared_of_addStatement {st : Statement} {d d' : Document} (hrun : run {} st.text = some q)
    (hq : q.Final) (h : addStatement d st = .ok d') :
    d'.name = d.name ∧ ∀ e ∈ d'.rules, e ∈ d.rules ∨ Declared e := by
  unfold addStatement at h
  split at h
  · split at h
    · cases h
    · split at h
      · cases h
      · cases h
        exact ⟨rfl, fun e he => .inl he⟩
  · split at h
    · cases h
    · next isFragment declaration hsplit =>
      cases hdefinition : declaration.toDefinition isFragment with
      | error e => 
        rw [hdefinition] at h
        cases h
      | ok rule =>
        rw [hdefinition] at h
        cases h
        refine ⟨rfl, fun e he => (List.mem_append.1 he).imp_right fun he => ?_⟩
        obtain rfl := List.mem_singleton.1 he
        exact declared_of_toDefinition hsplit hdefinition hrun hq

theorem declared_of_statements {sts : List Statement} {d d' : Document}
    (hsts : ∀ st ∈ sts, ∃ q, run {} st.text = some q ∧ q.Final)
    (h : sts.foldlM addStatement d = .ok d') (hd : ∀ e ∈ d.rules, Declared e) :
    d'.name = d.name ∧ ∀ e ∈ d'.rules, Declared e := by
  induction sts generalizing d with
  | nil =>
    cases h
    exact ⟨rfl, hd⟩
  | cons st sts ih =>
    obtain ⟨⟨q, hrun, hq⟩, hsts⟩ := List.forall_mem_cons.1 hsts
    rw [List.foldlM_cons] at h
    cases hst : addStatement d st with
    | error e =>
      rw [hst] at h
      cases h
    | ok next =>
      rw [hst] at h
      obtain ⟨hname, hrules⟩ := declared_of_addStatement hrun hq hst
      obtain ⟨hname', hrules'⟩ := ih hsts h fun e he => (hrules e he).elim (hd e) id
      exact ⟨hname'.trans hname, hrules'⟩

theorem isGrammarName_of_nameBehind? {keyword s : List Char} {name : String}
    (h : nameBehind? keyword s = some name) : isGrammarName name.toList = true := by
  obtain ⟨t, -, h⟩ := Option.bind_eq_some_iff.1 h
  rw [Option.ite_none_right_eq_some] at h
  obtain ⟨hname, h⟩ := h
  cases h
  rwa [String.toList_ofList]

/-- **Documents declare what can be declared.** -/
theorem declared_of_read {src : List Char} {d : Document} (h : read src = .ok d) :
    isGrammarName d.name.toList = true ∧ ∀ e ∈ d.rules, Declared e := by
  unfold read at h
  cases hsts : statements src with
  | error e =>
    rw [hsts] at h
    cases h
  | ok sts =>
    rw [hsts] at h
    change ofStatements sts = .ok d at h
    unfold ofStatements at h
    split at h
    · cases h
    · next header rest =>
      split at h
      · cases h
      · next name hname =>
        have hrest : ∀ st ∈ rest, ∃ q, run {} st.text = some q ∧ q.Final := fun st hst =>
          run_of_mem_statements hsts (List.mem_cons_of_mem _ hst)
        obtain ⟨hsame, hrules⟩ := declared_of_statements hrest h (by simp)
        exact ⟨hsame ▸ isGrammarName_of_nameBehind? hname, hrules⟩

end Declared

end Document

/-! ## Options and their tags -/

namespace RuleOptions

variable {kind : RuleKind} {rule : String} {o : RuleOptions}

/-- The options without a meaning are none of those with one. -/
def Plain (o : RuleOptions) : Prop :=
  ∀ tag ∈ o.extra, tag ∉ ["skip", "retokenize", "fragment", "omit", ""]

/-- The options that are set by some more tags. -/
def insertAll (kind : RuleKind) (rule : String) (o : RuleOptions) (tags : List String) : RuleOptions :=
  tags.foldl (fun o tag => (insert kind rule o tag).1) o

theorem fst_ofTags (tags : List String) : (ofTags kind rule tags).1 = insertAll kind rule {} tags := by
  unfold ofTags insertAll
  generalize ({} : RuleOptions) = o
  generalize ([] : List Diagnostic) = ds
  induction tags generalizing o ds with
  | nil => rfl
  | cons tag tags ih => exact ih _ _

theorem plain_insert (h : o.Plain) (tag : String) : (insert kind rule o tag).1.Plain := by
  unfold insert
  split
  · exact h
  · exact h
  · exact h
  · exact h
  · exact h
  · intro t ht
    rcases List.mem_append.1 ht with ht | ht
    · exact h t ht
    · obtain rfl := List.mem_singleton.1 ht
      simp_all

theorem plain_ofTags (tags : List String) : (ofTags kind rule tags).1.Plain := by
  rw [fst_ofTags]
  unfold insertAll
  have hnew : ({} : RuleOptions).Plain := by simp [Plain]
  revert hnew
  generalize ({} : RuleOptions) = o
  induction tags generalizing o with
  | nil => exact id
  | cons tag tags ih => exact fun h => ih _ (plain_insert h tag)

theorem insert_plain {tag : String} (h : tag ∉ ["skip", "retokenize", "fragment", "omit", ""]) :
    (insert kind rule o tag).1 = { o with extra := o.extra ++ [tag] } := by
  simp only [List.mem_cons, List.not_mem_nil, or_false, not_or] at h
  unfold insert
  split <;> simp_all

theorem insertAll_append (tags tags' : List String) :
    insertAll kind rule o (tags ++ tags') = insertAll kind rule (insertAll kind rule o tags) tags' :=
  List.foldl_append

theorem insertAll_plain {tags : List String}
    (h : ∀ tag ∈ tags, tag ∉ ["skip", "retokenize", "fragment", "omit", ""]) :
    insertAll kind rule o tags = { o with extra := o.extra ++ tags } := by
  induction tags generalizing o with
  | nil => simp [insertAll]
  | cons tag tags ih =>
    obtain ⟨htag, htags⟩ := List.forall_mem_cons.1 h
    change insertAll kind rule (insert kind rule o tag).1 tags = _
    rw [insert_plain htag, ih htags]
    simp

/-- The tags that a document declares for some options: `fragment` has a keyword of its own. -/
def declaredTags (o : RuleOptions) : List String :=
  o.tags.filter (· != "fragment") ++ if o.fragment then ["fragment"] else []

/-- **Options are what their tags make them.** -/
theorem ofTags_declaredTags (h : o.Plain) : (ofTags kind rule o.declaredTags).1 = o := by
  have hextra : o.extra.filter (· != "fragment") = o.extra := by
    refine List.filter_eq_self.2 fun tag htag => ?_
    rw [bne_iff_ne]
    rintro rfl
    exact h _ htag (by simp)
  rw [fst_ofTags, declaredTags, tags, List.filter_append, hextra, List.append_assoc, insertAll_append,
    insertAll_append, insertAll_plain h]
  obtain ⟨skip, hidden, retokenize, fragment, extra⟩ := o
  cases skip <;> cases hidden <;> cases retokenize <;> cases fragment <;>
    simp [insertAll, insert]

end RuleOptions

/-! ## Displayed rules -/

open Document (Attributes Declared Declares IsStatement Idle run)
open Document.Attributes (Member quotation isLegibleText InRange)

namespace Rule

/-- The attributes that are displayed of a rule. -/
def attributes (r : Rule) : Attributes where
  order := if r.order = lastOrder then none else some r.order
  categories := r.categories
  options := r.options.tags.filter (· != "fragment")

theorem toList_renderTags (tags : List String) :
    (renderTags tags).toList = [',', ' '].intercalate (tags.map fun t => quotation t.toList) := by
  rw [renderTags, String.toList_intercalate, List.map_map]
  congr 1
  refine List.map_congr_left fun t _ => ?_
  rw [Function.comp_apply, Text.quoted, String.toList_ofList]
  simp [quotation]

/-- Each member is displayed as an attribute. -/
theorem map_toList_renderAttributes (r : Rule) :
    r.renderAttributes.map String.toList = r.attributes.members.map Member.text := by
  have horder : ∀ n : Int, ("\"order\": " ++ toString n).toList = (Member.order n).text := by
    have hname : quotation "order".toList = "\"order\"".toList := by decide +kernel
    intro n
    rw [Member.text, Member.name, hname, String.toList_append]
    rfl
  have htags : ∀ (name : String) (tags : List String),
      quotation name.toList = ("\"" ++ name ++ "\"").toList →
      ("\"" ++ name ++ "\": [" ++ renderTags tags ++ "]").toList =
        quotation name.toList ++ (':' :: ' ' :: Member.tagsText tags) := by
    intro name tags hname
    rw [hname]
    simp [Member.tagsText, toList_renderTags]
  have hcategories : ∀ tags, ("\"categories\": [" ++ renderTags tags ++ "]").toList =
      (Member.categories tags).text := fun tags => htags "categories" tags (by decide +kernel)
  have hoptions : ∀ tags, ("\"options\": [" ++ renderTags tags ++ "]").toList =
      (Member.options tags).text := fun tags => htags "options" tags (by decide +kernel)
  unfold renderAttributes attributes Attributes.members
  rw [List.map_append, List.map_append, List.map_append, List.map_append]
  congr 1
  · congr 1
    · split
      · rfl
      · exact congrArg (fun u => [u]) (horder _)
    · split
      · rfl
      · exact congrArg (fun u => [u]) (hcategories _)
  · split
    · rfl
    · exact congrArg (fun u => [u]) (hoptions _)

/-- What is displayed between the id and the colon. -/
def front (r : Rule) : List Char :=
  if r.attributes.members.isEmpty then [] else ' ' :: '\x7b' :: r.attributes.text

/-- What is displayed in front of the semicolon. -/
def line (r : Rule) : List Char :=
  (if r.options.fragment then "fragment ".toList else []) ++
    (r.id.toList ++ (r.front ++ ':' :: ' ' :: renderBody r.alternatives r.command))

theorem toList_render (r : Rule) : r.render.toList = r.line ++ [';'] := by
  have hempty : r.renderAttributes.isEmpty = r.attributes.members.isEmpty := by
    have hlength := congrArg List.length r.map_toList_renderAttributes
    rw [List.length_map, List.length_map] at hlength
    rw [Bool.eq_iff_iff, List.isEmpty_iff_length_eq_zero, List.isEmpty_iff_length_eq_zero, hlength]
  have hfront : (if r.renderAttributes.isEmpty then ""
      else " \x7b " ++ ", ".intercalate r.renderAttributes ++ " \x7d").toList = r.front := by
    rw [front, hempty]
    split
    · rfl
    · rw [Attributes.text, ← map_toList_renderAttributes]
      simp [String.toList_intercalate]
  have hfragment : (if r.options.fragment then "fragment " else "").toList =
      if r.options.fragment then "fragment ".toList else [] := by
    split <;> rfl
  have hcolon : ": ".toList = [':', ' '] := rfl
  have hsemicolon : ";".toList = [';'] := rfl
  rw [render, line, renderBody]
  cases r.command with
  | none =>
    simp only [String.toList_append, hfront, hfragment, String.toList_ofList, hcolon, hsemicolon,
      commandText, String.toList_empty, List.append_assoc, List.cons_append, List.nil_append]
  | some c =>
    have hblank : " ".toList = [' '] := rfl
    simp only [String.toList_append, hfront, hfragment, String.toList_ofList, hcolon, hsemicolon,
      hblank, commandText, List.append_assoc, List.cons_append, List.nil_append]

/-! ## The line of a rule -/

variable {r : Rule}

/-- The rule was compiled from a definition that a document can declare. -/
def Compiled (r : Rule) : Prop :=
  ∃ (b : Builder) (e : Definition), Declared e ∧ b.settings = {} ∧ (b.ruleOf e).result = .ok r

/-- Whether the attributes that are displayed of a rule are read again. -/
def isLegible (r : Rule) : Bool := (r.categories ++ r.options.tags).all fun t => isLegibleText t.toList

/-- The definition that a document declares in which the rule is displayed. -/
def definition (r : Rule) : Definition where
  id := r.id
  body := String.ofList (renderBody r.alternatives r.command)
  order := r.attributes.order
  categories := r.categories
  options := r.options.declaredTags

/-- The declaration of a rule with some text for its attributes. -/
def declaration (r : Rule) (attributes : Option (List Char)) : Document.Declaration where
  id := r.id.toList
  attributes := attributes
  body := ' ' :: renderBody r.alternatives r.command

theorem isLegible_attributes (r : Rule) : r.attributes.isLegible = r.isLegible := by
  have hfragment : isLegibleText "fragment".toList = true := by decide +kernel
  rw [Document.Attributes.isLegible_eq, isLegible, List.all_append, List.all_append]
  congr 1
  rw [attributes, List.all_filter]
  congr 1
  funext t
  by_cases ht : t = "fragment"
  · rw [ht, hfragment, Bool.or_true]
  · simp [ht]

theorem front_of_members (h : r.attributes.members ≠ []) :
    r.front = ' ' :: '\x7b' :: r.attributes.text :=
  if_neg fun he => h (List.isEmpty_iff.1 he)

section Compiled

variable (h : r.Compiled)

include h

theorem Compiled.isId : Document.IsId r.id.toList := by
  obtain ⟨b, e, he, -, hr⟩ := h
  rw [Builder.id_of_ruleOf hr]
  exact he.id

theorem Compiled.inRange : ∀ n, r.attributes.order = some n → InRange n := by
  obtain ⟨b, e, he, -, hr⟩ := h
  obtain ⟨-, _, _, -, -, rfl⟩ := Builder.ruleOf_eq_ok.1 hr
  intro n hn
  refine he.order n ?_
  obtain ⟨hlast, hn⟩ := Option.ite_none_left_eq_some.1 hn
  change ¬e.order.getD lastOrder = lastOrder at hlast
  cases horder : e.order with
  | none => exact absurd (horder ▸ rfl) hlast
  | some m =>
    rw [← hn]
    change some m = some (e.order.getD lastOrder)
    rw [horder]
    rfl

theorem Compiled.readBody :
    ∃ src q, run {} src = some q ∧ q.Final ∧
      (Rule.readBody r.id Quantifier.unbounded r.handle src).result =
        .ok (r.alternatives, r.command) := by
  obtain ⟨b, e, he, hsettings, hr⟩ := h
  obtain ⟨q, hrun, hq⟩ := he.body
  obtain ⟨-, alternatives, command, hread, -, rfl⟩ := Builder.ruleOf_eq_ok.1 hr
  rw [hsettings] at hread
  exact ⟨_, q, hrun, hq, hread⟩

theorem Compiled.plain : r.options.Plain := by
  obtain ⟨b, e, he, -, hr⟩ := h
  obtain ⟨-, _, _, -, -, rfl⟩ := Builder.ruleOf_eq_ok.1 hr
  exact RuleOptions.plain_ofTags e.options

theorem Compiled.level_front : Document.Level r.front := by
  by_cases hmembers : r.attributes.members = []
  · rw [front, hmembers]
    exact Idle.nil.level
  · have hblank : Document.Level [' '] := (Idle.inert (List.all_eq_true.1 (by decide))).level
    rw [front_of_members hmembers]
    exact hblank.append (Document.Attributes.level_text hmembers h.inRange)

theorem Compiled.exists_run_line : ∃ q, run {} r.line = some q ∧ q.Final := by
  obtain ⟨src, q, hrun, hq, hread⟩ := h.readBody
  obtain ⟨q', hrun', hq'⟩ := Document.exists_run_renderBody hread hrun hq
  have hkeyword : Document.Level (if r.options.fragment then "fragment ".toList else []) := by
    split
    · exact (Idle.inert (List.all_eq_true.1 (by decide))).level
    · exact Idle.nil.level
  have hid : Document.Level r.id.toList :=
    (Idle.inert fun c hc => Document.isInert_of_isWord (h.isId.isWord c hc)).level
  have hcolon : Document.Level [':', ' '] := (Idle.inert (List.all_eq_true.1 (by decide))).level
  have hfront := ((hkeyword.append hid).append h.level_front).append hcolon
  have hline : r.line = (if r.options.fragment then "fragment ".toList else []) ++ r.id.toList ++
      r.front ++ [':', ' '] ++ renderBody r.alternatives r.command := by
    simp only [line, List.append_assoc, List.cons_append, List.nil_append]
  exact ⟨q', by rw [hline, Document.run_append_of (hfront 0), hrun'], hq'⟩

theorem Compiled.trim_renderBody :
    Text.trim (renderBody r.alternatives r.command) = renderBody r.alternatives r.command := by
  obtain ⟨src, q, -, -, hread⟩ := h.readBody
  exact Rule.trim_renderBody hread

theorem Compiled.trim_line : Text.trim r.line = r.line ∧ r.line ≠ [] := by
  obtain ⟨src, q, -, -, hread⟩ := h.readBody
  obtain ⟨c, s, hid, hc, -⟩ := h.isId
  have hend : Text.EndsFirm r.line :=
    .append (.append (.append (.append (endsFirm_renderBody hread) [':', ' ']) _) _) _
  have hstart : ∃ d t, r.line = d :: t ∧ Text.isBlank d = false := by
    rw [line, hid]
    split
    · exact ⟨'f', _, rfl, by decide⟩
    · exact ⟨c, _, rfl, Text.isBlank_of_isWord (Document.isWord_of_isNameStart hc)⟩
  obtain ⟨d, t, ht, hd⟩ := hstart
  refine ⟨Text.trim_eq_self ?_ hend.not_blank, by simp [ht]⟩
  rw [ht]
  rintro e ⟨⟩
  exact hd

theorem Compiled.isStatement : IsStatement ('\n' :: r.line) := by
  obtain ⟨q, hrun, hq⟩ := h.exists_run_line
  obtain ⟨htrim, hne⟩ := h.trim_line
  refine ⟨?_, q, ?_, hq⟩
  · rw [← List.singleton_append, Text.trim_blank_append (List.all_eq_true.1 (by decide)), htrim]
    simpa using hne
  · rw [Document.run_cons, Document.next?_inert (by decide)]
    exact hrun

theorem Compiled.definitionWith (attributes : Option (List Char)) :
    (r.declaration attributes).definitionWith r.options.fragment r.attributes = r.definition := by
  have hbody : Text.trim (' ' :: renderBody r.alternatives r.command) =
      renderBody r.alternatives r.command := by
    rw [← List.singleton_append, Text.trim_blank_append (List.all_eq_true.1 (by decide)),
      h.trim_renderBody]
  have hcontains : r.attributes.options.contains "fragment" = false := by
    rw [← Bool.not_eq_true, List.contains_iff_mem, Rule.attributes, List.mem_filter]
    simp
  rw [declaration, Document.Declaration.definitionWith, definition, hbody, String.ofList_toList,
    hcontains, RuleOptions.declaredTags]
  cases r.options.fragment <;> simp [Rule.attributes]

/-- **The line of a legible rule declares it.** -/
theorem Compiled.declares (hlegible : r.isLegible = true) : Declares r.line r.definition := by
  by_cases hmembers : r.attributes.members = []
  · have hattributes : r.attributes = {} := by
      rw [← r.attributes.foldl_members, hmembers]
      rfl
    have hdefinition : (r.declaration none).toDefinition r.options.fragment = .ok r.definition := by
      rw [Document.toDefinition_none rfl, ← hattributes, h.definitionWith]
    have hdeclares := @Document.declares_of [] _ (r.declaration none) _ h.isId (by simp) (.colon _)
      r.options.fragment hdefinition
    rw [line, front, hmembers]
    exact hdeclares
  · rw [← isLegible_attributes] at hlegible
    obtain ⟨hcut, hread⟩ := Document.Attributes.read?_text hmembers h.inRange hlegible
      (' ' :: renderBody r.alternatives r.command)
    have hdefinition : (r.declaration (some ('\x7b' :: r.attributes.text))).toDefinition
        r.options.fragment = .ok r.definition := by
      rw [Document.toDefinition_some rfl hread, h.definitionWith]
    have hdeclares := @Document.declares_of [' '] _ (r.declaration (some ('\x7b' :: r.attributes.text)))
      _ h.isId (List.all_eq_true.1 (by decide)) (.braces hcut) r.options.fragment hdefinition
    rw [line, front_of_members hmembers]
    exact hdeclares

/-- **The line of an illegible rule is refused**, for its attributes. -/
theorem Compiled.refuses (hlegible : r.isLegible = false) (line : Nat) (d : Document) :
    Document.addStatement d ⟨line, r.line⟩ = .error (.invalidAttributes r.id) := by
  have hmembers : r.attributes.members ≠ [] := by
    intro hmembers
    rw [← r.isLegible_attributes, Document.Attributes.isLegible, hmembers] at hlegible
    cases hlegible
  rw [← isLegible_attributes] at hlegible
  obtain ⟨braces, body, hcut, hnone⟩ := Document.Attributes.read?_text_eq_none hmembers h.inRange
    hlegible (' ' :: renderBody r.alternatives r.command)
  have hrefused := @Document.addStatement_append [' '] _ ⟨r.id.toList, some ('\x7b' :: braces), body⟩
    h.isId (List.all_eq_true.1 (by decide)) (.braces hcut) r.options.fragment line d
  rw [Document.toDefinition_error rfl hnone, String.ofList_toList] at hrefused
  rw [Rule.line, front_of_members hmembers]
  exact hrefused

end Compiled

end Rule

end Lexigram
