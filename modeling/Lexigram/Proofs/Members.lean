import Lexigram.Proofs.Pieces

/-!
# Displayed attributes

The attributes of a rule are displayed member by member, between braces that are cut off before they
are read.

**Members** (`Document.Attributes.Member`). A member is displayed as a piece
(`Document.Attributes.Member.displays`). The signs of some members are read as the attributes in
which these are set (`Document.Attributes.Member.readMembers_append`).

Main results: `Document.Attributes.read?_text` and `Document.Attributes.read?_text_eq_none`, which say
when displayed attributes are read.
-/

namespace Lexigram

namespace Document

namespace Attributes

/-! ## Members -/

/-- A member as it is displayed. -/
inductive Member where
  | order (n : Int)
  | categories (tags : List String)
  | options (tags : List String)

namespace Member

def name : Member → String
  | order _ => "order"
  | categories _ => "categories"
  | options _ => "options"

/-- The text of a list of tags. -/
def tagsText (tags : List String) : List Char :=
  '[' :: ([',', ' '].intercalate (tags.map fun t => quotation t.toList) ++ [']'])

/-- The signs of a list of tags. -/
def tagsSigns (tags : List String) : List Sign :=
  .listOpened :: ([Sign.comma].intercalate (tags.map fun t => [.text t.toList]) ++ [.listClosed])

def value : Member → List Char
  | order n => (toString n).toList
  | categories tags | options tags => tagsText tags

def valueSigns : Member → List Sign
  | order n => [.integer n]
  | categories tags | options tags => tagsSigns tags

def text (m : Member) : List Char := quotation m.name.toList ++ (':' :: ' ' :: m.value)

def signs (m : Member) : List Sign := .text m.name.toList :: .colon :: m.valueSigns

/-- The attributes with the member set. -/
def set (a : Attributes) : Member → Attributes
  | order n => { a with order := some n }
  | categories tags => { a with categories := tags }
  | options tags => { a with options := tags }

def isLegible : Member → Bool
  | order _ => true
  | categories tags | options tags => tags.all fun t => isLegibleText t.toList

/-- The member has a value that is displayed. -/
def Sound : Member → Prop
  | order n => InRange n
  | categories tags | options tags => tags ≠ []

theorem displays_tags {tags : List String} (hne : tags ≠ []) :
    Displays (':' :: ' ' :: tagsText tags) (.colon :: tagsSigns tags)
      (tags.all fun t => isLegibleText t.toList) := by
  have hinner := displays_intercalate hne fun (t : String) _ => displays_quotation t.toList
  have hall := ((displays_colon.append displays_listOpened).append hinner).append displays_listClosed
  simpa [tagsText, tagsSigns] using hall

theorem isLegibleText_name (m : Member) : isLegibleText m.name.toList = true := by
  have hall : ["order", "categories", "options"].all fun s => isLegibleText s.toList := by
    decide +kernel
  rw [List.all_eq_true] at hall
  cases m <;> exact hall _ (by simp [name])

theorem displays (m : Member) (h : m.Sound) : Displays m.text m.signs m.isLegible := by
  have hvalue : Displays (':' :: ' ' :: m.value) (.colon :: m.valueSigns) m.isLegible := by
    cases m with
    | order n => exact displays_integer h
    | categories tags => exact displays_tags h
    | options tags => exact displays_tags h
  have hall := (displays_quotation m.name.toList).append hvalue
  rwa [m.isLegibleText_name, Bool.true_and] at hall

variable {seen : List String} {a : Attributes} {m : Member} {others : List Sign}

theorem readTagList_append {tags : List String} (hne : tags ≠ []) (others : List Sign) :
    readTagList ([Sign.comma].intercalate (tags.map fun t => [.text t.toList]) ++
      .listClosed :: others) = some (tags, others) := by
  induction tags with
  | nil => exact absurd rfl hne
  | cons t tags ih =>
    cases tags with
    | nil => simp [List.intercalate, readTagList]
    | cons t' tags =>
      have hread := ih (by simp)
      rw [List.map_cons] at hread
      rw [List.map_cons, List.map_cons, List.intercalate_cons_cons, List.append_assoc,
        List.append_assoc, List.singleton_append, List.singleton_append, readTagList, hread,
        Option.map_some, String.ofList_toList]

theorem readTags_append {tags : List String} (hne : tags ≠ []) (others : List Sign) :
    readTags (tagsSigns tags ++ others) = some (tags, others) := by
  obtain ⟨t, rest, rfl⟩ := List.exists_cons_of_ne_nil hne
  have hread := readTagList_append hne others
  have hsigns : tagsSigns (t :: rest) ++ others = .listOpened ::
      ([Sign.comma].intercalate ((t :: rest).map fun t => [.text t.toList]) ++
        .listClosed :: others) := by
    simp [tagsSigns]
  rw [hsigns, readTags.eq_def]
  split
  · next he => cases he
  · next he =>
    have hlist := (List.cons.inj he).2
    rw [hlist] at hread
    cases hread
  · next he =>
    rw [← (List.cons.inj he).2]
    exact hread
  · next hne' => exact absurd rfl (hne' _)

theorem readMember_append (hm : m.Sound) (hseen : m.name ∉ seen) (others : List Sign) :
    readMember seen m.name a (m.valueSigns ++ others) = some (m.set a, others) := by
  have hseen : ¬seen.contains m.name = true := by rwa [List.contains_iff_mem]
  unfold readMember
  rw [if_neg hseen]
  cases m with
  | order n => rfl
  | categories tags =>
    change (readTags (tagsSigns tags ++ others)).map _ = _
    rw [readTags_append hm]
    rfl
  | options tags =>
    change (readTags (tagsSigns tags ++ others)).map _ = _
    rw [readTags_append hm]
    rfl

theorem readMembers_comma {t : List Char} {s rest : List Sign} {b : Attributes}
    (h : readMember seen (String.ofList t) a s = some (b, .comma :: rest)) :
    readMembers seen a (.text t :: .colon :: s) = readMembers (String.ofList t :: seen) b rest := by
  rw [readMembers]
  split
  · next he =>
    rw [h] at he
    cases he
    rfl
  · next he =>
    rw [h] at he
    cases he
  · next hno _ => exact absurd h (hno _ _)

theorem readMembers_closed {t : List Char} {s : List Sign} {b : Attributes}
    (h : readMember seen (String.ofList t) a s = some (b, [.closed])) :
    readMembers seen a (.text t :: .colon :: s) = some b := by
  rw [readMembers]
  split
  · next he =>
    rw [h] at he
    cases he
  · next he =>
    rw [h] at he
    cases he
    rfl
  · next hno => exact absurd h (hno _)

/-- **Displayed members are read.** -/
theorem readMembers_append {ms : List Member} (hne : ms ≠ []) (hms : ∀ m ∈ ms, m.Sound)
    (hnames : (ms.map name).Nodup) (hseen : ∀ m ∈ ms, m.name ∉ seen) :
    readMembers seen a ([Sign.comma].intercalate (ms.map signs) ++ [.closed]) =
      some (ms.foldl set a) := by
  induction ms generalizing seen a with
  | nil => exact absurd rfl hne
  | cons m ms ih =>
    obtain ⟨hm, hms⟩ := List.forall_mem_cons.1 hms
    obtain ⟨hmseen, hseen⟩ := List.forall_mem_cons.1 hseen
    rw [List.map_cons] at hnames
    obtain ⟨hnew, hnames⟩ := List.nodup_cons.1 hnames
    have hread : ∀ others, readMember seen (String.ofList m.name.toList) a (m.valueSigns ++ others) =
        some (m.set a, others) := by
      intro others
      rw [String.ofList_toList]
      exact readMember_append hm hmseen others
    cases ms with
    | nil =>
      have hsigns : [Sign.comma].intercalate ([m].map signs) ++ [.closed] =
          .text m.name.toList :: .colon :: (m.valueSigns ++ [.closed]) := by
        simp [List.intercalate, signs]
      rw [hsigns, readMembers_closed (hread _)]
      rfl
    | cons m' ms =>
      have hsigns : [Sign.comma].intercalate ((m :: m' :: ms).map signs) ++ [.closed] =
          .text m.name.toList :: .colon :: (m.valueSigns ++ .comma ::
            ([Sign.comma].intercalate ((m' :: ms).map signs) ++ [.closed])) := by
        simp [List.intercalate_cons_cons, signs]
      rw [hsigns, readMembers_comma (hread _), String.ofList_toList]
      refine ih (by simp) hms hnames fun q hq hmem => ?_
      rcases List.mem_cons.1 hmem with hname | hmem
      · exact hnew (hname ▸ List.mem_map_of_mem hq)
      · exact hseen q hq hmem

end Member

/-- The members that are displayed of some attributes. -/
def members (a : Attributes) : List Member :=
  (a.order.toList.map .order) ++ (if a.categories.isEmpty then [] else [.categories a.categories]) ++
    (if a.options.isEmpty then [] else [.options a.options])

/-- Attributes as they are displayed, behind the opening brace. -/
def text (a : Attributes) : List Char :=
  ' ' :: ([',', ' '].intercalate (a.members.map Member.text) ++ [' ', '\x7d'])

/-- Whether all texts in the members are legible. -/
def isLegible (a : Attributes) : Bool := a.members.all Member.isLegible

theorem isLegible_eq (a : Attributes) :
    a.isLegible = (a.categories ++ a.options).all fun t => isLegibleText t.toList := by
  have hmember : ∀ (tags : List String) (m : List String → Member),
      (∀ tags, (m tags).isLegible = tags.all fun t => isLegibleText t.toList) →
      (if tags.isEmpty then [] else [m tags]).all Member.isLegible =
        tags.all fun t => isLegibleText t.toList := by
    intro tags m hm
    cases tags with
    | nil => rfl
    | cons t tags => simpa using hm (t :: tags)
  have horder : (a.order.toList.map Member.order).all Member.isLegible = true := by
    cases a.order <;> rfl
  rw [isLegible, members, List.all_append, List.all_append, horder, Bool.true_and,
    hmember _ _ fun _ => rfl, hmember _ _ fun _ => rfl, List.all_append]

theorem foldl_members (a : Attributes) : a.members.foldl Member.set {} = a := by
  obtain ⟨order, categories, options⟩ := a
  cases order <;> cases categories <;> cases options <;> rfl

theorem nodup_names (a : Attributes) : (a.members.map Member.name).Nodup := by
  obtain ⟨order, categories, options⟩ := a
  cases order <;> cases categories <;> cases options <;>
    simp [members, Member.name]

theorem sound_of_mem_members {a : Attributes} (h : ∀ n, a.order = some n → InRange n) :
    ∀ m ∈ a.members, m.Sound := by
  intro m hm
  simp only [members, List.mem_append, List.mem_map, Option.mem_toList] at hm
  rcases hm with (⟨n, hn, rfl⟩ | hm) | hm
  · exact h n hn
  all_goals
    split at hm
    · cases hm
    · next hne =>
      obtain rfl := List.mem_singleton.1 hm
      exact fun he => hne (List.isEmpty_iff.2 he)

/-- The text between the opening brace and the members, these, and the closing brace. -/
theorem text_append (a : Attributes) (body : List Char) :
    a.text ++ ':' :: body = ' ' :: ([',', ' '].intercalate (a.members.map Member.text) ++
      ' ' :: '\x7d' :: ':' :: body) := by
  simp [text]

theorem splitBraces?_end (body : List Char) :
    splitBraces? (' ' :: '\x7d' :: ':' :: body) = some ([' ', '\x7d'], body) := rfl

section Displayed

variable {a : Attributes} (hmembers : a.members ≠ []) (horder : ∀ n, a.order = some n → InRange n)

include hmembers horder

theorem displays_members :
    Displays ([',', ' '].intercalate (a.members.map Member.text))
      ([Sign.comma].intercalate (a.members.map Member.signs)) a.isLegible :=
  displays_intercalate hmembers fun m hm => m.displays (sound_of_mem_members horder m hm)

/-- **Legible attributes are cut off where they end, and read.** -/
theorem read?_text (hlegible : a.isLegible = true) (body : List Char) :
    splitBraces? (a.text ++ ':' :: body) = some (a.text, body) ∧
      read? ('\x7b' :: a.text) = some a := by
  have hreads := (displays_members hmembers horder).reads hlegible
  constructor
  · rw [text_append, splitBraces?_cons (by decide), hreads.uncut, splitBraces?_end]
    rfl
  · have hend : signs [' ', '\x7d'] = some [.closed] := by
      rw [signs_gap (by decide), signs_cons (by decide) rfl, signs]
      rfl
    have hsigns : signs ('\x7b' :: a.text) = some (.opened ::
        ([Sign.comma].intercalate (a.members.map Member.signs) ++ [.closed])) := by
      rw [signs_cons (by decide) rfl, text, signs_gap (by decide),
        hreads.signs _ ⟨' ', _, rfl, by decide⟩, hend]
      rfl
    have hread := @Member.readMembers_append [] {} _ hmembers (sound_of_mem_members horder)
      a.nodup_names (by simp)
    rw [read?, hsigns]
    split
    · next he =>
      rw [(List.cons.inj (Option.some.inj he)).2] at hread
      simp [readMembers] at hread
    · next he => rw [← (List.cons.inj (Option.some.inj he)).2, hread, foldl_members]
    · next hno => exact absurd rfl (hno _)

/-- **Illegible attributes are cut off somewhere, and not read.** -/
theorem read?_text_eq_none (hlegible : a.isLegible = false) (body : List Char) :
    ∃ braces body', splitBraces? (a.text ++ ':' :: body) = some (braces, body') ∧
      read? ('\x7b' :: braces) = none := by
  obtain ⟨braces, body', hcut, hnone⟩ := (displays_members hmembers horder).breaks hlegible
    (' ' :: '\x7d' :: ':' :: body) (by simp [splitBraces?_end])
  refine ⟨' ' :: braces, body', ?_, ?_⟩
  · rw [text_append, splitBraces?_cons (by decide), hcut]
    rfl
  · have hsigns : signs ('\x7b' :: ' ' :: braces) = none := by
      rw [signs_cons (by decide) rfl, signs_gap (by decide), hnone]
      rfl
    rw [read?, hsigns]

/-- The run over displayed attributes comes back to where it was. -/
theorem level_text : Level ('\x7b' :: a.text) := by
  intro parens
  have hopen : run ⟨.plain, parens, 0⟩ ('\x7b' :: a.text) = run ⟨.plain, parens, 1⟩
      ([',', ' '].intercalate (a.members.map Member.text) ++ [' ', '\x7d']) := rfl
  rw [hopen, run_append_of ((displays_members hmembers horder).inBraces parens)]
  simp [run_cons, Cursor.next?, Cursor.Ends, Cursor.start]

end Displayed

end Attributes

end Document

end Lexigram
