import Lexigram.Proofs.Cycles
import Mathlib.Data.List.Nodup

/-!
# The search for cycles

What a search reports are cycles, each of them simple and reachable, no two from one vertex, and no
cycle that can be reached goes without a report from one of its vertices.

**Soundness** (`Approaches`, `Proper`). The path of a search leads from a start to where it is, so
what it closes is a cycle.

**Completeness** (`Complete`). What was entered and left again has only successors that were
entered. So the search enters all that can be reached, and what it enters is accessible
(`Explored`).

**Termination** (`descend`). Written as calls that push on a stack, with sets that are shared by all
of them, the search never nests calls deeper than there are vertices with successors, and one more.

Main result: `search_correct`.
-/

namespace Lexigram.Cycles

variable {α : Type}

/-- All vertices of a cycle lead on to its first one. -/
theorem IsCycle.transGen_first {follows : α → α → Prop} {v w : α} {vs : List α}
    (h : IsCycle follows (v :: vs)) (hw : w ∈ v :: vs) : Relation.TransGen follows v w := by
  obtain ⟨front, back, hsplit⟩ := List.append_of_mem hw
  have hchain : (w :: (back ++ [v])).IsChain fun v w => follows w v := by
    have hwhole : (v :: vs ++ [v]).IsChain fun v w => follows w v := h
    rw [hsplit, List.append_assoc, List.cons_append] at hwhole
    exact hwhole.right_of_append
  have hpath : (w :: (back ++ [v])).IsChain (Relation.TransGen fun v w => follows w v) :=
    List.IsChain.imp (fun _ _ => .single) hchain
  have hlast : v ∈ back ++ [v] := by simp
  exact Relation.transGen_swap.1 (hpath.rel_cons hlast)

/-- From everywhere on a cycle one comes back to where one was. -/
theorem IsCycle.transGen_self {follows : α → α → Prop} {w : α} {cycle : List α}
    (h : IsCycle follows cycle) (hw : w ∈ cycle) : Relation.TransGen follows w w := by
  cases cycle with
  | nil => simp at hw
  | cons v vs =>
    have hround : w ∈ vs ++ [v] := by
      rcases List.mem_cons.1 hw with rfl | hw <;> simp [*]
    exact (h.transGen hround).trans (h.transGen_first hw)

variable [DecidableEq α]
variable {graph : Graph α} {path : List α} {v w : α} {st : Search α}

/-! ## What is reported is a cycle -/

/-- A vertex can be reached from one of some others. -/
def ReachedFrom (graph : Graph α) (starts : List α) (v : α) : Prop :=
  ∃ s ∈ starts, Relation.ReflTransGen (fun u w => Follows graph w u) s v

/-- A path, its end first, is made of different vertices that can be reached, each a successor of
the one before. -/
structure Approaches (graph : Graph α) (starts path : List α) : Prop where
  follows : path.IsChain (Follows graph)
  nodup : path.Nodup
  reached : ∀ v ∈ path, ReachedFrom graph starts v

/-- A report is a simple cycle that can be reached, with its first vertex again at the end. -/
def IsReport (graph : Graph α) (starts report : List α) : Prop :=
  ∃ v vs, report = v :: vs ++ [v] ∧ IsCycle (Follows graph) (v :: vs) ∧ (v :: vs).Nodup ∧
    ReachedFrom graph starts v

/-- What was found are reports, no two of them from one vertex. -/
structure Proper (graph : Graph α) (starts : List α) (found : List (List α)) : Prop where
  reports : ∀ report ∈ found, IsReport graph starts report
  distinct : (found.map List.head?).Nodup

variable {starts : List α} {found : List (List α)}

theorem Approaches.push (h : Approaches graph starts path) (hp : v ∉ path)
    (hlast : ∀ u ∈ path.head?, Follows graph v u) (hv : ReachedFrom graph starts v) :
    Approaches graph starts (v :: path) where
  follows := List.isChain_cons.2 ⟨hlast, h.follows⟩
  nodup := List.nodup_cons.2 ⟨hp, h.nodup⟩
  reached := by
    intro w hw
    rcases List.mem_cons.1 hw with rfl | hw
    · exact hv
    · exact h.reached w hw

theorem ReachedFrom.follow (h : ReachedFrom graph starts v) (hw : Follows graph w v) :
    ReachedFrom graph starts w := by
  obtain ⟨s, hs, hpath⟩ := h
  exact ⟨s, hs, hpath.tail hw⟩

theorem cycleAt_append {front back : List α} (hfront : v ∉ front) :
    cycleAt v (front ++ v :: back) = v :: front.reverse ++ [v] := by
  have hbefore : (front ++ v :: back).takeWhile (· != v) = front := by
    rw [List.takeWhile_append_of_pos]
    · simp
    · intro u hu
      simpa using ne_of_mem_of_not_mem hu hfront
  rw [cycleAt, hbefore]

/-- The part of a path from a vertex on is a cycle if the vertex follows its end. -/
theorem Approaches.isReport (h : Approaches graph starts path) (hp : v ∈ path)
    (hlast : ∀ u ∈ path.head?, Follows graph v u) : IsReport graph starts (cycleAt v path) := by
  obtain ⟨front, back, rfl, hfront⟩ := List.eq_append_cons_of_mem hp
  refine ⟨v, front.reverse, cycleAt_append hfront, ?_, ?_, h.reached v hp⟩
  · -- Backwards, the cycle is the front of the path between its two ends.
    have hchain : (v :: (front ++ [v])).IsChain (Follows graph) := by
      have hclosed : (v :: (front ++ v :: back)).IsChain (Follows graph) :=
        List.isChain_cons.2 ⟨hlast, h.follows⟩
      rw [show v :: (front ++ v :: back) = (v :: (front ++ [v])) ++ back by simp] at hclosed
      exact hclosed.left_of_append
    have hreverse := List.isChain_reverse.2 hchain
    simpa [IsCycle] using hreverse
  · have hnodup := h.nodup
    simp only [List.nodup_append] at hnodup
    simpa [List.nodup_reverse, hfront] using hnodup.1

theorem Proper.concat (h : Proper graph starts found) (hv : ¬Reports found v)
    (hreport : IsReport graph starts (cycleAt v path)) :
    Proper graph starts (found ++ [cycleAt v path]) where
  reports := by
    intro report hmem
    rcases List.mem_append.1 hmem with hmem | hmem
    · exact h.reports report hmem
    · rw [List.mem_singleton.1 hmem]
      exact hreport
  distinct := by
    rw [List.map_append, List.map_singleton]
    refine List.nodup_append.2 ⟨h.distinct, List.pairwise_singleton _ _, ?_⟩
    intro head hhead head' hhead' heq
    obtain ⟨cycle, hcycle, rfl⟩ := List.mem_map.1 hhead
    rw [List.mem_singleton.1 hhead'] at heq
    exact hv ⟨cycle, hcycle, heq⟩

/-- **A search finds nothing but cycles.** -/
theorem visitAll_proper (path vs : List α) (st : Search α) (hpath : Approaches graph starts path)
    (hvs : ∀ v ∈ vs, ReachedFrom graph starts v ∧ ∀ u ∈ path.head?, Follows graph v u)
    (hst : Proper graph starts st.found) :
    Proper graph starts (visitAll graph path vs st).found := by
  refine visitAll_induction graph (R := fun path vs st st' =>
    Approaches graph starts path →
      (∀ v ∈ vs, ReachedFrom graph starts v ∧ ∀ u ∈ path.head?, Follows graph v u) →
      Proper graph starts st.found → Proper graph starts st'.found)
    ?known ?report ?visited ?enter ?nil ?cons path vs st hpath hvs hst
  case known => exact fun _ _ _ _ _ _ _ h => h
  case visited => exact fun _ _ _ _ _ _ _ h => h
  case nil => exact fun _ _ _ _ h => h
  case report =>
    intro path v st hp hv hpath hvs hst
    exact hst.concat hv (hpath.isReport hp (hvs v List.mem_cons_self).2)
  case enter =>
    intro path v st st' hp hv hnext hpath hvs hst
    obtain ⟨hreached, hlast⟩ := hvs v List.mem_cons_self
    refine hnext (hpath.push hp hlast hreached) ?_ hst
    intro w hw
    have hfollows : Follows graph w v := follows_iff.2 hw
    exact ⟨hreached.follow hfollows, by simpa using hfollows⟩
  case cons =>
    intro path v vs st st' st'' hfirst hrest hpath hvs hst
    have hv := hvs v List.mem_cons_self
    exact hrest hpath (fun w hw => hvs w (List.mem_cons_of_mem v hw))
      (hfirst hpath (by simpa using hv) hst)

theorem search_proper (graph : Graph α) (starts : List α) :
    Proper graph starts (search graph starts) :=
  visitAll_proper [] starts {} ⟨.nil, .nil, by simp⟩
    (fun v hv => ⟨⟨v, hv, .refl⟩, by simp⟩) ⟨by simp, .nil⟩

/-! ## All that can be reached is entered -/

/-- Every vertex that was entered and is not on a path has only successors that were entered. -/
def Complete (graph : Graph α) (path visited : List α) : Prop :=
  ∀ v ∈ visited, v ∉ path → ∀ w, Follows graph w v → w ∈ visited

/-- **A search leaves nothing out.** -/
theorem visitAll_complete (path vs : List α) (st : Search α) (hpath : path ⊆ st.visited)
    (hst : Complete graph path st.visited) :
    st.visited ⊆ (visitAll graph path vs st).visited ∧
      vs ⊆ (visitAll graph path vs st).visited ∧
      Complete graph path (visitAll graph path vs st).visited := by
  refine visitAll_induction graph (R := fun path vs st st' =>
    path ⊆ st.visited → Complete graph path st.visited →
      st.visited ⊆ st'.visited ∧ vs ⊆ st'.visited ∧ Complete graph path st'.visited)
    ?known ?report ?visited ?enter ?nil ?cons path vs st hpath hst
  case known | report =>
    intro path v st hp _ hpath hst
    exact ⟨List.Subset.refl _, by simpa using hpath hp, hst⟩
  case visited =>
    intro path v st _ hv _ hst
    exact ⟨List.Subset.refl _, by simpa using hv, hst⟩
  case nil =>
    intro path st _ hst
    exact ⟨List.Subset.refl _, List.nil_subset _, hst⟩
  case enter =>
    intro path v st st' hp hv hnext hpath hst
    have hentered : Complete graph (v :: path) (v :: st.visited) := by
      intro u hu hoff w hw
      simp only [List.mem_cons, not_or] at hu hoff
      exact List.mem_cons_of_mem v (hst u (hu.resolve_left hoff.1) hoff.2 w hw)
    obtain ⟨hgrows, hsuccessors, hcomplete⟩ := hnext (List.cons_subset_cons v hpath) hentered
    obtain ⟨hvisited, hkept⟩ := List.cons_subset.1 hgrows
    refine ⟨hkept, by simpa using hvisited, fun u hu hoff w hw => ?_⟩
    by_cases he : u = v
    · subst he
      exact hsuccessors (follows_iff.1 hw)
    · exact hcomplete u hu (by simp [he, hoff]) w hw
  case cons =>
    intro path v vs st st' st'' hfirst hrest hpath hst
    obtain ⟨hgrows, hv, hmiddle⟩ := hfirst hpath hst
    obtain ⟨hgrows', hvs, hend⟩ := hrest (List.Subset.trans hpath hgrows) hmiddle
    refine ⟨List.Subset.trans hgrows hgrows', List.cons_subset.2 ⟨?_, hvs⟩, hend⟩
    exact hgrows' (hv List.mem_cons_self)

theorem mem_visited_of_reachedFrom (h : ReachedFrom graph starts v) :
    v ∈ (visitAll graph [] starts {}).visited := by
  have hnothing : Complete graph [] ({} : Search α).visited := fun v hv => by simp at hv
  obtain ⟨-, hstarts, hcomplete⟩ :=
    visitAll_complete [] starts {} (List.nil_subset _) hnothing
  obtain ⟨s, hs, hpath⟩ := h
  induction hpath with
  | refl => exact hstarts hs
  | tail _ hfollows ih => exact hcomplete _ ih List.not_mem_nil _ hfollows

/-- From no vertex that can be reached a path goes on without end, if vertices from which a cycle is
reported are not entered. -/
theorem acc_of_reachedFrom (h : ReachedFrom graph starts v) :
    Acc (Advances graph (Reports (search graph starts))) v := by
  have hnothing : Explored graph (Reports (search graph starts)) [] ({} : Search α).visited :=
    fun w hw => absurd hw List.not_mem_nil
  have hclears := visitAll_clears graph (Reports (search graph starts)) [] starts {}
  have hexplored := (hclears.explores (fun _ hw => hw) hnothing).1
  exact (hexplored v (mem_visited_of_reachedFrom h)).resolve_left List.not_mem_nil

/-- **Every cycle that can be reached is met.** -/
theorem exists_reported_of_reachedFrom {cycle : List α} (hcycle : IsCycle (Follows graph) cycle)
    (hv : v ∈ cycle) (h : ReachedFrom graph starts v) :
    ∃ w ∈ cycle, Reports (search graph starts) w := by
  by_contra hnone
  have hno : ∀ w ∈ cycle, ¬Reports (search graph starts) w :=
    fun w hw hreports => hnone ⟨w, hw, hreports⟩
  have hadvances : IsCycle (Advances graph (Reports (search graph starts))) cycle :=
    hcycle.imp fun _ _ w hw hfollows => ⟨hfollows, hno w hw⟩
  exact not_transGen_of_acc (acc_of_reachedFrom h) (hadvances.transGen_self hv)

/-! ## Nested calls -/

/-- What all calls of a search share. -/
structure Ledger (α : Type) where
  visited : List α := []
  /-- The vertices from which a cycle was reported. -/
  reported : List α := []
  reports : List (List α) := []

/-- Searches on from a vertex behind those on a stack, the last of which was pushed last, in calls
that are nested at most so deep. There is no answer if they would have to be nested deeper. -/
def descend (graph : Graph α) : Nat → List α → Ledger α → α → Option (Ledger α)
  | 0, _, _, _ => none
  | depth + 1, stack, l, v =>
    if v ∈ stack then
      if v ∈ l.reported then some l
      else
        some { l with
          reported := v :: l.reported
          reports := l.reports ++ [stack.drop (stack.idxOf v) ++ [v]] }
    else if v ∈ l.visited then some l
    else
      (successors graph v).foldlM (descend graph depth (stack ++ [v]))
        { l with visited := v :: l.visited }

/-- A ledger says how far a search is. -/
structure Ledger.Records (l : Ledger α) (st : Search α) : Prop where
  visited : l.visited = st.visited
  reports : l.reports = st.found
  reported : ∀ v, v ∈ l.reported ↔ Reports st.found v

theorem reports_concat : Reports (found ++ [cycleAt v path]) w ↔ w = v ∨ Reports found w := by
  simp [Reports, cycleAt, or_and_right, exists_or, or_comm, eq_comm]

/-- The part of a stack from a vertex on is the way round its cycle. -/
theorem drop_idxOf (hp : v ∈ path) (hnodup : path.Nodup) :
    path.reverse.drop (path.reverse.idxOf v) ++ [v] = cycleAt v path := by
  obtain ⟨front, back, rfl, hfront⟩ := List.eq_append_cons_of_mem hp
  have hback : v ∉ back.reverse := by
    simp only [List.nodup_append, List.nodup_cons] at hnodup
    simpa using hnodup.2.1.1
  have hstack : (front ++ v :: back).reverse = back.reverse ++ v :: front.reverse := by simp
  rw [hstack, List.idxOf_append_of_notMem hback, List.idxOf_cons_self, Nat.add_zero,
    List.drop_left, cycleAt_append hfront]

/-- **No call is nested deeper than there are vertices to be on the stack.** -/
theorem foldlM_descend (path vs : List α) (st : Search α) (depth : Nat) (l : Ledger α)
    (hpath : path.Nodup) (hdepth : remaining (graph.map Prod.fst) path ≤ depth)
    (hl : l.Records st) :
    ∃ l', vs.foldlM (descend graph (depth + 1) path.reverse) l = some l' ∧
      l'.Records (visitAll graph path vs st) := by
  refine visitAll_induction graph (R := fun path vs st st' =>
    ∀ depth l, path.Nodup → remaining (graph.map Prod.fst) path ≤ depth → Ledger.Records l st →
      ∃ l', vs.foldlM (descend graph (depth + 1) path.reverse) l = some l' ∧ l'.Records st')
    ?known ?report ?visited ?enter ?nil ?cons path vs st depth l hpath hdepth hl
  case known =>
    intro path v st hp hv depth l _ _ hl
    have hreported := (hl.reported v).2 hv
    exact ⟨l, by simp [descend, hp, hreported], hl⟩
  case report =>
    intro path v st hp hv depth l hpath _ hl
    have hunreported := mt (hl.reported v).1 hv
    refine ⟨⟨l.visited, v :: l.reported, l.reports ++ [cycleAt v path]⟩, ?_, hl.visited, ?_, ?_⟩
    · simp [descend, hp, hunreported, ← drop_idxOf hp hpath]
    · rw [hl.reports]
    · intro w
      rw [List.mem_cons, hl.reported, reports_concat]
  case visited =>
    intro path v st hp hv depth l _ _ hl
    have hvisited : v ∈ l.visited := hl.visited ▸ hv
    exact ⟨l, by simp [descend, hp, hvisited], hl⟩
  case enter =>
    intro path v st st' hp hv hnext depth l hpath hdepth hl
    have hunvisited : v ∉ l.visited := hl.visited ▸ hv
    have hentered : Ledger.Records { l with visited := v :: l.visited }
        { st with visited := v :: st.visited } :=
      ⟨congrArg (v :: ·) hl.visited, hl.reports, hl.reported⟩
    have hnodup : (v :: path).Nodup := List.nodup_cons.2 ⟨hp, hpath⟩
    have hcall : [v].foldlM (descend graph (depth + 1) path.reverse) l =
        (successors graph v).foldlM (descend graph depth (v :: path).reverse)
          { l with visited := v :: l.visited } := by
      simp [descend, hp, hunvisited]
    rw [hcall]
    cases hg : graph.lookup v with
    | some next =>
      -- A vertex with successors is one less that can still be pushed.
      have hless := remaining_cons_lt (mem_of_lookup hg) hp
      obtain ⟨less, rfl⟩ := Nat.exists_eq_add_one_of_ne_zero (n := depth) (by omega)
      exact hnext less _ hnodup (by omega) hentered
    | none =>
      have hnone : successors graph v = [] := by simp [successors, hg]
      rw [hnone] at hnext ⊢
      simpa using hnext _ _ hnodup (Nat.le_refl _) hentered
  case nil =>
    intro path st depth l _ _ hl
    exact ⟨l, rfl, hl⟩
  case cons =>
    intro path v vs st st' st'' hfirst hrest depth l hpath hdepth hl
    obtain ⟨l', hcall, hl'⟩ := hfirst depth l hpath hdepth hl
    obtain ⟨l'', hcalls, hl''⟩ := hrest depth l' hpath hdepth hl'
    have hone : descend graph (depth + 1) path.reverse l v = some l' := by simpa using hcall
    exact ⟨l'', by simp [hone, hcalls], hl''⟩

/-! ## The result -/

/-- **The search for cycles is correct.** On every graph and from all starts it comes to an end, in
calls nested no deeper than there are vertices with successors, and one more. What it reports are
simple cycles that can be reached from the starts, no two from one vertex, and every cycle that can
be reached passes through a vertex from which one is reported. So nothing is reported if and only if
no cycle can be reached. -/
theorem search_correct (graph : Graph α) (starts : List α) :
    (∀ depth, graph.length < depth →
      ∃ l, starts.foldlM (descend graph depth []) {} = some l ∧
        l.reports = search graph starts ∧ ∀ v, v ∈ l.reported ↔ Reports (search graph starts) v) ∧
    (∀ report ∈ search graph starts, ∃ v vs, report = v :: vs ++ [v] ∧
      IsCycle (Follows graph) (v :: vs) ∧ (v :: vs).Nodup ∧ ReachedFrom graph starts v) ∧
    ((search graph starts).map List.head?).Nodup ∧
    (∀ cycle, IsCycle (Follows graph) cycle → (∃ v ∈ cycle, ReachedFrom graph starts v) →
      ∃ w ∈ cycle, Reports (search graph starts) w) ∧
    (search graph starts = [] ↔
      ¬∃ cycle, IsCycle (Follows graph) cycle ∧ ∃ v ∈ cycle, ReachedFrom graph starts v) := by
  have hproper := search_proper graph starts
  have hmet : ∀ cycle, IsCycle (Follows graph) cycle →
      (∃ v ∈ cycle, ReachedFrom graph starts v) → ∃ w ∈ cycle, Reports (search graph starts) w := by
    intro cycle hcycle hreached
    obtain ⟨v, hv, hreached⟩ := hreached
    exact exists_reported_of_reachedFrom hcycle hv hreached
  refine ⟨fun depth hdepth => ?_, hproper.reports, hproper.distinct, hmet, ?_, ?_⟩
  · obtain ⟨depth, rfl⟩ := Nat.exists_eq_add_one_of_ne_zero (Nat.ne_zero_of_lt hdepth)
    have hfits : remaining (graph.map Prod.fst) [] ≤ depth := by
      have hle : remaining (graph.map Prod.fst) [] ≤ (graph.map Prod.fst).length :=
        List.countP_le_length
      rw [List.length_map] at hle
      omega
    obtain ⟨l, hcalls, hl⟩ := foldlM_descend [] starts {} depth {} .nil hfits
      ⟨rfl, rfl, by simp [Reports]⟩
    exact ⟨l, hcalls, hl.reports, hl.reported⟩
  · intro hnothing hcycle
    obtain ⟨cycle, hcycle, hreached⟩ := hcycle
    obtain ⟨w, -, report, hreport, -⟩ := hmet cycle hcycle hreached
    simp [hnothing] at hreport
  · intro hnone
    by_contra hsome
    obtain ⟨report, hreport⟩ := List.exists_mem_of_ne_nil _ hsome
    obtain ⟨v, vs, -, hcycle, -, hreached⟩ := hproper.reports report hreport
    exact hnone ⟨v :: vs, hcycle, v, List.mem_cons_self, hreached⟩

/-- Two cycles begin with the first vertex, and one of them is reported. -/
example : search [(0, [1]), (1, [0, 2]), (2, [2, 0])] [0, 1] = [[0, 1, 0], [2, 2]] := by
  cbv

end Lexigram.Cycles
