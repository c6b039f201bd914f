import Lexigram.Grammar.Cycles
import Mathlib.Data.List.Chain
import Mathlib.Logic.Relation

/-!
# What searches find

Every cycle that passes through a start of a search passes through a vertex from which a cycle is
reported. In particular, from the starts of a search that reports nothing, no path comes back to
where it was.

**Successors** (`Follows`). A vertex follows another when it is listed among its successors. A
**cycle** (`IsCycle`) is a row of vertices each of which is followed by the next, and the last by
the first.

**One induction** (`visitAll_induction`). All that is shown of searches follows the way in which
they go on from several vertices: one after the other, and from each to its successors.

**The invariant** (`Explored`). Every vertex that was entered is on the path of the search or
accessible (`Acc`): no path of successors goes on from it without end, if vertices from which a
cycle is reported are not entered (`Advances`). A vertex that is left again is accessible, since a
successor that is on the path is reported and all others are accessible.

Main results: `exists_reported_of_isCycle` and `acc_of_search`.
-/

namespace Lexigram.Cycles

variable {α : Type}

theorem not_transGen_of_acc {r : α → α → Prop} {a : α} (h : Acc r a) :
    ¬Relation.TransGen r a a := by
  intro hcycle
  have htrans := h.transGen
  induction htrans with
  | intro b _ ih => exact ih b hcycle (h.inv_of_transGen hcycle) hcycle

/-- Some vertices in a row are a cycle: each is followed by the next, and the last by the first. -/
def IsCycle (follows : α → α → Prop) : List α → Prop
  | [] => False
  | v :: vs => (v :: vs ++ [v]).IsChain fun v w => follows w v

/-- All vertices of a cycle can be reached from the first one, and so can that itself. -/
theorem IsCycle.transGen {follows : α → α → Prop} {v w : α} {vs : List α}
    (h : IsCycle follows (v :: vs)) (hw : w ∈ vs ++ [v]) : Relation.TransGen follows w v := by
  have hchain : (v :: vs ++ [v]).IsChain (Relation.TransGen fun v w => follows w v) :=
    List.IsChain.imp (fun _ _ => .single) h
  exact Relation.transGen_swap.1 (hchain.rel_cons hw)

theorem IsCycle.reflTransGen {follows : α → α → Prop} {v w : α} {vs : List α}
    (h : IsCycle follows (v :: vs)) (hw : w ∈ v :: vs) : Relation.ReflTransGen follows w v := by
  rcases List.mem_cons.1 hw with rfl | hw
  · exact .refl
  · exact (h.transGen (List.mem_append_left [v] hw)).to_reflTransGen

/-- What comes back to itself is on a cycle. -/
theorem exists_isCycle {follows : α → α → Prop} {v : α} (h : Relation.TransGen follows v v) :
    ∃ vs, IsCycle follows (v :: vs) := by
  obtain ⟨w, hstep, hpath⟩ := Relation.TransGen.head'_iff.1 h
  obtain ⟨vs, hchain, hlast⟩ :=
    List.exists_isChain_cons_of_relationReflTransGen (Relation.reflTransGen_swap.1 hpath)
  refine ⟨vs, List.IsChain.append hchain (List.isChain_singleton v) fun w' hw' v' hv' => ?_⟩
  rw [List.getLast?_eq_some_getLast (List.cons_ne_nil v vs), hlast] at hw'
  cases hw'
  cases hv'
  exact hstep

theorem IsCycle.imp {follows follows' : α → α → Prop} {cycle : List α} (h : IsCycle follows cycle)
    (himp : ∀ v ∈ cycle, ∀ w ∈ cycle, follows w v → follows' w v) : IsCycle follows' cycle := by
  cases cycle with
  | nil => exact h
  | cons v vs =>
    have hmem : ∀ w ∈ v :: vs ++ [v], w ∈ v :: vs := by
      intro w hw
      rcases List.mem_append.1 hw with hw | hw
      · exact hw
      · rw [List.mem_singleton.1 hw]
        exact List.mem_cons_self
    exact List.IsChain.imp_of_mem_imp
      (fun w w' hw hw' hfollows => himp w (hmem w hw) w' (hmem w' hw') hfollows) h

variable [DecidableEq α]

/-- The successors of a vertex. -/
def successors (graph : Graph α) (v : α) : List α := (graph.lookup v).getD []

/-- A vertex is a successor of another. -/
def Follows (graph : Graph α) (w v : α) : Prop := ∃ next, graph.lookup v = some next ∧ w ∈ next

/-- Among some cycles there is one that was reported from a vertex. -/
def Reports (found : List (List α)) (v : α) : Prop := ∃ cycle ∈ found, cycle.head? = some v

/-- A vertex is a successor of another, and not one of those that are reported. -/
def Advances (graph : Graph α) (reported : α → Prop) (w v : α) : Prop :=
  Follows graph w v ∧ ¬reported w

/-- Every vertex that was entered is on a path or accessible. -/
def Explored (graph : Graph α) (reported : α → Prop) (path visited : List α) : Prop :=
  ∀ v ∈ visited, v ∈ path ∨ Acc (Advances graph reported) v

/-- What a part of a search does that goes on from some vertices: it forgets nothing that was found,
and if all is reported that is found, the other vertices turn out accessible. -/
structure Clears (graph : Graph α) (reported : α → Prop) (path vs : List α) (st st' : Search α) :
    Prop where
  keeps : st.found ⊆ st'.found
  explores : (∀ v, Reports st'.found v → reported v) → Explored graph reported path st.visited →
    Explored graph reported path st'.visited ∧
      ∀ v ∈ vs, ¬reported v → Acc (Advances graph reported) v

variable {graph : Graph α} {reported : α → Prop} {path : List α} {v w : α} {st st' : Search α}

omit [DecidableEq α] in
theorem Reports.mono {found found' : List (List α)} (h : found ⊆ found') (hv : Reports found v) :
    Reports found' v := by
  obtain ⟨cycle, hcycle, hhead⟩ := hv
  exact ⟨cycle, h hcycle, hhead⟩

theorem reports_iff : st.reports v = true ↔ Reports st.found v := by
  rw [Search.reports, List.any_eq_true]
  simp only [Reports, beq_iff_eq]

theorem follows_iff : Follows graph w v ↔ w ∈ successors graph v := by
  unfold Follows successors
  cases graph.lookup v <;> simp

/-! ## How searches go on -/

theorem visit_known (hp : v ∈ path) (hv : Reports st.found v) : visit graph path v st = st := by
  rw [visit, dif_pos hp, if_pos (reports_iff.2 hv)]

theorem visit_report (hp : v ∈ path) (hv : ¬Reports st.found v) :
    visit graph path v st = { st with found := st.found ++ [cycleAt v path] } := by
  rw [visit, dif_pos hp, if_neg (mt reports_iff.1 hv)]

theorem visit_visited (hp : v ∉ path) (hv : v ∈ st.visited) : visit graph path v st = st := by
  rw [visit, dif_neg hp, if_pos hv]

theorem visit_enter (hp : v ∉ path) (hv : v ∉ st.visited) :
    visit graph path v st =
      visitAll graph (v :: path) (successors graph v) { st with visited := v :: st.visited } := by
  rw [visit, dif_neg hp, if_neg hv]
  split <;> next h => simp [successors, h, visitAll]

/-- **How searches go on.** What holds of every turn, and of turns in a row if it holds of each of
them, holds of every search. -/
theorem visitAll_induction (graph : Graph α)
    {R : List α → List α → Search α → Search α → Prop}
    (known : ∀ path v st, v ∈ path → Reports st.found v → R path [v] st st)
    (report : ∀ path v st, v ∈ path → ¬Reports st.found v →
      R path [v] st { st with found := st.found ++ [cycleAt v path] })
    (visited : ∀ path v st, v ∉ path → v ∈ st.visited → R path [v] st st)
    (enter : ∀ path v st st', v ∉ path → v ∉ st.visited →
      R (v :: path) (successors graph v) { st with visited := v :: st.visited } st' →
      R path [v] st st')
    (nil : ∀ path st, R path [] st st)
    (cons : ∀ path v vs st st' st'', R path [v] st st' → R path vs st' st'' →
      R path (v :: vs) st st'')
    (path vs : List α) (st : Search α) : R path vs st (visitAll graph path vs st) := by
  refine (visit.mutual_induct graph
    (fun path v st => R path [v] st (visit graph path v st))
    (fun path vs st => R path vs st (visitAll graph path vs st))
    ?known ?report ?visited ?leaf ?enter ?nil ?cons).2 path vs st
  case known =>
    intro path v st hp hv
    rw [visit_known hp (reports_iff.1 hv)]
    exact known path v st hp (reports_iff.1 hv)
  case report =>
    intro path v st hp hv
    rw [visit_report hp (mt reports_iff.2 hv)]
    exact report path v st hp (mt reports_iff.2 hv)
  case visited =>
    intro path v st hp hv
    rw [visit_visited hp hv]
    exact visited path v st hp hv
  case leaf =>
    intro path v st hp hv hg
    have hnone : successors graph v = [] := by simp [successors, hg]
    rw [visit_enter hp hv, hnone, visitAll]
    refine enter path v st _ hp hv ?_
    rw [hnone]
    exact nil (v :: path) _
  case enter =>
    intro path v st hp hv next hg hnext
    have hsome : successors graph v = next := by simp [successors, hg]
    rw [visit_enter hp hv, hsome]
    refine enter path v st _ hp hv ?_
    rwa [hsome]
  case nil =>
    intro path st
    rw [visitAll]
    exact nil path st
  case cons =>
    intro path st v vs hfirst hrest
    rw [visitAll]
    exact cons path v vs st _ _ hfirst hrest

/-! ## The invariant -/

theorem acc_of_successors
    (h : ∀ w ∈ successors graph v, ¬reported w → Acc (Advances graph reported) w) :
    Acc (Advances graph reported) v :=
  Acc.intro v fun w hw => h w (follows_iff.1 hw.1) hw.2

theorem Clears.nil : Clears graph reported path [] st st where
  keeps := List.Subset.refl st.found
  explores _ h := ⟨h, fun _ hv => absurd hv List.not_mem_nil⟩

/-- A vertex on the path is reported, now or before. -/
theorem clears_reported {found : List (List α)} (hkeeps : st.found ⊆ found)
    (hv : Reports found v) : Clears graph reported path [v] st { st with found } := by
  refine ⟨hkeeps, fun hall h => ⟨h, fun w hw hno => ?_⟩⟩
  rw [List.mem_singleton.1 hw] at hno
  exact absurd (hall v hv) hno

theorem clears_visited (hp : v ∉ path) (hv : v ∈ st.visited) :
    Clears graph reported path [v] st st := by
  refine ⟨List.Subset.refl _, fun _ h => ⟨h, fun w hw _ => ?_⟩⟩
  rw [List.mem_singleton.1 hw]
  exact (h v hv).resolve_left hp

theorem clears_enter
    (hnext : Clears graph reported (v :: path) (successors graph v)
      { st with visited := v :: st.visited } st') :
    Clears graph reported path [v] st st' := by
  refine ⟨hnext.keeps, fun hall h => ?_⟩
  have hentered : Explored graph reported (v :: path) (v :: st.visited) := by
    intro w hw
    rcases List.mem_cons.1 hw with rfl | hw
    · exact .inl List.mem_cons_self
    · exact (h w hw).imp_left (List.mem_cons_of_mem v)
  obtain ⟨hleft, hsuccessors⟩ := hnext.explores hall hentered
  have hacc := acc_of_successors hsuccessors
  refine ⟨fun w hw => ?_, fun w hw _ => ?_⟩
  · rcases hleft w hw with hpath | hw
    · rcases List.mem_cons.1 hpath with rfl | hpath
      · exact .inr hacc
      · exact .inl hpath
    · exact .inr hw
  · rwa [List.mem_singleton.1 hw]

theorem Clears.cons {vs : List α} {st'' : Search α} (h : Clears graph reported path [v] st st')
    (hrest : Clears graph reported path vs st' st'') :
    Clears graph reported path (v :: vs) st st'' := by
  refine ⟨List.Subset.trans h.keeps hrest.keeps, fun hall hstart => ?_⟩
  obtain ⟨hmiddle, hv⟩ := h.explores (fun w hw => hall w (hw.mono hrest.keeps)) hstart
  obtain ⟨hend, hvs⟩ := hrest.explores hall hmiddle
  refine ⟨hend, fun w hw => ?_⟩
  rcases List.mem_cons.1 hw with rfl | hw
  · exact hv w List.mem_cons_self
  · exact hvs w hw

/-- **The invariant holds along every search**, from whatever path and vertices it goes on. -/
theorem visitAll_clears (graph : Graph α) (reported : α → Prop) (path vs : List α)
    (st : Search α) : Clears graph reported path vs st (visitAll graph path vs st) := by
  refine visitAll_induction graph (R := Clears graph reported)
    ?known ?report ?visited ?enter ?nil ?cons path vs st
  case known => exact fun path v st _ hv => clears_reported (List.Subset.refl _) hv
  case report =>
    intro path v st _ _
    refine clears_reported (List.subset_append_left _ _) ?_
    exact ⟨cycleAt v path, List.mem_append_right _ (List.mem_singleton_self _), rfl⟩
  case visited => exact fun path v st hp hv => clears_visited hp hv
  case enter => exact fun path v st st' _ _ hnext => clears_enter hnext
  case nil => exact fun path st => .nil
  case cons => exact fun path v vs st st' st'' hfirst hrest => hfirst.cons hrest

/-- From a start that is not reported no path goes on without end, if reported vertices are not
entered. -/
theorem acc_of_not_reports {starts : List α} (hv : v ∈ starts)
    (hno : ¬Reports (search graph starts) v) :
    Acc (Advances graph (Reports (search graph starts))) v := by
  have hstart : Explored graph (Reports (search graph starts)) [] ({} : Search α).visited :=
    fun w hw => absurd hw List.not_mem_nil
  have hclears := visitAll_clears graph (Reports (search graph starts)) [] starts {}
  exact (hclears.explores (fun _ hw => hw) hstart).2 v hv hno

/-- **Every cycle is met.** A cycle through a start of a search passes through a vertex from which
a cycle is reported. -/
theorem exists_reported_of_isCycle {starts vs : List α} (hv : v ∈ starts)
    (hcycle : IsCycle (Follows graph) (v :: vs)) :
    ∃ w ∈ v :: vs, Reports (search graph starts) w := by
  by_contra hnone
  have hno : ∀ w ∈ v :: vs, ¬Reports (search graph starts) w :=
    fun w hw hreports => hnone ⟨w, hw, hreports⟩
  have hadvances : IsCycle (Advances graph (Reports (search graph starts))) (v :: vs) :=
    hcycle.imp fun _ _ w hw hfollows => ⟨hfollows, hno w hw⟩
  exact not_transGen_of_acc (acc_of_not_reports hv (hno v List.mem_cons_self))
    (hadvances.transGen (List.mem_append_right vs List.mem_cons_self))

/-- **A search that reports nothing leaves no cycle.** Every vertex from which it started is
accessible. -/
theorem acc_of_search {starts : List α} (h : search graph starts = []) {v : α} (hv : v ∈ starts) :
    Acc (Follows graph) v := by
  have hno : ∀ w, ¬Reports (search graph starts) w := by
    rintro w ⟨cycle, hcycle, -⟩
    rw [h] at hcycle
    cases hcycle
  exact Subrelation.accessible (fun hfollows => ⟨hfollows, hno _⟩) (acc_of_not_reports hv (hno v))

end Lexigram.Cycles
