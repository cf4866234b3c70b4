/-
A doc block is the longest run of comments that can be one.

What may document a node is said once, without a scan (`DocRun`): comments that end
right in front of it, no row left free and none shared on the way down to it, the first
of them not behind something else on its row. The scan goes up and asks of every comment
whether it could be the first one. That loses no longer run: a comment with another one
of the run above it does not share its row with it.
-/
import Mathlib.Data.List.Chain
import RouteDoc.Proofs.TopLevel.Docs

namespace RouteDoc.Go

open Declaration

/-- The node `n` stops on the row before the one where `m` starts. -/
def RowAbove (n m : Node) : Prop := n.stop.row + 1 = m.start.row

/-- Comments that may document the sibling with number `i`: they end with the sibling before it, each
stops on the row before the one where the next node starts, and the first of them does not start on the
row where the sibling before it stops. -/
def DocRun (siblings : List Node) (i : Fin siblings.length) (run : List Comment) : Prop :=
  ∃ before, siblings.take i = before ++ run.map .ofComment ∧
    (run.map Node.ofComment ++ [siblings[i]]).IsChain RowAbove ∧
    ∀ c ∈ run.head?, ∀ n ∈ before.getLast?, n.stop.row ≠ c.start.row

/-! ## The scan, upwards -/

theorem runAbove_rows (n : Node) (above : List Node) :
    (n :: (runAbove n.start.row above).map .ofComment).IsChain fun m k => RowAbove k m := by
  induction above generalizing n with
  | nil => simp [runAbove]
  | cons k above ih =>
    cases hk : comment? k with
    | none => simp [runAbove, hk]
    | some c =>
      simp only [runAbove, hk]
      by_cases hrow : c.stop.row + 1 = n.start.row
      · by_cases htrails : trails k above = true
        · simp [htrails]
        · simp only [hrow, htrails, beq_self_eq_true, Bool.not_false, Bool.and_self, if_true, List.map_cons,
            List.isChain_cons_cons]
          exact ⟨hrow, ih (.ofComment c)⟩
      · simp [hrow]

/-- The scan does not stop inside of a run. -/
theorem prefix_runAbove {n : Node} {run : List Comment} {rest : List Node}
    (hrows : (n :: run.map .ofComment).IsChain fun m k => RowAbove k m)
    (hfirst : ∀ c ∈ run.getLast?, trails (.ofComment c) rest = false) :
    run <+: runAbove n.start.row (run.map .ofComment ++ rest) := by
  induction run generalizing n with
  | nil => simp
  | cons c run ih =>
    rw [List.map_cons, List.isChain_cons_cons] at hrows
    obtain ⟨hrow, hrows⟩ := hrows
    have hown : trails (.ofComment c) (run.map .ofComment ++ rest) = false := by
      cases run with
      | nil => exact hfirst c (by simp)
      | cons e run =>
        -- The comment above stops on the row before this one starts.
        have habove : e.stop.row + 1 = c.start.row := (List.isChain_cons_cons.1 hrows).1
        simp only [List.map_cons, List.cons_append, trails, Node.ofComment, beq_eq_false_iff_ne]
        omega
    have hrest : run <+: runAbove c.start.row (run.map .ofComment ++ rest) := by
      refine ih hrows fun e he => hfirst e ?_
      cases run with
      | nil => simp at he
      | cons => simpa using he
    have hcheck : (c.stop.row + 1 == n.start.row) = true := beq_iff_eq.2 hrow
    rw [List.map_cons, List.cons_append, runAbove, comment?_ofComment]
    simp only [hcheck, hown, Bool.not_false, Bool.and_self, if_true]
    exact List.cons_prefix_cons.2 ⟨rfl, hrest⟩

/-! ## Doc blocks -/

theorem trails_iff {n : Node} {before : List Node} :
    trails n before.reverse = false ↔ ∀ m ∈ before.getLast?, m.stop.row ≠ n.start.row := by
  cases hlast : before.getLast? with
  | none => simp [List.getLast?_eq_none_iff.1 hlast, trails]
  | some m =>
    obtain ⟨front, rfl⟩ := List.getLast?_eq_some_iff.1 hlast
    simp [trails]

theorem docBlock_docRun (siblings : List Node) (i : Fin siblings.length) :
    DocRun siblings i (docBlock siblings[i] (siblings.take i).reverse) := by
  have hrows := runAbove_rows siblings[i] (siblings.take i).reverse
  unfold docBlock
  cases hrun : (runAbove siblings[i].start.row (siblings.take i).reverse).reverse with
  | nil => exact ⟨siblings.take i, by simp, by simp, by simp⟩
  | cons c run =>
    have hscan := List.reverse_eq_iff.1 hrun
    rw [List.reverse_cons] at hscan
    obtain ⟨rest, hrest, htrails⟩ := runAbove_first hscan
    refine ⟨rest.reverse, ?_, ?_, fun e he => ?_⟩
    · simpa [List.map_reverse] using congrArg List.reverse hrest
    · rw [hscan, ← List.isChain_reverse] at hrows
      simpa [List.map_reverse] using hrows
    · obtain rfl : c = e := by simpa using he
      rw [← List.reverse_reverse rest, trails_iff] at htrails
      exact htrails

theorem DocRun.suffix {siblings : List Node} {i : Fin siblings.length} {run : List Comment}
    (h : DocRun siblings i run) : run <:+ docBlock siblings[i] (siblings.take i).reverse := by
  obtain ⟨before, htake, hrows, hfirst⟩ := h
  have hrows' : (siblings[i] :: run.reverse.map .ofComment).IsChain fun m k => RowAbove k m := by
    rw [← List.isChain_reverse]
    simpa [List.map_reverse] using hrows
  have hfirst' : ∀ c ∈ run.reverse.getLast?, trails (.ofComment c) before.reverse = false := by
    intro c hc
    rw [List.getLast?_reverse] at hc
    exact trails_iff.2 (hfirst c hc)
  have hscan := prefix_runAbove hrows' hfirst'
  have habove : run.reverse.map .ofComment ++ before.reverse = (siblings.take i).reverse := by
    rw [htake, List.reverse_append, List.map_reverse]
  rw [habove, ← List.reverse_suffix, List.reverse_reverse] at hscan
  exact hscan

/-- **The doc block is the longest run**: the comments found above a sibling may document it, every run
that may is the end of them, and there are none exactly where no comment may document it. -/
theorem docBlock_longest (siblings : List Node) (i : Fin siblings.length) :
    let doc := docBlock siblings[i] (siblings.take i).reverse
    DocRun siblings i doc ∧
      (∀ run, DocRun siblings i run → run <:+ doc ∧ run.length ≤ doc.length) ∧
      (doc = [] ↔ ¬∃ run, run ≠ [] ∧ DocRun siblings i run) := by
  intro doc
  have hdoc : DocRun siblings i doc := docBlock_docRun siblings i
  refine ⟨hdoc, fun run hrun => ⟨hrun.suffix, hrun.suffix.length_le⟩, ?_⟩
  constructor
  · intro hnil ⟨run, hne, hrun⟩
    have hsuffix : run <:+ doc := hrun.suffix
    rw [hnil, List.suffix_nil] at hsuffix
    exact hne hsuffix
  · intro hnone
    by_contra hne
    exact hnone ⟨doc, hne, hdoc⟩

end RouteDoc.Go
