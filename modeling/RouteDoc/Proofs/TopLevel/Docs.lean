/-
Doc blocks and where they stand.

The functions of a file come in order, each with its doc block in front of it and
behind the functions before it (`declarations_ordered`). A doc block never
reaches over a token: it is the end of the comments in the gap before the `func`
(`declaration_split`), since the comments in front of a semicolon start on the
row where the item before them stops. The first comment of a doc block starts on
a row of its own (`runAbove_first`).
-/
import RouteDoc.Go.Declaration
import RouteDoc.Proofs.TopLevel.Order

namespace RouteDoc.Go

open Grammar Declaration

/-! ## Functions among nodes -/

theorem comment?_eq_some {n : Node} {c : Comment} : comment? n = some c ↔ n = .ofComment c := by
  obtain ⟨start, stop, kind⟩ := n
  cases kind with
  | comment text =>
    obtain ⟨cstart, cstop, ctext⟩ := c
    simp [comment?, Node.ofComment]
  | item x => simp [comment?, Node.ofComment]

@[simp] theorem comment?_ofComment (c : Comment) : comment? (.ofComment c) = some c := rfl

theorem ofNodesFrom_append (before ns ns' : List Node) :
    ofNodesFrom before (ns ++ ns') = ofNodesFrom before ns ++ ofNodesFrom (ns.reverse ++ before) ns' := by
  induction ns generalizing before with
  | nil => rfl
  | cons n ns ih =>
    simp only [List.cons_append, ofNodesFrom, ih, List.reverse_cons, List.append_assoc,
      List.nil_append]
    split <;> rfl

@[simp] theorem ofNodesFrom_comments (before : List Node) (cs : List Comment) :
    ofNodesFrom before (cs.map .ofComment) = [] := by
  induction cs generalizing before with
  | nil => rfl
  | cons c cs ih => exact ih _

/-- The first comment of a run does not start where the node before it stops. -/
theorem runAbove_first {row : Nat} {before : List Node} {run : List Comment} {c : Comment}
    (h : runAbove row before = run ++ [c]) :
    ∃ rest, before = (run ++ [c]).map .ofComment ++ rest ∧ trails (.ofComment c) rest = false := by
  induction before generalizing row run with
  | nil => simp [runAbove] at h
  | cons n before ih =>
    simp only [runAbove] at h
    split at h
    · simp at h
    rename_i e he
    split at h
    case isFalse => simp at h
    rename_i hcond
    obtain rfl := comment?_eq_some.1 he
    cases run with
    | nil =>
      obtain ⟨rfl, -⟩ := List.cons.inj h
      exact ⟨before, rfl, by simpa using (Bool.and_eq_true_iff.1 hcond).2⟩
    | cons e' run =>
      obtain ⟨rfl, htail⟩ := List.cons.inj h
      obtain ⟨rest, hrest, htrails⟩ := ih htail
      exact ⟨rest, by rw [hrest]; rfl, htrails⟩

/-! ## Functions in order -/

theorem docStart_reverse (f : Function) (start : Mark) (run : List Comment) :
    (Declaration.mk f start run.reverse).docStart = (run.getLast?.map Comment.start).getD start := by
  unfold docStart
  rcases List.eq_nil_or_concat run with rfl | ⟨run, c, rfl⟩ <;> simp

theorem ofNodesFrom_ordered {m lo stop : Mark} {before ns : List Node} (h : InOrder m ns stop)
    (hlo : lo ≤ m) (hrun : ∀ row, ∀ c ∈ runAbove row before, lo ≤ c.start ∧ c.start ≤ m) :
    (∀ d ∈ ofNodesFrom before ns,
        lo ≤ d.docStart ∧ d.docStart ≤ d.start ∧ (∀ c ∈ d.doc, c.start ≤ d.start) ∧ d.start ≤ stop) ∧
      (ofNodesFrom before ns).Pairwise fun d e => d.start ≤ e.docStart := by
  induction ns generalizing m lo before with
  | nil => exact ⟨by simp [ofNodesFrom], .nil⟩
  | cons n ns ih =>
    obtain ⟨hstart, hle, hrest⟩ := h
    have hstop := Mark.le_trans hstart hle
    -- Above the nodes behind `n`, a run is `n` and a run above `n`, or empty.
    have hnext : ∀ row, ∀ c ∈ runAbove row (n :: before), lo ≤ c.start ∧ c.start ≤ n.stop := by
      intro row c hc
      simp only [runAbove] at hc
      split at hc
      · simp at hc
      rename_i e he
      obtain rfl := comment?_eq_some.1 he
      split at hc
      case isFalse => simp at hc
      rcases List.mem_cons.1 hc with rfl | hc
      · exact ⟨Mark.le_trans hlo hstart, hle⟩
      · exact ⟨(hrun _ c hc).1, Mark.le_trans (hrun _ c hc).2 hstop⟩
    cases hk : n.kind with
    | comment text =>
      simpa only [ofNodesFrom, hk] using ih hrest (Mark.le_trans hlo hstop) hnext
    | item x =>
      cases x with
      | types | other => simpa only [ofNodesFrom, hk] using ih hrest (Mark.le_trans hlo hstop) hnext
      | function f =>
        have hnone : ∀ row, runAbove row (n :: before) = [] := by
          intro row
          simp only [runAbove, comment?, hk]
        have hnothing : ∀ row, ∀ c ∈ runAbove row (n :: before), n.start ≤ c.start ∧ c.start ≤ n.stop := by
          intro row c hc
          rw [hnone] at hc
          cases hc
        obtain ⟨hall, hpair⟩ := ih hrest hle hnothing
        simp only [ofNodesFrom, hk, List.forall_mem_cons, List.pairwise_cons]
        refine ⟨⟨?_, fun d hd => ?_⟩, fun d hd => (hall d hd).1, hpair⟩
        · have hdoc : lo ≤ (Declaration.mk f n.start (docBlock n before)).docStart ∧
              (Declaration.mk f n.start (docBlock n before)).docStart ≤ n.start := by
            rw [docBlock, docStart_reverse]
            cases hlast : (runAbove n.start.row before).getLast? with
            | none => exact ⟨Mark.le_trans hlo hstart, Mark.le_refl _⟩
            | some c =>
              obtain ⟨h1, h2⟩ := hrun _ c (List.mem_of_getLast? hlast)
              exact ⟨h1, Mark.le_trans h2 hstart⟩
          refine ⟨hdoc.1, hdoc.2, fun c hc => ?_, Mark.le_trans hle hrest.le⟩
          exact Mark.le_trans (hrun _ c (List.mem_reverse.1 hc)).2 hstart
        · obtain ⟨h1, h2⟩ := hall d hd
          exact ⟨Mark.le_trans hlo (Mark.le_trans hstart h1), h2⟩

/-- **The functions of a text are in order**, and so are their doc blocks. -/
theorem declarations_ordered {source : List UInt8} {nodes : List Node} (h : nodes? source = some nodes) :
    (∀ d ∈ ofNodes nodes, d.docStart.offset ≤ d.start.offset ∧
        (∀ c ∈ d.doc, c.start.offset ≤ d.start.offset) ∧ d.start.offset ≤ source.length) ∧
      (ofNodes nodes).Pairwise fun d e => d.start.offset ≤ e.docStart.offset := by
  obtain ⟨p, rfl⟩ := nodes?_eq_some_iff.1 h
  have hnothing : ∀ row, ∀ c ∈ runAbove row [], startOf source ≤ c.start ∧ c.start ≤ startOf source := by
    simp [runAbove]
  obtain ⟨hall, hpair⟩ := ofNodesFrom_ordered p.nodes_inOrder (Mark.le_refl _) hnothing
  refine ⟨fun d hd => ?_, hpair.imp fun h => h.1⟩
  obtain ⟨-, h1, h2, h3⟩ := hall d hd
  exact ⟨h1.1, fun c hc => (h2 c hc).1, by simpa [Mark.origin] using h3.1⟩

/-! ## Functions among clauses -/

/-- The nodes of clauses; `rest` are the tokens behind them. -/
def nodesOver (behind : Gap) (rest : List Token) : List Clause → List Node
  | [] => []
  | c :: cs =>
    commentNodes c.first.gap ++
      c.node behind (tokensIn cs ++ rest) :: (c.closing ++ nodesOver behind rest cs)

theorem nodesIn_append (behind : Gap) (cs es : List Clause) :
    nodesIn behind (cs ++ es) = nodesOver behind (tokensIn es) cs ++ nodesIn behind es := by
  induction cs with
  | nil => rfl
  | cons c cs ih => simp [nodesIn, nodesOver, ih]

theorem nodesOver_append (behind : Gap) (rest : List Token) (cs es : List Clause) :
    nodesOver behind rest (cs ++ es) =
      nodesOver behind (tokensIn es ++ rest) cs ++ nodesOver behind rest es := by
  induction cs with
  | nil => rfl
  | cons c cs ih => simp [nodesOver, ih]

/-- The nodes above those of a clause's item, the nearest first. -/
def Clause.above (before : List Node) (c : Clause) : List Node :=
  (commentNodes c.first.gap).reverse ++ before

/-- The nodes above those behind a clause, the nearest first. -/
def Clause.past (behind : Gap) (before : List Node) (c : Clause) (rest : List Token) : List Node :=
  c.closing.reverse ++ c.node behind rest :: c.above before

/-- The function that a clause declares. -/
def Clause.declaration? (before : List Node) (c : Clause) : Option Declaration :=
  match c.item with
  | .function f => some ⟨f, c.first.start, (runAbove c.first.start.row (c.above before)).reverse⟩
  | _ => none

theorem Clause.ofNodesFrom_closing (before : List Node) (c : Clause) :
    ofNodesFrom before c.closing = [] := by
  unfold Clause.closing
  cases c.closer with
  | none => rfl
  | some t => simp [commentNodes]

theorem ofNodesFrom_clause (behind : Gap) (before : List Node) (c : Clause) (rest : List Token)
    (ns : List Node) :
    ofNodesFrom before (commentNodes c.first.gap ++ c.node behind rest :: (c.closing ++ ns)) =
      (c.declaration? before).toList ++ ofNodesFrom (c.past behind before rest) ns := by
  rw [ofNodesFrom_append, commentNodes, ofNodesFrom_comments, List.nil_append]
  have hclosing : ∀ above, ofNodesFrom above (c.closing ++ ns) =
      ofNodesFrom (c.closing.reverse ++ above) ns := by
    intro above
    rw [ofNodesFrom_append, c.ofNodesFrom_closing, List.nil_append]
  simp only [ofNodesFrom, Clause.node, Clause.declaration?, Clause.past, Clause.above, hclosing]
  cases c.item with
  | function f => rfl
  | types | other => rfl

/-- **A function of a text is a clause of it**, with the functions before and behind it. -/
theorem declaration_split {behind : Gap} {before : List Node} {cs : List Clause}
    {ds es : List Declaration} {d : Declaration}
    (h : ofNodesFrom before (nodesIn behind cs) = ds ++ d :: es) :
    ∃ cs₁ c cs₂, cs = cs₁ ++ c :: cs₂ ∧
      ofNodesFrom before (nodesOver behind (tokensIn (c :: cs₂)) cs₁) = ds ∧
      c.declaration? ((nodesOver behind (tokensIn (c :: cs₂)) cs₁).reverse ++ before) = some d ∧
      ofNodesFrom (c.past behind ((nodesOver behind (tokensIn (c :: cs₂)) cs₁).reverse ++ before)
        (tokensIn cs₂)) (nodesIn behind cs₂) = es := by
  induction cs generalizing before ds with
  | nil => simp [nodesIn, commentNodes] at h
  | cons c cs ih =>
    rw [nodesIn, ofNodesFrom_clause] at h
    -- The function is that of the first clause, or it stands behind it.
    have hlater : ∀ {ds'}, ofNodesFrom (c.past behind before (tokensIn cs)) (nodesIn behind cs) =
        ds' ++ d :: es → (c.declaration? before).toList ++ ds' = ds →
        ∃ cs₁ e cs₂, c :: cs = cs₁ ++ e :: cs₂ ∧
          ofNodesFrom before (nodesOver behind (tokensIn (e :: cs₂)) cs₁) = ds ∧
          e.declaration? ((nodesOver behind (tokensIn (e :: cs₂)) cs₁).reverse ++ before) = some d ∧
          ofNodesFrom (e.past behind ((nodesOver behind (tokensIn (e :: cs₂)) cs₁).reverse ++ before)
            (tokensIn cs₂)) (nodesIn behind cs₂) = es := by
      intro ds' hds hds'
      obtain ⟨cs₁, e, cs₂, rfl, h1, h2, h3⟩ := ih hds
      have hpast : (nodesOver behind (tokensIn (e :: cs₂)) (c :: cs₁)).reverse ++ before =
          (nodesOver behind (tokensIn (e :: cs₂)) cs₁).reverse ++
            c.past behind before (tokensIn (cs₁ ++ e :: cs₂)) := by
        simp [nodesOver, Clause.past, Clause.above]
      refine ⟨c :: cs₁, e, cs₂, rfl, ?_, ?_, ?_⟩
      · rw [nodesOver, ofNodesFrom_clause, ← tokensIn_append, h1, hds']
      · rw [hpast]; exact h2
      · rw [hpast]; exact h3
    cases hd : c.declaration? before with
    | none =>
      rw [hd, Option.toList_none, List.nil_append] at h
      exact hlater h (by rw [hd]; rfl)
    | some e =>
      rw [hd, Option.toList_some, List.singleton_append] at h
      cases ds with
      | nil =>
        obtain ⟨rfl, hes⟩ := List.cons.inj h
        exact ⟨[], c, cs, rfl, rfl, hd, hes⟩
      | cons d' ds =>
        obtain ⟨rfl, hds⟩ := List.cons.inj h
        exact hlater hds (by rw [hd]; rfl)

/-! ## Doc blocks in their gaps -/

theorem Chain.dropLast {level : Bool} {m stop : Mark} {cs : List Comment} {c : Comment}
    (h : Chain level m (cs ++ [c]) stop) : Chain level m cs c.start := by
  induction cs generalizing m with
  | nil => exact ⟨h.1, h.2.1⟩
  | cons e cs ih => exact ⟨h.1, h.2.1, h.2.2.1, ih h.2.2.2⟩

theorem Chain.last_row {m stop : Mark} {cs : List Comment} {c : Comment}
    (h : Chain true m (cs ++ [c]) stop) : c.stop.row = stop.row := by
  induction cs generalizing m with
  | nil => exact h.2.2.2.2 rfl
  | cons e cs ih => exact ih h.2.2.2

/-- No run of comments reaches into nodes that end with an item, or with an item and comments on
its row. -/
theorem runAbove_blocked {m stop : Mark} {cs : List Comment} {n : Node} {before : List Node}
    (h : Chain true m cs stop) (hn : comment? n = none) (hstop : n.stop = m) (row : Nat) :
    runAbove row ((cs.map .ofComment).reverse ++ n :: before) = [] := by
  have hlevel : ∀ {cs : List Comment} {stop : Mark}, Chain true m cs stop → ∀ c : Comment,
      c.start = stop → trails (.ofComment c) ((cs.map .ofComment).reverse ++ n :: before) = true := by
    intro cs stop h c hc
    rcases List.eq_nil_or_concat cs with rfl | ⟨cs, e, rfl⟩
    · simpa [trails, Node.ofComment, hstop, hc] using h.2 rfl
    · rw [List.concat_eq_append] at h
      simp [trails, Node.ofComment, hc, h.last_row]
  rcases List.eq_nil_or_concat cs with rfl | ⟨cs, c, rfl⟩
  · simp [runAbove, hn]
  · rw [List.concat_eq_append] at h ⊢
    have htrails := hlevel h.dropLast c rfl
    rw [List.map_append, List.reverse_append, List.map_singleton, List.reverse_singleton,
      List.append_assoc, List.singleton_append, runAbove, comment?_ofComment]
    simp [htrails]

theorem nodesOver_blocked {behind : Gap} {rest : List Token} {cs : List Clause}
    (h : ∀ c ∈ cs, ∀ t ∈ c.closer, t.newline = false ∧ ∃ stop, t.gap.Spans stop) (row : Nat) :
    runAbove row (nodesOver behind rest cs).reverse = [] := by
  rcases List.eq_nil_or_concat cs with rfl | ⟨cs, c, rfl⟩
  · rfl
  rw [List.concat_eq_append] at h ⊢
  have hc := h c (by simp)
  simp only [nodesOver_append, nodesOver, List.append_nil, List.reverse_append, List.reverse_cons,
    List.append_assoc, List.singleton_append, Clause.closing]
  cases hcloser : c.closer with
  | none => rfl
  | some t =>
    obtain ⟨hnewline, stop, hspans⟩ := hc t hcloser
    unfold Gap.Spans at hspans
    rw [show t.gap.newline = false from hnewline] at hspans
    rw [Option.toList_some, List.flatMap_singleton]
    exact runAbove_blocked hspans rfl (by simp [Clause.node, hcloser, stopOf]) row

/-- Where no run reaches further, the run above a gap is the end of its comments. -/
theorem runAbove_gap {before : List Node} (hbefore : ∀ row, runAbove row before = []) (row : Nat)
    (cs : List Comment) :
    ∃ rest, cs = runAbove row (cs.map .ofComment ++ before) ++ rest ∧
      ∀ c ∈ (runAbove row (cs.map .ofComment ++ before)).getLast?,
        trails (.ofComment c) (rest.map .ofComment ++ before) = false := by
  induction cs generalizing row with
  | nil =>
    rw [List.map_nil, List.nil_append, hbefore]
    exact ⟨[], rfl, by simp⟩
  | cons c cs ih =>
    simp only [List.map_cons, List.cons_append, runAbove, comment?_ofComment]
    split
    · rename_i hcond
      obtain ⟨rest, hrest, hlast⟩ := ih c.start.row
      refine ⟨rest, by rw [List.cons_append, ← hrest], ?_⟩
      intro e he
      cases hrun : runAbove c.start.row (cs.map .ofComment ++ before) with
      | nil =>
        rw [hrun] at he hrest
        obtain rfl : c = e := by simpa using he
        rw [← List.nil_append rest, ← hrest]
        simpa using (Bool.and_eq_true_iff.1 hcond).2
      | cons e' run =>
        refine hlast e ?_
        rw [hrun] at he ⊢
        simpa using he
    · exact ⟨c :: cs, rfl, by simp⟩

/-- **A doc block is the end of the comments in front of its function**, and starts on a row of its
own. -/
theorem doc_in_gap {before : List Node} (hbefore : ∀ row, runAbove row before = []) {c : Clause}
    {d : Declaration} (h : c.declaration? before = some d) :
    c.item = .function d.function ∧ d.start = c.first.start ∧
      ∃ kept, c.first.gap.comments = kept ++ d.doc ∧
        ∀ e ∈ d.doc.head?, trails (.ofComment e) ((kept.map .ofComment).reverse ++ before) = false := by
  unfold Clause.declaration? at h
  split at h
  case h_2 => cases h
  rename_i f hf
  cases h
  refine ⟨hf, rfl, ?_⟩
  have habove : c.above before = c.first.gap.comments.reverse.map .ofComment ++ before := by
    simp [Clause.above, commentNodes]
  obtain ⟨rest, hrest, htrails⟩ := runAbove_gap hbefore c.first.start.row c.first.gap.comments.reverse
  rw [← habove] at hrest htrails
  refine ⟨rest.reverse, ?_, ?_⟩
  · simpa using congrArg List.reverse hrest
  · intro e he
    rw [List.head?_reverse] at he
    simpa using htrails e he

end RouteDoc.Go
