/-
What a splice at a site preserves.

The functions in front of the site stay the same, with their doc blocks and
places; those behind it are shifted; the function itself keeps what it is and is
documented by the new lines (`Site.declarations`). The items of the top level
keep their texts (`Site.itemTexts_eq`) and declare the structures they declared
(`Site.structures_eq`), and of the comments only the old doc block goes
(`Site.comments_eq`).
-/
import RouteDoc.Proofs.Splicing.Resplice

namespace RouteDoc.Go

open Grammar Declaration

/-- Whether a node is an item. -/
def Node.isItem (n : Node) : Bool :=
  match n.kind with
  | .item _ => true
  | .comment _ => false

/-- The bytes of a node. -/
def Node.textIn (source : List UInt8) (n : Node) : List UInt8 :=
  (source.drop n.start.offset).take (n.stop.offset - n.start.offset)

/-- The texts of the items of the top level, in order. -/
def itemTexts (source : List UInt8) (nodes : List Node) : List (List UInt8) :=
  (nodes.filter Node.isItem).map (Node.textIn source)

/-- The structures that nodes declare, in order. -/
def structuresIn (nodes : List Node) : List (String × List (TypeExpr × Option (List UInt8))) :=
  nodes.flatMap fun n =>
    match n.kind with
    | .item x => x.structures
    | .comment _ => []

/-- All comments of a text, in order. -/
def Tokens.comments (k : Tokens) : List Comment := k.tokens.flatMap (·.gap.comments) ++ k.rest.comments

namespace Site

variable {source : List UInt8} {p : Parsed source} {d : Declaration} {s : Site p d}
  {ls : List (List UInt8)} {p' : Parsed (s.rewritten ls)} (q : s.Respliced ls p')

/-! ## Functions -/

theorem first_shifted :
    Mark.Shift s.clause.first.stop (s.newFirst ls).stop s.clause.first.start (s.newFirst ls).start := by
  have hstop : s.clause.first.stop = s.clause.first.start + Mark.origin.over s.clause.first.text := by
    rw [← Mark.over_eq, ← s.start]; exact s.stop_eq
  have hstop' : (s.newFirst ls).stop = (s.newFirst ls).start + Mark.origin.over s.clause.first.text := by
    rw [← Mark.over_eq]; rfl
  rw [hstop, hstop']
  apply Mark.ext' <;> simp only [Mark.add_offset, Mark.add_row] <;> omega

include q in
theorem rest_shifted : Gap.Shifted s.clause.first.stop (s.newFirst ls).stop p.tokens.rest p'.tokens.rest := by
  rw [q.tokens, s.tokens_rest, s.newTokens_rest]
  exact s.tail.rest.moved_shifted

include q in
theorem stop_back : Mark.Shift s.clause.first.stop (s.newFirst ls).stop
    (stopOf p.tokens.rest (tokensIn s.back)) (stopOf p'.tokens.rest (tokensIn q.back)) := by
  have hend : Mark.Shift s.clause.first.stop (s.newFirst ls).stop (stopOf p.tokens.rest []) (stopOf p'.tokens.rest []) :=
    (rest_shifted q).from_
  have h := stopOf_shifted (tokensIn_shifted q.back_shifted) hend
  rwa [List.append_nil, List.append_nil] at h

theorem node_shifted : Node.Shifted s.clause.first.stop (s.newFirst ls).stop
    (s.clause.node p.tokens.rest (tokensIn s.back)) (q.clause.node p'.tokens.rest (tokensIn q.back)) := by
  refine ⟨?_, stopOf_shifted q.closer (stop_back q), q.item⟩
  simp only [Clause.node, q.first]
  exact first_shifted

theorem closing_shifted : List.Forall₂ (Node.Shifted s.clause.first.stop (s.newFirst ls).stop)
    s.clause.closing q.clause.closing := by
  have hcloser := q.closer
  unfold Clause.closing
  revert hcloser
  generalize s.clause.closer.toList = ts
  generalize q.clause.closer.toList = us
  intro hcloser
  induction hcloser with
  | nil => exact .nil
  | cons htu _ ih => exact List.rel_append (commentNodes_shifted htu.gap.comments) ih

theorem front_nodes_shifted : List.Forall₂ (Node.Shifted .origin .origin)
    (nodesOver p.tokens.rest (tokensIn (s.clause :: s.back)) s.front)
    (nodesOver p'.tokens.rest (tokensIn (q.clause :: q.back)) q.front) := by
  refine nodesOver_shifted q.front_shifted (Mark.shift_self.2 ?_)
  simp only [tokensIn_cons, Clause.own, List.cons_append, stopOf, q.first]
  rfl

theorem back_nodes_shifted : List.Forall₂ (Node.Shifted s.clause.first.stop (s.newFirst ls).stop)
    (nodesIn p.tokens.rest s.back) (nodesIn p'.tokens.rest q.back) :=
  nodesIn_shifted q.back_shifted (rest_shifted q)

theorem past_shifted (before before' : List Node) :
    AboveShifted s.clause.first.stop (s.newFirst ls).stop
      (s.clause.past p.tokens.rest before (tokensIn s.back))
      (q.clause.past p'.tokens.rest before' (tokensIn q.back)) := by
  refine AboveShifted.append (List.rel_reverse (closing_shifted q)) ⟨node_shifted q, ?_⟩
  intro h
  cases h

include q in
/-- **The functions after a splice.** -/
theorem declarations {ds es : List Declaration}
    (hds : ofNodes (nodesOver p.tokens.rest (tokensIn (s.clause :: s.back)) s.front) = ds)
    (hes : ofNodesFrom (s.clause.past p.tokens.rest (nodesAbove p.tokens.rest s.front s.clause s.back)
      (tokensIn s.back)) (nodesIn p.tokens.rest s.back) = es)
    {init : List (List UInt8)} {l' l : List UInt8} (hls : ls = init ++ [l', l]) (hplain : ∀ k ∈ ls, Plain k) :
    ∃ d' es', ofNodes p'.nodes = ds ++ d' :: es' ∧ d'.function = d.function ∧
      (∃ c ∈ d'.doc, c.text = lineText l) ∧
      List.Forall₂ (Declaration.Shifted s.clause.first.stop (s.newFirst ls).stop) es es' := by
  have hfront : ofNodes (nodesOver p'.tokens.rest (tokensIn (q.clause :: q.back)) q.front) = ds := by
    rw [← hds]
    have hnone : AboveShifted .origin .origin [] [] := trivial
    exact (Declaration.shifted_self (ofNodesFrom_shifted hnone (front_nodes_shifted q))).symm
  have hback := ofNodesFrom_shifted (past_shifted q (nodesAbove p.tokens.rest s.front s.clause s.back)
    (nodesAbove p'.tokens.rest q.front q.clause q.back)) (back_nodes_shifted q)
  rw [hes] at hback
  have hfunction := (q.item.function _).1 s.function
  refine ⟨⟨d.function, q.clause.first.start, (runAbove q.clause.first.start.row
    (q.clause.above (nodesAbove p'.tokens.rest q.front q.clause q.back))).reverse⟩, _, ?_, rfl, ?_, hback⟩
  · rw [ofNodes, Parsed.nodes, q.clauses, nodesIn_append, ofNodesFrom_append, nodesIn, ofNodesFrom_clause,
      Clause.declaration?, hfunction, List.append_nil]
    rw [ofNodes] at hfront
    rw [hfront]
    rfl
  · have habove : q.clause.above (nodesAbove p'.tokens.rest q.front q.clause q.back) =
        ((lineComments d.docStart ls).map .ofComment).reverse ++
          ((s.kept.map .ofComment).reverse ++ nodesAbove p'.tokens.rest q.front q.clause q.back) := by
      simp [Clause.above, commentNodes, q.first, newFirst]
    obtain ⟨c, hc, htext⟩ := runAbove_lines (hls ▸ hplain) d.docStart
      ((s.kept.map .ofComment).reverse ++ nodesAbove p'.tokens.rest q.front q.clause q.back)
    rw [← hls, ← habove] at hc
    refine ⟨c, ?_, htext⟩
    rw [q.first]
    exact List.mem_reverse.2 hc

end Site

/-! ## Texts of items -/

theorem itemTexts_append (source : List UInt8) (ns ms : List Node) :
    itemTexts source (ns ++ ms) = itemTexts source ns ++ itemTexts source ms := by
  simp [itemTexts]

@[simp] theorem itemTexts_comments (source : List UInt8) (cs : List Comment) :
    itemTexts source (cs.map .ofComment) = [] := by
  simp [itemTexts, Node.isItem, Node.ofComment]

theorem Node.textIn_front {n e : Node} {x y y' : List UInt8} (h : Node.Shifted .origin .origin n e)
    (hn : n.stop.offset ≤ x.length) : n.textIn (x ++ y) = e.textIn (x ++ y') := by
  unfold Node.textIn
  rw [Mark.shift_self.1 h.start, Mark.shift_self.1 h.stop] at *
  by_cases hle : e.start.offset ≤ x.length
  · rw [List.drop_append_of_le_length hle, List.drop_append_of_le_length hle,
      List.take_append_of_le_length (by rw [List.length_drop]; omega),
      List.take_append_of_le_length (by rw [List.length_drop]; omega)]
  · rw [show e.stop.offset - e.start.offset = 0 by omega, List.take_zero, List.take_zero]

theorem Node.textIn_back {a b : Mark} {n e : Node} {x x' y : List UInt8} (h : Node.Shifted a b n e)
    (hab : a.offset + x'.length = b.offset + x.length) (hn : x.length ≤ n.start.offset)
    : n.textIn (x ++ y) = e.textIn (x' ++ y) := by
  have hstart := h.start.offset
  have hstop := h.stop.offset
  unfold Node.textIn
  obtain ⟨k, hk⟩ : ∃ k, n.start.offset = x.length + k := ⟨_, (Nat.add_sub_of_le hn).symm⟩
  have hk' : e.start.offset = x'.length + k := by omega
  have hlen : n.stop.offset - n.start.offset = e.stop.offset - e.start.offset := by omega
  rw [hk, hk'] at *
  rw [List.drop_length_add_append, List.drop_length_add_append, hlen]

theorem itemTexts_shifted {a b : Mark} {source source' : List UInt8} {ns es : List Node}
    (h : List.Forall₂ (Node.Shifted a b) ns es)
    (htext : ∀ n ∈ ns, ∀ e, Node.Shifted a b n e → n.textIn source = e.textIn source') :
    itemTexts source ns = itemTexts source' es := by
  induction h with
  | nil => rfl
  | @cons n e ns es hne _ ih =>
    obtain ⟨hn, hns⟩ := List.forall_mem_cons.1 htext
    have hitem : n.isItem = e.isItem := by
      have hkind := hne.kind
      unfold Node.isItem
      cases hk : n.kind <;> cases hk' : e.kind <;> rw [hk, hk'] at hkind <;> first | rfl | exact hkind.elim
    have htail := ih hns
    unfold itemTexts at htail ⊢
    rw [List.filter_cons, List.filter_cons, ← hitem]
    split
    · rw [List.map_cons, List.map_cons, hn e hne, htail]
    · exact htail

theorem structuresIn_append (ns ms : List Node) : structuresIn (ns ++ ms) = structuresIn ns ++ structuresIn ms := by
  simp [structuresIn]

@[simp] theorem structuresIn_comments (cs : List Comment) : structuresIn (cs.map .ofComment) = [] := by
  simp [structuresIn, Node.ofComment]

theorem structuresIn_shifted {a b : Mark} {ns es : List Node} (h : List.Forall₂ (Node.Shifted a b) ns es) :
    structuresIn ns = structuresIn es := by
  induction h with
  | nil => rfl
  | @cons n e ns es hne _ ih =>
    have hkind := hne.kind
    unfold structuresIn at ih ⊢
    rw [List.flatMap_cons, List.flatMap_cons, ih]
    congr 1
    obtain ⟨_, _, nkind⟩ := n
    obtain ⟨_, _, ekind⟩ := e
    cases nkind with
    | comment text => cases ekind with
      | comment => rfl
      | item => exact hkind.elim
    | item x => cases ekind with
      | comment => exact hkind.elim
      | item y => exact hkind.structures

namespace Site

variable {source : List UInt8} {p : Parsed source} {d : Declaration} {s : Site p d}
  {ls : List (List UInt8)} {p' : Parsed (s.rewritten ls)} (q : s.Respliced ls p')

/-- The nodes before and behind the site, in order around the doc block. -/
theorem nodes_around :
    p.nodes = nodesOver p.tokens.rest (tokensIn (s.clause :: s.back)) s.front ++
        (s.kept.map .ofComment ++ (d.doc.map .ofComment ++ s.clause.node p.tokens.rest (tokensIn s.back) ::
          (s.clause.closing ++ nodesIn p.tokens.rest s.back))) := by
  rw [Parsed.nodes, s.clauses, nodesIn_append, nodesIn, commentNodes, s.comments]
  simp

/-- The nodes before and behind the site after the splice. -/
theorem new_nodes_around :
    p'.nodes = nodesOver p'.tokens.rest (tokensIn (q.clause :: q.back)) q.front ++
      (q.clause.first.gap.comments.map .ofComment ++ q.clause.node p'.tokens.rest (tokensIn q.back) ::
        (q.clause.closing ++ nodesIn p'.tokens.rest q.back)) := by
  rw [Parsed.nodes, q.clauses, nodesIn_append, nodesIn, commentNodes]

theorem front_stop {n : Node}
    (hn : n ∈ nodesOver p.tokens.rest (tokensIn (s.clause :: s.back)) s.front) :
    n.stop ≤ d.docStart := by
  have horder := p.nodes_inOrder
  rw [s.nodes_around] at horder
  obtain ⟨mid, hfront, hrest⟩ := horder.split
  obtain ⟨mid', hkept, hrest⟩ := hrest.split
  refine Mark.le_trans (hfront.between hn).2.2 (Mark.le_trans hkept.le ?_)
  unfold docStart
  cases hdoc : d.doc with
  | nil =>
    rw [hdoc] at hrest
    exact s.start ▸ hrest.1
  | cons c doc =>
    rw [hdoc] at hrest
    exact hrest.1

theorem back_start {n : Node} (hn : n ∈ s.clause.closing ++ nodesIn p.tokens.rest s.back) :
    d.start ≤ n.start := by
  have horder := p.nodes_inOrder
  rw [s.nodes_around] at horder
  obtain ⟨_, -, hrest⟩ := horder.split
  obtain ⟨_, -, hrest⟩ := hrest.split
  obtain ⟨_, -, -, hle, hrest⟩ := hrest.split
  exact s.start ▸ Mark.le_trans hle (hrest.between hn).1

theorem start_shifted : s.clause.first.stop.offset +
    (leadOf source ++ textsOf s.ahead ++ commentLines ls).length =
      (s.newFirst ls).stop.offset + (leadOf source ++ textsOf s.ahead ++ textsOf s.doc).length := by
  have hstop : s.clause.first.stop.offset = d.start.offset + s.clause.first.text.length := by
    rw [s.stop_eq]; simp
  have hstop' : (s.newFirst ls).stop.offset =
      d.docStart.offset + (commentLines ls).length + s.clause.first.text.length := by
    simp [newFirst]
  rw [hstop, hstop', s.start_offset, s.docStart_offset]
  simp only [List.length_append]
  omega

include q in
/-- **The items of the top level keep their texts.** -/
theorem itemTexts_eq : itemTexts source p.nodes = itemTexts (s.rewritten ls) p'.nodes := by
  have hsource : source = leadOf source ++ textsOf s.ahead ++ (textsOf s.doc ++ textsOf s.rest) := by
    rw [List.append_assoc]; exact s.source_eq
  have hnew : s.rewritten ls = leadOf source ++ textsOf s.ahead ++ (commentLines ls ++ textsOf s.rest) := by
    rw [s.rewritten_eq]; simp
  have hfront : itemTexts source (nodesOver p.tokens.rest (tokensIn (s.clause :: s.back)) s.front) =
      itemTexts (s.rewritten ls) (nodesOver p'.tokens.rest (tokensIn (q.clause :: q.back)) q.front) := by
    refine itemTexts_shifted (front_nodes_shifted q) fun n hn e hne => ?_
    have hle := (front_stop hn).1
    rw [s.docStart_offset] at hle
    calc n.textIn source = n.textIn (leadOf source ++ textsOf s.ahead ++ (textsOf s.doc ++ textsOf s.rest)) :=
          congrArg n.textIn hsource
      _ = e.textIn (leadOf source ++ textsOf s.ahead ++ (commentLines ls ++ textsOf s.rest)) :=
          Node.textIn_front hne hle
      _ = e.textIn (s.rewritten ls) := by rw [hnew]
  have hback : itemTexts source (s.clause.node p.tokens.rest (tokensIn s.back) ::
        (s.clause.closing ++ nodesIn p.tokens.rest s.back)) =
      itemTexts (s.rewritten ls) (q.clause.node p'.tokens.rest (tokensIn q.back) ::
        (q.clause.closing ++ nodesIn p'.tokens.rest q.back)) := by
    refine itemTexts_shifted (.cons (node_shifted q) (List.rel_append (closing_shifted q)
      (back_nodes_shifted q))) fun n hn e hne => ?_
    have hle : d.start.offset ≤ n.start.offset := by
      rcases List.mem_cons.1 hn with rfl | hn
      · exact s.start ▸ Nat.le_refl _
      · exact (back_start hn).1
    rw [s.start_offset] at hle
    calc n.textIn source = n.textIn (leadOf source ++ textsOf s.ahead ++ textsOf s.doc ++ textsOf s.rest) :=
          congrArg n.textIn (by rw [List.append_assoc _ (textsOf s.doc)]; exact hsource)
      _ = e.textIn (leadOf source ++ textsOf s.ahead ++ commentLines ls ++ textsOf s.rest) :=
          Node.textIn_back hne start_shifted hle
      _ = e.textIn (s.rewritten ls) := by rw [hnew, List.append_assoc _ (commentLines ls)]
  rw [s.nodes_around, new_nodes_around q]
  simp only [itemTexts_append, itemTexts_comments, List.nil_append, hfront, hback]

include q in
/-- **The structures of the top level stay.** -/
theorem structures_eq : structuresIn p.nodes = structuresIn p'.nodes := by
  have hfront := structuresIn_shifted (front_nodes_shifted q)
  have hback := structuresIn_shifted (.cons (node_shifted q) (List.rel_append (closing_shifted q) (back_nodes_shifted q)))
  rw [s.nodes_around, new_nodes_around q]
  simp only [structuresIn_append, structuresIn_comments, List.nil_append, hfront, hback]

/-! ## Comments -/

/-- The comments in front of the doc block. -/
def commentsAhead (s : Site p d) : List Comment :=
  (tokensIn s.front).flatMap (·.gap.comments) ++ s.kept

include q in
/-- **Of the comments only the doc block goes.** -/
theorem comments_eq : ∃ back back', p.tokens.comments = s.commentsAhead ++ d.doc ++ back ∧
    p'.tokens.comments = s.commentsAhead ++ lineComments d.docStart ls ++ back' ∧
    back.map Comment.text = back'.map Comment.text ∧
    ∀ c ∈ back', (s.newFirst ls).stop.offset ≤ c.start.offset := by
  have htail : ∀ m : Mark, (s.tail.moved m).comments = s.tail.comments.map (·.moved m) := by
    intro m
    simp [Tokens.comments, Tokens.moved, Token.moved, Gap.moved, List.flatMap_map, List.map_flatMap]
  refine ⟨(s.tail.moved s.clause.first.stop).comments, (s.tail.moved (s.newFirst ls).stop).comments,
    ?_, ?_, ?_, ?_⟩
  · unfold Tokens.comments
    rw [s.tokens_eq, s.tokens_rest]
    simp [commentsAhead, s.comments, Tokens.moved]
  · unfold Tokens.comments
    rw [q.tokens, s.newTokens_eq, s.newTokens_rest]
    simp [commentsAhead, newFirst, Tokens.moved]
  · rw [htail, htail, List.map_map, List.map_map]
    rfl
  · intro c hc
    rw [htail] at hc
    obtain ⟨e, -, rfl⟩ := List.mem_map.1 hc
    exact Nat.le_add_right _ _

end Site

end RouteDoc.Go
