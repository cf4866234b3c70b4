/-
Texts that stand somewhere else.

Where a change in front of a text moves it from one place to another, all places
in it move alike: `Mark.Shift a b` relates the place of something in a text that
starts at `a` to its place in the same text at `b`. Tokens, clauses, nodes and
functions are shifted when their places are and they say the same otherwise. Doc
blocks depend on differences of rows only, so the functions among shifted nodes
are shifted (`ofNodesFrom_shifted`).
-/
import RouteDoc.Proofs.TopLevel.Docs

namespace RouteDoc.Go

open Grammar Declaration

/-! ## Places, comments and tokens -/

/-- A place in a text at `a`, and the same place in the text at `b`. -/
def Mark.Shift (a b m n : Mark) : Prop := m + b = n + a

theorem Mark.Shift.row {a b m n : Mark} (h : Mark.Shift a b m n) : m.row + b.row = n.row + a.row :=
  congrArg Mark.row h

theorem Mark.Shift.offset {a b m n : Mark} (h : Mark.Shift a b m n) :
    m.offset + b.offset = n.offset + a.offset := congrArg Mark.offset h

theorem Mark.shift_add (a b m : Mark) : Mark.Shift a b (a + m) (b + m) := by
  unfold Mark.Shift
  apply Mark.ext' <;> simp only [Mark.add_offset, Mark.add_row] <;> omega

theorem Mark.shift_self {a m n : Mark} : Mark.Shift a a m n ↔ m = n := by
  unfold Mark.Shift
  constructor
  · intro h
    have ho := congrArg Mark.offset h
    have hr := congrArg Mark.row h
    simp only [Mark.add_offset, Mark.add_row] at ho hr
    apply Mark.ext' <;> omega
  · rintro rfl; rfl

section Shifted

variable (a b : Mark)

structure Comment.Shifted (c e : Comment) : Prop where
  start : Mark.Shift a b c.start e.start
  stop : Mark.Shift a b c.stop e.stop
  text : c.text = e.text

structure Gap.Shifted (g h : Gap) : Prop where
  from_ : Mark.Shift a b g.from_ h.from_
  newline : g.newline = h.newline
  comments : List.Forall₂ (Comment.Shifted a b) g.comments h.comments

structure Token.Shifted (t u : Token) : Prop where
  kind : t.kind = u.kind
  text : t.text = u.text
  start : Mark.Shift a b t.start u.start
  stop : Mark.Shift a b t.stop u.stop
  gap : Gap.Shifted a b t.gap u.gap

end Shifted

section Moved

variable {a b : Mark}

theorem Gap.moved_shifted (g : Gap) : Gap.Shifted a b (g.moved a) (g.moved b) := by
  refine ⟨Mark.shift_add a b _, rfl, ?_⟩
  unfold Gap.moved
  dsimp only
  rw [List.forall₂_map_left_iff, List.forall₂_map_right_iff]
  exact List.forall₂_same.2 fun c _ => ⟨Mark.shift_add a b _, Mark.shift_add a b _, rfl⟩

theorem Token.moved_shifted (t : Token) : Token.Shifted a b (t.moved a) (t.moved b) :=
  ⟨rfl, rfl, Mark.shift_add a b _, Mark.shift_add a b _, t.gap.moved_shifted⟩

theorem Tokens.moved_shifted (k : Tokens) :
    List.Forall₂ (Token.Shifted a b) (k.moved a).tokens (k.moved b).tokens ∧
      Gap.Shifted a b (k.moved a).rest (k.moved b).rest := by
  refine ⟨?_, k.rest.moved_shifted⟩
  unfold Tokens.moved
  dsimp only
  rw [List.forall₂_map_left_iff, List.forall₂_map_right_iff]
  exact List.forall₂_same.2 fun t _ => t.moved_shifted

theorem Token.shifted_refl (t : Token) : Token.Shifted a a t t :=
  ⟨rfl, rfl, rfl, rfl, rfl, rfl, List.forall₂_same.2 fun _ _ => ⟨rfl, rfl, rfl⟩⟩

end Moved

/-! ## Clauses -/

structure Clause.Shifted (a b : Mark) (c e : Clause) : Prop where
  first : Token.Shifted a b c.first e.first
  more : List.Forall₂ (Token.Shifted a b) c.more e.more
  closer : List.Forall₂ (Token.Shifted a b) c.closer.toList e.closer.toList
  item : c.item.Alike e.item

theorem forall₂_append_split {α : Type} {P : α → α → Prop} {xs ys xs' ys' : List α}
    (hlen : xs.length = ys.length) (h : List.Forall₂ P (xs ++ xs') (ys ++ ys')) :
    List.Forall₂ P xs ys ∧ List.Forall₂ P xs' ys' := by
  induction xs generalizing ys with
  | nil =>
    obtain rfl := List.length_eq_zero_iff.1 hlen.symm
    exact ⟨.nil, h⟩
  | cons x xs ih =>
    cases ys with
    | nil => cases hlen
    | cons y ys =>
      obtain ⟨hxy, h⟩ := List.forall₂_cons.1 h
      obtain ⟨h1, h2⟩ := ih (Nat.succ.inj hlen) h
      exact ⟨.cons hxy h1, h2⟩

theorem Clause.Alike.closer_length {c e : Clause} (h : c.Alike e) :
    c.closer.toList.length = e.closer.toList.length := by
  have := h.closer
  cases hc : c.closer <;> cases he : e.closer <;> simp_all

/-- Clauses of one form are shifted with their tokens. -/
theorem clauses_shifted {a b : Mark} {cs es : List Clause} (h : List.Forall₂ Clause.Alike cs es)
    (htokens : List.Forall₂ (Token.Shifted a b) (tokensIn cs) (tokensIn es)) :
    List.Forall₂ (Clause.Shifted a b) cs es := by
  induction h with
  | nil => exact .nil
  | @cons c e cs es hce _ ih =>
    rw [tokensIn_cons, tokensIn_cons] at htokens
    have hown : c.own.length = e.own.length := by simp [Clause.own, hce.length]
    obtain ⟨h1, h2⟩ := forall₂_append_split hown htokens
    obtain ⟨h3, h4⟩ := forall₂_append_split hce.closer_length h2
    obtain ⟨h5, h6⟩ := List.forall₂_cons.1 h1
    exact .cons ⟨h5, h6, h3, hce.item⟩ (ih h4)

theorem tokensIn_shifted {a b : Mark} {cs es : List Clause} (h : List.Forall₂ (Clause.Shifted a b) cs es) :
    List.Forall₂ (Token.Shifted a b) (tokensIn cs) (tokensIn es) := by
  induction h with
  | nil => exact .nil
  | cons hce _ ih =>
    rw [tokensIn_cons, tokensIn_cons]
    exact List.rel_append (.cons hce.first hce.more) (List.rel_append hce.closer ih)

/-! ## Nodes -/

/-- The same comment, or items that are alike. -/
def NodeKind.Alike : NodeKind → NodeKind → Prop
  | .comment text, .comment text' => text = text'
  | .item x, .item y => x.Alike y
  | _, _ => False

structure Node.Shifted (a b : Mark) (n e : Node) : Prop where
  start : Mark.Shift a b n.start e.start
  stop : Mark.Shift a b n.stop e.stop
  kind : n.kind.Alike e.kind

theorem commentNodes_shifted {a b : Mark} {cs es : List Comment}
    (h : List.Forall₂ (Comment.Shifted a b) cs es) :
    List.Forall₂ (Node.Shifted a b) (cs.map .ofComment) (es.map .ofComment) := by
  rw [List.forall₂_map_left_iff, List.forall₂_map_right_iff]
  exact h.imp fun _ _ h => ⟨h.start, h.stop, h.text⟩

section Nodes

variable {a b : Mark} {behind behind' : Gap} {rest rest' : List Token}

theorem stopOf_shifted {ts us : List Token} (h : List.Forall₂ (Token.Shifted a b) ts us)
    (hrest : Mark.Shift a b (stopOf behind rest) (stopOf behind' rest')) :
    Mark.Shift a b (stopOf behind (ts ++ rest)) (stopOf behind' (us ++ rest')) := by
  cases h with
  | nil => exact hrest
  | cons htu _ => exact htu.gap.from_

theorem Clause.node_shifted {c e : Clause} (h : Clause.Shifted a b c e)
    (hrest : Mark.Shift a b (stopOf behind rest) (stopOf behind' rest')) :
    Node.Shifted a b (c.node behind rest) (e.node behind' rest') :=
  ⟨h.first.start, stopOf_shifted h.closer hrest, h.item⟩

theorem Clause.closing_shifted {c e : Clause} (h : Clause.Shifted a b c e) :
    List.Forall₂ (Node.Shifted a b) c.closing e.closing := by
  have hcloser := h.closer
  unfold Clause.closing
  cases hc : c.closer <;> cases he : e.closer <;> rw [hc, he] at hcloser <;> cases hcloser
  · exact .nil
  · rename_i htu _
    simpa [commentNodes] using commentNodes_shifted htu.gap.comments

theorem nodesOver_shifted {cs es : List Clause} (h : List.Forall₂ (Clause.Shifted a b) cs es)
    (hrest : Mark.Shift a b (stopOf behind rest) (stopOf behind' rest')) :
    List.Forall₂ (Node.Shifted a b) (nodesOver behind rest cs) (nodesOver behind' rest' es) := by
  induction h with
  | nil => exact .nil
  | @cons c e cs es hce hces ih =>
    have hstop := stopOf_shifted (tokensIn_shifted hces) hrest
    refine List.rel_append (commentNodes_shifted hce.first.gap.comments) (.cons ?_ ?_)
    · exact Clause.node_shifted hce hstop
    · exact List.rel_append (Clause.closing_shifted hce) ih

theorem nodesIn_eq (behind : Gap) (cs : List Clause) :
    nodesIn behind cs = nodesOver behind [] cs ++ commentNodes behind := by
  have h := nodesIn_append behind cs []
  rwa [List.append_nil] at h

theorem nodesIn_shifted {cs es : List Clause} (h : List.Forall₂ (Clause.Shifted a b) cs es)
    (hbehind : Gap.Shifted a b behind behind') :
    List.Forall₂ (Node.Shifted a b) (nodesIn behind cs) (nodesIn behind' es) := by
  rw [nodesIn_eq, nodesIn_eq]
  have hstop : Mark.Shift a b (stopOf behind []) (stopOf behind' []) := hbehind.from_
  exact List.rel_append (nodesOver_shifted h hstop) (commentNodes_shifted hbehind.comments)

end Nodes

/-! ## Functions -/

structure Declaration.Shifted (a b : Mark) (d e : Declaration) : Prop where
  function : d.function = e.function
  start : Mark.Shift a b d.start e.start
  doc : List.Forall₂ (Comment.Shifted a b) d.doc e.doc

theorem Comment.Shifted.texts {a b : Mark} {cs es : List Comment}
    (h : List.Forall₂ (Comment.Shifted a b) cs es) : cs.map Comment.text = es.map Comment.text := by
  induction h with
  | nil => rfl
  | cons hce _ ih => rw [List.map_cons, List.map_cons, ih, hce.text]

theorem Declaration.Shifted.docTexts {a b : Mark} {d e : Declaration} (h : Declaration.Shifted a b d e) :
    d.docTexts = e.docTexts := by
  have htexts := congrArg (List.map textOf) (Comment.Shifted.texts h.doc)
  rw [List.map_map, List.map_map] at htexts
  exact htexts

theorem Comment.shifted_self {a : Mark} {cs es : List Comment}
    (h : List.Forall₂ (Comment.Shifted a a) cs es) : cs = es := by
  induction h with
  | nil => rfl
  | @cons c e _ _ hce _ ih =>
    obtain ⟨hstart, hstop, htext⟩ := hce
    rw [Mark.shift_self] at hstart hstop
    obtain rfl : c = e := by cases c; cases e; simp_all
    rw [ih]

theorem Declaration.shifted_self {a : Mark} {ds es : List Declaration}
    (h : List.Forall₂ (Declaration.Shifted a a) ds es) : ds = es := by
  induction h with
  | nil => rfl
  | @cons d e _ _ hde _ ih =>
    obtain ⟨hfunction, hstart, hdoc⟩ := hde
    rw [Mark.shift_self] at hstart
    have hdoc := Comment.shifted_self hdoc
    obtain rfl : d = e := by cases d; cases e; simp_all
    rw [ih]

/-- Shifted nodes above some place, the nearest first, as far as a run of comments reaches. -/
def AboveShifted (a b : Mark) : List Node → List Node → Prop
  | [], [] => True
  | n :: ns, e :: es => Node.Shifted a b n e ∧ ((comment? n).isSome = true → AboveShifted a b ns es)
  | _, _ => False

section Runs

variable {a b : Mark} {before before' : List Node}

theorem AboveShifted.append {ns es : List Node} (h : List.Forall₂ (Node.Shifted a b) ns es)
    (hbefore : AboveShifted a b before before') : AboveShifted a b (ns ++ before) (es ++ before') := by
  induction h with
  | nil => exact hbefore
  | cons hne _ ih => exact ⟨hne, fun _ => ih⟩

theorem trails_shifted {n e : Node} (h : Node.Shifted a b n e) (hbefore : AboveShifted a b before before') :
    trails n before = trails e before' := by
  cases before with
  | nil => cases before' with
    | nil => rfl
    | cons => exact hbefore.elim
  | cons m _ => cases before' with
    | nil => exact hbefore.elim
    | cons m' _ =>
      have h1 := h.start.row
      have h2 := hbefore.1.stop.row
      simp only [trails]
      rw [Bool.eq_iff_iff, beq_iff_eq, beq_iff_eq]
      omega

theorem runAbove_shifted {row row' : Nat} (h : AboveShifted a b before before')
    (hrow : row + b.row = row' + a.row) :
    List.Forall₂ (Comment.Shifted a b) (runAbove row before) (runAbove row' before') := by
  induction before generalizing before' row row' with
  | nil =>
    cases before' with
    | nil => exact .nil
    | cons => exact h.elim
  | cons n ns ih =>
    cases before' with
    | nil => exact h.elim
    | cons e es =>
      obtain ⟨hne, hnext⟩ := h
      obtain ⟨nstart, nstop, nkind⟩ := n
      obtain ⟨estart, estop, ekind⟩ := e
      cases nkind with
      | item x => cases ekind with
        | item y => exact .nil
        | comment => exact hne.kind.elim
      | comment text => cases ekind with
        | item => exact hne.kind.elim
        | comment text' =>
          have htext : text = text' := hne.kind
          have hstart := hne.start
          have hstop := hne.stop
          have hcond : (nstop.row + 1 == row && !trails ⟨nstart, nstop, .comment text⟩ ns) =
              (estop.row + 1 == row' && !trails ⟨estart, estop, .comment text'⟩ es) := by
            rw [trails_shifted hne (hnext rfl)]
            congr 1
            rw [Bool.eq_iff_iff, beq_iff_eq, beq_iff_eq]
            have := hstop.row
            dsimp only at this
            omega
          simp only [runAbove, comment?, hcond]
          split
          · exact .cons ⟨hstart, hstop, htext⟩ (ih (hnext rfl) hstart.row)
          · exact .nil

/-- **The functions among shifted nodes are shifted.** -/
theorem ofNodesFrom_shifted {ns es : List Node} (hbefore : AboveShifted a b before before')
    (h : List.Forall₂ (Node.Shifted a b) ns es) :
    List.Forall₂ (Declaration.Shifted a b) (ofNodesFrom before ns) (ofNodesFrom before' es) := by
  induction h generalizing before before' with
  | nil => exact .nil
  | @cons n e ns es hne _ ih =>
    have habove : AboveShifted a b (n :: before) (e :: before') := ⟨hne, fun _ => hbefore⟩
    have hnext := ih habove
    have hdoc : List.Forall₂ (Comment.Shifted a b) (docBlock n before) (docBlock e before') :=
      List.rel_reverse (runAbove_shifted hbefore hne.start.row)
    have hkind := hne.kind
    obtain ⟨nstart, nstop, nkind⟩ := n
    obtain ⟨estart, estop, ekind⟩ := e
    cases nkind with
    | comment text => cases ekind with
      | comment => exact hnext
      | item => exact hkind.elim
    | item x => cases ekind with
      | comment => exact hkind.elim
      | item y =>
        cases x with
        | function f =>
          obtain rfl := (hkind.function f).1 rfl
          exact .cons ⟨rfl, hne.start, hdoc⟩ hnext
        | types | other =>
          cases y with
          | function f => cases (hkind.function f).2 rfl
          | types | other => exact hnext

end Runs

end RouteDoc.Go
