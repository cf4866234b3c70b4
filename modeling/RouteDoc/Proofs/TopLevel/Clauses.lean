/-
The top level as a list of clauses.

A clause is an item with its tokens and the semicolon that closes it, where one
does. A text is grammatical when its tokens can be cut into clauses that read as
items and end as items have to (`Reads`); its nodes are the comments and items of
the clauses (`nodesIn`). `nodesFrom_eq_some_iff` ties this to the walk with its
fuel and its list of nodes so far.

`Reads.retouch` carries the clauses of a text over to a retouch of its tokens.
-/
import Mathlib.Data.List.Forall2
import RouteDoc.Proofs.Grammar.Items

namespace RouteDoc.Go

open Grammar

/-- An item with its tokens, and the semicolon that closes it. -/
structure Clause where
  first : Token
  more : List Token
  item : Item
  closer : Option Token

namespace Clause

/-- The tokens of the item. -/
def own (c : Clause) : List Token := c.first :: c.more

/-- The tokens of the item and the semicolon. -/
def tokens (c : Clause) : List Token := c.own ++ c.closer.toList

/-- The item may end where it does; `rest` are the tokens behind the clause. -/
def Ends (behind : Gap) (c : Clause) (rest : List Token) : Prop :=
  match c.closer, rest with
  | some t, _ => t.newline = false ∧ t.kind = .sign .semicolon
  | none, [] => (behind.newline || mayStandLast c.first c.item) = true
  | none, t :: _ => t.newline = true

end Clause

/-- The tokens of clauses, in a row. -/
def tokensIn (cs : List Clause) : List Token := cs.flatMap Clause.tokens

@[simp] theorem tokensIn_nil : tokensIn [] = [] := rfl

@[simp] theorem tokensIn_cons (c : Clause) (cs : List Clause) :
    tokensIn (c :: cs) = c.own ++ (c.closer.toList ++ tokensIn cs) := by
  simp [tokensIn, Clause.tokens]

@[simp] theorem tokensIn_append (cs ds : List Clause) : tokensIn (cs ++ ds) = tokensIn cs ++ tokensIn ds := by
  simp [tokensIn]

/-- Each clause reads as its item and ends as it has to. -/
def Reads (r : Rules) (behind : Gap) : List Clause → Prop
  | [] => True
  | c :: cs =>
    Grammar.item r (tokensIn (c :: cs)) = some (c.item, c.closer.toList ++ tokensIn cs) ∧
      c.Ends behind (tokensIn cs) ∧ Reads r behind cs

theorem Reads.append_right {r : Rules} {behind : Gap} {cs es : List Clause} (h : Reads r behind (cs ++ es)) :
    Reads r behind es := by
  induction cs with
  | nil => exact h
  | cons c cs ih => exact ih h.2.2

/-- The nodes that comments are. -/
def commentNodes (g : Gap) : List Node := g.comments.map .ofComment

/-- The node of an item; `rest` are the tokens behind the clause. -/
def Clause.node (behind : Gap) (c : Clause) (rest : List Token) : Node :=
  ⟨c.first.start, stopOf behind (c.closer.toList ++ rest), .item c.item⟩

/-- The comments in front of the semicolon of a clause. -/
def Clause.closing (c : Clause) : List Node := c.closer.toList.flatMap fun t => commentNodes t.gap

/-- The nodes of clauses and of the gap behind them. -/
def nodesIn (behind : Gap) : List Clause → List Node
  | [] => commentNodes behind
  | c :: cs =>
    commentNodes c.first.gap ++ c.node behind (tokensIn cs) :: (c.closing ++ nodesIn behind cs)

/-! ## The walk -/

theorem pushComments_eq (found : List Node) (g : Gap) :
    pushComments found g.comments = (commentNodes g).reverse ++ found := by
  unfold pushComments commentNodes
  induction g.comments generalizing found with
  | nil => rfl
  | cons c cs ih => simp [ih]

section Walk

variable {r : Rules} {behind : Gap} {found : List Node} {fuel : Nat} {ts : List Token}

theorem nodesFrom_of_reads {cs : List Clause} (h : Reads r behind cs)
    (hfuel : (tokensIn cs).length ≤ fuel) :
    nodesFrom r behind found fuel (tokensIn cs) = some (found.reverse ++ nodesIn behind cs) := by
  induction cs generalizing found fuel with
  | nil => cases fuel <;> simp [nodesFrom, nodesIn, pushComments_eq]
  | cons c cs ih =>
    obtain ⟨hitem, hends, hrest⟩ := h
    have hown : c.own = c.first :: c.more := rfl
    rw [tokensIn_cons, hown, List.cons_append] at hitem hfuel ⊢
    cases fuel with
    | zero => cases hfuel
    | succ fuel =>
      have hlen : (tokensIn cs).length ≤ fuel := by
        simp only [List.length_cons, List.length_append] at hfuel; omega
      have hnext := @ih (c.closing.reverse ++ c.node behind (tokensIn cs) ::
        ((commentNodes c.first.gap).reverse ++ found)) fuel hrest hlen
      simp only [nodesFrom, hitem, pushComments_eq]
      unfold Clause.Ends at hends
      unfold Clause.closing Clause.node at hnext
      simp only [nodesIn, Clause.closing, Clause.node]
      cases hcloser : c.closer with
      | some t =>
        simp only [hcloser] at hends
        simp only [hcloser] at hnext
        simpa [hends.1, hends.2] using hnext
      | none =>
        simp only [hcloser] at hends hnext
        cases htail : tokensIn cs with
        | nil =>
          rw [htail] at hends hnext
          cases fuel <;> simpa [hends, nodesFrom, pushComments_eq] using hnext
        | cons t rest =>
          rw [htail] at hends hnext
          simpa [hends] using hnext

/-- An item takes tokens from the front, and closes the brackets it opens. -/
theorem item_taken {n : Nat} {x : Item} {rest : List Token} (h : Grammar.item (rules n) ts = some (x, rest)) :
    ∃ own, ts = own ++ rest ∧ depthAfter 0 own = some 0 := by
  have hrel : Option.Rel ((Retouch.refl ts).SameItem 0) (Grammar.item (rules n) ts) (Grammar.item (rules n) ts) :=
    Retouch.item_rel (Retouch.rules_agree (.refl ts) n) ⟨0, rfl, rfl, rfl⟩
  rw [h] at hrel
  cases hrel with | some hsame =>
  obtain ⟨i, hi, -, hd⟩ := hsame.2.2
  obtain rfl : rest = ts.drop i := hi
  exact ⟨ts.take i, (List.take_append_drop i ts).symm, hd⟩

theorem item_first {n : Nat} {t : Token} {x : Item} {rest : List Token}
    (h : Grammar.item (rules n) (t :: ts) = some (x, rest)) (hne : rest ≠ t :: ts) :
    ∃ more, t :: ts = t :: more ++ rest := by
  obtain ⟨own, hown, -⟩ := item_taken h
  cases own with
  | nil => exact absurd hown.symm hne
  | cons u more =>
    obtain ⟨rfl, -⟩ := List.cons.inj hown
    exact ⟨more, hown⟩

theorem item_semicolon {n : Nat} {t : Token} (ht : t.kind = .sign .semicolon) :
    Grammar.item (rules (n + 1)) (t :: ts) = some (.other, ts) := by
  simp only [Grammar.item, ht, Rules.statement, rules, rule, skipping, statementRule, label?]
  rfl

/-- A clause that reads takes its tokens. -/
theorem Reads.length_lt {cs : List Clause} {x : Item} {rest : List Token} (h : Reads r behind cs)
    (hne : tokensIn cs ≠ []) (hitem : Grammar.item r (tokensIn cs) = some (x, rest)) :
    rest.length < (tokensIn cs).length := by
  cases cs with
  | nil => exact absurd rfl hne
  | cons c cs =>
    rw [h.1] at hitem
    cases hitem
    simp only [tokensIn_cons, Clause.own, List.length_append, List.length_cons]
    omega

theorem reads_of_nodesFrom {n : Nat} {ns : List Node}
    (h : nodesFrom (rules (n + 1)) behind found fuel ts = some ns) :
    ∃ cs, tokensIn cs = ts ∧ Reads (rules (n + 1)) behind cs ∧
      ns = found.reverse ++ nodesIn behind cs := by
  induction fuel generalizing found ts with
  | zero =>
    cases ts with
    | nil =>
      refine ⟨[], rfl, trivial, ?_⟩
      simpa [nodesFrom, nodesIn, pushComments_eq] using h.symm
    | cons t ts => cases h
  | succ fuel ih =>
    cases ts with
    | nil =>
      refine ⟨[], rfl, trivial, ?_⟩
      simpa [nodesFrom, nodesIn, pushComments_eq] using h.symm
    | cons t ts =>
      simp only [nodesFrom, pushComments_eq] at h
      split at h
      · cases h
      rename_i x rest hitem
      split at h
      · split at h
        case isFalse => cases h
        rename_i hlast
        obtain ⟨more, hmore⟩ := item_first hitem (by simp)
        refine ⟨[⟨t, more, x, none⟩], by simpa [Clause.own] using hmore.symm, ?_, ?_⟩
        · refine ⟨?_, hlast, trivial⟩
          simpa [Clause.own, hmore] using hitem
        · cases fuel <;>
            simpa [nodesFrom, pushComments_eq, nodesIn, Clause.closing, Clause.node] using h.symm
      rename_i t' rest
      split at h
      · rename_i hnewline
        obtain ⟨cs, hcs, hreads, rfl⟩ := ih h
        -- Where the item took nothing, the walk would meet the same tokens again.
        have hne : t' :: rest ≠ t :: ts := by
          intro heq
          rw [← heq, ← hcs] at hitem
          have hlt := hreads.length_lt (by rw [hcs]; simp) hitem
          exact Nat.lt_irrefl _ hlt
        obtain ⟨more, hmore⟩ := item_first hitem hne
        refine ⟨⟨t, more, x, none⟩ :: cs, by simpa [Clause.own, hcs] using hmore.symm, ?_, ?_⟩
        · refine ⟨?_, ?_, hreads⟩
          · simpa [Clause.own, hcs, hmore] using hitem
          · simpa [Clause.Ends, hcs] using hnewline
        · simp [nodesIn, Clause.closing, Clause.node, hcs]
      split at h
      case isFalse => cases h
      rename_i hnewline hk
      have hkind := beq_iff_eq.1 hk
      obtain ⟨cs, hcs, hreads, rfl⟩ := ih h
      have hne : t' :: rest ≠ t :: ts := by
        intro heq
        obtain ⟨rfl, rfl⟩ := List.cons.inj heq
        rw [item_semicolon hkind] at hitem
        have hlen := congrArg List.length (Prod.mk.inj (Option.some.inj hitem)).2
        simp at hlen
      obtain ⟨more, hmore⟩ := item_first hitem hne
      refine ⟨⟨t, more, x, some t'⟩ :: cs, by simpa [Clause.own, hcs] using hmore.symm, ?_, ?_⟩
      · refine ⟨?_, ⟨by simpa using hnewline, hkind⟩, hreads⟩
        simpa [Clause.own, hcs, hmore] using hitem
      · simp [nodesIn, Clause.closing, Clause.node, hcs]

end Walk

/-- **The nodes of a text are those of its clauses.** -/
theorem nodesFrom_eq_some_iff {n : Nat} {behind : Gap} {ts : List Token} {ns : List Node} :
    nodesFrom (rules (n + 1)) behind [] ts.length ts = some ns ↔
      ∃ cs, tokensIn cs = ts ∧ Reads (rules (n + 1)) behind cs ∧ ns = nodesIn behind cs := by
  constructor
  · intro h
    simpa using reads_of_nodesFrom h
  · rintro ⟨cs, rfl, hreads, rfl⟩
    simpa using @nodesFrom_of_reads _ _ [] _ _ hreads (Nat.le_refl _)

/-- A source text with its tokens and clauses. -/
structure Parsed (source : List UInt8) where
  tokens : Tokens
  clauses : List Clause
  tokenize : Go.tokenize source = some tokens
  cut : tokensIn clauses = tokens.tokens
  reads : Reads (rulesFor tokens.tokens) tokens.rest clauses

def Parsed.nodes {source : List UInt8} (p : Parsed source) : List Node := nodesIn p.tokens.rest p.clauses

theorem nodes?_eq_some_iff {source : List UInt8} {ns : List Node} :
    nodes? source = some ns ↔ ∃ p : Parsed source, p.nodes = ns := by
  unfold nodes?
  constructor
  · intro h
    obtain ⟨found, hfound, h⟩ := Option.bind_eq_some_iff.1 h
    obtain ⟨cs, hcs, hreads, rfl⟩ := nodesFrom_eq_some_iff.1 h
    exact ⟨⟨found, cs, hfound, hcs, hreads⟩, rfl⟩
  · rintro ⟨p, rfl⟩
    rw [p.tokenize]
    exact nodesFrom_eq_some_iff.2 ⟨p.clauses, p.cut, p.reads, rfl⟩

/-! ## Clauses of retouched tokens -/

theorem rel_getElem?_of_forall₂ {α : Type} {P : α → α → Prop} {xs ys : List α} (h : List.Forall₂ P xs ys) (i : Nat) :
    Option.Rel P xs[i]? ys[i]? := by
  induction h generalizing i with
  | nil => exact .none
  | cons hxy _ ih =>
    cases i with
    | zero => exact .some hxy
    | succ i => simpa using ih i

/-- Tokens that only comments tell apart, as a retouch without a site. -/
def Retouch.ofAkin {ts us : List Token} (h : List.Forall₂ Token.Akin ts us) : Retouch where
  old := ts
  new := us
  site := ts.length
  akin i _ := rel_getElem?_of_forall₂ h i
  same := by
    rw [List.getElem?_eq_none (Nat.le_refl _), List.getElem?_eq_none (Nat.le_of_eq h.length_eq.symm)]
    exact .none
  func := (refl ts).func
  depth := (refl ts).depth
  newline := by simp

/-- Clauses of one form: as many tokens, items that are alike, a semicolon or none. -/
structure Clause.Alike (c e : Clause) : Prop where
  length : c.more.length = e.more.length
  item : c.item.Alike e.item
  closer : c.closer.isSome = e.closer.isSome

/-- Clauses of retouched tokens: as many tokens, items that agree, a semicolon or none. -/
structure Retouch.SameClause (R : Retouch) (c e : Clause) : Prop where
  length : c.more.length = e.more.length
  item : R.ItemsAgree c.item e.item
  closer : c.closer.isSome = e.closer.isSome

theorem Retouch.SameClause.alike {R : Retouch} {c e : Clause} (h : R.SameClause c e) (hR : R.Exact) : c.Alike e :=
  ⟨h.length, h.item.2 hR, h.closer⟩

theorem Retouch.Loose.newline {R : Retouch} {d : Nat} {t u : Token} {ts us : List Token}
    (hsite : ∀ t ∈ R.old[R.site]?, ∀ u ∈ R.new[R.site]?, t.newline = true → u.newline = true)
    (h : R.Loose d (t :: ts) (u :: us)) (ht : t.newline = true) : u.newline = true := by
  obtain ⟨i, hts, hus, -⟩ := h
  have hold := (drop_eq_cons hts).1
  have hnew := (drop_eq_cons hus).1
  by_cases hi : i = R.site
  · subst hi
    exact hsite t hold u hnew ht
  · have hakin := R.akin i hi
    rw [hold, hnew] at hakin
    cases hakin with | some hakin => exact hakin.newline ▸ ht

/-- **Retouched tokens have clauses of the same form.** -/
theorem Reads.retouch {R : Retouch} {n : Nat} {behind behind' : Gap} {cs : List Clause} {us : List Token}
    (h : Reads (rules n) behind cs) (hbehind : behind.newline = behind'.newline)
    (hsite : ∀ t ∈ R.old[R.site]?, ∀ u ∈ R.new[R.site]?, t.newline = true → u.newline = true)
    (hloose : R.Loose 0 (tokensIn cs) us) :
    ∃ es, tokensIn es = us ∧ Reads (rules n) behind' es ∧ List.Forall₂ R.SameClause cs es := by
  induction cs generalizing us with
  | nil => exact ⟨[], hloose.nil.symm, trivial, .nil⟩
  | cons c cs ih =>
    obtain ⟨hitem, hends, hrest⟩ := h
    have hrel := Retouch.item_rel (Retouch.rules_agree R n) hloose
    rw [hitem] at hrel
    obtain ⟨hx, -⟩ | ⟨x, ⟨y, rest⟩, hx, hy, hsame⟩ := rel_cases hrel <;> cases hx
    obtain ⟨own, rfl, -⟩ := item_taken hy
    have hlen := hloose.length
    have hlen' := hsame.2.2.length
    rw [tokensIn_cons] at hlen hloose
    rw [Clause.own, List.cons_append] at hloose
    obtain ⟨u, us', hus, hh⟩ := hloose.cons
    obtain ⟨more, rfl⟩ : ∃ more, own = u :: more := by
      cases own with
      | nil =>
        simp only [Clause.own, List.length_append, List.length_cons, List.nil_append] at hlen hlen'
        omega
      | cons v more => exact ⟨more, by rw [(List.cons.inj hus).1]⟩
    have hmore : c.more.length = more.length := by
      simp only [Clause.own, List.length_append, List.length_cons] at hlen hlen'
      omega
    have hlast := hsame.mayStandLast_eq hh.kind
    obtain ⟨hitems, -, hloose'⟩ := hsame
    unfold Clause.Ends at hends
    dsimp only at hitems hloose' hlast
    cases hcloser : c.closer with
    | some t =>
      rw [hcloser] at hends hloose'
      obtain ⟨v, vs, rfl, hv⟩ := hloose'.cons
      have hafter := hv.after
      rw [hends.2] at hafter
      obtain ⟨es, rfl, hreads, halike⟩ := ih hrest hafter
      refine ⟨⟨u, more, y, some v⟩ :: es, by simp [Clause.own], ⟨?_, ⟨?_, ?_⟩, hreads⟩, ?_⟩
      · simpa [Clause.own] using hy
      · rcases hv.newline with hn | ⟨-, hf⟩
        · exact hn ▸ hends.1
        · rw [hends.2] at hf; cases hf
      · exact hv.kind ▸ hends.2
      · exact .cons ⟨hmore, hitems, by rw [hcloser]; rfl⟩ halike
    | none =>
      rw [hcloser] at hends hloose'
      obtain ⟨es, rfl, hreads, halike⟩ := ih hrest hloose'
      refine ⟨⟨u, more, y, none⟩ :: es, by simp [Clause.own], ⟨?_, ?_, hreads⟩, ?_⟩
      · simpa [Clause.own] using hy
      · simp only [Option.toList_none, List.nil_append] at hloose'
        cases htail : tokensIn cs with
        | nil =>
          rw [htail] at hends hloose'
          simp only [Clause.Ends, hloose'.nil]
          rw [← hbehind, ← hlast]
          exact hends
        | cons t ts =>
          rw [htail] at hends hloose'
          obtain ⟨v, vs, hvs, -⟩ := hloose'.cons
          rw [hvs] at hloose'
          simp only [Clause.Ends, hvs]
          exact hloose'.newline hsite hends
      · exact .cons ⟨hmore, hitems, by rw [hcloser]⟩ halike

end RouteDoc.Go
