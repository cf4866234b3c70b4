/-
Retouched tokens: two readings of one text that differ in the gaps.

A `Retouch` is a list of tokens before and after a change of the gap in front of
one token, the site, and of the comments in front of the others. The site is a
`func` outside of all brackets, and the line end in front of it changes only where
a semicolon, or nothing at all, stands in front. Rules look at the line end before
a token and at the comments behind a star, so they could tell the two lists apart;
this module has what a rule can see (`Tight`, `Loose`), and the modules after it
show for every rule that it reads both lists alike: what it finds differs at most
in the marks of comments behind stars, and not at all where none of these came or
went (`Exact`).

At a number of open brackets the two lists are `Tight` where the next token has
the same line end in front of it, and `Loose` where it may be the site.
-/
import RouteDoc.Go.Source

namespace RouteDoc.Go

/-! ## Outcomes of two readings -/

section Outcomes

variable {α β : Type} {P : α → α → Prop} {Q : β → β → Prop}

theorem rel_cases {x y : Option α} (h : Option.Rel P x y) :
    (x = none ∧ y = none) ∨ ∃ a b, x = some a ∧ y = some b ∧ P a b := by
  cases h with
  | none => exact .inl ⟨rfl, rfl⟩
  | some h => exact .inr ⟨_, _, rfl, rfl, h⟩

theorem rel_bind {x y : Option α} {f g : α → Option β} (h : Option.Rel P x y)
    (hfg : ∀ a b, P a b → Option.Rel Q (f a) (g b)) : Option.Rel Q (x >>= f) (y >>= g) := by
  cases h with
  | none => exact .none
  | some h => exact hfg _ _ h

theorem rel_map {x y : Option α} {f g : α → β} (h : Option.Rel P x y)
    (hfg : ∀ a b, P a b → Q (f a) (g b)) : Option.Rel Q (x.map f) (y.map g) := by
  cases h with
  | none => exact .none
  | some h => exact .some (hfg _ _ h)

theorem rel_or {x y x' y' : Option α} (h : Option.Rel P x y) (h' : Option.Rel P x' y') :
    Option.Rel P (x.or x') (y.or y') := by
  cases h with
  | none => exact h'
  | some h => exact .some h

theorem rel_ite {b c : Bool} {x y x' y' : Option α} (hbc : b = c)
    (ht : b = true → Option.Rel P x y) (hf : b = false → Option.Rel P x' y') :
    Option.Rel P (if b then x else x') (if c then y else y') := by
  subst hbc
  cases b with
  | true => exact ht rfl
  | false => exact hf rfl

theorem rel_imp {P' : α → α → Prop} {x y : Option α} (h : Option.Rel P x y)
    (hP : ∀ a b, P a b → P' a b) : Option.Rel P' x y := by
  cases h with
  | none => exact .none
  | some h => exact .some (hP _ _ h)

end Outcomes

/-! ## Brackets -/

def TokenKind.opens : TokenKind → Bool
  | .sign .openParen | .sign .openBracket | .sign .openBrace => true
  | _ => false

def TokenKind.closes : TokenKind → Bool
  | .sign .closeParen | .sign .closeBracket | .sign .closeBrace => true
  | _ => false

/-- The brackets that are open behind a token; none where it closes one that is not open. -/
def depthStep (d : Nat) (t : Token) : Option Nat :=
  if t.kind.opens then some (d + 1)
  else if t.kind.closes then (match d with | 0 => none | d + 1 => some d)
  else some d

/-- The brackets that are open behind tokens. -/
def depthAfter (d : Nat) (ts : List Token) : Option Nat := ts.foldlM depthStep d

@[simp] theorem depthAfter_nil (d : Nat) : depthAfter d [] = some d := rfl

theorem depthAfter_append (d : Nat) (ts us : List Token) :
    depthAfter d (ts ++ us) = (depthAfter d ts).bind (depthAfter · us) := List.foldlM_append

theorem depthAfter_singleton (d : Nat) (t : Token) : depthAfter d [t] = depthStep d t := by
  simp [depthAfter]

/-! ## Views of types -/

/-- The fields of a type that is a structure. -/
def TypeExpr.fields? : TypeExpr → Option (List (TypeExpr × Option (List UInt8)))
  | .struct fields => some fields
  | _ => none

/-- A type without the marks of comments behind its stars; of a structure, that it is one. -/
def TypeExpr.bare : TypeExpr → TypeExpr
  | .pointer _ target => .pointer false target.bare
  | .struct _ => .struct []
  | type => type

/-! ## Retouches -/

/-- Tokens that only the comments in front of them tell apart. -/
structure Token.Akin (t u : Token) : Prop where
  kind : t.kind = u.kind
  text : t.text = u.text
  newline : t.newline = u.newline

/-- Tokens that no rule tells apart. -/
structure Token.Alike (t u : Token) : Prop extends t.Akin u where
  comments : t.gap.comments.isEmpty = u.gap.comments.isEmpty

theorem Token.Alike.refl (t : Token) : t.Alike t := ⟨⟨rfl, rfl, rfl⟩, rfl⟩

/-- Two lists of tokens that are akin but for the gap in front of the token at `site`. -/
structure Retouch where
  old : List Token
  new : List Token
  site : Nat
  akin : ∀ i, i ≠ site → Option.Rel Token.Akin old[i]? new[i]?
  same : Option.Rel (fun t u => t.kind = u.kind ∧ t.text = u.text) old[site]? new[site]?
  func : ∀ t ∈ old[site]?, t.kind = .word .func_
  depth : ∀ t ∈ old[site]?, depthAfter 0 (old.take site) = some 0
  newline : ∀ t ∈ old[site]?, ∀ u ∈ new[site]?, t.newline = u.newline ∨
    ∀ i, i + 1 = site → ∀ v ∈ old[i]?, v.kind = .sign .semicolon

namespace Retouch

variable {R : Retouch} {d : Nat} {ts us : List Token}

/-- A retouch of nothing. -/
def refl (ts : List Token) : Retouch where
  old := ts
  new := ts
  site := ts.length
  akin i _ := by
    cases ts[i]? with
    | none => exact .none
    | some t => exact .some (Token.Alike.refl t).toAkin
  same := by rw [List.getElem?_eq_none (Nat.le_refl _)]; exact .none
  func := by simp
  depth := by simp
  newline := by simp

/-- Behind a star comments come and go at the site only. -/
def Exact (R : Retouch) : Prop :=
  ∀ i, i + 1 ≠ R.site → ∀ t ∈ R.old[i]?, t.kind = .sign .star → ∀ u ∈ R.old[i + 1]?, ∀ v ∈ R.new[i + 1]?,
    u.gap.comments.isEmpty = v.gap.comments.isEmpty

theorem exact_of_alike (h : ∀ i, i ≠ R.site → Option.Rel Token.Alike R.old[i]? R.new[i]?) : R.Exact := by
  intro i hi t _ _ u hu v hv
  have halike := h (i + 1) hi
  rw [Option.mem_def.1 hu, Option.mem_def.1 hv] at halike
  cases halike with | some halike => exact halike.comments

/-- The same rest of both lists, with `d` brackets open in front of it. -/
def Loose (R : Retouch) (d : Nat) (ts us : List Token) : Prop :=
  ∃ i, ts = R.old.drop i ∧ us = R.new.drop i ∧ depthAfter 0 (R.old.take i) = some d

/-- The same rest of both lists, with the same line end in front of it. -/
def Tight (R : Retouch) (d : Nat) (ts us : List Token) : Prop :=
  R.Loose d ts us ∧ Parse.atLineEnd ts = Parse.atLineEnd us

/-- What a token of a kind leaves: behind a semicolon the site may follow. -/
def After (R : Retouch) (d : Nat) (k : TokenKind) (ts us : List Token) : Prop :=
  if k.opens then R.Tight (d + 1) ts us
  else if k.closes then (match d with | 0 => True | e + 1 => R.Tight e ts us)
  else if k = .sign .semicolon then R.Loose d ts us
  else R.Tight d ts us

theorem Tight.loose (h : R.Tight d ts us) : R.Loose d ts us := h.1

theorem rel_getElem? (R : Retouch) (i : Nat) :
    Option.Rel (fun t u => t.kind = u.kind ∧ t.text = u.text) R.old[i]? R.new[i]? := by
  by_cases hi : i = R.site
  · subst hi; exact R.same
  · have h := R.akin i hi
    revert h
    cases R.old[i]? <;> cases R.new[i]? <;> intro h <;> cases h
    · exact .none
    · rename_i h; exact .some ⟨h.kind, h.text⟩

theorem length_eq (R : Retouch) : R.old.length = R.new.length := by
  have hle : ∀ i : Nat, R.old[i]? = none ↔ R.new[i]? = none := by
    intro i
    have h := R.rel_getElem? i
    revert h
    cases R.old[i]? <;> cases R.new[i]? <;> intro h <;> cases h <;> simp
  have h1 := (hle R.old.length).1 (by simp)
  have h2 := (hle R.new.length).2 (by simp)
  rw [List.getElem?_eq_none_iff] at h1 h2
  omega

theorem Loose.length (h : R.Loose d ts us) : ts.length = us.length := by
  obtain ⟨i, rfl, rfl, -⟩ := h
  simp [R.length_eq]

theorem drop_eq_cons {α : Type} {l ts : List α} {i : Nat} {t : α} (h : t :: ts = l.drop i) :
    l[i]? = some t ∧ ts = l.drop (i + 1) := by
  constructor
  · have := congrArg (·[0]?) h
    simpa using this.symm
  · rw [← List.drop_drop, ← h]; rfl

theorem atLineEnd_drop (l : List Token) (i : Nat) :
    Parse.atLineEnd (l.drop i) = l[i]?.elim true Token.newline := by
  cases h : l[i]? with
  | none => rw [List.drop_eq_nil_of_le (List.getElem?_eq_none_iff.1 h)]; rfl
  | some t => rw [List.drop_eq_getElem?_toList_append, h]; rfl

/-- Behind a token that is no semicolon the line ends agree. -/
theorem tight_behind {i : Nat} {t : Token} (ht : R.old[i]? = some t) (hk : t.kind ≠ .sign .semicolon)
    (hd : depthAfter 0 (R.old.take (i + 1)) = some d) :
    R.Tight d (R.old.drop (i + 1)) (R.new.drop (i + 1)) := by
  refine ⟨⟨i + 1, rfl, rfl, hd⟩, ?_⟩
  rw [atLineEnd_drop, atLineEnd_drop]
  by_cases hs : i + 1 = R.site
  · have hrel := R.same
    rw [hs]
    cases hv : R.old[R.site]? <;> cases hw : R.new[R.site]? <;> rw [hv, hw] at hrel <;> cases hrel
    rcases R.newline _ hv _ hw with h | h
    · exact h
    · exact absurd (h i hs t ht) hk
  · have h := R.akin (i + 1) hs
    revert h
    cases R.old[i + 1]? <;> cases R.new[i + 1]? <;> intro h <;> cases h
    · rfl
    · rename_i h; exact h.newline

/-- What a rule sees of the next token of both lists. -/
structure Heads (R : Retouch) (d : Nat) (t : Token) (ts : List Token) (u : Token) (us : List Token) :
    Prop where
  kind : t.kind = u.kind
  text : t.text = u.text
  newline : t.newline = u.newline ∨ d = 0 ∧ t.kind = .word .func_
  after : R.After d t.kind ts us

theorem after_of_getElem? {i : Nat} {t : Token} (ht : R.old[i]? = some t)
    (hd : depthAfter 0 (R.old.take i) = some d) :
    R.After d t.kind (R.old.drop (i + 1)) (R.new.drop (i + 1)) := by
  have hstep : depthAfter 0 (R.old.take (i + 1)) = depthStep d t := by
    rw [List.take_add_one, ht, depthAfter_append, hd]
    exact depthAfter_singleton d t
  unfold depthStep at hstep
  unfold After
  split
  · rename_i ho
    rw [if_pos ho] at hstep
    exact tight_behind ht (by rintro hk; rw [hk] at ho; cases ho) hstep
  rename_i ho
  rw [if_neg ho] at hstep
  split
  · rename_i hc
    rw [if_pos hc] at hstep
    cases d with
    | zero => trivial
    | succ e => exact tight_behind ht (by rintro hk; rw [hk] at hc; cases hc) hstep
  rename_i hc
  rw [if_neg hc] at hstep
  split
  · exact ⟨i + 1, rfl, rfl, hstep⟩
  · exact tight_behind ht ‹_› hstep

/-- The next token of the old list is met by one of the new list. -/
theorem Loose.cons {t : Token} (h : R.Loose d (t :: ts) us) :
    ∃ u us', us = u :: us' ∧ R.Heads d t ts u us' := by
  obtain ⟨i, hts, rfl, hd⟩ := h
  obtain ⟨ht, rfl⟩ := drop_eq_cons hts
  have hrel := R.rel_getElem? i
  rw [ht] at hrel
  cases hu : R.new[i]? with
  | none => rw [hu] at hrel; cases hrel
  | some u =>
    rw [hu] at hrel
    cases hrel with | some hrel =>
    have hnew : R.new.drop i = u :: R.new.drop (i + 1) :=
      List.drop_eq_getElem?_toList_append.trans (by simp [hu])
    refine ⟨u, _, hnew, hrel.1, hrel.2, ?_, after_of_getElem? ht hd⟩
    by_cases hi : i = R.site
    · subst hi
      rw [R.depth t ht] at hd
      exact .inr ⟨(Option.some.inj hd).symm, R.func t ht⟩
    · have h := R.akin i hi
      rw [ht, hu] at h
      cases h with | some h => exact .inl h.newline

theorem Loose.nil (h : R.Loose d [] us) : us = [] := by
  have := h.length
  exact List.length_eq_zero_iff.1 this.symm

theorem Tight.cons {t : Token} (h : R.Tight d (t :: ts) us) :
    ∃ u us', us = u :: us' ∧ R.Heads d t ts u us' ∧ t.newline = u.newline := by
  obtain ⟨u, us', rfl, hh⟩ := h.loose.cons
  exact ⟨u, us', rfl, hh, h.2⟩

/-- Inside of brackets there is no site. -/
theorem Loose.tight (h : R.Loose (d + 1) ts us) : R.Tight (d + 1) ts us := by
  refine ⟨h, ?_⟩
  cases ts with
  | nil => rw [h.nil]
  | cons t ts =>
    obtain ⟨u, us', rfl, hh⟩ := h.cons
    rcases hh.newline with hn | ⟨h0, -⟩
    · exact hn
    · cases h0

/-! ## What rules look at -/

theorem at_eq (h : R.Loose d ts us) (k : TokenKind) : Parse.at_ k ts = Parse.at_ k us := by
  cases ts with
  | nil => rw [h.nil]
  | cons t ts =>
    obtain ⟨u, us', rfl, hh⟩ := h.cons
    simp only [Parse.at_, hh.kind]

theorem atSign_eq (h : R.Loose d ts us) (s : Sign) : Parse.atSign s ts = Parse.atSign s us :=
  at_eq h _

theorem atWord_eq (h : R.Loose d ts us) (k : Keyword) : Parse.atWord k ts = Parse.atWord k us :=
  at_eq h _

theorem closed_eq (h : R.Tight d ts us) (ne : Bool) : Parse.closed ne ts = Parse.closed ne us := by
  rw [Parse.closed, Parse.closed, h.2]

/-- A line end is seen alike in front of every token but a `func`. -/
theorem atLineEnd_eq {k : TokenKind} (h : R.Loose d ts us) (hk : k ≠ .word .func_)
    (ha : Parse.at_ k ts = true) : Parse.atLineEnd ts = Parse.atLineEnd us := by
  cases ts with
  | nil => rw [h.nil]
  | cons t ts =>
    obtain ⟨u, us', rfl, hh⟩ := h.cons
    have htk : t.kind = k := by simpa [Parse.at_] using ha
    rcases hh.newline with hn | ⟨-, hf⟩
    · exact hn
    · exact absurd (htk.symm.trans hf) hk

theorem continuesWith_eq (h : R.Loose d ts us) (ne : Bool) (s : Sign) :
    Parse.continuesWith ne s ts = Parse.continuesWith ne s us := by
  unfold Parse.continuesWith Parse.closed
  rw [← atSign_eq h s]
  cases hs : Parse.atSign s ts with
  | false => rfl
  | true => rw [atLineEnd_eq h (by simp) hs]

theorem take_rel (h : R.Loose d ts us) (k : TokenKind) :
    Option.Rel (R.After d k) (Parse.take k ts) (Parse.take k us) := by
  cases ts with
  | nil => rw [h.nil]; exact .none
  | cons t ts =>
    obtain ⟨u, us', rfl, hh⟩ := h.cons
    simp only [Parse.take, ← hh.kind]
    split
    · rename_i hk
      have ha := hh.after
      rw [beq_iff_eq.1 hk] at ha
      exact .some ha
    · exact .none

theorem takeSign_rel (h : R.Loose d ts us) (s : Sign) :
    Option.Rel (R.After d (.sign s)) (Parse.takeSign s ts) (Parse.takeSign s us) := take_rel h _

theorem takeWord_rel (h : R.Loose d ts us) (k : Keyword) :
    Option.Rel (R.After d (.word k)) (Parse.takeWord k ts) (Parse.takeWord k us) := take_rel h _

theorem drop_after {k : TokenKind} (h : R.Loose d ts us) (hk : Parse.at_ k ts = true) :
    R.After d k (ts.drop 1) (us.drop 1) := by
  cases ts with
  | nil => cases hk
  | cons t ts =>
    obtain ⟨u, us', rfl, hh⟩ := h.cons
    have htk : t.kind = k := by simpa [Parse.at_] using hk
    exact htk ▸ hh.after

theorem drop_sign {s : Sign} (h : R.Loose d ts us) (hs : Parse.atSign s ts = true) :
    R.After d (.sign s) (ts.drop 1) (us.drop 1) := drop_after h hs

theorem drop_continues {ne : Bool} {s : Sign} (h : R.Loose d ts us)
    (hs : Parse.continuesWith ne s ts = true) : R.After d (.sign s) (ts.drop 1) (us.drop 1) := by
  refine drop_after h ?_
  unfold Parse.continuesWith at hs
  exact (Bool.and_eq_true_iff.1 hs).1

theorem terminator_rel (h : R.Loose (d + 1) ts us) :
    Option.Rel (R.Tight (d + 1)) (Parse.terminator ts) (Parse.terminator us) := by
  have ht := h.tight
  unfold Parse.terminator
  rw [← ht.2]
  split
  · exact .some ht
  · exact rel_imp (takeSign_rel h .semicolon) fun _ _ => Loose.tight

/-- Behind a token that is no bracket as many brackets are open as in front of it. -/
theorem After.flat {k : TokenKind} (h : R.After d k ts us)
    (hk : k.opens = false ∧ k.closes = false) : R.Loose d ts us := by
  unfold After at h
  rw [hk.1, hk.2] at h
  simp only [Bool.false_eq_true, if_false] at h
  split at h
  · exact h
  · exact h.loose

/-! ## Results -/

/-- A text that a name of the old list has. -/
def Spells (R : Retouch) (text : List UInt8) : Prop := ∃ t ∈ R.old, t.kind = .name ∧ t.text = text

/-- The names that a type is, or points to, stand in the old list. -/
def SpellsType (R : Retouch) : TypeExpr → Prop
  | .name text => R.Spells text
  | .pointer _ target => R.SpellsType target
  | _ => True

/-- The same result, and rests that agree. -/
def Same {α : Type} (R : Retouch) (d : Nat) (x y : α × List Token) : Prop :=
  x.1 = y.1 ∧ R.Tight d x.2 y.2

/-- The same name. -/
def SameName (R : Retouch) (d : Nat) (x y : List UInt8 × List Token) : Prop :=
  x.1 = y.1 ∧ R.Spells x.1 ∧ R.Tight d x.2 y.2

/-- Results of which a view is the same, and that are the same where the retouch is exact. -/
def Matches {α β : Type} (R : Retouch) (view : α → β) (x y : α) : Prop :=
  view x = view y ∧ (R.Exact → x = y)

theorem Matches.refl {α β : Type} (view : α → β) (x : α) : R.Matches view x x := ⟨rfl, fun _ => rfl⟩

/-- Types that match; comments at the site may show in one that is no structure and stands outside of
brackets. -/
def SameType (R : Retouch) (d : Nat) (x y : TypeExpr × List Token) : Prop :=
  (x.1.bare = y.1.bare ∧ (R.Exact → 0 < d ∨ x.1.fields?.isSome ∨ y.1.fields?.isSome → x.1 = y.1)) ∧
    R.SpellsType x.1 ∧ R.Tight d x.2 y.2

/-- Types of parameters that match. -/
def SameParams (R : Retouch) (d : Nat) (x y : List TypeExpr × List Token) : Prop :=
  R.Matches (List.map TypeExpr.bare) x.1 y.1 ∧ (∀ type ∈ x.1, R.SpellsType type) ∧ R.Tight d x.2 y.2

theorem SameType.of_eq {type : TypeExpr} (hspell : R.SpellsType type) (h : R.Tight d ts us) :
    R.SameType d (type, ts) (type, us) :=
  ⟨⟨rfl, fun _ _ => rfl⟩, hspell, h⟩

theorem SameType.inside {x y : TypeExpr × List Token} (h : R.SameType (d + 1) x y) :
    R.Matches TypeExpr.bare x.1 y.1 :=
  ⟨h.1.1, fun hR => h.1.2 hR (.inl (Nat.succ_pos d))⟩

theorem SameType.fields_eq {x y : TypeExpr × List Token} (h : R.SameType d x y) (hR : R.Exact) :
    x.1.fields? = y.1.fields? := by
  by_cases hstruct : x.1.fields?.isSome ∨ y.1.fields?.isSome
  · rw [h.1.2 hR (.inr hstruct)]
  · rw [not_or, Option.not_isSome_iff_eq_none, Option.not_isSome_iff_eq_none] at hstruct
    rw [hstruct.1, hstruct.2]

theorem Loose.head_mem {t : Token} (h : R.Loose d (t :: ts) us) : t ∈ R.old := by
  obtain ⟨i, hts, -⟩ := h
  exact List.mem_of_mem_drop (hts ▸ List.mem_cons_self)

theorem name_rel (h : R.Loose d ts us) :
    Option.Rel (R.SameName d) (Parse.name ts) (Parse.name us) := by
  cases ts with
  | nil => rw [h.nil]; exact .none
  | cons t ts =>
    have hmem := h.head_mem
    obtain ⟨u, us', rfl, hh⟩ := h.cons
    simp only [Parse.name, ← hh.kind]
    split
    · rename_i hk
      have htk := beq_iff_eq.1 hk
      have ha := hh.after
      rw [htk] at ha
      exact .some ⟨hh.text, ⟨t, hmem, htk, rfl⟩, ha⟩
    · exact .none

theorem names_rel (n : Nat) (h : R.Loose d ts us) :
    Option.Rel (R.Tight d) (Parse.names n ts) (Parse.names n us) := by
  induction n generalizing ts us with
  | zero => exact .none
  | succ n ih =>
    refine rel_bind (name_rel h) ?_
    rintro ⟨_, ts⟩ ⟨_, us⟩ ⟨-, -, h⟩
    rcases rel_cases (takeSign_rel h.loose .comma) with ⟨h1, h2⟩ | ⟨ts, us, h1, h2, h⟩
    · simp only [h1, h2]
      exact .some ‹_›
    · simp only [h1, h2]
      exact ih h.loose

/-! ## Rules -/

/-- The rules read both lists alike. -/
structure Agrees (R : Retouch) (r : Rules) : Prop where
  type : ∀ {d ts us} ne, R.Loose d ts us → Option.Rel (R.SameType d) (r.type ne ts) (r.type ne us)
  operand : ∀ {d ts us} c, R.Loose d ts us →
    Option.Rel (R.Same d) (r.operand c ts) (r.operand c us)
  params : ∀ {d ts us}, R.Loose d ts us → Option.Rel (R.SameParams d) (r.params ts) (r.params us)
  body : ∀ {d ts us}, R.Loose d ts us → Option.Rel (R.Tight d) (r.body ts) (r.body us)
  block : ∀ {d ts us}, R.Loose d ts us → Option.Rel (R.Tight d) (r.block ts) (r.block us)
  statement : ∀ {d ts us}, R.Loose d ts us →
    Option.Rel (R.Loose d) (r.statement ts) (r.statement us)

section Rules

variable {r : Rules} (hr : R.Agrees r)
include hr

theorem skipType_rel (ne : Bool) (h : R.Loose d ts us) :
    Option.Rel (R.Tight d) (r.skipType ne ts) (r.skipType ne us) :=
  rel_map (hr.type ne h) fun _ _ hxy => hxy.2.2

theorem expr_rel (c : Context) (h : R.Loose d ts us) :
    Option.Rel (R.Tight d) (r.expr c ts) (r.expr c us) := by
  refine rel_bind (hr.operand c h) ?_
  rintro ⟨s, ts⟩ ⟨_, us⟩ ⟨rfl, h⟩
  exact rel_ite rfl (fun _ => .some h) fun _ => .none

theorem exprs_rel (c : Context) (n : Nat) (h : R.Loose d ts us) :
    Option.Rel (R.Tight d) (r.exprs c n ts) (r.exprs c n us) := by
  induction n generalizing ts us with
  | zero => exact .none
  | succ n ih =>
    refine rel_bind (expr_rel hr c h) ?_
    intro ts us h
    exact rel_ite (continuesWith_eq h.loose _ _) (fun hc => ih (drop_continues h.loose hc).loose)
      fun _ => .some h

end Rules

end Retouch

end RouteDoc.Go
