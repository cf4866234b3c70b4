/-
Expressions read retouched tokens alike.

One lemma for each rule of `Go.Grammar.Expressions`. An operand has the same
shape in both lists, so whatever is decided by shapes is decided alike.
-/
import RouteDoc.Proofs.Grammar.Types

namespace RouteDoc.Go.Retouch

open Grammar Parse

variable {R : Retouch} {d : Nat} {ts us : List Token} {r : Rules} (hr : R.Agrees r)
include hr

/-! ## Arguments, elements and indices -/

omit hr in
theorem optional_sign {s : Sign} (h : R.Tight d ts us)
    (hs : ∀ {ts us}, R.After d (.sign s) ts us → R.Tight d ts us) :
    R.Tight d ((takeSign s ts).getD ts) ((takeSign s us).getD us) := by
  rcases rel_cases (takeSign_rel h.loose s) with ⟨h1, h2⟩ | ⟨ts', us', h1, h2, h'⟩ <;>
    rw [h1, h2]
  · exact h
  · exact hs h'

theorem arguments_rel (n : Nat) (h : R.Loose (d + 1) ts us) :
    Option.Rel (R.Tight d) (arguments r n ts) (arguments r n us) := by
  induction n generalizing ts us with
  | zero => exact .none
  | succ n ih =>
    unfold arguments
    rcases rel_cases (takeSign_rel h .closeParen) with ⟨h1, h2⟩ | ⟨ts', us', h1, h2, h'⟩ <;>
      simp only [h1, h2]
    case inr => exact .some h'
    refine rel_bind (expr_rel hr .inner h) ?_
    intro ts us h
    have hdots := optional_sign (s := .ellipsis) h id
    rcases rel_cases (takeSign_rel hdots.loose .comma) with ⟨h1, h2⟩ | ⟨ts, us, h1, h2, h⟩ <;>
      simp only [h1, h2]
    · exact takeSign_rel hdots.loose .closeParen
    · exact ih h.loose

theorem conversion_rel (h : R.Loose (d + 1) ts us) :
    Option.Rel (R.Tight d) (conversion r ts) (conversion r us) := by
  refine rel_bind (expr_rel hr .inner h) ?_
  intro ts us h
  exact takeSign_rel (optional_sign (s := .comma) h id).loose .closeParen

theorem makerRest_rel (n : Nat) (h : R.Loose (d + 1) ts us) :
    Option.Rel (R.Tight d) (makerRest r n ts) (makerRest r n us) := by
  induction n generalizing ts us with
  | zero => exact .none
  | succ n ih =>
    unfold makerRest
    rcases rel_cases (takeSign_rel h .closeParen) with ⟨h1, h2⟩ | ⟨ts', us', h1, h2, h'⟩ <;>
      simp only [h1, h2]
    case inr => exact .some h'
    refine rel_bind (takeSign_rel h .comma) ?_
    intro ts us h
    rcases rel_cases (takeSign_rel h.loose .closeParen) with ⟨h1, h2⟩ | ⟨ts', us', h1, h2, h'⟩ <;>
      simp only [h1, h2]
    · exact rel_bind (expr_rel hr .inner h.loose) fun _ _ h => ih h.loose
    · exact .some h'

theorem makerArguments_rel (h : R.Loose (d + 1) ts us) :
    Option.Rel (R.Tight d) (makerArguments r ts) (makerArguments r us) := by
  unfold makerArguments
  rcases rel_cases (takeSign_rel h .closeParen) with ⟨h1, h2⟩ | ⟨ts', us', h1, h2, h'⟩ <;>
    simp only [h1, h2]
  · refine rel_bind (skipType_rel hr false h) ?_
    intro ts us h
    rw [h.loose.length]
    exact makerRest_rel hr _ h.loose
  · exact .some h'

theorem element_rel (h : R.Loose d ts us) :
    Option.Rel (R.Tight d) (element r ts) (element r us) :=
  rel_ite (atSign_eq h _) (fun _ => hr.body h) fun _ => expr_rel hr .inner h

omit hr in
theorem elementsBehind_rel {n : Nat}
    (ih : ∀ {ts us}, R.Loose (d + 1) ts us → Option.Rel (R.Tight d) (elements r n ts) (elements r n us))
    (h : R.Tight (d + 1) ts us) :
    Option.Rel (R.Tight d)
      (match takeSign .comma ts with
        | some ts => elements r n ts
        | none => takeSign .closeBrace ts)
      (match takeSign .comma us with
        | some ts => elements r n ts
        | none => takeSign .closeBrace us) := by
  rcases rel_cases (takeSign_rel h.loose .comma) with ⟨h1, h2⟩ | ⟨ts', us', h1, h2, h'⟩ <;>
    simp only [h1, h2]
  · exact takeSign_rel h.loose .closeBrace
  · exact ih h'.loose

theorem elements_rel (n : Nat) (h : R.Loose (d + 1) ts us) :
    Option.Rel (R.Tight d) (elements r n ts) (elements r n us) := by
  induction n generalizing ts us with
  | zero => exact .none
  | succ n ih =>
    unfold elements
    rcases rel_cases (takeSign_rel h .closeBrace) with ⟨h1, h2⟩ | ⟨ts', us', h1, h2, h'⟩ <;>
      simp only [h1, h2]
    case inr => exact .some h'
    refine rel_bind (element_rel hr h) ?_
    intro ts us h
    rcases rel_cases (takeSign_rel h.loose .colon) with ⟨h1, h2⟩ | ⟨ts', us', h1, h2, h'⟩ <;>
      simp only [h1, h2]
    · exact elementsBehind_rel ih h
    · exact rel_bind (element_rel hr h'.loose) fun _ _ h => elementsBehind_rel ih h

theorem bodyRule_rel (h : R.Loose d ts us) :
    Option.Rel (R.Tight d) (bodyRule r ts) (bodyRule r us) := by
  refine rel_bind (takeSign_rel h .openBrace) ?_
  intro ts us h
  have hcomma : Option.Rel (R.Tight d) ((takeSign .comma ts).bind (takeSign .closeBrace))
      ((takeSign .comma us).bind (takeSign .closeBrace)) :=
    rel_bind (takeSign_rel h.loose .comma) fun _ _ h => takeSign_rel h.loose .closeBrace
  rcases rel_cases hcomma with ⟨h1, h2⟩ | ⟨ts', us', h1, h2, h'⟩ <;> simp only [h1, h2]
  · rw [h.loose.length]
    exact elements_rel hr _ h.loose
  · exact .some h'

theorem sliceRest_rel (h : R.Loose (d + 1) ts us) :
    Option.Rel (R.Tight d) (sliceRest r ts) (sliceRest r us) := by
  unfold sliceRest
  rcases rel_cases (takeSign_rel h .closeBracket) with ⟨h1, h2⟩ | ⟨ts', us', h1, h2, h'⟩ <;>
    simp only [h1, h2]
  case inr => exact .some h'
  refine rel_bind (expr_rel hr .inner h) ?_
  intro ts us h
  rcases rel_cases (takeSign_rel h.loose .colon) with ⟨h1, h2⟩ | ⟨ts', us', h1, h2, h'⟩ <;>
    simp only [h1, h2]
  · exact takeSign_rel h.loose .closeBracket
  · exact rel_bind (expr_rel hr .inner h'.loose) fun _ _ h => takeSign_rel h.loose .closeBracket

theorem bracketed_rel (s : Shape) (h : R.Loose (d + 1) ts us) :
    Option.Rel (R.Same d) (bracketed r s ts) (bracketed r s us) := by
  have hslice : ∀ {ts us}, R.Tight (d + 1) ts us → Option.Rel (R.Same d)
      (do let ts ← sliceRest r ts; return (Shape.value, ts))
      (do let ts ← sliceRest r us; return (Shape.value, ts)) := fun h =>
    rel_bind (sliceRest_rel hr h.loose) fun _ _ h => .some ⟨rfl, h⟩
  have harguments : Option.Rel (R.Same d)
      (typeArguments r ts.length ts >>= fun ts =>
        if s.isName || s.isNamed then some (Shape.named, ts)
        else if s.isType || (s.isValue && atSign .openParen ts) then some (Shape.value, ts) else none)
      (typeArguments r us.length us >>= fun ts =>
        if s.isName || s.isNamed then some (Shape.named, ts)
        else if s.isType || (s.isValue && atSign .openParen ts) then some (Shape.value, ts) else none) := by
    rw [h.length]
    refine rel_bind (typeArguments_rel hr _ h) ?_
    intro ts us h
    refine rel_ite rfl (fun _ => .some ⟨rfl, h⟩) fun _ => ?_
    exact rel_ite (by rw [atSign_eq h.loose]) (fun _ => .some ⟨rfl, h⟩) fun _ => .none
  unfold bracketed
  rcases rel_cases (takeSign_rel h .colon) with ⟨h1, h2⟩ | ⟨ts', us', h1, h2, h'⟩ <;>
    simp only [h1, h2]
  case inr => exact rel_ite rfl (fun _ => hslice h') fun _ => .none
  have hinner : Option.Rel (R.Same (d + 1))
      (if atSign .tilde ts then none else r.operand .inner ts)
      (if atSign .tilde us then none else r.operand .inner us) :=
    rel_ite (atSign_eq h _) (fun _ => .none) fun _ => hr.operand .inner h
  rcases rel_cases hinner with ⟨h1, h2⟩ | ⟨⟨inner, rest⟩, ⟨_, rest'⟩, h1, h2, rfl, h'⟩ <;>
    simp only [h1, h2]
  · exact harguments
  refine rel_ite (atSign_eq h'.loose _) (fun hc => ?_) fun _ => ?_
  · exact rel_ite rfl (fun _ => hslice (drop_sign h'.loose hc)) fun _ => .none
  refine rel_ite (by rw [atSign_eq h'.loose]) (fun hc => ?_) fun _ => harguments
  have hdrop : R.Tight d (rest.drop 1) (rest'.drop 1) :=
    drop_sign h'.loose (Bool.and_eq_true_iff.1 hc).1
  refine rel_ite rfl (fun _ => .some ⟨rfl, hdrop⟩) fun _ => ?_
  refine rel_ite rfl (fun _ => .some ⟨rfl, hdrop⟩) fun _ => ?_
  exact rel_ite rfl (fun _ => .some ⟨rfl, hdrop⟩) fun _ => .none

/-! ## Operands -/

theorem functionOperand_rel (h : R.Tight d ts us) :
    Option.Rel (R.Same d) (functionOperand r ts) (functionOperand r us) := by
  refine rel_bind (hr.params h.loose) ?_
  rintro ⟨_, ts⟩ ⟨_, us⟩ ⟨-, -, h⟩
  refine rel_bind (result_rel hr false h) ?_
  intro ts us h
  refine rel_ite (atSign_eq h.loose _) (fun _ => ?_) fun _ => .some ⟨rfl, h⟩
  exact rel_bind (hr.block h.loose) fun _ _ h => .some ⟨rfl, h⟩

theorem arrayOperand_rel (c : Context) (h : R.Loose (d + 1) ts us) :
    Option.Rel (R.Same d) (arrayOperand r c ts) (arrayOperand r c us) := by
  unfold arrayOperand
  rcases rel_cases (takeSign_rel h .ellipsis) with ⟨h1, h2⟩ | ⟨ts', us', h1, h2, h'⟩ <;>
    simp only [h1, h2]
  · exact rel_bind (bracketType_rel hr _ h) fun _ _ h => .some ⟨rfl, h⟩
  · refine rel_bind (takeSign_rel h'.loose .closeBracket) ?_
    intro ts us h
    exact rel_bind (skipType_rel hr _ h.loose) fun _ _ h => .some ⟨rfl, h⟩

theorem baseOperand_rel (c : Context) (h : R.Loose d ts us) :
    Option.Rel (R.Same d) (baseOperand r c ts) (baseOperand r c us) := by
  cases ts with
  | nil => rw [h.nil]; exact .none
  | cons t ts =>
    have htype : ∀ s : Shape, Option.Rel (R.Same d)
        (do let ts ← r.skipType c.newlineEnds (t :: ts); return (s, ts))
        (do let ts ← r.skipType c.newlineEnds us; return (s, ts)) := fun s =>
      rel_bind (skipType_rel hr c.newlineEnds h) fun _ _ h => .some ⟨rfl, h⟩
    obtain ⟨u, us, rfl, hh⟩ := h.cons
    have ha := hh.after
    have hku := hh.kind
    have htu := hh.text
    simp only [baseOperand, ← hku, ← htu]
    split <;> rename_i hk
    any_goals rw [hk] at ha
    · exact .some ⟨rfl, ha⟩
    · exact .some ⟨rfl, ha⟩
    · exact .some ⟨rfl, ha⟩
    · refine rel_ite rfl (fun _ => .some ⟨rfl, ha⟩) fun _ => ?_
      refine rel_ite rfl (fun _ => ?_) fun _ => .some ⟨rfl, ha⟩
      refine rel_ite (continuesWith_eq ha.loose _ _) (fun hc => ?_) fun _ => .some ⟨rfl, ha⟩
      refine rel_bind (makerArguments_rel hr (drop_continues ha.loose hc).loose) ?_
      exact fun _ _ h => .some ⟨rfl, h⟩
    · refine rel_bind (hr.operand .inner ha.loose) ?_
      rintro ⟨s, ts⟩ ⟨_, us⟩ ⟨rfl, h⟩
      exact rel_bind (takeSign_rel h.loose .closeParen) fun _ _ h => .some ⟨rfl, h⟩
    · exact arrayOperand_rel hr c ha.loose
    · exact functionOperand_rel hr ha
    · exact htype _
    · exact htype _
    · exact htype _
    · exact htype _
    · exact .none

theorem dotted_rel (s : Shape) (h : R.Loose d ts us) :
    Option.Rel (R.Same d) (dotted r s ts) (dotted r s us) := by
  unfold dotted
  rcases rel_cases (name_rel h) with ⟨h1, h2⟩ | ⟨⟨_, ts'⟩, ⟨_, us'⟩, h1, h2, -, -, h'⟩ <;>
    simp only [h1, h2]
  case inr =>
    refine rel_ite rfl (fun _ => .some ⟨rfl, h'⟩) fun _ => ?_
    exact rel_ite rfl (fun _ => .some ⟨rfl, h'⟩) fun _ => .none
  refine rel_ite rfl (fun _ => .none) fun _ => ?_
  refine rel_bind (takeSign_rel h .openParen) ?_
  intro ts us h
  have hword : Option.Rel (R.Tight d) ((takeWord .type_ ts).bind (takeSign .closeParen))
      ((takeWord .type_ us).bind (takeSign .closeParen)) :=
    rel_bind (takeWord_rel h.loose .type_) fun _ _ h => takeSign_rel h.loose .closeParen
  rcases rel_cases hword with ⟨h1, h2⟩ | ⟨ts', us', h1, h2, h'⟩ <;> simp only [h1, h2]
  · refine rel_bind (skipType_rel hr false h.loose) ?_
    intro ts us h
    exact rel_bind (takeSign_rel h.loose .closeParen) fun _ _ h => .some ⟨rfl, h⟩
  · exact .some ⟨rfl, h'⟩

theorem suffixes_rel (c : Context) (n : Nat) (s : Shape) (h : R.Tight d ts us) :
    Option.Rel (R.Same d) (suffixes r c n s ts) (suffixes r c n s us) := by
  induction n generalizing s ts us with
  | zero => exact .some ⟨rfl, h⟩
  | succ n ih =>
    refine rel_ite (by rw [closed_eq h]) (fun _ => .some ⟨rfl, h⟩) fun _ => ?_
    refine rel_ite (atSign_eq h.loose _) (fun hc => ?_) fun _ => ?_
    · refine rel_bind (dotted_rel hr s (drop_sign h.loose hc).loose) ?_
      rintro ⟨s, ts⟩ ⟨_, us⟩ ⟨rfl, h⟩
      exact ih s h
    refine rel_ite (atSign_eq h.loose _) (fun hc => ?_) fun _ => ?_
    · refine rel_bind (bracketed_rel hr s (drop_sign h.loose hc).loose) ?_
      rintro ⟨s, ts⟩ ⟨_, us⟩ ⟨rfl, h⟩
      exact ih s h
    refine rel_ite (atSign_eq h.loose _) (fun hc => ?_) fun _ => ?_
    · rw [h.loose.length]
      refine rel_ite rfl (fun _ => ?_) fun _ => rel_ite rfl (fun _ => ?_) fun _ => .none
      · exact rel_bind (arguments_rel hr _ (drop_sign h.loose hc).loose) fun _ _ h => ih .value h
      · exact rel_bind (conversion_rel hr (drop_sign h.loose hc).loose) fun _ _ h => ih .value h
    refine rel_ite (by rw [atSign_eq h.loose]) (fun _ => ?_) fun _ => .some ⟨rfl, h⟩
    exact rel_bind (hr.body h.loose) fun _ _ h => ih .value h

/-! ## Operators -/

omit hr in
theorem leadingSigns_rel (found : List Sign) (h : R.Loose d ts us) :
    (leadingSigns found ts).1 = (leadingSigns found us).1 ∧
      R.Loose d (leadingSigns found ts).2 (leadingSigns found us).2 := by
  induction ts generalizing found us with
  | nil =>
    obtain rfl := h.nil
    exact ⟨rfl, h⟩
  | cons t ts ih =>
    obtain ⟨u, us, rfl, hh⟩ := h.cons
    have ha := hh.after
    simp only [leadingSigns, ← hh.kind]
    split <;> rename_i hk
    any_goals rw [hk] at ha; exact ih _ ha.loose
    exact ⟨rfl, h⟩

theorem signedOperand_rel (c : Context) (h : R.Loose d ts us) :
    Option.Rel (R.Same d) (signedOperand r c ts) (signedOperand r c us) := by
  obtain ⟨hsigns, h⟩ := leadingSigns_rel [] h
  unfold signedOperand
  simp only [← hsigns]
  refine rel_bind (baseOperand_rel hr c h) ?_
  rintro ⟨s, ts⟩ ⟨_, us⟩ ⟨rfl, h⟩
  rw [h.loose.length]
  refine rel_bind (suffixes_rel hr c _ s h) ?_
  rintro ⟨s, ts⟩ ⟨_, us⟩ ⟨rfl, h⟩
  cases List.foldlM applySign s _ with
  | none => exact .none
  | some s => exact .some ⟨rfl, h⟩

omit hr in
theorem isOperator_flat {c : Context} {k : TokenKind} (h : isOperator c k = true) :
    k.opens = false ∧ k.closes = false := by
  cases k with
  | sign s => cases s <;> first | exact ⟨rfl, rfl⟩ | simp [isOperator] at h
  | _ => exact ⟨rfl, rfl⟩

theorem operands_rel (c : Context) (n : Nat) (s : Shape) (h : R.Tight d ts us) :
    Option.Rel (R.Same d) (operands r c n s ts) (operands r c n s us) := by
  induction n generalizing s ts us with
  | zero => exact .none
  | succ n ih =>
    cases ts with
    | nil =>
      have hnil := h.loose.nil
      subst hnil
      exact .some ⟨rfl, h⟩
    | cons t ts =>
      obtain ⟨u, us, rfl, hh, hn⟩ := h.cons
      have hcond : (isOperator c t.kind && !closed c.newlineEnds (t :: ts)) =
          (isOperator c u.kind && !closed c.newlineEnds (u :: us)) := by
        rw [hh.kind, closed_eq h]
      refine rel_ite hcond (fun hc => ?_) fun _ => .some ⟨rfl, h⟩
      have hop := (Bool.and_eq_true_iff.1 hc).1
      have ha := hh.after.flat (isOperator_flat hop)
      refine rel_ite rfl (fun _ => ?_) fun _ => .none
      refine rel_bind (signedOperand_rel hr c ha) ?_
      rintro ⟨s, ts⟩ ⟨_, us⟩ ⟨rfl, h⟩
      exact rel_ite rfl (fun _ => ih .value h) fun _ => .none

theorem operandRule_rel (c : Context) (h : R.Loose d ts us) :
    Option.Rel (R.Same d) (operandRule r c ts) (operandRule r c us) := by
  refine rel_bind (signedOperand_rel hr c h) ?_
  rintro ⟨s, ts⟩ ⟨_, us⟩ ⟨rfl, h⟩
  dsimp only at h ⊢
  rw [h.loose.length]
  exact operands_rel hr c _ s h

end RouteDoc.Go.Retouch
