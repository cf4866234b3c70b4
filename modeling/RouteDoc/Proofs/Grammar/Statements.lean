/-
Statements, declarations and items read retouched tokens alike.

One lemma for each rule of `Go.Grammar.Statements`, then the induction over the
steps of the rules (`rules_agree`), then the items of the top level. A statement
can be a semicolon alone, so what a statement leaves is only `Loose`; lists of
statements stand in braces, where that is no difference.
-/
import RouteDoc.Proofs.Grammar.Expressions

namespace RouteDoc.Go.Retouch

open Grammar Parse

variable {R : Retouch} {d : Nat} {ts us : List Token} {r : Rules} (hr : R.Agrees r)
include hr

/-! ## Simple statements -/

theorem operandList_rel (c : Context) (h : R.Loose d ts us) :
    Option.Rel (R.Same d) (operandList r c ts) (operandList r c us) := by
  refine rel_bind (hr.operand c h) ?_
  rintro ⟨s, ts⟩ ⟨_, us⟩ ⟨rfl, h⟩
  dsimp only at h ⊢
  refine rel_ite (continuesWith_eq h.loose _ _) (fun hc => ?_) fun _ => .some ⟨rfl, h⟩
  refine rel_ite rfl (fun _ => ?_) fun _ => .none
  rw [h.loose.length]
  refine rel_bind (exprs_rel hr _ _ (drop_continues h.loose hc).loose) ?_
  exact fun _ _ h => .some ⟨rfl, h⟩

omit hr in
theorem isAssignment_flat {k : TokenKind} (h : isAssignment k = true) :
    k.opens = false ∧ k.closes = false := by
  cases k with
  | sign s => cases s <;> first | exact ⟨rfl, rfl⟩ | simp [isAssignment] at h
  | _ => exact ⟨rfl, rfl⟩

theorem simpleRest_rel (c : Context) (s : Option Shape) (h : R.Tight d ts us) :
    Option.Rel (R.Same d) (simpleRest r c s ts) (simpleRest r c s us) := by
  unfold simpleRest
  cases ts with
  | nil =>
    obtain rfl := h.loose.nil
    dsimp only
    cases s with
    | none => exact .none
    | some s =>
      refine rel_ite rfl (fun _ => .some ⟨rfl, h⟩) fun _ => ?_
      exact rel_ite rfl (fun _ => .some ⟨rfl, h⟩) fun _ => .none
  | cons t ts =>
    obtain ⟨u, us, rfl, hh, -⟩ := h.cons
    have hku := hh.kind
    dsimp only
    rw [← hku]
    refine rel_ite (closed_eq h _) (fun _ => ?_) fun _ => ?_
    · exact rel_ite rfl (fun _ => .some ⟨rfl, h⟩) fun _ => .none
    refine rel_ite rfl (fun hk => ?_) fun _ => ?_
    · have ha := hh.after
      rw [beq_iff_eq.1 hk] at ha
      refine rel_ite rfl (fun _ => ?_) fun _ => .none
      refine rel_bind (operandList_rel hr c.later ha.loose) ?_
      rintro ⟨right, ts⟩ ⟨_, us⟩ ⟨rfl, h⟩
      cases right with
      | none => exact .some ⟨rfl, h⟩
      | some right =>
        refine rel_ite rfl (fun _ => .some ⟨rfl, h⟩) fun _ => ?_
        exact rel_ite rfl (fun _ => .some ⟨rfl, h⟩) fun _ => .none
    refine rel_ite rfl (fun hk => ?_) fun _ => ?_
    · have ha := hh.after.flat (isAssignment_flat hk)
      rw [ha.length]
      refine rel_ite rfl (fun _ => ?_) fun _ => .none
      exact rel_bind (exprs_rel hr _ _ ha) fun _ _ h => .some ⟨rfl, h⟩
    refine rel_ite rfl (fun hk => ?_) fun _ => ?_
    · have ha : R.Tight d ts us := by
        have ha := hh.after
        rcases Bool.or_eq_true_iff.1 hk with hk | hk <;> rw [beq_iff_eq.1 hk] at ha <;> exact ha
      exact rel_ite rfl (fun _ => .some ⟨rfl, ha⟩) fun _ => .none
    refine rel_ite rfl (fun hk => ?_) fun _ => ?_
    · have ha := hh.after
      rw [beq_iff_eq.1 hk] at ha
      refine rel_ite rfl (fun _ => ?_) fun _ => .none
      exact rel_bind (expr_rel hr _ ha.loose) fun _ _ h => .some ⟨rfl, h⟩
    cases s with
    | none => exact .none
    | some s =>
      refine rel_ite rfl (fun _ => .some ⟨rfl, h⟩) fun _ => ?_
      exact rel_ite rfl (fun _ => .some ⟨rfl, h⟩) fun _ => .none

theorem simple_rel (c : Context) (h : R.Loose d ts us) :
    Option.Rel (R.Same d) (simple r c ts) (simple r c us) := by
  refine rel_bind (operandList_rel hr c h) ?_
  rintro ⟨s, ts⟩ ⟨_, us⟩ ⟨rfl, h⟩
  exact simpleRest_rel hr c s h

/-! ## Lists of statements -/

omit hr in
theorem isEmpty_eq (h : R.Loose d ts us) : ts.isEmpty = us.isEmpty := by
  cases ts with
  | nil => rw [h.nil]
  | cons t ts => obtain ⟨u, us, rfl, -⟩ := h.cons; rfl

omit hr in
theorem listEnds_eq (h : R.Loose d ts us) : listEnds ts = listEnds us := by
  unfold listEnds
  rw [isEmpty_eq h, atSign_eq h, atWord_eq h, atWord_eq h]

omit hr in
theorem label_rel (h : R.Loose d ts us) : Option.Rel (R.Tight d) (label? ts) (label? us) := by
  cases ts with
  | nil => rw [h.nil]; exact .none
  | cons t ts =>
    obtain ⟨u, us, rfl, hh⟩ := h.cons
    refine rel_ite (by rw [hh.kind, hh.text]) (fun hk => ?_) fun _ => .none
    have ha := hh.after
    have hname := (Bool.and_eq_true_iff.1 (Bool.and_eq_true_iff.1 hk).1).1
    rw [beq_iff_eq.1 hname] at ha
    exact takeSign_rel ha.loose .colon

theorem statements_rel (n : Nat) (h : R.Loose (d + 1) ts us) :
    Option.Rel (R.Tight (d + 1)) (statements r n ts) (statements r n us) := by
  induction n generalizing ts us with
  | zero => unfold statements; exact .none
  | succ n ih =>
    have hmore : Option.Rel (R.Tight (d + 1)) (oneStatement r (statements r n) ts)
        (oneStatement r (statements r n) us) := by
      refine rel_bind (hr.statement h) ?_
      intro ts us h
      rcases rel_cases (terminator_rel h) with ⟨h1, h2⟩ | ⟨ts', us', h1, h2, h'⟩ <;>
        simp only [h1, h2]
      · exact rel_ite (listEnds_eq h) (fun _ => .some h.tight) fun _ => .none
      · exact ih h'.loose
    unfold statements
    refine rel_ite (listEnds_eq h) (fun _ => .some h.tight) fun _ => ?_
    rcases rel_cases (label_rel h) with ⟨h1, h2⟩ | ⟨ts', us', h1, h2, h'⟩ <;> simp only [h1, h2]
    · exact hmore
    · exact rel_ite (listEnds_eq h'.loose) (fun _ => .some h') fun _ => hmore

theorem blockRule_rel (h : R.Loose d ts us) :
    Option.Rel (R.Tight d) (blockRule r ts) (blockRule r us) := by
  refine rel_bind (takeSign_rel h .openBrace) ?_
  intro ts us h
  rw [h.loose.length]
  exact rel_bind (statements_rel hr _ h.loose) fun _ _ h => takeSign_rel h.loose .closeBrace

/-! ## Declarations -/

theorem constSpec_rel (h : R.Loose d ts us) :
    Option.Rel (R.Tight d) (constSpec r ts) (constSpec r us) := by
  have hvalues : ∀ {ts us}, R.Tight d ts us → Option.Rel (R.Tight d)
      (do let ts ← takeSign .assign ts; r.exprs ⟨true, .any, false⟩ ts.length ts)
      (do let ts ← takeSign .assign us; r.exprs ⟨true, .any, false⟩ ts.length ts) := by
    intro ts us h
    refine rel_bind (takeSign_rel h.loose .assign) ?_
    intro ts us h
    rw [h.loose.length]
    exact exprs_rel hr _ _ h.loose
  unfold constSpec
  rw [h.length]
  refine rel_bind (names_rel _ h) ?_
  intro ts us h
  refine rel_ite (closed_eq h _) (fun _ => .some h) fun _ => ?_
  refine rel_ite (atSign_eq h.loose _) (fun _ => hvalues h) fun _ => ?_
  refine rel_ite (by rw [startsType_eq h.loose, atSign_eq h.loose]) (fun _ => ?_) fun _ => .some h
  exact rel_bind (skipType_rel hr true h.loose) fun _ _ h => hvalues h

theorem varSpec_rel (h : R.Loose d ts us) :
    Option.Rel (R.Tight d) (varSpec r ts) (varSpec r us) := by
  have hvalues : ∀ {ts us}, R.Tight d ts us → Option.Rel (R.Tight d)
      (r.exprs ⟨true, .any, false⟩ ts.length ts) (r.exprs ⟨true, .any, false⟩ us.length us) := by
    intro ts us h
    rw [h.loose.length]
    exact exprs_rel hr _ _ h.loose
  unfold varSpec
  rw [h.length]
  refine rel_bind (names_rel _ h) ?_
  intro ts us h
  rcases rel_cases (takeSign_rel h.loose .assign) with ⟨h1, h2⟩ | ⟨ts', us', h1, h2, h'⟩ <;>
    simp only [h1, h2]
  · refine rel_bind (skipType_rel hr true h.loose) ?_
    intro ts us h
    exact rel_ite (continuesWith_eq h.loose _ _) (fun hc => hvalues (drop_continues h.loose hc))
      fun _ => .some h
  · exact hvalues h'

/-- Rests that agree; of what was found only the view matters, and only where the retouch is exact. -/
def Seen {α β : Type} (view : α → β) (R : Retouch) (d : Nat) (x y : α × List Token) : Prop :=
  (R.Exact → view x.1 = view y.1) ∧ R.Tight d x.2 y.2

/-- The name and the fields of a declared type that is a structure. -/
def specStructure? (s : TypeSpec) : Option (String × List (TypeExpr × Option (List UInt8))) :=
  s.type.fields?.map fun fields => (textOf s.name, fields)

theorem typeDefinition_rel (name : List UInt8) (h : R.Loose d ts us) :
    Option.Rel (R.Seen (·.bind specStructure?) d) (typeDefinition r name ts) (typeDefinition r name us) := by
  unfold typeDefinition
  rcases rel_cases (takeSign_rel h .assign) with ⟨h1, h2⟩ | ⟨ts', us', h1, h2, h'⟩ <;>
    simp only [h1, h2]
  · refine rel_bind (hr.type true h) fun x y hxy => .some ⟨fun hR => ?_, hxy.2.2⟩
    simp only [Option.bind_some, specStructure?, hxy.fields_eq hR]
  · exact rel_bind (skipType_rel hr true h'.loose) fun _ _ h => .some ⟨fun _ => rfl, h⟩

theorem typeSpec_rel (h : R.Loose d ts us) :
    Option.Rel (R.Seen (·.bind specStructure?) d) (typeSpec r ts) (typeSpec r us) := by
  refine rel_bind (name_rel h) ?_
  rintro ⟨name, ts⟩ ⟨_, us⟩ ⟨rfl, -, h⟩
  dsimp only at h ⊢
  refine rel_ite (atSign_eq h.loose _) (fun hc => ?_) fun _ => typeDefinition_rel hr name h.loose
  rcases rel_cases (hr.type true h.loose) with ⟨h1, h2⟩ | ⟨⟨_, ts'⟩, ⟨_, us'⟩, h1, h2, hxy⟩ <;>
    simp only [h1, h2]
  · rw [h.loose.length]
    refine rel_bind (typeParams_rel hr _ (drop_sign h.loose hc).loose) ?_
    exact fun _ _ h => typeDefinition_rel hr name h.loose
  · refine .some ⟨fun hR => ?_, hxy.2.2⟩
    have hfields := hxy.fields_eq hR
    dsimp only at hfields
    simp only [Option.bind_some, specStructure?, hfields]

omit hr in
theorem group_rel {α β : Type} {spec : Parse α} {view : α → β}
    (hspec : ∀ {d ts us}, R.Loose d ts us → Option.Rel (R.Seen view d) (spec ts) (spec us))
    {found found' : List α} (hfound : R.Exact → found.map view = found'.map view) (n : Nat) (h : R.Loose (d + 1) ts us) :
    Option.Rel (R.Seen (List.map view) d) (group spec found n ts) (group spec found' n us) := by
  induction n generalizing found found' ts us with
  | zero => exact .none
  | succ n ih =>
    unfold group
    rcases rel_cases (takeSign_rel h .closeParen) with ⟨h1, h2⟩ | ⟨ts', us', h1, h2, h'⟩ <;>
      simp only [h1, h2]
    · refine rel_bind (hspec h) ?_
      rintro ⟨x, ts⟩ ⟨y, us⟩ ⟨hview, h⟩
      have hmore : R.Exact → (x :: found).map view = (y :: found').map view := fun hR => by
        rw [List.map_cons, List.map_cons, hfound hR, show view x = view y from hview hR]
      exact rel_bind (terminator_rel (Tight.loose h)) fun _ _ h => ih hmore h.loose
    · exact .some ⟨fun hR => by rw [List.map_reverse, List.map_reverse, hfound hR], h'⟩

omit hr in
theorem oneOrGroup_rel {α β : Type} {spec : Parse α} {view : α → β}
    (hspec : ∀ {d ts us}, R.Loose d ts us → Option.Rel (R.Seen view d) (spec ts) (spec us))
    (h : R.Loose d ts us) :
    Option.Rel (R.Seen (List.map view) d) (oneOrGroup spec ts) (oneOrGroup spec us) := by
  unfold oneOrGroup
  rcases rel_cases (takeSign_rel h .openParen) with ⟨h1, h2⟩ | ⟨ts', us', h1, h2, h'⟩ <;>
    simp only [h1, h2]
  · refine rel_bind (hspec h) fun x y hxy => .some ⟨fun hR => ?_, hxy.2⟩
    rw [List.map_singleton, List.map_singleton, hxy.1 hR]
  · rw [h'.loose.length]
    exact group_rel hspec (fun _ => rfl) _ h'.loose

theorem typeSpecs_rel (h : R.Loose d ts us) :
    Option.Rel (R.Seen (List.filterMap specStructure?) d) (typeSpecs r ts) (typeSpecs r us) := by
  refine rel_bind (oneOrGroup_rel (fun h => typeSpec_rel hr h) h) ?_
  rintro ⟨found, ts⟩ ⟨found', us⟩ ⟨hview, h⟩
  refine .some ⟨fun hR => ?_, h⟩
  have hfilter := congrArg (List.filterMap id) (hview hR)
  simpa only [List.filterMap_map, List.filterMap_filterMap, Function.comp_def, id_eq] using hfilter

omit hr in
theorem skipping_rel {p : List Token → Option (List Token)}
    (h : Option.Rel (R.Tight d) (p ts) (p us)) :
    Option.Rel (R.Seen id d) (skipping p ts) (skipping p us) := rel_map h fun _ _ h => ⟨fun _ => rfl, h⟩

/-! ## Statements with blocks -/

omit hr in
theorem withHeader_rel {p : Bodies → List Token → Option (List Token)}
    (hp : ∀ bodies, Option.Rel (R.Loose d) (p bodies ts) (p bodies us)) :
    Option.Rel (R.Loose d) (withHeader p ts) (withHeader p us) := by
  unfold withHeader
  rcases rel_cases (hp .literalTypes) with ⟨h1, h2⟩ | ⟨ts', us', h1, h2, h'⟩ <;> simp only [h1, h2]
  · exact hp .notNames
  · exact rel_ite (continuesWith_eq h' _ _) (fun _ => rel_or (hp .notNames) (.some h'))
      fun _ => .some h'

theorem ifRest_rel (h : R.Loose d ts us) :
    Option.Rel (R.Loose d) (ifRest r ts) (ifRest r us) := by
  refine rel_bind (hr.block h) ?_
  intro ts us h
  refine rel_ite (by rw [atWord_eq h.loose, h.2]) (fun hc => ?_) fun _ => .some h.loose
  have ha : R.Tight d (ts.drop 1) (us.drop 1) := drop_after h.loose (Bool.and_eq_true_iff.1 hc).1
  exact rel_ite (atWord_eq ha.loose _) (fun _ => hr.statement ha.loose) fun _ =>
    rel_imp (hr.block ha.loose) fun _ _ h => h.loose

theorem ifStatement_rel (bodies : Bodies) (h : R.Loose d ts us) :
    Option.Rel (R.Loose d) (ifStatement r bodies ts) (ifStatement r bodies us) := by
  refine rel_bind (simple_rel hr _ h) ?_
  rintro ⟨s, ts⟩ ⟨_, us⟩ ⟨rfl, h⟩
  dsimp only at h ⊢
  rcases rel_cases (takeSign_rel h.loose .semicolon) with ⟨h1, h2⟩ | ⟨ts', us', h1, h2, h'⟩ <;>
    simp only [h1, h2]
  · exact rel_ite rfl (fun _ => ifRest_rel hr h.loose) fun _ => .none
  · exact rel_bind (expr_rel hr _ h') fun _ _ h => ifRest_rel hr h.loose

theorem forClause_rel (c : Context) (h : R.Loose d ts us) :
    Option.Rel (R.Tight d) (forClause r c ts) (forClause r c us) := by
  have hpost : ∀ {ts us}, R.Loose d ts us → Option.Rel (R.Tight d)
      (do
        let ts ← takeSign .semicolon ts
        let ts ← if atSign .openBrace ts then some ts else (simple r c ts).map (·.2)
        r.block ts)
      (do
        let ts ← takeSign .semicolon us
        let ts ← if atSign .openBrace ts then some ts else (simple r c ts).map (·.2)
        r.block ts) := by
    intro ts us h
    refine rel_bind (takeSign_rel h .semicolon) ?_
    intro ts us h
    refine rel_ite (atSign_eq h _) (fun _ => hr.block h) fun _ => ?_
    exact rel_bind (rel_map (simple_rel hr c h) fun _ _ hxy => hxy.2) fun _ _ h => hr.block h.loose
  refine rel_ite (atSign_eq h _) (fun _ => hpost h) fun _ => ?_
  exact rel_bind (expr_rel hr _ h) fun _ _ h => hpost h.loose

theorem rangeClause_rel (c : Context) (h : R.Loose d ts us) :
    Option.Rel (R.Tight d) (rangeClause r c ts) (rangeClause r c us) :=
  rel_bind (expr_rel hr _ h) fun _ _ h => hr.block h.loose

theorem forStatement_rel (bodies : Bodies) (h : R.Loose d ts us) :
    Option.Rel (R.Tight d) (forStatement r bodies ts) (forStatement r bodies us) := by
  refine rel_ite (atSign_eq h _) (fun _ => hr.block h) fun _ => ?_
  refine rel_ite (atWord_eq h _) (fun hc => ?_) fun _ => ?_
  · have ha : R.Tight d (ts.drop 1) (us.drop 1) := drop_after h hc
    exact rangeClause_rel hr _ ha.loose
  refine rel_ite (atSign_eq h _) (fun hc => forClause_rel hr _ (drop_sign h hc)) fun _ => ?_
  refine rel_bind (operandList_rel hr _ h) ?_
  rintro ⟨s, ts⟩ ⟨_, us⟩ ⟨rfl, h⟩
  dsimp only at h ⊢
  -- Behind `:=` and `=` the word `range` is looked for, so both have to be passed alike.
  have hsign : (atSign .define ts || atSign .assign ts) = true →
      R.Tight d (ts.drop 1) (us.drop 1) := by
    intro hs
    rcases Bool.or_eq_true_iff.1 hs with hs | hs <;> exact drop_sign h.loose hs
  have hcond : ∀ b : Bool, (b && (atSign .define ts || atSign .assign ts) && atWord .range_ (ts.drop 1)) =
      (b && (atSign .define us || atSign .assign us) && atWord .range_ (us.drop 1)) := by
    intro b
    rw [← atSign_eq h.loose, ← atSign_eq h.loose]
    cases hs : (atSign .define ts || atSign .assign ts) with
    | false => simp
    | true => rw [atWord_eq (hsign hs).loose]
  refine rel_ite (hcond _) (fun hc => ?_) fun _ => ?_
  · obtain ⟨hc, hword⟩ := Bool.and_eq_true_iff.1 hc
    have ha : R.Tight d ((ts.drop 1).drop 1) ((us.drop 1).drop 1) :=
      drop_after (hsign (Bool.and_eq_true_iff.1 hc).2).loose hword
    rw [List.drop_drop, List.drop_drop] at ha
    exact rangeClause_rel hr _ ha.loose
  refine rel_bind (simpleRest_rel hr _ s h) ?_
  rintro ⟨s, ts⟩ ⟨_, us⟩ ⟨rfl, h⟩
  dsimp only at h ⊢
  rcases rel_cases (takeSign_rel h.loose .semicolon) with ⟨h1, h2⟩ | ⟨ts', us', h1, h2, h'⟩ <;>
    simp only [h1, h2]
  · exact rel_ite rfl (fun _ => hr.block h.loose) fun _ => .none
  · exact forClause_rel hr _ h'

theorem typeList_rel (n : Nat) (h : R.Loose d ts us) :
    Option.Rel (R.Tight d) (typeList r n ts) (typeList r n us) := by
  induction n generalizing ts us with
  | zero => exact .none
  | succ n ih =>
    refine rel_bind (skipType_rel hr false h) ?_
    intro ts us h
    rcases rel_cases (takeSign_rel h.loose .comma) with ⟨h1, h2⟩ | ⟨ts', us', h1, h2, h'⟩ <;>
      simp only [h1, h2]
    · exact .some h
    · exact ih h'.loose

theorem cases_rel {what : List Token → Option (List Token)}
    (hwhat : ∀ {ts us}, R.Loose (d + 1) ts us → Option.Rel (R.Tight (d + 1)) (what ts) (what us))
    (n : Nat) (h : R.Loose (d + 1) ts us) :
    Option.Rel (R.Tight d) (cases_ r what n ts) (cases_ r what n us) := by
  induction n generalizing ts us with
  | zero => exact .none
  | succ n ih =>
    have hrest : ∀ {ts us}, R.Tight (d + 1) ts us → Option.Rel (R.Tight d)
        (do
          let ts ← takeSign .colon ts
          let ts ← statements r (ts.length + 1) ts
          cases_ r what n ts)
        (do
          let ts ← takeSign .colon us
          let ts ← statements r (ts.length + 1) ts
          cases_ r what n ts) := by
      intro ts us h
      refine rel_bind (takeSign_rel h.loose .colon) ?_
      intro ts us h
      rw [h.loose.length]
      exact rel_bind (statements_rel hr _ h.loose) fun _ _ h => ih h.loose
    unfold cases_
    rcases rel_cases (takeSign_rel h .closeBrace) with ⟨h1, h2⟩ | ⟨ts', us', h1, h2, h'⟩ <;>
      simp only [h1, h2]
    case inr => exact .some h'
    rcases rel_cases (takeWord_rel h .default_) with ⟨h1, h2⟩ | ⟨ts', us', h1, h2, h'⟩ <;>
      simp only [h1, h2]
    · refine rel_bind (P := R.Tight (d + 1)) ?_ fun _ _ h => hrest h
      exact rel_bind (takeWord_rel h .case_) fun _ _ h => hwhat h.loose
    · exact hrest h'

theorem switchCases_rel (isGuard : Bool) (h : R.Loose d ts us) :
    Option.Rel (R.Tight d) (switchCases r isGuard ts) (switchCases r isGuard us) := by
  refine rel_bind (takeSign_rel h .openBrace) ?_
  intro ts us h
  rw [h.loose.length]
  refine cases_rel hr ?_ _ h.loose
  intro ts us h
  rw [h.length]
  exact rel_ite rfl (fun _ => typeList_rel hr _ h) fun _ => exprs_rel hr _ _ h

theorem switchStatement_rel (bodies : Bodies) (h : R.Loose d ts us) :
    Option.Rel (R.Tight d) (switchStatement r bodies ts) (switchStatement r bodies us) := by
  refine rel_ite (atSign_eq h _) (fun _ => switchCases_rel hr false h) fun _ => ?_
  refine rel_bind (simple_rel hr _ h) ?_
  rintro ⟨s, ts⟩ ⟨_, us⟩ ⟨rfl, h⟩
  dsimp only at h ⊢
  rcases rel_cases (takeSign_rel h.loose .semicolon) with ⟨h1, h2⟩ | ⟨ts', us', h1, h2, h'⟩ <;>
    simp only [h1, h2]
  · exact rel_ite rfl (fun _ => .none) fun _ => switchCases_rel hr _ h.loose
  refine rel_ite rfl (fun _ => .none) fun _ => ?_
  refine rel_ite (atSign_eq h' _) (fun _ => switchCases_rel hr false h') fun _ => ?_
  refine rel_bind (simple_rel hr _ h') ?_
  rintro ⟨s, ts⟩ ⟨_, us⟩ ⟨rfl, h⟩
  exact rel_ite rfl (fun _ => .none) fun _ => switchCases_rel hr _ (Tight.loose h)

theorem communication_rel (h : R.Loose d ts us) :
    Option.Rel (R.Tight d) (communication r ts) (communication r us) := by
  refine rel_bind (operandList_rel hr _ h) ?_
  rintro ⟨s, ts⟩ ⟨_, us⟩ ⟨rfl, h⟩
  dsimp only at h ⊢
  refine rel_ite rfl (fun _ => .none) fun _ => ?_
  refine rel_ite (by rw [atSign_eq h.loose, atSign_eq h.loose]) (fun hc => ?_) fun _ => ?_
  · have ha : R.Tight d (ts.drop 1) (us.drop 1) := by
      rcases Bool.or_eq_true_iff.1 hc with hs | hs <;> exact drop_sign h.loose hs
    exact expr_rel hr _ ha.loose
  refine rel_ite rfl (fun _ => .none) fun _ => ?_
  exact rel_ite (atSign_eq h.loose _) (fun hc => expr_rel hr _ (drop_sign h.loose hc).loose)
    fun _ => .some h

/-! ## The rule for statements -/

omit hr in
theorem optionalLabel_rel (h : R.Tight d ts us) :
    Option.Rel (R.Tight d) (optionalLabel ts) (optionalLabel us) := by
  refine rel_ite (by rw [at_eq h.loose, h.2]) (fun hc => ?_) fun _ => .some h
  exact .some (drop_after h.loose (Bool.and_eq_true_iff.1 hc).1)

omit hr in
theorem startsExpression_eq (h : R.Loose d ts us) : startsExpression ts = startsExpression us := by
  cases ts with
  | nil => rw [h.nil]
  | cons t ts =>
    obtain ⟨u, us', rfl, hh⟩ := h.cons
    simp only [startsExpression, hh.kind]

theorem keywordStatement_rel (k : Keyword) (h : R.Tight d ts us) :
    Option.Rel (R.Loose d) (keywordStatement r k ts) (keywordStatement r k us) := by
  have hloose : ∀ {x y : Option (List Token)}, Option.Rel (R.Tight d) x y →
      Option.Rel (R.Loose d) x y := fun hxy => rel_imp hxy fun _ _ h => h.loose
  have hspecs : ∀ {α : Type} {p : Parse α},
      (∀ {d ts us}, R.Loose d ts us → Option.Rel (R.Seen id d) (p ts) (p us)) →
      Option.Rel (R.Loose d) ((oneOrGroup p ts).map (·.2)) ((oneOrGroup p us).map (·.2)) :=
    fun hp => rel_map (oneOrGroup_rel hp h.loose) fun _ _ h => Tight.loose h.2
  unfold keywordStatement
  split
  · exact hspecs fun h => skipping_rel (constSpec_rel hr h)
  · exact hspecs fun h => skipping_rel (varSpec_rel hr h)
  · exact rel_map (typeSpecs_rel hr h.loose) fun _ _ h => Tight.loose h.2
  · rw [h.loose.length]
    refine rel_ite (by rw [h.2, startsExpression_eq h.loose]) (fun _ => .some h.loose) fun _ => ?_
    exact hloose (exprs_rel hr _ _ h.loose)
  · exact hloose (expr_rel hr _ h.loose)
  · exact hloose (expr_rel hr _ h.loose)
  · exact withHeader_rel fun bodies => ifStatement_rel hr bodies h.loose
  · exact withHeader_rel fun bodies => hloose (forStatement_rel hr bodies h.loose)
  · exact withHeader_rel fun bodies => hloose (switchStatement_rel hr bodies h.loose)
  · refine hloose (rel_bind (takeSign_rel h.loose .openBrace) ?_)
    intro ts us h
    rw [h.loose.length]
    exact cases_rel hr (communication_rel hr) _ h.loose
  · exact .some h.loose
  · exact hloose (optionalLabel_rel h)
  · exact hloose (optionalLabel_rel h)
  · exact rel_map (name_rel h.loose) fun _ _ hxy => hxy.2.2.loose
  · exact .none

theorem simpleStatement_rel (h : R.Loose d ts us) :
    Option.Rel (R.Loose d)
      ((simple r plainContext ts).bind fun (s, ts) => if s == .guard then none else some ts)
      ((simple r plainContext us).bind fun (s, ts) => if s == .guard then none else some ts) := by
  refine rel_bind (simple_rel hr plainContext h) ?_
  rintro ⟨s, ts⟩ ⟨_, us⟩ ⟨rfl, h⟩
  exact rel_ite rfl (fun _ => .none) fun _ => .some (Tight.loose h)

theorem statementRule_rel (h : R.Loose d ts us) :
    Option.Rel (R.Loose d) (statementRule r ts) (statementRule r us) := by
  cases ts with
  | nil => rw [h.nil]; exact .none
  | cons t ts =>
    have hsimple := simpleStatement_rel hr h
    have hblock := hr.block h
    have hlabel := label_rel h
    obtain ⟨u, us, rfl, hh⟩ := h.cons
    have ha := hh.after
    have hku := hh.kind
    unfold statementRule
    dsimp only
    rcases rel_cases hlabel with ⟨h1, h2⟩ | ⟨ts', us', h1, h2, h'⟩ <;> simp only [h1, h2, ← hku]
    case inr => exact hr.statement h'.loose
    split <;> rename_i hk
    any_goals rw [hk] at ha
    · exact .some ha
    · exact rel_imp hblock fun _ _ h => h.loose
    · exact rel_ite rfl (fun _ => hsimple) fun _ => keywordStatement_rel hr _ ha
    · exact hsimple

/-! ## All rules -/

omit hr in
/-- **The rules read retouched tokens alike**, with any number of steps. -/
theorem rules_agree (R : Retouch) (n : Nat) : R.Agrees (rules n) := by
  induction n with
  | zero =>
    refine ⟨?_, ?_, ?_, ?_, ?_, ?_⟩ <;> intros <;> exact .none
  | succ n ih =>
    have hskip : ∀ {p : List Token → Option (List Token)} {Q ts us},
        Option.Rel Q (p ts) (p us) →
        Option.Rel Q ((skipping p ts).map (·.2)) ((skipping p us).map (·.2)) := by
      intro p Q ts us h
      rw [skipping, skipping, Option.map_map, Option.map_map]
      exact rel_map h fun _ _ h => h
    exact {
      type := fun ne h => typeRule_rel ih ne h
      operand := fun c h => operandRule_rel ih c h
      params := fun h => paramsRule_rel ih h
      body := fun h => hskip (bodyRule_rel ih h)
      block := fun h => hskip (blockRule_rel ih h)
      statement := fun h => hskip (statementRule_rel ih h) }

end RouteDoc.Go.Retouch
