/-
Types and parameters read retouched tokens alike.

One lemma for each rule of `Go.Grammar.Types`, in the order of that module. All
of them start from rests that are `Loose` and leave rests that are `Tight`,
since no type ends with a semicolon.
-/
import RouteDoc.Proofs.Grammar.Retouch

namespace RouteDoc.Go.Retouch

open Grammar Parse

variable {R : Retouch} {d : Nat} {ts us : List Token} {r : Rules} (hr : R.Agrees r)
include hr

theorem union_rel (ne : Bool) (n : Nat) (h : R.Loose d ts us) :
    Option.Rel (R.Tight d) (union r ne n ts) (union r ne n us) := by
  induction n generalizing ts us with
  | zero => exact .none
  | succ n ih =>
    refine rel_bind (skipType_rel hr ne h) ?_
    intro ts us h
    exact rel_ite (continuesWith_eq h.loose _ _) (fun hc => ih (drop_continues h.loose hc).loose)
      fun _ => .some h

theorem typeArguments_rel (n : Nat) (h : R.Loose (d + 1) ts us) :
    Option.Rel (R.Tight d) (typeArguments r n ts) (typeArguments r n us) := by
  induction n generalizing ts us with
  | zero => exact .none
  | succ n ih =>
    unfold typeArguments
    rw [h.length]
    refine rel_bind (union_rel hr false _ h) ?_
    intro ts us h
    rcases rel_cases (takeSign_rel h.loose .comma) with ⟨h1, h2⟩ | ⟨ts, us, h1, h2, h⟩
    · simp only [h1, h2]
      exact takeSign_rel h.loose .closeBracket
    · simp only [h1, h2]
      rcases rel_cases (takeSign_rel h.loose .closeBracket) with ⟨h1, h2⟩ | ⟨ts, us, h1, h2, h⟩
      · simp only [h1, h2]
        exact ih h.loose
      · simp only [h1, h2]
        exact .some h

theorem namedType_rel (ne : Bool) (h : R.Loose d ts us) :
    Option.Rel (R.SameType d) (namedType r ne ts) (namedType r ne us) := by
  refine rel_bind (name_rel h) ?_
  rintro ⟨first, ts⟩ ⟨_, us⟩ ⟨rfl, hfirst, h⟩
  have harguments : ∀ {found ts us}, R.SpellsType found → R.Tight d ts us →
      Option.Rel (R.SameType d)
        (if continuesWith ne .openBracket ts then
          typeArguments r ts.length (ts.drop 1) >>= fun ts => some (.other, ts) else some (found, ts))
        (if continuesWith ne .openBracket us then
          typeArguments r us.length (us.drop 1) >>= fun ts => some (.other, ts) else some (found, us)) := by
    intro found ts us hspell h
    rw [h.loose.length]
    refine rel_ite (continuesWith_eq h.loose _ _) (fun hc => ?_) fun _ =>
      .some (.of_eq hspell h)
    refine rel_bind (typeArguments_rel hr _ (drop_continues h.loose hc).loose) ?_
    exact fun _ _ h => .some (.of_eq trivial h)
  refine rel_ite (continuesWith_eq h.loose _ _) (fun hc => ?_) fun _ => harguments hfirst h
  refine rel_bind (name_rel (drop_continues h.loose hc).loose) ?_
  rintro ⟨second, ts⟩ ⟨_, us⟩ ⟨rfl, -, h⟩
  exact @harguments (.qualified first second) _ _ trivial h

omit hr in
theorem startsType_eq (h : R.Loose d ts us) : startsType ts = startsType us := by
  cases ts with
  | nil => rw [h.nil]
  | cons t ts =>
    obtain ⟨u, us', rfl, hh⟩ := h.cons
    simp only [startsType, hh.kind]

theorem result_rel (ne : Bool) (h : R.Tight d ts us) :
    Option.Rel (R.Tight d) (result r ne ts) (result r ne us) := by
  refine rel_ite (closed_eq h ne) (fun _ => .some h) fun _ => ?_
  refine rel_ite (atSign_eq h.loose _) (fun _ => rel_map (hr.params h.loose) fun _ _ hxy => hxy.2.2)
    fun _ => ?_
  exact rel_ite (startsType_eq h.loose) (fun _ => skipType_rel hr ne h.loose) fun _ => .some h

/-! ## Structures and interfaces -/

omit hr in
theorem fieldEnds_eq (h : R.Tight d ts us) : fieldEnds ts = fieldEnds us := by
  unfold fieldEnds
  rw [h.2, atSign_eq h.loose, atSign_eq h.loose, at_eq h.loose]

theorem fieldType_rel (h : R.Loose d ts us) :
    Option.Rel (R.SameType d) (fieldType r ts) (fieldType r us) := by
  unfold fieldType
  rcases rel_cases (takeSign_rel h .star) with ⟨h1, h2⟩ | ⟨ts, us, h1, h2, h⟩
  · simp only [h1, h2]
    refine rel_bind (name_rel h) ?_
    rintro ⟨_, rest⟩ ⟨_, rest'⟩ ⟨-, -, hrest⟩
    have hnamed : Option.Rel (R.SameType d) (do let rest ← names ts.length ts; r.type true rest)
        (do let rest ← names us.length us; r.type true rest) := by
      rw [h.length]
      exact rel_bind (names_rel _ h) fun _ _ h => hr.type true h.loose
    have hdot : (fieldEnds rest || atSign .dot rest) = (fieldEnds rest' || atSign .dot rest') := by
      rw [fieldEnds_eq hrest, atSign_eq hrest.loose]
    refine rel_ite hdot (fun _ => namedType_rel hr true h) fun _ => ?_
    refine rel_ite (atSign_eq hrest.loose _) (fun _ => ?_) fun _ => hnamed
    rcases rel_cases (namedType_rel hr true h) with ⟨h1, h2⟩ | ⟨⟨_, ts'⟩, ⟨_, us'⟩, h1, h2, hxy⟩
    · simp only [h1, h2]
      exact hnamed
    · simp only [h1, h2]
      exact rel_ite (fieldEnds_eq hxy.2.2) (fun _ => .some hxy) fun _ => hnamed
  · simp only [h1, h2]
    exact namedType_rel hr true h.loose

omit hr in
theorem fieldTag_eq (h : R.Loose (d + 1) ts us) :
    (fieldTag ts).1 = (fieldTag us).1 ∧ R.Tight (d + 1) (fieldTag ts).2 (fieldTag us).2 := by
  cases ts with
  | nil =>
    have ht := h.tight
    rw [h.nil] at ht ⊢
    exact ⟨rfl, ht⟩
  | cons t ts =>
    have ht := h.tight
    obtain ⟨u, us', rfl, hh, hn⟩ := ht.cons
    simp only [fieldTag, ← hh.kind, ← hn]
    split
    · rename_i hk
      have ha := hh.after
      rw [beq_iff_eq.1 (Bool.and_eq_true_iff.1 hk).1] at ha
      exact ⟨congrArg some hh.text, ha⟩
    · exact ⟨rfl, ht⟩

theorem fields_rel {found found' : List (TypeExpr × Option (List UInt8))} (hfound : R.Exact → found = found') (n : Nat)
    (h : R.Loose (d + 1) ts us) :
    Option.Rel (fun x y => (R.Exact → x.1 = y.1) ∧ R.Tight d x.2 y.2) (fields r found n ts) (fields r found' n us) := by
  induction n generalizing found found' ts us with
  | zero => exact .none
  | succ n ih =>
    unfold fields
    rcases rel_cases (takeSign_rel h .closeBrace) with ⟨h1, h2⟩ | ⟨ts, us, h1, h2, h⟩
    · simp only [h1, h2]
      refine rel_bind (fieldType_rel hr h) fun x y hxy => ?_
      obtain ⟨htag, h⟩ := fieldTag_eq hxy.2.2.loose
      have hmore : R.Exact → (x.1, (fieldTag x.2).1) :: found = (y.1, (fieldTag y.2).1) :: found' := fun hR => by
        rw [hxy.inside.2 hR, htag, hfound hR]
      rcases rel_cases (terminator_rel h.loose) with ⟨h1, h2⟩ | ⟨ts, us, h1, h2, h⟩
      · simp only [h1, h2]
        exact rel_map (takeSign_rel h.loose .closeBrace) fun _ _ h => ⟨fun hR => congrArg List.reverse (hmore hR), h⟩
      · simp only [h1, h2]
        exact ih hmore h.loose
    · simp only [h1, h2]
      exact .some ⟨fun hR => congrArg List.reverse (hfound hR), h⟩

theorem interfaceElement_rel (h : R.Loose d ts us) :
    Option.Rel (R.Tight d) (interfaceElement r ts) (interfaceElement r us) := by
  unfold interfaceElement
  rw [h.length]
  refine rel_or (rel_bind (name_rel h) ?_) (union_rel hr true _ h)
  rintro ⟨_, ts⟩ ⟨_, us⟩ ⟨-, -, h⟩
  refine rel_ite (continuesWith_eq h.loose _ _) (fun _ => ?_) fun _ => .none
  exact rel_bind (hr.params h.loose) fun _ _ hxy => result_rel hr true hxy.2.2

theorem interfaceElements_rel (n : Nat) (h : R.Loose (d + 1) ts us) :
    Option.Rel (R.Tight d) (interfaceElements r n ts) (interfaceElements r n us) := by
  induction n generalizing ts us with
  | zero => exact .none
  | succ n ih =>
    unfold interfaceElements
    rcases rel_cases (takeSign_rel h .closeBrace) with ⟨h1, h2⟩ | ⟨ts, us, h1, h2, h⟩
    · simp only [h1, h2]
      refine rel_bind (interfaceElement_rel hr h) ?_
      intro ts us h
      rcases rel_cases (terminator_rel h.loose) with ⟨h1, h2⟩ | ⟨ts, us, h1, h2, h⟩
      · simp only [h1, h2]
        exact takeSign_rel h.loose .closeBrace
      · simp only [h1, h2]
        exact ih h.loose
    · simp only [h1, h2]
      exact .some h

/-! ## The rule for types -/

theorem keywordType_rel (ne : Bool) (k : Keyword) (h : R.Tight d ts us) :
    Option.Rel (R.SameType d) (keywordType r ne k ts) (keywordType r ne k us) := by
  unfold keywordType
  split
  · refine rel_bind (takeSign_rel h.loose .openBrace) ?_
    intro ts us h
    simp only [h.loose.length]
    refine rel_bind (fields_rel hr (fun _ => rfl) _ h.loose) fun x y hxy => ?_
    exact .some ⟨⟨rfl, fun hR _ => congrArg TypeExpr.struct (hxy.1 hR)⟩, trivial, hxy.2⟩
  · refine rel_bind (takeSign_rel h.loose .openBrace) ?_
    intro ts us h
    simp only [h.loose.length]
    exact rel_bind (interfaceElements_rel hr _ h.loose) fun _ _ h => .some (.of_eq trivial h)
  · refine rel_bind (takeSign_rel h.loose .openBracket) ?_
    intro ts us h
    refine rel_bind (skipType_rel hr false h.loose) ?_
    intro ts us h
    refine rel_bind (takeSign_rel h.loose .closeBracket) ?_
    intro ts us h
    exact rel_bind (skipType_rel hr ne h.loose) fun _ _ h => .some (.of_eq trivial h)
  · have harrow : R.Tight d ((takeSign .arrow ts).getD ts) ((takeSign .arrow us).getD us) := by
      rcases rel_cases (takeSign_rel h.loose .arrow) with ⟨h1, h2⟩ | ⟨ts, us, h1, h2, h⟩
      · rw [h1, h2]; exact h
      · rw [h1, h2]; exact h
    exact rel_bind (skipType_rel hr ne harrow.loose) fun _ _ h => .some (.of_eq trivial h)
  · refine rel_bind (hr.params h.loose) ?_
    rintro ⟨_, ts⟩ ⟨_, us⟩ ⟨-, -, h⟩
    exact rel_bind (result_rel hr ne h) fun _ _ h => .some (.of_eq trivial h)
  · exact .none

theorem bracketType_rel (ne : Bool) (h : R.Loose (d + 1) ts us) :
    Option.Rel (R.Tight d) (bracketType r ne ts) (bracketType r ne us) := by
  unfold bracketType
  rcases rel_cases (takeSign_rel h .closeBracket) with ⟨h1, h2⟩ | ⟨ts, us, h1, h2, h⟩
  · simp only [h1, h2]
    refine rel_bind (expr_rel hr .inner h) ?_
    intro ts us h
    exact rel_bind (takeSign_rel h.loose .closeBracket) fun _ _ h => skipType_rel hr ne h.loose
  · simp only [h1, h2]
    exact skipType_rel hr ne h.loose

omit hr in
/-- Inside of brackets comments behind a star show alike in an exact retouch. -/
theorem commented_eq {t u : Token} (h : R.Loose (d + 1) (t :: ts) (u :: us)) (ht : t.kind = .sign .star) (hR : R.Exact) :
    commented ts = commented us := by
  obtain ⟨i, hts, hus, hd⟩ := h
  obtain ⟨hold, rfl⟩ := drop_eq_cons hts
  obtain ⟨-, rfl⟩ := drop_eq_cons hus
  have hdepth : depthAfter 0 (R.old.take (i + 1)) = some (d + 1) := by
    rw [List.take_add_one, hold, depthAfter_append, hd, Option.bind_some]
    simp [depthAfter_singleton, depthStep, ht, TokenKind.opens, TokenKind.closes]
  have hloose : R.Loose (d + 1) (R.old.drop (i + 1)) (R.new.drop (i + 1)) := ⟨i + 1, rfl, rfl, hdepth⟩
  cases hrest : R.old.drop (i + 1) with
  | nil =>
    rw [hrest] at hloose
    rw [hloose.nil]
  | cons v vs =>
    rw [hrest] at hloose
    obtain ⟨w, ws, hws, -⟩ := hloose.cons
    rw [hws]
    have hv := (drop_eq_cons hrest.symm).1
    -- The site stands outside of all brackets.
    have hi : i + 1 ≠ R.site := by
      intro hi
      rw [hi] at hv hdepth
      rw [R.depth v hv] at hdepth
      cases hdepth
    simp only [commented, hR i hi t hold ht v hv w (drop_eq_cons hws.symm).1]

theorem typeRule_rel (ne : Bool) (h : R.Loose d ts us) :
    Option.Rel (R.SameType d) (typeRule r ne ts) (typeRule r ne us) := by
  cases ts with
  | nil => rw [h.nil]; exact .none
  | cons t ts =>
    have hname := namedType_rel hr ne h
    obtain ⟨u, us, rfl, hh⟩ := h.cons
    have hcons := h
    have ha := hh.after
    have hku := hh.kind
    simp only [typeRule, ← hku]
    split <;> rename_i hk
    any_goals rw [hk] at ha
    · exact hname
    · exact keywordType_rel hr ne _ ha
    · have ha : R.Tight d ts us := ha
      refine rel_bind (hr.type ne ha.loose) ?_
      rintro ⟨target, ts'⟩ ⟨target', us'⟩ ⟨⟨hbare, heq⟩, hspell, h⟩
      refine .some ⟨⟨congrArg (TypeExpr.pointer false) hbare, ?_⟩, hspell, h⟩
      rintro hR (hd | hstruct | hstruct)
      · obtain ⟨e, rfl⟩ := Nat.exists_eq_succ_of_ne_zero (Nat.pos_iff_ne_zero.1 hd)
        rw [heq hR (.inl hd), commented_eq hcons hk hR]
      · cases hstruct
      · cases hstruct
    · refine rel_bind (skipType_rel hr false ha.loose) ?_
      intro ts us h
      exact rel_bind (takeSign_rel h.loose .closeParen) fun _ _ h => .some (.of_eq trivial h)
    · exact rel_bind (bracketType_rel hr ne ha.loose) fun _ _ h => .some (.of_eq trivial h)
    · refine rel_bind (takeWord_rel ha.loose .chan_) ?_
      intro ts us h
      exact rel_bind (skipType_rel hr ne h.loose) fun _ _ h => .some (.of_eq trivial h)
    · exact rel_bind (skipType_rel hr ne ha.loose) fun _ _ h => .some (.of_eq trivial h)
    · exact .none

/-! ## Parameters -/

omit hr in
theorem paramEnds_eq (h : R.Loose d ts us) : paramEnds ts = paramEnds us := by
  unfold paramEnds
  rw [atSign_eq h, atSign_eq h]

/-- The names that a parameter is, or points to, stand in the old list. -/
def SpellsEntry (R : Retouch) : ParamEntry → Prop
  | .single text => R.Spells text
  | .unnamed type => R.SpellsType type
  | .named type => R.SpellsType type
  | .variadic => True

/-- A parameter with its type bare. -/
def bareEntry : ParamEntry → ParamEntry
  | .single text => .single text
  | .unnamed type => .unnamed type.bare
  | .named type => .named type.bare
  | .variadic => .variadic

/-- Parameters that match. -/
def SameEntry (R : Retouch) (d : Nat) (x y : ParamEntry × List Token) : Prop :=
  R.Matches bareEntry x.1 y.1 ∧ R.SpellsEntry x.1 ∧ R.Tight d x.2 y.2

theorem typedEntry_rel (entry : TypeExpr → ParamEntry)
    (hentry : ∀ type, R.SpellsType type → R.SpellsEntry (entry type))
    (hbare : ∀ type, bareEntry (entry type) = entry type.bare) (h : R.Loose (d + 1) ts us) :
    Option.Rel (R.SameEntry (d + 1)) (do let (type, ts) ← r.type false ts; return (entry type, ts))
      (do let (type, ts) ← r.type false us; return (entry type, ts)) := by
  refine rel_bind (hr.type false h) fun x y hxy => ?_
  obtain ⟨hview, heq⟩ := hxy.inside
  refine .some ⟨⟨?_, fun hR => congrArg entry (heq hR)⟩, hentry _ hxy.2.1, hxy.2.2⟩
  rw [hbare, hbare, hview]

theorem paramEntry_rel (h : R.Loose (d + 1) ts us) :
    Option.Rel (R.SameEntry (d + 1)) (paramEntry r ts) (paramEntry r us) := by
  have hvariadic : ∀ {ts us}, R.Tight (d + 1) ts us → Option.Rel (R.SameEntry (d + 1))
      (do let ts ← r.skipType false ts; return (ParamEntry.variadic, ts))
      (do let ts ← r.skipType false us; return (ParamEntry.variadic, ts)) := fun h =>
    rel_bind (skipType_rel hr false h.loose) fun _ _ h => .some ⟨.refl _ _, trivial, h⟩
  have hunnamed := typedEntry_rel hr .unnamed (fun _ h => h) (fun _ => rfl) h
  unfold paramEntry
  rcases rel_cases (takeSign_rel h .ellipsis) with ⟨h1, h2⟩ | ⟨ts', us', h1, h2, h'⟩ <;>
    simp only [h1, h2]
  case inr => exact hvariadic h'
  rcases rel_cases (name_rel h) with
    ⟨h1, h2⟩ | ⟨⟨text, rest⟩, ⟨_, rest'⟩, h1, h2, rfl, hspell, hrest⟩ <;>
    simp only [h1, h2]
  case inl => exact hunnamed
  have hnamed := typedEntry_rel hr .named (fun _ h => h) (fun _ => rfl) hrest.loose
  refine rel_ite (paramEnds_eq hrest.loose) (fun _ => .some ⟨.refl _ _, hspell, hrest⟩) fun _ => ?_
  refine rel_ite (atSign_eq hrest.loose _) (fun _ => hunnamed) fun _ => ?_
  rcases rel_cases (takeSign_rel hrest.loose .ellipsis) with ⟨h1, h2⟩ | ⟨ts', us', h1, h2, h'⟩ <;>
    simp only [h1, h2]
  case inr => exact hvariadic h'
  refine rel_ite (atSign_eq hrest.loose _) (fun _ => ?_) fun _ => hnamed
  rcases rel_cases hunnamed with ⟨h1, h2⟩ | ⟨x, y, h1, h2, hxy⟩ <;>
    simp only [h1, h2]
  · exact hnamed
  · exact rel_ite (paramEnds_eq hxy.2.2.loose) (fun _ => .some hxy) fun _ => hnamed

/-- Lists of parameters that match. -/
def SameEntries (R : Retouch) (x y : List ParamEntry) : Prop :=
  R.Matches (List.map bareEntry) x y ∧ ∀ e ∈ x, R.SpellsEntry e

omit hr in
theorem SameEntries.cons {e e' : ParamEntry} {found found' : List ParamEntry} (h : R.SameEntries found found')
    (he : R.Matches bareEntry e e') (hspell : R.SpellsEntry e) : R.SameEntries (e :: found) (e' :: found') :=
  ⟨⟨by rw [List.map_cons, List.map_cons, he.1, h.1.1], fun hR => by rw [he.2 hR, h.1.2 hR]⟩,
    List.forall_mem_cons.2 ⟨hspell, h.2⟩⟩

omit hr in
theorem SameEntries.reverse {found found' : List ParamEntry} (h : R.SameEntries found found') :
    R.SameEntries found.reverse found'.reverse :=
  ⟨⟨by rw [List.map_reverse, List.map_reverse, h.1.1], fun hR => by rw [h.1.2 hR]⟩,
    fun e he => h.2 e (List.mem_reverse.1 he)⟩

theorem paramEntries_rel {found found' : List ParamEntry} (hfound : R.SameEntries found found') (n : Nat)
    (h : R.Loose (d + 1) ts us) :
    Option.Rel (fun x y => R.SameEntries x.1 y.1 ∧ R.Tight d x.2 y.2)
      (paramEntries r found n ts) (paramEntries r found' n us) := by
  induction n generalizing found found' ts us with
  | zero => exact .none
  | succ n ih =>
    refine rel_bind (paramEntry_rel hr h) fun x y hxy => ?_
    have hmore := hfound.cons hxy.1 hxy.2.1
    have h := hxy.2.2
    dsimp only
    rcases rel_cases (takeSign_rel h.loose .comma) with ⟨h1, h2⟩ | ⟨ts, us, h1, h2, h⟩ <;>
      simp only [h1, h2]
    · exact rel_map (takeSign_rel h.loose .closeParen) fun _ _ h => ⟨hmore.reverse, h⟩
    · rcases rel_cases (takeSign_rel h.loose .closeParen) with ⟨h1, h2⟩ | ⟨ts, us, h1, h2, h⟩ <;>
        simp only [h1, h2]
      · exact ih hmore h.loose
      · exact .some ⟨hmore.reverse, h⟩

omit hr in
theorem paramTypes_spelled {waiting : List (List UInt8)} {entries : List ParamEntry}
    (hwaiting : ∀ text ∈ waiting, R.Spells text) (hentries : ∀ e ∈ entries, R.SpellsEntry e) :
    ∀ type ∈ paramTypes waiting entries, R.SpellsType type := by
  have hnames : ∀ {waiting : List (List UInt8)}, (∀ text ∈ waiting, R.Spells text) →
      ∀ type ∈ waiting.reverse.map TypeExpr.name, R.SpellsType type := by
    intro waiting h type htype
    obtain ⟨text, htext, rfl⟩ := List.mem_map.1 htype
    exact h text (List.mem_reverse.1 htext)
  induction entries generalizing waiting with
  | nil => exact hnames hwaiting
  | cons entry rest ih =>
    obtain ⟨hentry, hrest⟩ := List.forall_mem_cons.1 hentries
    have hnone : ∀ type ∈ paramTypes [] rest, R.SpellsType type := ih (by simp) hrest
    cases entry with
    | single text => exact ih (List.forall_mem_cons.2 ⟨hentry, hwaiting⟩) hrest
    | named type => exact List.forall_mem_cons.2 ⟨hentry, hnone⟩
    | unnamed type =>
      exact List.forall_mem_append.2 ⟨hnames hwaiting, List.forall_mem_cons.2 ⟨hentry, hnone⟩⟩
    | variadic => exact List.forall_mem_append.2 ⟨hnames hwaiting, hnone⟩

omit hr in
theorem bare_paramTypes (waiting : List (List UInt8)) (entries : List ParamEntry) :
    (paramTypes waiting entries).map TypeExpr.bare = paramTypes waiting (entries.map bareEntry) := by
  have hnames : ∀ waiting : List (List UInt8), (waiting.reverse.map TypeExpr.name).map TypeExpr.bare =
      waiting.reverse.map TypeExpr.name := by
    intro waiting
    rw [List.map_map]
    rfl
  induction entries generalizing waiting with
  | nil => exact hnames waiting
  | cons entry rest ih =>
    cases entry with
    | single text => exact ih (text :: waiting)
    | named type => exact congrArg (type.bare :: ·) (ih [])
    | unnamed type =>
      simp only [paramTypes, List.map_append, List.map_cons, bareEntry, hnames, ih]
    | variadic => simp only [paramTypes, List.map_append, List.map_cons, bareEntry, hnames, ih]

theorem paramsRule_rel (h : R.Loose d ts us) :
    Option.Rel (R.SameParams d) (paramsRule r ts) (paramsRule r us) := by
  refine rel_bind (takeSign_rel h .openParen) ?_
  intro ts us h
  have hempty : ∀ {ts us}, R.Tight d ts us → R.SameParams d ([], ts) ([], us) := fun h =>
    ⟨.refl _ _, by simp, h⟩
  have hcomma : Option.Rel (R.Tight d) ((takeSign .comma ts).bind (takeSign .closeParen))
      ((takeSign .comma us).bind (takeSign .closeParen)) :=
    rel_bind (takeSign_rel h.loose .comma) fun _ _ h => takeSign_rel h.loose .closeParen
  rcases rel_cases (takeSign_rel h.loose .closeParen) with ⟨h1, h2⟩ | ⟨ts', us', h1, h2, h'⟩ <;>
    simp only [h1, h2]
  case inr => exact .some (hempty h')
  rcases rel_cases hcomma with ⟨h1, h2⟩ | ⟨ts', us', h1, h2, h'⟩ <;> simp only [h1, h2]
  case inr => exact .some (hempty h')
  rw [h.loose.length]
  have hnone : R.SameEntries [] [] := ⟨.refl _ _, by simp⟩
  refine rel_bind (paramEntries_rel hr hnone _ h.loose) fun x y hxy => ?_
  obtain ⟨⟨⟨hview, heq⟩, hspell⟩, h⟩ := hxy
  refine .some ⟨⟨?_, fun hR => congrArg (paramTypes []) (heq hR)⟩, paramTypes_spelled (by simp) hspell, h⟩
  rw [bare_paramTypes, bare_paramTypes, hview]

theorem typeParams_rel (n : Nat) (h : R.Loose (d + 1) ts us) :
    Option.Rel (R.Tight d) (typeParams r n ts) (typeParams r n us) := by
  induction n generalizing ts us with
  | zero => exact .none
  | succ n ih =>
    refine rel_bind (name_rel h) ?_
    rintro ⟨_, ts⟩ ⟨_, us⟩ ⟨-, -, h⟩
    dsimp only
    rcases rel_cases (takeSign_rel h.loose .comma) with ⟨h1, h2⟩ | ⟨ts', us', h1, h2, h'⟩ <;>
      simp only [h1, h2]
    case inr => exact ih h'.loose
    rw [h.loose.length]
    refine rel_bind (union_rel hr false _ h.loose) ?_
    intro ts us h
    rcases rel_cases (takeSign_rel h.loose .comma) with ⟨h1, h2⟩ | ⟨ts, us, h1, h2, h⟩ <;>
      simp only [h1, h2]
    · exact takeSign_rel h.loose .closeBracket
    · rcases rel_cases (takeSign_rel h.loose .closeBracket) with ⟨h1, h2⟩ | ⟨ts, us, h1, h2, h⟩ <;>
        simp only [h1, h2]
      · exact ih h.loose
      · exact .some h

end RouteDoc.Go.Retouch
