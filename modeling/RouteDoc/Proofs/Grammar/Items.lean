/-
Items of the top level read retouched tokens alike.

`item_rel` says it for any item. An item takes tokens from the front, and leaves as
many brackets open as there were.
-/
import RouteDoc.Proofs.Grammar.Statements

namespace RouteDoc.Go

/-- The name and the fields of a declared type that is a structure. -/
def DeclaredType.structure? (t : DeclaredType) : Option (String × List (TypeExpr × Option (List UInt8))) :=
  t.type.fields?.map fun fields => (t.name, fields)

/-- The structures that an item declares, in order. -/
def Item.structures : Item → List (String × List (TypeExpr × Option (List UInt8)))
  | .types declared => declared.filterMap DeclaredType.structure?
  | _ => []

/-- Items that are the same function or both none, and that declare the same structures. -/
structure Item.Alike (x y : Item) : Prop where
  function : ∀ f, x = .function f ↔ y = .function f
  structures : x.structures = y.structures

theorem Item.Alike.refl (x : Item) : x.Alike x := ⟨fun _ => Iff.rfl, rfl⟩

/-- A function with its types bare. -/
def Function.bare (f : Function) : Function :=
  ⟨f.name, f.receiver.map (List.map TypeExpr.bare), f.params.map TypeExpr.bare⟩

/-- The function that an item is. -/
def Item.function? : Item → Option Function
  | .function f => some f
  | _ => none

namespace Retouch

open Grammar Parse

variable {R : Retouch} {d : Nat} {ts us : List Token} {r : Rules} (hr : R.Agrees r)

/-- The name of a function and the receivers it names stand in the old list. -/
def SpellsFunction (R : Retouch) (f : Function) : Prop :=
  (∃ text, f.name = textOf text ∧ R.Spells text) ∧
    ∀ types ∈ f.receiver, ∀ type ∈ types, R.SpellsType type

/-- Functions that match. -/
def SameFunction (R : Retouch) (d : Nat) (x y : Function × List Token) : Prop :=
  R.Matches Function.bare x.1 y.1 ∧ R.SpellsFunction x.1 ∧ R.Tight d x.2 y.2

/-- Items that are the same function but for comments behind stars, or both none, and that are alike where
the retouch is exact. -/
def ItemsAgree (R : Retouch) (x y : Item) : Prop :=
  x.function?.map Function.bare = y.function?.map Function.bare ∧ (R.Exact → x.Alike y)

/-- Items that agree; the names of a function stand in the old list. -/
def SameItem (R : Retouch) (d : Nat) (x y : Item × List Token) : Prop :=
  R.ItemsAgree x.1 y.1 ∧ (∀ f, x.1 = .function f → R.SpellsFunction f) ∧
    R.Loose d x.2 y.2

/-! ## Functions -/

section Functions

include hr

theorem signature_rel (h : R.Loose d ts us) :
    Option.Rel (fun x y => R.Matches (List.map TypeExpr.bare) x.1 y.1 ∧ R.Tight d x.2 y.2) (signature r ts)
      (signature r us) := by
  refine rel_bind (hr.params h) ?_
  rintro ⟨params, ts⟩ ⟨params', us⟩ ⟨hparams, -, h⟩
  refine rel_bind (result_rel hr true h) ?_
  intro ts us h
  refine rel_ite (continuesWith_eq h.loose _ _) (fun _ => ?_) fun _ => .some ⟨hparams, h⟩
  exact rel_bind (hr.block h.loose) fun _ _ h => .some ⟨hparams, h⟩

theorem functionOf_rel {name : List UInt8} (hname : R.Spells name) (h : R.Tight d ts us) :
    Option.Rel (R.SameFunction d)
      (do let (params, ts) ← signature r ts; return ((⟨textOf name, none, params⟩ : Function), ts))
      (do let (params, ts) ← signature r us; return ((⟨textOf name, none, params⟩ : Function), ts)) := by
  refine rel_bind (signature_rel hr h.loose) ?_
  rintro ⟨params, ts⟩ ⟨params', us⟩ ⟨⟨hview, heq⟩, h⟩
  refine .some ⟨⟨?_, fun hR => congrArg (Function.mk _ none) (heq hR)⟩, ⟨⟨name, rfl, hname⟩, by simp⟩, h⟩
  exact congrArg (Function.mk (textOf name) none) hview

theorem function_rel (h : R.Loose d ts us) :
    Option.Rel (R.SameFunction d) (function r ts) (function r us) := by
  refine rel_bind (name_rel h) ?_
  rintro ⟨name, ts⟩ ⟨_, us⟩ ⟨rfl, hname, h⟩
  dsimp only at hname h ⊢
  rcases rel_cases (takeSign_rel h.loose .openBracket) with ⟨h1, h2⟩ | ⟨ts', us', h1, h2, h'⟩ <;>
    simp only [h1, h2]
  · exact functionOf_rel hr hname h
  · rw [h'.loose.length]
    exact rel_bind (typeParams_rel hr _ h'.loose) fun _ _ h => functionOf_rel hr hname h

omit hr in
theorem method_congr {name : String} {types types' params params' : List TypeExpr} (htypes : types = types')
    (hparams : params = params') : Function.mk name (some types) params = Function.mk name (some types') params' := by
  rw [htypes, hparams]

theorem method_rel (h : R.Loose d ts us) :
    Option.Rel (R.SameFunction d) (method r ts) (method r us) := by
  refine rel_bind (hr.params h) ?_
  rintro ⟨receiver, ts⟩ ⟨receiver', us⟩ ⟨⟨hview, heq⟩, hreceiver, h⟩
  refine rel_bind (name_rel (Tight.loose h)) ?_
  rintro ⟨name, ts⟩ ⟨_, us⟩ ⟨rfl, hname, h⟩
  refine rel_bind (signature_rel hr (Tight.loose h)) ?_
  rintro ⟨params, ts⟩ ⟨params', us⟩ ⟨⟨hview', heq'⟩, h⟩
  refine .some ⟨⟨?_, fun hR => ?_⟩, ⟨⟨name, rfl, hname⟩, ?_⟩, h⟩
  · exact method_congr hview hview'
  · exact method_congr (heq hR) (heq' hR)
  intro types htypes
  obtain rfl := Option.some.inj htypes
  exact hreceiver

end Functions

theorem complete_rel {α : Type} {p : Parse α} {P : α × List Token → α × List Token → Prop}
    (hp : Option.Rel P (p ts) (p us)) (hP : ∀ x y, P x y → R.Tight d x.2 y.2) :
    Option.Rel P (complete p ts) (complete p us) := by
  unfold complete
  rcases rel_cases hp with ⟨h1, h2⟩ | ⟨x, y, h1, h2, hxy⟩ <;> rw [h1, h2]
  · exact .none
  · have h := hP x y hxy
    have hends : itemEnds x.2 = itemEnds y.2 := by
      rw [itemEnds, itemEnds, h.2, atSign_eq h.loose]
    rw [Option.filter_some, Option.filter_some]
    exact rel_ite hends (fun _ => .some hxy) fun _ => .none

/-! ## Imports -/

theorem importSpec_rel (h : R.Loose d ts us) :
    Option.Rel (R.Tight d) (importSpec ts) (importSpec us) := by
  refine rel_ite (by rw [at_eq h, atSign_eq h]) (fun hc => ?_) fun _ => take_rel h .text
  have ha : R.Tight d (ts.drop 1) (us.drop 1) := by
    rcases Bool.or_eq_true_iff.1 hc with hs | hs
    · exact drop_after h hs
    · exact drop_sign h hs
  exact take_rel ha.loose .text

theorem importList_rel (n : Nat) (h : R.Loose (d + 1) ts us) :
    Option.Rel (R.Tight d) (importList n ts) (importList n us) := by
  induction n generalizing ts us with
  | zero => exact .none
  | succ n ih =>
    unfold importList
    rcases rel_cases (takeSign_rel h .closeParen) with ⟨h1, h2⟩ | ⟨ts', us', h1, h2, h'⟩ <;>
      simp only [h1, h2]
    case inr => exact .some h'
    refine rel_bind (importSpec_rel h) ?_
    intro ts us h
    rcases rel_cases (terminator_rel h.loose) with ⟨h1, h2⟩ | ⟨ts', us', h1, h2, h'⟩ <;>
      simp only [h1, h2]
    · exact takeSign_rel h.loose .closeParen
    · exact ih h'.loose

theorem importClause_rel (h : R.Loose d ts us) :
    Option.Rel (R.Tight d) (importClause ts) (importClause us) := by
  unfold importClause
  rcases rel_cases (takeSign_rel h .openParen) with ⟨h1, h2⟩ | ⟨ts', us', h1, h2, h'⟩ <;>
    simp only [h1, h2]
  · exact importSpec_rel h
  · rw [h'.loose.length]
    exact importList_rel _ h'.loose

/-! ## Items -/

include hr in
/-- **An item reads retouched tokens alike.** -/
theorem item_rel (h : R.Loose d ts us) :
    Option.Rel (R.SameItem d) (item r ts) (item r us) := by
  have hother : ∀ {p : List Token → Option (List Token)} {ts us},
      Option.Rel (R.Loose d) (p ts) (p us) →
      Option.Rel (R.SameItem d) ((p ts).map fun rest => (Item.other, rest))
        ((p us).map fun rest => (Item.other, rest)) := fun h =>
    rel_map h fun _ _ h => ⟨⟨rfl, fun _ => .refl _⟩, by simp, h⟩
  cases ts with
  | nil => rw [h.nil]; exact .none
  | cons t ts =>
    have hstatement := hother (hr.statement h)
    obtain ⟨u, us, rfl, hh⟩ := h.cons
    have ha := hh.after
    have hku := hh.kind
    simp only [item, ← hku]
    split <;> rename_i hk
    any_goals rw [hk] at ha
    · exact hother (rel_map (name_rel ha.loose) fun _ _ hxy => hxy.2.2.loose)
    · exact hother (rel_imp (importClause_rel ha.loose) fun _ _ h => h.loose)
    · have hfunction : Option.Rel (R.SameFunction d)
          ((complete (function r) ts).or (complete (method r) ts))
          ((complete (function r) us).or (complete (method r) us)) :=
        rel_or (complete_rel (function_rel hr ha.loose) fun _ _ hxy => hxy.2.2)
          (complete_rel (method_rel hr ha.loose) fun _ _ hxy => hxy.2.2)
      rcases rel_cases hfunction with
        ⟨h1, h2⟩ | ⟨⟨f, ts'⟩, ⟨f', us'⟩, h1, h2, ⟨hview, heq⟩, hspell, h'⟩ <;> simp only [h1, h2]
      · exact hstatement
      · refine .some ⟨⟨congrArg some hview, fun hR => ?_⟩, ?_, Tight.loose h'⟩
        · obtain rfl : f = f' := heq hR
          exact .refl _
        · rintro _ ⟨⟩
          exact hspell
    · refine rel_map (typeSpecs_rel hr ha.loose) fun x y hxy =>
        ⟨⟨rfl, fun hR => ⟨by simp, ?_⟩⟩, by simp, Tight.loose hxy.2⟩
      have hstructures : ∀ specs : List TypeSpec,
          Item.structures (.types (specs.map fun s => ⟨textOf s.name, s.type⟩)) = specs.filterMap specStructure? := by
        intro specs
        rw [Item.structures, List.filterMap_map]
        rfl
      rw [hstructures, hstructures]
      exact hxy.1 hR
    · exact hstatement

theorem SameItem.mayStandLast_eq {t u : Token} {x y : Item × List Token} (h : R.SameItem d x y)
    (hk : t.kind = u.kind) : mayStandLast t x.1 = mayStandLast u y.1 := by
  obtain ⟨⟨hxy, -⟩, -⟩ := h
  unfold mayStandLast
  rw [← hk]
  cases hx : x.1 <;> cases hy : y.1 <;> rw [hx, hy] at hxy <;> first | rfl | cases hxy

end Retouch

end RouteDoc.Go
