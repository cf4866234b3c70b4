/-
Comments in signatures.

Two texts that differ in blanks and comments only have the same functions, but
for the marks of comments behind stars (`functions_recommented`). Whether a
function is a handler depends on these marks: a comment right behind the star of
a receiver type hides the type, and one behind the star of a context hides that it
is one. No other comment has any influence (`classification_recommented`).
-/
import RouteDoc.Handler
import RouteDoc.Proofs.Lexing.Outlines
import RouteDoc.Proofs.TopLevel.Docs

namespace RouteDoc

namespace Go

open Declaration

/-! ## Functions of texts with the same outline -/

/-- For each star with a token behind it, whether comments stand between the two. -/
def behindStars : List Token → List Bool
  | t :: u :: ts =>
    if t.kind = .sign .star then (!u.gap.comments.isEmpty) :: behindStars (u :: ts) else behindStars (u :: ts)
  | _ => []

/-- The comments right behind the stars of a text. -/
def starComments (source : List UInt8) : Option (List Bool) := (tokenize source).map fun k => behindStars k.tokens

theorem comments_eq_of_behindStars {ts us : List Token} (h : List.Forall₂ Token.Akin ts us)
    (hstars : behindStars us = behindStars ts) {i : Nat} {t u v : Token} (ht : ts[i]? = some t)
    (hk : t.kind = .sign .star) (hu : ts[i + 1]? = some u) (hv : us[i + 1]? = some v) :
    u.gap.comments.isEmpty = v.gap.comments.isEmpty := by
  induction h generalizing i with
  | nil => cases ht
  | @cons t₀ u₀ ts us hakin h ih =>
    cases h with
    | nil => cases hu
    | @cons t₁ u₁ ts us hakin' h =>
      rw [behindStars, behindStars, ← hakin.kind] at hstars
      cases i with
      | zero =>
        obtain rfl : t₀ = t := by simpa using ht
        obtain rfl : t₁ = u := by simpa using hu
        obtain rfl : u₁ = v := by simpa using hv
        rw [if_pos hk, if_pos hk] at hstars
        simpa using (List.cons.inj hstars).1.symm
      | succ i =>
        refine ih ?_ ht hu hv
        split at hstars
        · exact (List.cons.inj hstars).2
        · exact hstars

theorem exact_ofAkin {ts us : List Token} (h : List.Forall₂ Token.Akin ts us)
    (hstars : behindStars us = behindStars ts) : (Retouch.ofAkin h).Exact :=
  fun _ _ _ ht hk _ hu _ hv => comments_eq_of_behindStars h hstars ht hk hu hv

theorem akin_of_outline {k k' : Tokens} (h : k'.outline = k.outline) : List.Forall₂ Token.Akin k.tokens k'.tokens := by
  have hmap : k.tokens.map Token.outline = k'.tokens.map Token.outline := (Prod.mk.inj h).1.symm
  have hequal : List.Forall₂ (fun t u => t.outline = u.outline) k.tokens k'.tokens := by
    rw [← List.forall₂_map_left_iff (R := fun x u => x = Token.outline u),
      ← List.forall₂_map_right_iff (R := fun x y => x = y), hmap]
    exact List.forall₂_same.2 fun _ _ => rfl
  refine hequal.imp fun t u htu => ?_
  obtain ⟨hkind, htext, hnewline⟩ := by simpa only [Token.outline, Prod.mk.injEq] using htu
  exact ⟨hkind, htext, hnewline⟩

/-- The functions of a text are those of its clauses. -/
theorem functions_nodesIn (behind : Gap) (before : List Node) (cs : List Clause) :
    (ofNodesFrom before (nodesIn behind cs)).map Declaration.function = cs.filterMap fun c => c.item.function? := by
  induction cs generalizing before with
  | nil => simp [nodesIn, commentNodes]
  | cons c cs ih =>
    have hhead : (c.declaration? before).map Declaration.function = c.item.function? := by
      unfold Clause.declaration? Item.function?
      cases c.item <;> rfl
    rw [nodesIn, ofNodesFrom_clause, List.map_append, ih, List.filterMap_cons, ← hhead]
    cases c.declaration? before <;> rfl

theorem function?_eq_some {x : Item} {f : Function} (h : x.function? = some f) : x = .function f := by
  cases x <;> cases h
  rfl

theorem function?_match {R : Retouch} {x y : Item} (h : R.ItemsAgree x y) :
    Option.Rel (R.Matches Function.bare) x.function? y.function? := by
  obtain ⟨hbare, halike⟩ := h
  cases hx : x.function? with
  | none =>
    rw [hx, Option.map_none] at hbare
    rw [Option.map_eq_none_iff.1 hbare.symm]
    exact .none
  | some f =>
    rw [hx, Option.map_some] at hbare
    obtain ⟨g, hy, hgf⟩ := Option.map_eq_some_iff.1 hbare.symm
    rw [hy]
    refine .some ⟨hgf.symm, fun hR => ?_⟩
    have hsame := ((halike hR).function f).1 (function?_eq_some hx)
    rw [function?_eq_some hy] at hsame
    exact (Item.function.inj hsame).symm

theorem functions_match {R : Retouch} {cs es : List Clause} (h : List.Forall₂ R.SameClause cs es) :
    List.Forall₂ (R.Matches Function.bare) (cs.filterMap fun c => c.item.function?)
      (es.filterMap fun c => c.item.function?) := by
  induction h with
  | nil => exact .nil
  | cons hce _ ih =>
    rcases rel_cases (function?_match hce.item) with ⟨hc, he⟩ | ⟨f, g, hc, he, hfg⟩
    · rw [List.filterMap_cons, List.filterMap_cons, hc, he]
      exact ih
    · rw [List.filterMap_cons, List.filterMap_cons, hc, he]
      exact .cons hfg ih

/-- **Blanks and comments leave the functions of a text**, but for the marks of comments behind stars, and
these stay where no comment comes or goes behind a star. -/
theorem functions_recommented {source source' : List UInt8} (h : solids source' = solids source) {nodes : List Node}
    (hnodes : nodes? source = some nodes) :
    ∃ nodes', nodes? source' = some nodes' ∧
      List.Forall₂ (fun d d' => d'.function.bare = d.function.bare ∧
        (starComments source' = starComments source → d'.function = d.function)) (ofNodes nodes) (ofNodes nodes') := by
  obtain ⟨p, rfl⟩ := nodes?_eq_some_iff.1 hnodes
  obtain ⟨k', hk', houtline⟩ := tokenize_outline h p.tokenize
  have hakin := akin_of_outline houtline
  have hbehind : p.tokens.rest.newline = k'.rest.newline := (Prod.mk.inj houtline).2.symm
  have hloose : (Retouch.ofAkin hakin).Loose 0 (tokensIn p.clauses) k'.tokens := ⟨0, p.cut, rfl, rfl⟩
  obtain ⟨es, hes, hreads, hsame⟩ := Reads.retouch p.reads hbehind (by simp [Retouch.ofAkin]) hloose
  have hrules : Grammar.rulesFor p.tokens.tokens = Grammar.rulesFor k'.tokens := by
    rw [Grammar.rulesFor, Grammar.rulesFor, hakin.length_eq]
  let p' : Parsed source' := ⟨k', es, hk', hes, hrules ▸ hreads⟩
  refine ⟨p'.nodes, nodes?_eq_some_iff.2 ⟨p', rfl⟩, ?_⟩
  have hfunctions := functions_match hsame
  rw [← functions_nodesIn p.tokens.rest [] p.clauses, ← functions_nodesIn k'.rest [] es,
    List.forall₂_map_left_iff, List.forall₂_map_right_iff] at hfunctions
  refine hfunctions.imp fun d d' hmatch => ⟨hmatch.1.symm, fun hstars => (hmatch.2 ?_).symm⟩
  rw [starComments, starComments, p.tokenize, hk', Option.map_some, Option.map_some, Option.some.injEq] at hstars
  exact exact_ofAkin hakin hstars

end Go

/-! ## Classification -/

open Go

/-- Whether a comment stands right behind the star that a type starts with. -/
def starCommented : TypeExpr → Bool
  | .pointer commented _ => commented
  | _ => false

namespace Go.Declaration

/-- The function without the marks of comments behind stars. -/
def bare (d : Declaration) : Declaration := { d with function := d.function.bare }

/-- Of the receivers and of the parameters, whose types have a comment right behind the star they start with. -/
def hidden (d : Declaration) : Option (List Bool) × List Bool :=
  (d.function.receiver.map (List.map starCommented), d.function.params.map starCommented)

end Go.Declaration

/-- The same answers about a function. -/
structure SameClass (d d' : Declaration) : Prop where
  receiver : receiverType d' = receiverType d
  context : takesContext d' = takesContext d
  handler : isHandler d' = isHandler d

variable {d d' : Declaration}

theorem isContext_eq (type : TypeExpr) : isContext type = (isContext type.bare && !starCommented type) := by
  cases type with
  | pointer commented target => cases commented <;> cases target <;> simp [isContext, TypeExpr.bare, starCommented]
  | _ => rfl

/-- A comment behind the star of the receiver type hides it, and no other comment matters. -/
theorem receiverType_eq (d : Declaration) :
    receiverType d = if d.hidden.1 = some [true] then "" else receiverType d.bare := by
  unfold receiverType Declaration.hidden Declaration.bare Function.bare
  rcases d.function.receiver with - | (- | ⟨type, - | ⟨type', types⟩⟩)
  · rfl
  · rfl
  · cases type with
    | pointer commented target => cases commented <;> cases target <;> simp [starCommented, unwrapPointer, TypeExpr.bare]
    | _ => rfl
  · simp

/-- A context counts unless a comment stands behind its star. -/
theorem takesContext_eq (d : Declaration) :
    takesContext d = (d.bare.function.params.zip d.hidden.2).any fun p => isContext p.1 && !p.2 := by
  unfold takesContext Declaration.hidden Declaration.bare Function.bare
  induction d.function.params with
  | nil => rfl
  | cons type types ih =>
    rw [List.any_cons, List.map_cons, List.map_cons, List.zip_cons_cons, List.any_cons, ih, isContext_eq]

theorem SameClass.of_parts (hmethod : d'.isMethod = d.isMethod) (hreceiver : receiverType d' = receiverType d)
    (hcontext : takesContext d' = takesContext d) : SameClass d d' :=
  ⟨hreceiver, hcontext, by rw [isHandler, isHandler, hmethod, hreceiver, hcontext]⟩

/-- **Comments in signatures.** A text with other blanks and comments has the same functions, and about each of them the
answers are the same where the types of its receivers and parameters have the same comments right behind
the stars they start with, as they do where all stars of the text have. A comment there hides the type of a
receiver, or that a parameter is a context; no other comment has any influence. -/
theorem classification_recommented {source source' : List UInt8} (h : solids source' = solids source)
    {nodes : List Node} (hnodes : nodes? source = some nodes) :
    ∃ nodes', nodes? source' = some nodes' ∧ List.Forall₂ (fun d d' =>
        d'.name = d.name ∧ d'.isMethod = d.isMethod ∧
        receiverType d' = (if d'.hidden.1 = some [true] then "" else receiverType d.bare) ∧
        takesContext d' = ((d.bare.function.params.zip d'.hidden.2).any fun p => isContext p.1 && !p.2) ∧
        (d'.hidden = d.hidden → SameClass d d') ∧
        (starComments source' = starComments source → SameClass d d'))
      (Declaration.ofNodes nodes) (Declaration.ofNodes nodes') := by
  obtain ⟨nodes', hnodes', hfunctions⟩ := functions_recommented h hnodes
  refine ⟨nodes', hnodes', hfunctions.imp fun d d' ⟨hbare, hsame⟩ => ?_⟩
  have hname : d'.function.bare.name = d.function.bare.name := by rw [hbare]
  have hmethod : d'.isMethod = d.isMethod := by
    have hreceiver := congrArg (fun f => f.receiver.isSome) hbare
    simpa [Function.bare, Declaration.isMethod] using hreceiver
  have hbare' : receiverType d'.bare = receiverType d.bare := by
    unfold receiverType Declaration.bare
    rw [hbare]
  have hparams : d'.bare.function.params = d.bare.function.params := congrArg Function.params hbare
  have hreceiver : receiverType d' = if d'.hidden.1 = some [true] then "" else receiverType d.bare := by
    rw [receiverType_eq, hbare']
  have hcontext : takesContext d' = (d.bare.function.params.zip d'.hidden.2).any fun p => isContext p.1 && !p.2 := by
    rw [takesContext_eq, hparams]
  refine ⟨hname, hmethod, hreceiver, hcontext, fun hhidden => ?_, fun hstars => ?_⟩
  · refine .of_parts hmethod ?_ ?_
    · rw [hreceiver, hhidden, ← receiverType_eq]
    · rw [hcontext, hhidden, ← takesContext_eq]
  · have hfunction := hsame hstars
    refine .of_parts hmethod ?_ ?_
    · rw [receiverType, receiverType, hfunction]
    · rw [takesContext, takesContext, hfunction]

/-- The answers about the functions of a text: receiver type, whether they take a context, whether they are handlers. -/
def classes (source : List UInt8) : Option (List (String × Bool × Bool)) :=
  (nodes? source).map fun nodes =>
    (Declaration.ofNodes nodes).map fun d => (receiverType d, takesContext d, isHandler d)

/-- A handler without comments. -/
def plainSignature : List UInt8 := Text.utf8 "func (h *AHandler) A(c *g.Context) \x7b\x7d\n"

theorem classes_plainSignature : classes plainSignature = some [("AHandler", true, true)] := by decide +kernel

/-- The same handler with comments in many places, none of them right behind a star. -/
def commentedSignature : List UInt8 :=
  Text.utf8 "func (/*\n*/h/**/*AHandler) A(c *g/*,*/.Context/**/) \x7b\x7d\n"

theorem classification_recommented_commented :
    ∃ nodes', nodes? commentedSignature = some nodes' ∧
      (Declaration.ofNodes nodes').map (fun d => (receiverType d, isHandler d)) = [("AHandler", true)] := by
  obtain ⟨nodes, hnodes, hclasses⟩ := Option.map_eq_some_iff.1 classes_plainSignature
  obtain ⟨nodes', hnodes', hpairs⟩ := classification_recommented
    (by decide +kernel : solids commentedSignature = solids plainSignature) hnodes
  refine ⟨nodes', hnodes', ?_⟩
  have hstars : starComments commentedSignature = starComments plainSignature := by decide +kernel
  obtain ⟨d, hd⟩ := List.length_eq_one_iff.1 (by simpa using congrArg List.length hclasses)
  rw [hd] at hpairs hclasses
  obtain ⟨hreceiver, -, hhandler⟩ : receiverType d = "AHandler" ∧ takesContext d = true ∧ isHandler d = true := by
    simpa using hclasses
  generalize Declaration.ofNodes nodes' = ds' at hpairs
  cases hpairs with | cons hpair htail =>
  cases htail
  obtain ⟨hreceiver', -, hhandler'⟩ := hpair.2.2.2.2.2 hstars
  rw [List.map_singleton, hreceiver', hreceiver, hhandler', hhandler]

/-- The handler with a comment right behind the star of its receiver type. -/
def hiddenReceiver : List UInt8 := Text.utf8 "func (h */*c*/AHandler) A(c *g.Context) \x7b\x7d\n"

/-- The handler with a comment right behind the star of its context. -/
def hiddenContext : List UInt8 := Text.utf8 "func (h *AHandler) A(c */*c*/g.Context) \x7b\x7d\n"

/-- **A comment right behind a star makes a handler none.** -/
theorem classification_hidden :
    solids hiddenReceiver = solids plainSignature ∧ solids hiddenContext = solids plainSignature ∧
    classes plainSignature = some [("AHandler", true, true)] ∧
    classes hiddenReceiver = some [("", true, false)] ∧ classes hiddenContext = some [("AHandler", false, false)] :=
  ⟨by decide +kernel, by decide +kernel, classes_plainSignature, by decide +kernel, by decide +kernel⟩

end RouteDoc
