/-
Line ends in doc blocks.

Every line of a block starts as a comment, and what stands on a line stays on it
unless it has a line end. Names, receivers, methods and kinds have none; the
pattern of a registration is anything without a quote and may have one
(`resolve_newline`). So each line of the text of a block starts as a comment
exactly where the line ends of the path are followed by the start of a comment
(`annotate_commented_iff`), and a pattern over two lines leaves a line of the
block outside of any comment (`annotate_uncommented`).
-/
import RouteDoc.Proofs.Generator.Rewriting
import RouteDoc.Proofs.Router.Tables

namespace RouteDoc

/-! ## Comments behind line ends -/

namespace CodeText

variable {lead s t a b : CodeText} {c : CodePoint}

/-- Behind every line end a line comment starts. -/
def Commented (s : CodeText) : Prop := ∀ a b, s = a ++ .char '\n' :: b → ofString "// " <+: b

theorem commented_of_not_mem (h : .char '\n' ∉ s) : Commented s := by
  rintro a b rfl
  simp at h

/-- A text that ends before a character starts in front of it. -/
theorem prefix_of_stop (h : lead <+: s ++ c :: t) (hc : c ∉ lead) : lead <+: s := by
  rcases List.prefix_or_prefix_of_prefix h (List.prefix_append s (c :: t)) with hs | ⟨u, rfl⟩
  · exact hs
  · rw [List.prefix_append_right_inj] at h
    cases u with
    | nil => simp
    | cons d u =>
      obtain rfl := (List.cons_prefix_cons.1 h).1
      simp at hc

theorem Commented.append (hs : Commented s) (ht : Commented t) : Commented (s ++ t) := by
  intro a b hab
  rcases List.append_eq_append_iff.1 hab with ⟨u, -, hu⟩ | ⟨u, rfl, hu⟩
  · exact ht u b hu
  · cases u with
    | nil => exact ht [] b hu.symm
    | cons d u =>
      obtain ⟨rfl, rfl⟩ := List.cons.inj hu
      exact (hs a u rfl).trans (List.prefix_append u t)

theorem Commented.right (h : Commented (s ++ t)) : Commented t := by
  rintro a b rfl
  exact h (s ++ a) b (List.append_assoc _ _ _).symm

/-- A text with a character behind it that starts no comment. -/
theorem Commented.left (h : Commented (s ++ c :: t)) (hc : c ∉ ofString "// ") : Commented s := by
  rintro a b rfl
  exact prefix_of_stop (h a (b ++ c :: t) (by simp)) hc

theorem commented_line_iff : Commented (a ++ .char '\n' :: b) ↔ Commented a ∧ ofString "// " <+: b ∧ Commented b := by
  constructor
  · intro h
    exact ⟨h.left (by decide), h a b rfl, (List.append_cons a (.char '\n') b ▸ h).right⟩
  · rintro ⟨ha, hlead, hb⟩
    refine ha.append fun a' b' hab => ?_
    cases a' with
    | nil =>
      obtain rfl := (List.cons.inj hab).2
      exact hlead
    | cons d a' => exact hb a' b' (List.cons.inj hab).2

/-- Every line starts as a comment when the first one does and those behind line ends do. -/
theorem splitAt_commented_iff (s : CodeText) :
    (∀ l ∈ Text.splitAt (.char '\n') s, ofString "// " <+: l) ↔ ofString "// " <+: s ∧ Commented s := by
  induction hn : s.length using Nat.strong_induction_on generalizing s with
  | _ n ih =>
    subst hn
    by_cases hmem : .char '\n' ∈ s
    · obtain ⟨a, b, rfl, ha⟩ := List.eq_append_cons_of_mem hmem
      have hb := ih b.length (by simp; omega) b rfl
      have hfirst : ofString "// " <+: a ++ .char '\n' :: b ↔ ofString "// " <+: a :=
        ⟨fun h => prefix_of_stop h (by decide), fun h => h.trans (List.prefix_append a _)⟩
      rw [Text.splitAt_append, Text.splitAt_of_not_mem ha, List.singleton_append, List.forall_mem_cons, hb, hfirst,
        commented_line_iff]
      exact and_congr_right fun _ => (and_iff_right (commented_of_not_mem ha)).symm
    · rw [Text.splitAt_of_not_mem hmem, List.forall_mem_singleton]
      exact (and_iff_left (commented_of_not_mem hmem)).symm

end CodeText

open CodeText (Commented commented_of_not_mem)
open Text (NoControls)

/-! ## Lines of a block -/

namespace DocBlock

variable {scheme : CodeText} {name receiver : String} {type : RequestType} {route : Route}

theorem splitAt_commentLines (ls : List CodeText) :
    Text.splitAt (.char '\n') (ls.flatMap commentLine) =
      (ls.flatMap fun l => Text.splitAt (.char '\n') (CodeText.ofString "// " ++ l)) ++ [[]] := by
  induction ls with
  | nil => rfl
  | cons l ls ih =>
    have hline : commentLine l ++ ls.flatMap commentLine =
        (CodeText.ofString "// " ++ l) ++ .char '\n' :: ls.flatMap commentLine := by
      rw [commentLine, List.append_assoc]
      rfl
    rw [List.flatMap_cons, hline, Text.splitAt_append, ih, List.flatMap_cons, List.append_assoc]

/-- A block is ended by a line end, and its lines are comments as far as each stays on its line. -/
theorem block_lines_iff (scheme : CodeText) (type : RequestType) (name receiver : String) (route : Route) :
    (Text.splitAt (.char '\n') (block scheme type name receiver route)).getLast? = some [] ∧
    ((∀ l ∈ (Text.splitAt (.char '\n') (block scheme type name receiver route)).dropLast,
      CodeText.ofString "// " <+: l) ↔ ∀ l ∈ lines scheme type name receiver route, Commented l) := by
  rw [block, splitAt_commentLines, List.dropLast_concat]
  refine ⟨List.getLast?_concat, ?_⟩
  simp only [List.forall_mem_flatMap, CodeText.splitAt_commented_iff]
  refine forall₂_congr fun l _ => ⟨fun h => h.2.right, fun h => ⟨List.prefix_append _ _, ?_⟩⟩
  exact (commented_of_not_mem (by decide)).append h

/-- The path decides whether the lines of a block are comments. -/
theorem lines_commented_iff (hscheme : .char '\n' ∉ scheme) (htype : type.KnownKinds) (hname : '\n' ∉ name.toList)
    (hreceiver : '\n' ∉ receiver.toList) (hmethod : .char '\n' ∉ route.method) :
    (∀ l ∈ lines scheme type name receiver route, Commented l) ↔ Commented (route.path ++ [.char ' ']) := by
  have hrouter : ("@Router " ++ route.path ++ " [" ++ route.method ++ "]" : CodeText) =
      CodeText.ofString "@Router " ++ ((route.path ++ [.char ' ']) ++ .char '[' :: (route.method ++ [.char ']'])) := by
    simp only [List.append_assoc]
    rfl
  constructor
  · intro h
    have hline := h _ (List.mem_append_right _ (List.mem_singleton.2 rfl))
    rw [hrouter] at hline
    exact hline.right.left (by decide)
  · intro hpath l hl
    rcases lines_cases (by decide) hscheme hname hreceiver l hl with hfree | ⟨p, hp, rfl⟩ | rfl
    · exact commented_of_not_mem hfree
    · -- A placeholder is followed by its brace, so a comment that starts in it starts there in its line too.
      obtain ⟨front, back, hsplit⟩ := append_of_placeholder hp
      rw [hsplit, List.append_assoc, List.append_assoc, List.cons_append] at hpath
      have hname : Commented p := hpath.right.left (by decide)
      obtain ⟨between, hbetween, hline⟩ := paramLine_eq htype p
      have hfree : .char '\n' ∉ CodeText.ofString between := CodeText.char_mem_ofString.not.2 (hbetween.not_mem (by decide))
      rw [hline]
      exact ((((commented_of_not_mem (by decide)).append hname).append (commented_of_not_mem hfree)).append
        hname).append (commented_of_not_mem (by decide))
    · rw [hrouter]
      refine (commented_of_not_mem (by decide)).append (hpath.append (commented_of_not_mem ?_))
      simpa using hmethod

end DocBlock

/-! ## Line ends of routes -/

namespace Route

theorem mem_of_mem_canonicalFrom {inside : Bool} {s : List Char} {c : Char} (hopen : c ≠ '{') (hclose : c ≠ '}')
    (h : c ∈ canonicalFrom inside s) : c ∈ s := by
  fun_induction canonicalFrom inside s with
  | case1 => cases h
  | case2 => exact absurd (List.mem_singleton.1 h) hclose
  | case3 d rest hslash ih =>
    rw [beq_iff_eq] at hslash
    subst hslash
    simp only [List.mem_cons, hclose, false_or] at h
    exact List.mem_cons.2 (h.imp_right ih)
  | case4 d rest hslash ih => exact List.mem_cons.2 ((List.mem_cons.1 h).imp_right ih)
  | case5 d rest hcolon ih =>
    simp only [List.mem_cons, hopen, false_or] at h
    exact List.mem_cons_of_mem d (ih h)
  | case6 d rest hcolon ih => exact List.mem_cons.2 ((List.mem_cons.1 h).imp_right ih)

theorem Verb.noControls_method (v : Verb) : NoControls v.method.toList := by
  cases v <;> decide

theorem noControls_inferMethod (name : String) : NoControls (inferMethod name).toList := by
  have hleads : ∀ e ∈ methodLeads, NoControls e.2.toList := by decide
  unfold inferMethod
  split
  · rename_i e he
    exact hleads e (List.mem_of_find?_eq_some he)
  · decide

section

variable {x : Char} (hx : x.toNat < 0x20)

include hx

/-- The path that a name suggests has no line end that the name does not have. -/
theorem not_mem_inferPath {name : String} (hname : x ∉ name.toList) : x ∉ (inferPath name).toList := by
  have hhyphen : x ≠ '-' := by
    rintro rfl
    exact absurd hx (by decide)
  have hwords := not_mem_resourceWords (Text.noImage_of_control hx) hhyphen hname
  have hslash : NoControls "/".toList ∧ NoControls "/\x7bid\x7d".toList := by decide
  unfold inferPath
  dsimp only
  split
  · simp only [String.toList_append, String.toList_ofList, List.mem_append, not_or]
    exact ⟨⟨hslash.1.not_mem hx, fun hmem => hwords (Text.mem_of_mem_untilText hmem)⟩, hslash.2.not_mem hx⟩
  · split
    · simp only [String.toList_append, String.toList_ofList, List.mem_append, not_or]
      exact ⟨hslash.1.not_mem hx, fun hmem => hwords (Text.mem_of_mem_dropLeading hmem)⟩
    · simp only [String.toList_append, String.toList_ofList, List.mem_append, not_or]
      exact ⟨hslash.1.not_mem hx, hwords⟩

end

theorem withLead_method (lead : CodeText) (r : Route) : (withLead lead r).method = r.method := by
  unfold withLead
  split <;> rfl

theorem mem_withLead_path {lead : CodeText} {r : Route} {c : CodePoint} (h : c ∈ (withLead lead r).path) :
    c ∈ lead ∨ c ∈ r.path := by
  unfold withLead at h
  split at h
  · exact .inr h
  · rwa [List.mem_append] at h

/-- The registration of a handler that counts. -/
def lastSite (g : Groups) (source : String) (name : String) : Option CallSite :=
  ((sites g source.toList).filter fun site => String.ofList site.handler == name).getLast?

theorem get?_parseRoutes (g : Groups) (source name : String) :
    (parseRoutes g source).get? name = (lastSite g source name).map (CallSite.route g) := by
  rw [parseRoutes, RouteTable.get?_ofEntries, List.filter_map, List.getLast?_map, Option.map_map]
  rfl

/-- **The route of a handler is one line**, but for the pattern of its registration. -/
theorem resolve_newline (g : Groups) (source : String) {lead : CodeText} {name : String} (hlead : .char '\n' ∉ lead)
    (hname : '\n' ∉ name.toList) :
    .char '\n' ∉ (resolve (parseRoutes g source) lead name).method ∧
    (.char '\n' ∈ (resolve (parseRoutes g source) lead name).path →
      ∃ site, lastSite g source name = some site ∧ '\n' ∈ site.pattern) := by
  have hnewline : '\n'.toNat < 0x20 := by decide
  rw [resolve, withLead_method, get?_parseRoutes]
  cases hsite : lastSite g source name with
  | none =>
    refine ⟨CodeText.char_mem_ofString.not.2 ((noControls_inferMethod name).not_mem hnewline), fun hmem => ?_⟩
    rcases mem_withLead_path hmem with hmem | hmem
    · exact absurd hmem hlead
    · exact absurd (CodeText.char_mem_ofString.1 hmem) (not_mem_inferPath hnewline hname)
  | some site =>
    refine ⟨CodeText.char_mem_ofString.not.2 ((Verb.noControls_method site.verb).not_mem hnewline),
      fun hmem => ⟨site, rfl, ?_⟩⟩
    rcases mem_withLead_path hmem with hmem | hmem
    · exact absurd hmem hlead
    · rw [Option.map_some, Option.getD_some, CallSite.route, CodeText.char_mem_ofString, String.toList_ofList] at hmem
      exact mem_of_mem_canonicalFrom (by decide) (by decide) hmem

end Route

/-! ## Blocks of registered handlers -/

namespace Generator

theorem annotate_block (g : Generator) (file : Option String) (h : Handler) (s : Session) :
    (g.annotate file h s).1.block = DocBlock.block g.scheme
      (s.requestType g.settings.typesPaths file (DocBlock.requestName h.name)).1 h.name h.receiver
      (Route.resolve g.routes g.lead h.name) := rfl

/-- **When a block is comments.** With routes read from a router text, for a handler and a receiver whose
names have no line end, every line of the block starts as a comment exactly where the path, with the blank
behind it, starts one behind each of its line ends; and a line end of the path is one of the pattern that the
handler was last registered with. -/
theorem annotate_commented_iff (g : Generator) {groups : Route.Groups} {source : String}
    (hroutes : g.routes = Route.parseRoutes groups source) {s : Session} (hs : s.Sound) (file : Option String)
    {h : Handler} (hscheme : .char '\n' ∉ g.scheme) (hlead : .char '\n' ∉ g.lead)
    (hname : '\n' ∉ h.name.toList) (hreceiver : '\n' ∉ h.receiver.toList) :
    (Text.splitAt (.char '\n') (g.annotate file h s).1.block).getLast? = some [] ∧
    ((∀ l ∈ (Text.splitAt (.char '\n') (g.annotate file h s).1.block).dropLast, CodeText.ofString "// " <+: l) ↔
      Commented ((Route.resolve g.routes g.lead h.name).path ++ [.char ' '])) ∧
    (.char '\n' ∈ (Route.resolve g.routes g.lead h.name).path →
      ∃ site, Route.lastSite groups source h.name = some site ∧ '\n' ∈ site.pattern) := by
  obtain ⟨hmethod, hpath⟩ := Route.resolve_newline groups source hlead hname
  rw [← hroutes] at hmethod hpath
  have htype := hs.requestType g.settings.typesPaths file (DocBlock.requestName h.name)
  obtain ⟨hend, hlines⟩ := DocBlock.block_lines_iff g.scheme
    (s.requestType g.settings.typesPaths file (DocBlock.requestName h.name)).1 h.name h.receiver
    (Route.resolve g.routes g.lead h.name)
  rw [annotate_block]
  exact ⟨hend, hlines.trans (DocBlock.lines_commented_iff hscheme htype hname hreceiver hmethod), hpath⟩

/-- A generator with the routes of a router text. -/
def routedGenerator (source : String) : Generator :=
  { plainGenerator with routes := Route.parseRoutes Route.Groups.standard source }

/-- The handler `Show` of a type. -/
def showHandler : Handler where
  name := "Show"
  receiver := "AHandler"
  documented := false
  declaration := ⟨⟨"Show", some [.name (Text.utf8 "AHandler")], []⟩, .origin, []⟩

/-- A pattern over two lines whose second line starts as a comment. -/
theorem annotate_commented_iff_twoLines :
    (∃ site, Route.lastSite Route.Groups.standard "api.GET(\"/a\n// b\", h.Show)" "Show" = some site ∧
      '\n' ∈ site.pattern) ∧
    ∀ l ∈ (Text.splitAt (.char '\n') ((routedGenerator "api.GET(\"/a\n// b\", h.Show)").annotate none showHandler
      (.start ⟨[], []⟩)).1.block).dropLast, CodeText.ofString "// " <+: l := by
  obtain ⟨-, hlines, hpattern⟩ := (routedGenerator "api.GET(\"/a\n// b\", h.Show)").annotate_commented_iff rfl
    (Session.sound_start (w := ⟨[], []⟩) (by decide)) none (h := showHandler) (by decide) (by decide) (by decide)
    (by decide)
  refine ⟨hpattern (by decide +kernel), hlines.2 ?_⟩
  have hpath : (Route.resolve (routedGenerator "api.GET(\"/a\n// b\", h.Show)").routes
      (routedGenerator "api.GET(\"/a\n// b\", h.Show)").lead showHandler.name).path ++ [.char ' '] =
        CodeText.ofString "/api/a" ++ .char '\n' :: CodeText.ofString "// b " := by
    decide +kernel
  rw [hpath, CodeText.commented_line_iff]
  exact ⟨commented_of_not_mem (by decide), by decide, commented_of_not_mem (by decide)⟩

/-- **A pattern over two lines leaves the comment**: the rest of the route stands on a line of its own. -/
theorem annotate_uncommented :
    CodeText.ofString "b [get]" ∈ (Text.splitAt (.char '\n') ((routedGenerator "api.GET(\"/a\nb\", h.Show)").annotate
      none showHandler (.start ⟨[], []⟩)).1.block).dropLast ∧
    ¬ CodeText.ofString "// " <+: CodeText.ofString "b [get]" := by
  have hroute : Route.resolve (routedGenerator "api.GET(\"/a\nb\", h.Show)").routes
      (routedGenerator "api.GET(\"/a\nb\", h.Show)").lead showHandler.name =
        ⟨"/api/a\nb", "get", "Show", false⟩ := by
    decide +kernel
  refine ⟨?_, by decide⟩
  rw [annotate_block, DocBlock.block, DocBlock.splitAt_commentLines, List.dropLast_concat, hroute, List.mem_flatMap]
  exact ⟨"@Router /api/a\nb [get]", List.mem_append_right _ (by decide), by decide⟩

end Generator

end RouteDoc
