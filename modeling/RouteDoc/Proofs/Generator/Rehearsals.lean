/-
A run that only announces its blocks.

A rehearsal is the run with nothing written. What both of them say about a file can
be read off the tree that they start from (`foretold`), because every request type
that they find is the one that the tree declares. For the rehearsal that is plain.
The run itself changes files that may declare types: such a file is kept as it was
read before its first block was written, or else its new blocks are comments, and
then it declares the structures that it declared (`Guarded`). So the run reports what
the rehearsal reported, and writes the blocks that were announced (`run_rehearsed`).
A file that is reached by two roots is read again after a block with a line end in it
has broken it, and then the two differ (`run_unlike_rehearsal`).
-/
import RouteDoc.Proofs.Generator.Foresight

namespace RouteDoc

open Go

namespace Generator

variable (g : Generator) {w : Workspace} {files : List String} {path : String} {q : Place} {bytes : List UInt8}
  {s s' : Session}

/-! ## What is said about a file -/

/-- What is said about the file at a path where every handler gets the block that a tree has for it. -/
def foretold (w : Workspace) (path : String) : FileResult :=
  let plan := g.planned w path (Source.load w (PathText.absolute w.cwdText path))
  { plan.2 with counts := { plan.2.counts with newlyDocumented := plan.1.length }, annotated := plan.1 }

section

variable (hw : w.Sound) (hq : w.locate path = .ok q) (hbytes : w.entryAt q = some (.file bytes))

include hw hq hbytes

theorem foretold_unparsable (hnodes : nodes? bytes = none) : g.foretold w path =
    ⟨path, {}, some (.unparsable (PathText.absolute w.cwdText path) "syntax error"), [], none⟩ := by
  unfold foretold
  rw [load_found (Workspace.locate_absolute hw hq) hbytes, hnodes]
  rfl

theorem foretold_parsed {nodes : List Node} (hnodes : nodes? bytes = some nodes) : g.foretold w path =
    ⟨path, { countsOf (Declaration.ofNodes nodes) with
      newlyDocumented := (pendingOf (Declaration.ofNodes nodes)).length }, none,
      (pendingOf (Declaration.ofNodes nodes)).reverse.map (g.annotatedIn w), none⟩ := by
  unfold foretold
  rw [load_found (Workspace.locate_absolute hw hq) hbytes, hnodes]
  simp only [planned, Source.declarations, List.length_map, List.length_reverse]

/-- A file that cannot be parsed. -/
theorem processFile_foretold_unparsable (h : g.Foreseen w s) (hnow : s.workspace.entryAt q = some (.file bytes))
    (hcurrent : s.Current path) (hnodes : nodes? bytes = none) :
    (g.processFile path s).1 = g.foretold w path ∧ g.Foreseen w (g.processFile path s).2 ∧
      (g.processFile path s).2.workspace = s.workspace := by
  have hw' := h.alike.sound hw
  have hq' : s.workspace.locate path = .ok q := h.alike.locate path ▸ hq
  obtain ⟨hresult, hworkspace⟩ := g.processFile_unparsable hw' hq' hnow hcurrent hnodes
  rw [g.foretold_unparsable hw hq hbytes hnodes, hresult, Session.keyOf, h.alike.cwdText]
  refine ⟨rfl, ?_, hworkspace⟩
  have hcollect := h.collect (some (PathText.base path)) path
  have hfound := collect_fst (some (PathText.base path)) path s
  rw [Session.source_eq_load hcurrent, load_key hw' hq' hnow, hnodes] at hfound
  unfold processFile
  dsimp only
  split
  · rename_i heq
    rw [heq] at hcollect
    exact hcollect.congr rfl rfl rfl
  · rename_i heq
    rw [heq] at hfound
    cases hfound

end

/-! ## Rehearsals -/

/-- The generator that announces its blocks and writes none of them. -/
def rehearsal : Generator := { g with settings := { g.settings with dryRun := true } }

theorem writeBlocks_announces (hdry : g.settings.dryRun = true) (h : g.Foreseen w s) (path : String)
    (file : Option String) (hs : List Handler) {r : FileResult} (hraised : r.raised = none) :
    (g.writeBlocks path file hs r s).1 =
      { r with counts := { r.counts with newlyDocumented := r.counts.newlyDocumented + hs.length },
               annotated := r.annotated ++ hs.map (g.annotatedIn w) } ∧
      g.Foreseen w (g.writeBlocks path file hs r s).2 ∧
      (g.writeBlocks path file hs r s).2.workspace = s.workspace := by
  induction hs generalizing r s with
  | nil => exact ⟨by simp [writeBlocks], h, rfl⟩
  | cons x hs ih =>
    obtain ⟨hblock, hforeseen⟩ := h.annotate file x
    have hsame := g.annotate_workspace file x s
    obtain ⟨n, hannounce⟩ : ∃ n, g.writeBlocks path file (x :: hs) r s = g.writeBlocks path file hs
        { r with counts := oneMore r.counts, annotated := r.annotated ++ [g.annotatedIn w x] }
        ((g.annotate file x s).2.note n) := by
      rw [← hblock, writeBlocks]
      unfold writeBlock
      simp only [hdry, if_true, hraised, Option.isSome_none, Bool.false_eq_true, if_false]
      exact ⟨_, rfl⟩
    have hnoted : g.Foreseen w ((g.annotate file x s).2.note n) := hforeseen.congr rfl rfl rfl
    obtain ⟨hresult, hforeseen', hworkspace⟩ := ih hnoted (r :=
      { r with counts := oneMore r.counts, annotated := r.annotated ++ [g.annotatedIn w x] }) hraised
    rw [hannounce]
    refine ⟨hresult.trans ?_, hforeseen', hworkspace.trans hsame⟩
    simp [oneMore]
    omega

theorem processFile_announces (hdry : g.settings.dryRun = true) (hw : w.Sound) (h : g.Foreseen w s)
    (hq : w.locate path = .ok q) (hbytes : w.entryAt q = some (.file bytes))
    (hnow : s.workspace.entryAt q = some (.file bytes)) (hcurrent : s.Current path) :
    (g.processFile path s).1 = g.foretold w path ∧ g.Foreseen w (g.processFile path s).2 ∧
      (g.processFile path s).2.workspace = s.workspace := by
  cases hnodes : nodes? bytes with
  | none => exact g.processFile_foretold_unparsable hw hq hbytes h hnow hcurrent hnodes
  | some nodes =>
    have hq' : s.workspace.locate path = .ok q := h.alike.locate path ▸ hq
    rw [g.foretold_parsed hw hq hbytes hnodes, g.processFile_parsed (h.alike.sound hw) hq' hnow hcurrent hnodes]
    obtain ⟨hresult, hforeseen, hworkspace⟩ := g.writeBlocks_announces hdry
      (h.collect (some (PathText.base path)) path) path (some (PathText.base path))
      (pendingOf (Declaration.ofNodes nodes)).reverse (r := ⟨path, countsOf (Declaration.ofNodes nodes), none, [], none⟩)
      rfl
    refine ⟨hresult.trans ?_, hforeseen, hworkspace.trans (collect_turns (q := q) _ path s).2⟩
    simp [countsOf]

theorem processFiles_announces (hdry : g.settings.dryRun = true) (hw : w.Sound) (h : g.Foreseen w s)
    (hsame : s.workspace = w) (hapart : Apart s files) :
    (g.processFiles files s).1 = files.map (g.foretold w) ∧ (g.processFiles files s).2.workspace = w := by
  induction files generalizing s with
  | nil => exact ⟨rfl, hsame⟩
  | cons f files ih =>
    obtain ⟨⟨q, bytes, hq, hbytes⟩, -⟩ := List.forall_mem_cons.1 hapart.found
    obtain ⟨hcurrent, -⟩ := List.forall_mem_cons.1 hapart.current
    obtain ⟨hrest, -⟩ := hapart.rest g (h.alike.sound hw)
    obtain ⟨hresult, hforeseen, hworkspace⟩ :=
      g.processFile_announces hdry hw h (hsame ▸ hq) (hsame ▸ hbytes) hbytes hcurrent
    obtain ⟨hresults, hworkspace'⟩ := ih hforeseen (hworkspace.trans hsame) hrest
    refine ⟨?_, hworkspace'⟩
    rw [List.map_cons, ← hresult, ← hresults]
    rfl

/-! ## Files that are rewritten -/

/-- The block of a handler can be written: the storage takes it, and it has bytes. -/
def Taken (path : String) (x : Handler) : Prop := g.accepts path x = true ∧ g.ScalarRoute x.name

/-- A file that says the same about types before and after it is written: every type file that it is goes by
the root of its own path, so it is kept, or else its new blocks stay on their lines. -/
def Steady (w : Workspace) (path : String) : Prop :=
  (∀ t ∈ typeFiles w g.settings.typesPaths, w.locate (PathText.absolute w.cwdText t) = w.locate path →
    PathText.rootText (PathText.join w.cwdText t) = PathText.rootText (PathText.join w.cwdText path)) ∨
  PendingIn w (fun _ x => g.CleanRoute x.name) path

/-- A file that may get blocks one after the other: wherever types are looked for in it, it is kept, or else
every text that it has on the way declares the structures that it declared at first. -/
def Guarded (w : Workspace) (q : Place) (bytes : List UInt8) (as : List Annotated) (s : Session) : Prop :=
  (∀ t ∈ typeFiles w g.settings.typesPaths, w.locate (PathText.absolute w.cwdText t) = .ok q →
    (s.kept? t).isSome = true) ∨
  ∀ done, done <+: as →
    (nodes? (applyEdits bytes (done.map Annotated.edit))).map structuresIn = (nodes? bytes).map structuresIn

theorem scalar_annotatedIn (w : Workspace) (x : Handler) :
    (g.annotatedIn w x).block.Scalar ↔ g.ScalarRoute x.name :=
  DocBlock.scalar_block ..

theorem annotatedIn_documents (hw : w.Sound) {nodes : List Node} (hnodes : nodes? bytes = some nodes) {x : Handler}
    (hx : x ∈ pendingOf (Declaration.ofNodes nodes)) (hclean : g.CleanRoute x.name) :
    ∃ lines, (g.annotatedIn w x).edit = x.declaration.edit (commentLines lines) ∧ DocLines lines := by
  obtain ⟨hblock, -⟩ := (Foreseen.start (g := g) w []).annotate none x
  rw [← hblock]
  exact g.annotate_documents hnodes hx hclean (Session.sound_start hw) none

/-- New blocks that stay on their lines leave the structures of a file alone, however many are written. -/
theorem structures_stay (hw : w.Sound) {nodes : List Node} (hnodes : nodes? bytes = some nodes)
    (hclean : ∀ x ∈ pendingOf (Declaration.ofNodes nodes), g.CleanRoute x.name) {done : List Annotated}
    (hdone : done <+: (pendingOf (Declaration.ofNodes nodes)).reverse.map (g.annotatedIn w)) :
    (nodes? (applyEdits bytes (done.map Annotated.edit))).map structuresIn = (nodes? bytes).map structuresIn := by
  have hdocs : ∀ a ∈ done, ∃ lines, a.edit = a.handler.declaration.edit (commentLines lines) ∧ DocLines lines := by
    intro a ha
    obtain ⟨x, hx, rfl⟩ := List.mem_map.1 (hdone.subset ha)
    have hx := List.mem_reverse.1 hx
    exact g.annotatedIn_documents hw hnodes hx (hclean x hx)
  have hsub : (done.map fun a => a.handler.declaration).reverse.Sublist (Declaration.ofNodes nodes) := by
    have hpending := (hdone.map fun a => a.handler.declaration).reverse.sublist
    rw [List.map_map, List.map_reverse, List.reverse_reverse] at hpending
    have hdeclarations : (pendingOf (Declaration.ofNodes nodes)).map ((fun a => a.handler.declaration) ∘ g.annotatedIn w) =
        (Declaration.ofNodes nodes).filter isPending := pendingOf_declarations _
    rw [hdeclarations] at hpending
    exact hpending.trans List.filter_sublist
  obtain ⟨nodes', hrewritten⟩ := exists_rewritten hnodes hdocs hsub
  rw [hrewritten.parses, hnodes, Option.map_some, Option.map_some, hrewritten.structures]

variable {g}

theorem Guarded.turns {as : List Annotated} (h : g.Guarded w q bytes as s) {q' : Place} (hturns : s.Turns q' s')
    (hw : s.workspace.Sound) : g.Guarded w q bytes as s' := by
  rcases h with hkept | hstructures
  · refine .inl fun t ht hlocate => ?_
    obtain ⟨found, hfound⟩ := Option.isSome_iff_exists.1 (hkept t ht hlocate)
    rw [hturns.source_stays hw hfound]
    rfl
  · exact .inr hstructures

/-- A file is guarded once it has been read under its own path. -/
theorem Steady.guarded (h : g.Steady w path) (hw : w.Sound) (hq : w.locate path = .ok q)
    (hbytes : w.entryAt q = some (.file bytes)) {nodes : List Node} (hnodes : nodes? bytes = some nodes)
    (halike : w.Alike s.workspace) (hkept : (s.kept? path).isSome = true) :
    g.Guarded w q bytes ((pendingOf (Declaration.ofNodes nodes)).reverse.map (g.annotatedIn w)) s := by
  rcases h with hroots | hclean
  · refine .inl fun t ht hlocate => ?_
    have hpath := Workspace.absolute_of_locate hw (Workspace.locate_absolute hw hq)
    have hkey : s.keyOf t = s.keyOf path := by
      rw [Session.keyOf, Session.keyOf, ← halike.cwdText, Workspace.absolute_of_locate hw hlocate, hpath,
        hroots t ht (hlocate.trans hq.symm)]
    rw [Session.kept?, hkey]
    exact hkept
  · exact .inr fun done hdone => g.structures_stay hw hnodes
      (hclean bytes nodes (Workspace.read_eq_ok_iff.2 ⟨q, hq, hbytes⟩) hnodes) hdone

variable (g)

/-- **One block** leaves every request type as the tree declares it. -/
theorem writeBlock_foreseen (hdry : g.settings.dryRun = false) (hw : w.Sound) (hq : w.locate path = .ok q)
    {a : Annotated} {as done : List Annotated} (h : g.Foreseen w s) (hguarded : g.Guarded w q bytes as s)
    (hdone : done ++ [a] <+: as)
    (hnow : s.workspace.entryAt q = some (.file (applyEdits bytes (done.map Annotated.edit))))
    (hle : a.handler.declaration.docStart.offset ≤ a.handler.declaration.start.offset)
    (hlen : a.handler.declaration.start.offset ≤ (applyEdits bytes (done.map Annotated.edit)).length)
    (haccept : g.accepts path a.handler = true) (hscalar : a.block.Scalar) (file : Option String) (r : FileResult) :
    (g.writeBlock path file a r s).1.raised = r.raised ∧ g.Foreseen w (g.writeBlock path file a r s).2 ∧
      g.Guarded w q bytes as (g.writeBlock path file a r s).2 ∧
      (g.writeBlock path file a r s).2.workspace.entryAt q =
        some (.file (applyEdits bytes ((done ++ [a]).map Annotated.edit))) := by
  have hq' : s.workspace.locate path = .ok q := h.alike.locate path ▸ hq
  have hturns := g.writeBlock_turns hq' file a r
  obtain ⟨hsources, hanswers⟩ := g.writeBlock_memory path file a r s
  obtain ⟨hrefused, -⟩ | ⟨-, -, hresult, hwrite⟩ | ⟨-, hnot, -⟩ := g.writeBlock_cases hdry hq' hnow file a r hle hlen
  · rw [haccept] at hrefused
    cases hrefused
  rotate_left
  · exact absurd hscalar hnot
  rw [← applyEdits_concat] at hwrite
  have hwritten := h.write hw hnow (applyEdits bytes ((done ++ [a]).map Annotated.edit)) fun t ht hlocate => by
    rcases hguarded with hkept | hstructures
    · exact .inl (hkept t ht hlocate)
    · exact .inr ((hstructures _ hdone).trans (hstructures _ ((List.prefix_append _ _).trans hdone)).symm)
  refine ⟨by rw [hresult], hwritten.congr hwrite hsources hanswers, hguarded.turns hturns (h.alike.sound hw), ?_⟩
  rw [hwrite]
  exact Workspace.entryAt_put_self hnow _

/-- **All blocks of a file** leave every request type as the tree declares it. -/
theorem writeBlocks_foreseen (hdry : g.settings.dryRun = false) (hw : w.Sound) (hq : w.locate path = .ok q)
    (done : List Annotated) {hs : List Handler} (h : g.Foreseen w s)
    (hguarded : g.Guarded w q bytes (done ++ hs.map (g.annotatedIn w)) s)
    (hnow : s.workspace.entryAt q = some (.file (applyEdits bytes (done.map Annotated.edit))))
    (hle : ∀ x ∈ hs, x.declaration.docStart.offset ≤ x.declaration.start.offset)
    (hlen : ∀ x ∈ hs, x.declaration.start.offset ≤ (applyEdits bytes (done.map Annotated.edit)).length)
    (horder : hs.Pairwise fun x y => y.declaration.start.offset ≤ x.declaration.docStart.offset)
    (htaken : ∀ x ∈ hs, g.Taken path x) (file : Option String) {r : FileResult} (hraised : r.raised = none) :
    g.Foreseen w (g.writeBlocks path file hs r s).2 := by
  induction hs generalizing r s done with
  | nil => exact h
  | cons x hs ih =>
    obtain ⟨hlex, hle⟩ := List.forall_mem_cons.1 hle
    obtain ⟨hlenx, hlen⟩ := List.forall_mem_cons.1 hlen
    obtain ⟨horderx, horder⟩ := List.pairwise_cons.1 horder
    obtain ⟨htakenx, htaken⟩ := List.forall_mem_cons.1 htaken
    obtain ⟨hblock, hforeseen⟩ := h.annotate file x
    rw [List.map_cons, List.append_cons] at hguarded
    have hguarded₁ := hguarded.turns (g.annotate_turns (q := q) file x s) (h.alike.sound hw)
    have hnow₁ := hnow
    rw [← g.annotate_workspace file x s] at hnow₁
    have hscalar := (g.annotate_scalar file x s).2 htakenx.2
    rw [hblock] at hscalar
    have hstep := g.writeBlock_foreseen hdry hw hq hforeseen hguarded₁ (List.prefix_append _ _) hnow₁ hlex hlenx
      htakenx.1 hscalar file r
    rw [← hblock] at hstep
    obtain ⟨hraised₂, hforeseen₂, hguarded₂, hnow₂⟩ := hstep
    replace hraised₂ := hraised₂.trans hraised
    rw [g.writeBlocks_next hs hraised₂]
    refine ih _ hforeseen₂ hguarded₂ hnow₂ hle (fun y hy => ?_) horder htaken hraised₂
    -- What was written lies behind the ranges that are still to be written.
    rw [hblock, applyEdits_concat]
    exact le_length_replaceRange (hlen y hy) (horderx y hy)

/-- What a file has become after the blocks of a result were written in it. -/
def Written (w w' : Workspace) (r : FileResult) : Prop :=
  ∃ source, w.read r.path = .ok source ∧ Ascending source.length 0 (r.annotated.reverse.map Annotated.edit) ∧
    w'.read r.path = .ok (replaceRanges source 0 (r.annotated.reverse.map Annotated.edit))

theorem Written.frame {w' w'' : Workspace} {r : FileResult} (h : Written w w' r)
    (hread : w''.read r.path = w'.read r.path) : Written w w'' r := by
  obtain ⟨source, hsource, hascending, hwritten⟩ := h
  exact ⟨source, hsource, hascending, hread.trans hwritten⟩

/-- A file that has been read is kept. -/
theorem kept?_collect (file : Option String) {found : Source} (h : (s.source file path).1 = .ok found) :
    ((collect file path s).2.kept? path).isSome = true := by
  obtain ⟨notes, hcollect⟩ := collect_session file path s
  have hkept : ((s.source file path).2.kept? path).isSome = true := by
    obtain ⟨_, hkept, hs⟩ | ⟨_, _, _, hs⟩ | ⟨found', n, hkept, _, hs⟩ := Session.source_cases file path s
    · rw [hs, hkept]
      rfl
    · rw [hs] at h
      cases h
    · rw [hs, Session.kept?_append, hkept]
      simp
  rw [hcollect]
  exact hkept

/-- **A file is handled as it was foretold.** -/
theorem processFile_foretold (hdry : g.settings.dryRun = false) (hw : w.Sound) (h : g.Foreseen w s)
    (hq : w.locate path = .ok q) (hbytes : w.entryAt q = some (.file bytes))
    (hnow : s.workspace.entryAt q = some (.file bytes)) (hcurrent : s.Current path)
    (htaken : PendingIn w g.Taken path) (hsteady : g.Steady w path) :
    (g.processFile path s).1 = g.foretold w path ∧ g.Foreseen w (g.processFile path s).2 ∧
      Written w (g.processFile path s).2.workspace (g.foretold w path) := by
  have hread : w.read path = .ok bytes := Workspace.read_eq_ok_iff.2 ⟨q, hq, hbytes⟩
  have hw' := h.alike.sound hw
  have hq' : s.workspace.locate path = .ok q := h.alike.locate path ▸ hq
  cases hnodes : nodes? bytes with
  | none =>
    obtain ⟨hresult, hforeseen, hworkspace⟩ := g.processFile_foretold_unparsable hw hq hbytes h hnow hcurrent hnodes
    refine ⟨hresult, hforeseen, ?_⟩
    rw [g.foretold_unparsable hw hq hbytes hnodes, hworkspace]
    exact ⟨bytes, hread, Nat.zero_le _, Workspace.read_eq_ok_iff.2 ⟨q, hq', hnow⟩⟩
  | some nodes =>
    replace htaken := htaken bytes nodes hread hnodes
    have hforeseen : g.Foreseen w (g.processFile path s).2 := by
      rw [g.processFile_parsed hw' hq' hnow hcurrent hnodes]
      obtain ⟨hle, hlen, horder⟩ := pending_ordered hnodes
      have hcollect := h.collect (some (PathText.base path)) path
      have hfound : (s.source (some (PathText.base path)) path).1 = .ok ⟨s.keyOf path, bytes, nodes⟩ := by
        rw [Session.source_eq_load hcurrent, load_key hw' hq' hnow, hnodes]
      have hguarded := hsteady.guarded hw hq hbytes hnodes hcollect.alike (kept?_collect _ hfound)
      refine g.writeBlocks_foreseen hdry hw hq [] hcollect hguarded ?_
        (fun x hx => hle x (List.mem_reverse.1 hx)) (fun x hx => hlen x (List.mem_reverse.1 hx))
        (List.pairwise_reverse.2 horder) (fun x hx => htaken x (List.mem_reverse.1 hx)) _ rfl
      rw [(collect_turns (q := q) (some (PathText.base path)) path s).2]
      exact hnow
    obtain ⟨as, why, has⟩ := g.processFile_handles hdry hw' hq' hnow hcurrent hnodes
    have hraised := (g.processFile_raised_iff hdry hw' (Workspace.read_eq_ok_iff.2 ⟨q, hq', hnow⟩) hcurrent hnodes).2
      fun x hx _ => (htaken x hx).2
    obtain ⟨rfl, hhandlers⟩ := has.complete g hraised
    have hedits := has.edits g hraised
    rw [List.filter_eq_self.2 fun x hx => (htaken x hx).1] at hhandlers hedits
    have hblocks : as = (pendingOf (Declaration.ofNodes nodes)).reverse.map (g.annotatedIn w) := by
      rw [← hhandlers, List.map_map]
      refine (List.map_id as).symm.trans (List.map_congr_left fun a ha => ?_)
      rw [id, Function.comp_apply, ← (hforeseen.annotate (some (PathText.base path)) a.handler).1, has.blocks a ha]
    have hascending : Ascending bytes.length 0 (as.reverse.map Annotated.edit) := by
      rw [hedits]
      refine g.blockEdits_ascending hnodes ?_
      rw [pendingOf_declarations]
      exact List.filter_sublist
    rw [g.foretold_parsed hw hq hbytes hnodes, ← hblocks, has.result]
    refine ⟨?_, hforeseen, bytes, hread, hascending, ?_⟩
    · rw [hblocks, List.length_map, List.length_reverse]
      rfl
    · rw [has.workspace, ← applyEdits_reverse hascending, ← List.map_reverse, List.reverse_reverse]
      exact Workspace.read_put hw' hnow hq' _

theorem foretold_path (w : Workspace) (path : String) : (g.foretold w path).path = path := by
  unfold foretold
  cases Source.load w (PathText.absolute w.cwdText path) with
  | error failure => rfl
  | ok source => rfl

theorem foretold_raised (w : Workspace) (path : String) : (g.foretold w path).raised = none := by
  unfold foretold
  cases Source.load w (PathText.absolute w.cwdText path) with
  | error failure => rfl
  | ok source => rfl

/-- **All files are handled as it was foretold.** -/
theorem processFiles_foretold (hdry : g.settings.dryRun = false) (hw : w.Sound) (h : g.Foreseen w s)
    (hapart : Apart s files) (hnow : ∀ f ∈ files, s.workspace.read f = w.read f)
    (htaken : ∀ f ∈ files, PendingIn w g.Taken f)
    (hsteady : ∀ f ∈ files, g.Steady w f) :
    (g.processFiles files s).1 = files.map (g.foretold w) ∧
      ∀ f ∈ files, Written w (g.processFiles files s).2.workspace (g.foretold w f) := by
  induction files generalizing s with
  | nil => exact ⟨rfl, by simp⟩
  | cons f files ih =>
    obtain ⟨⟨q, bytes, hq, hbytes⟩, -⟩ := List.forall_mem_cons.1 hapart.found
    obtain ⟨hcurrent, -⟩ := List.forall_mem_cons.1 hapart.current
    obtain ⟨hdistinct, -⟩ := List.pairwise_cons.1 hapart.distinct
    obtain ⟨hnowf, hnow⟩ := List.forall_mem_cons.1 hnow
    obtain ⟨htakenf, htaken⟩ := List.forall_mem_cons.1 htaken
    obtain ⟨hsteadyf, hsteady⟩ := List.forall_mem_cons.1 hsteady
    have hw' := h.alike.sound hw
    obtain ⟨q', hq', hbytes'⟩ := Workspace.read_eq_ok_iff.1 (hnowf.symm.trans (Workspace.read_eq_ok_iff.2 ⟨q, hq, hbytes⟩))
    obtain rfl : q = q' := Except.ok.inj (hq.symm.trans (h.alike.locate f ▸ hq'))
    obtain ⟨hresult, hforeseen, hwritten⟩ :=
      g.processFile_foretold hdry hw h hq' hbytes' hbytes hcurrent htakenf hsteadyf
    obtain ⟨hrest, hreads⟩ := hapart.rest g hw'
    obtain ⟨hresults, hwrittens⟩ := ih hforeseen hrest (fun f' hf' => (hreads f' hf').trans (hnow f' hf')) htaken hsteady
    obtain ⟨halike, hframe⟩ := g.processFiles_frame (hforeseen.alike.sound hw) hrest
    -- The files behind it lie elsewhere.
    have hstays : (g.processFile f s).2.workspace.read f =
        (g.processFiles files (g.processFile f s).2).2.workspace.read f := by
      refine halike.read_eq fun p hp => (hframe p fun f' hf' hp' => ?_).symm
      have hturns := (g.processFile_turns hw' hq).alike hw'
      rw [← hturns.locate] at hp hp'
      exact hdistinct f' hf' (hp.trans hp'.symm)
    have hrun : g.processFiles (f :: files) s = ((g.processFile f s).1 :: (g.processFiles files (g.processFile f s).2).1,
      (g.processFiles files (g.processFile f s).2).2) := rfl
    rw [hrun, List.map_cons, ← hresult, ← hresults]
    refine ⟨rfl, List.forall_mem_cons.2 ⟨hwritten.frame ?_, hwrittens⟩⟩
    rw [g.foretold_path, hstays]

/-! ## Runs -/

/-- A run over no files does nothing, and says so whether it is a rehearsal or not. -/
theorem run_nothing (h : ∀ files, Discovery.handlerFiles s.workspace g.settings.handlerDir g.settings.handlerPattern =
    .ok files → files = []) :
    ∃ failure, (g.run s).1 = .error failure ∧ g.rehearsal.run s = (.error failure, s) := by
  have hrehearsal : Discovery.handlerFiles s.workspace g.rehearsal.settings.handlerDir
      g.rehearsal.settings.handlerPattern =
        Discovery.handlerFiles s.workspace g.settings.handlerDir g.settings.handlerPattern := rfl
  unfold run
  rw [hrehearsal]
  cases hfiles : Discovery.handlerFiles s.workspace g.settings.handlerDir g.settings.handlerPattern with
  | error failure => exact ⟨failure, rfl, rfl⟩
  | ok files =>
    obtain rfl := h files hfiles
    exact ⟨_, rfl, rfl⟩

theorem rehearsal_foretold (w : Workspace) : g.rehearsal.foretold w = g.foretold w := by
  have hplanned : ∀ path found, g.rehearsal.planned w path found = g.planned w path found := by
    intro path found
    cases found <;> rfl
  funext path
  rw [foretold, foretold, hplanned]

theorem verdict_foretold (w : Workspace) (files : List String) :
    verdict (files.map (g.foretold w)) = .ok ⟨totalOf (files.map (g.foretold w)), files.map (g.foretold w)⟩ := by
  refine verdict_of_raised fun r hr => ?_
  obtain ⟨f, -, rfl⟩ := List.mem_map.1 hr
  exact g.foretold_raised w f

/-- What a rehearsal reports, and that it changes nothing. -/
theorem rehearsal_run (hw : w.Sound)
    (hfiles : Discovery.handlerFiles w g.settings.handlerDir g.settings.handlerPattern = .ok files)
    (hne : files ≠ []) :
    (g.rehearsal.run (.start w)).1 = .ok ⟨totalOf (files.map (g.foretold w)), files.map (g.foretold w)⟩ ∧
      (g.rehearsal.run (.start w)).2.workspace = w := by
  obtain ⟨notes, s', hrun, hworkspace⟩ := g.rehearsal.run_eq (s := .start w) hfiles hne
  obtain ⟨hresults, hsame⟩ := g.rehearsal.processFiles_announces rfl hw (Foreseen.start w notes) rfl
    (apart_start hw hfiles notes)
  rw [hrun, hresults, g.rehearsal_foretold, g.verdict_foretold]
  exact ⟨rfl, hworkspace.trans hsame⟩

/-- **A rehearsal foretells the run.** A rehearsal changes nothing. Where every block can be written and every
handler file says the same about types before and after it is written, the run itself comes to the same report,
with the same results, routes and blocks; the blocks that were announced are what it writes, each at the place of
its handler, and it writes nothing else. -/
theorem run_rehearsed (hdry : g.settings.dryRun = false) (hw : w.Sound) :
    (g.rehearsal.run (.start w)).2.workspace = w ∧
    (g.EveryPending w g.Taken →
      (∀ files, Discovery.handlerFiles w g.settings.handlerDir g.settings.handlerPattern = .ok files →
        ∀ f ∈ files, g.Steady w f) →
      (g.run (.start w)).1 = (g.rehearsal.run (.start w)).1 ∧
      ∀ report, (g.rehearsal.run (.start w)).1 = .ok report →
        (∀ r ∈ report.results, Written w (g.run (.start w)).2.workspace r) ∧
        ∀ p, (∀ r ∈ report.results, w.locate r.path ≠ .ok p) →
          (g.run (.start w)).2.workspace.entryAt p = w.entryAt p) := by
  by_cases hsome : ∃ files, Discovery.handlerFiles w g.settings.handlerDir g.settings.handlerPattern = .ok files ∧
      files ≠ []
  · obtain ⟨files, hfiles, hne⟩ := hsome
    obtain ⟨hreport, hsame⟩ := g.rehearsal_run hw hfiles hne
    refine ⟨hsame, fun htaken hsteady => ?_⟩
    obtain ⟨notes, s', hrun, hworkspace⟩ := g.run_eq (s := .start w) hfiles hne
    have hapart := apart_start hw hfiles notes
    obtain ⟨hresults, hwritten⟩ := g.processFiles_foretold hdry hw (Foreseen.start w notes) hapart (fun _ _ => rfl)
      (htaken files hfiles) (hsteady files hfiles)
    obtain ⟨-, hframe⟩ := g.processFiles_frame hw hapart
    have hrun' : g.run (.start w) =
        (.ok ⟨totalOf (files.map (g.foretold w)), files.map (g.foretold w)⟩, s') := by
      rw [hrun, hresults, g.verdict_foretold]
    rw [hrun', hreport]
    refine ⟨rfl, fun report hequal => ?_⟩
    obtain rfl := Except.ok.inj hequal
    refine ⟨fun r hr => ?_, fun p hp => ?_⟩
    · obtain ⟨f, hf, rfl⟩ := List.mem_map.1 hr
      rw [hworkspace]
      exact hwritten f hf
    · rw [hworkspace]
      refine hframe p fun f hf => ?_
      have hpath := hp _ (List.mem_map_of_mem hf)
      rwa [g.foretold_path] at hpath
  · have hnone : ∀ files, Discovery.handlerFiles w g.settings.handlerDir g.settings.handlerPattern = .ok files →
        files = [] := by
      intro files hfiles
      by_contra hne
      exact hsome ⟨files, hfiles, hne⟩
    obtain ⟨failure, hrun, hrehearsal⟩ := g.run_nothing (s := .start w) hnone
    rw [hrun, hrehearsal]
    exact ⟨rfl, fun _ _ => ⟨rfl, fun _ hreport => nomatch hreport⟩⟩

/-- Two handler files, of which the first declares the request type of the handler in the second. -/
def ownTypes : Workspace where
  entries := [(["h"], .directory),
    (["h", "a.go"], .file (Text.utf8 "type BReq struct \x7b\n\tN int `uri:\"n\"`\n\x7d\n\n" ++
      Text.utf8 "func (h *AHandler) A(c *g.Context) \x7b\x7d\n")),
    (["h", "b.go"], .file (Text.utf8 "func (h *BHandler) B(c *g.Context) \x7b\x7d\n"))]
  cwd := []

/-- A generator that looks for types in its handler files. -/
def ownTypesGenerator : Generator where
  settings := ⟨"h", "router.go", ["h/*.go"], "*.go", "BearerAuth", "/api", 1, false, "authorized", "public", false⟩
  routes := [("B", ⟨"/b/\x7bn\x7d", "get", "B", false⟩)]

theorem tree_ownTypes :
    ownTypes.Sound ∧ Discovery.handlerFiles ownTypes "h" "*.go" = .ok ["h/a.go", "h/b.go"] := by
  have hlocate : ownTypes.locate "h" = .ok ["h"] := by decide +kernel
  exact ⟨by decide +kernel,
    Workspace.handlerFiles_eq hlocate (by decide +kernel) (by decide +kernel) (by decide +kernel)⟩

theorem pending_ownTypes {f : String} (hf : f ∈ ["h/a.go", "h/b.go"]) :
    PendingIn ownTypes (fun _ x => ownTypesGenerator.CleanRoute x.name ∧ ownTypesGenerator.ScalarRoute x.name) f := by
  refine pendingIn_of_all ?_
  revert f
  rw [ownTypes, DocBlock.utf8_ofList, DocBlock.utf8_ofList, DocBlock.utf8_ofList]
  decide +kernel

theorem run_rehearsed_ownTypes :
    ∃ report, (ownTypesGenerator.rehearsal.run (.start ownTypes)).1 = .ok report ∧
      (ownTypesGenerator.run (.start ownTypes)).1 = .ok report ∧
      report.results.map FileResult.path = ["h/a.go", "h/b.go"] ∧
      ∀ r ∈ report.results, Written ownTypes (ownTypesGenerator.run (.start ownTypes)).2.workspace r := by
  obtain ⟨hw, hfiles⟩ := tree_ownTypes
  obtain ⟨hreport, -⟩ := ownTypesGenerator.rehearsal_run hw hfiles (by simp)
  obtain ⟨-, hrehearsed⟩ := ownTypesGenerator.run_rehearsed rfl hw
  have hpending : ownTypesGenerator.EveryPending ownTypes fun _ x =>
      ownTypesGenerator.CleanRoute x.name ∧ ownTypesGenerator.ScalarRoute x.name := by
    intro files hfiles' f hf
    obtain rfl := Except.ok.inj (hfiles.symm.trans hfiles')
    exact pending_ownTypes hf
  obtain ⟨hsame, hwritten⟩ := hrehearsed
    (fun files hfiles' f hf bytes nodes hread hnodes x hx =>
      ⟨rfl, (hpending files hfiles' f hf bytes nodes hread hnodes x hx).2⟩)
    fun files hfiles' f hf => .inr fun bytes nodes hread hnodes x hx =>
      (hpending files hfiles' f hf bytes nodes hread hnodes x hx).1
  refine ⟨_, hreport, hsame.trans hreport, ?_, (hwritten _ hreport).1⟩
  simp only [List.map_cons, List.map_nil, foretold_path]

/-! ## A file that is read again -/

/-- A file with two handlers that declares the request type of the first. -/
def rereadFile : List UInt8 :=
  Text.utf8 "type BReq struct \x7b\n\tN int `uri:\"n\"`\n\x7d\n\nfunc (h *AHandler) B(c *g.Context) \x7b\x7d\n\n" ++
    Text.utf8 "func (h *AHandler) A(c *g.Context) \x7b\x7d\n"

def rereadTree : Workspace where
  entries := [(["h"], .directory), (["h", "a.go"], .file rereadFile), (["t"], .directory),
    (["t", "t.go"], .file (Text.utf8 "type AReq struct \x7b\x7d\n"))]
  cwd := []

/-- A generator that goes to its handler file by two slashes and looks for types in it by one. The route of its
second handler has a line end in its path. -/
def rereader : Generator where
  settings :=
    ⟨"//h", "router.go", ["t/t.go", "/h/a.go"], "*.go", "BearerAuth", "", 1, false, "authorized", "public", false⟩
  routes := Route.parseRoutes Route.Groups.standard "api.GET(\"/a\n\x7d\", h.A)\napi.GET(\"/b/:n\", h.B)\n"

/-- The names that the handlers go by, the route of the second, and that the block of the first depends on what is
found of its request type. -/
theorem names_rereader :
    (DocBlock.requestName "A" = "types.AReq" ∧ DocBlock.requestName "B" = "types.BReq") ∧
      (typeNameOf "types.AReq" = some "AReq" ∧ typeNameOf "types.BReq" = some "BReq") ∧
      Route.resolve rereader.routes rereader.lead "A" = ⟨"/a\n\x7d", "get", "A", false⟩ ∧
      DocBlock.block "BearerAuth" [] "B" "AHandler" (Route.resolve rereader.routes "" "B") ≠
        DocBlock.block "BearerAuth" [("n", ⟨"n", "integer", false⟩)] "B" "AHandler"
          (Route.resolve rereader.routes "" "B") := by
  decide +kernel

/-- Where the paths lead. The handler file has one key under one slash and another under two. -/
theorem paths_rereadTree :
    let key := PathText.absolute rereadTree.cwdText
    (rereadTree.Sound ∧ rereadTree.locate "//h/a.go" = .ok ["h", "a.go"]) ∧
      (Glob.expand rereadTree "t/t.go" = ["t/t.go"] ∧ Glob.expand rereadTree "/h/a.go" = ["/h/a.go"]) ∧
      (rereadTree.locate (key "t/t.go") ≠ .ok ["h", "a.go"] ∧ rereadTree.locate (key "/h/a.go") = .ok ["h", "a.go"]) ∧
      key "t/t.go" ≠ key "/h/a.go" ∧ key "//h/a.go" ≠ key "/h/a.go" ∧
      rereadTree.locate "//h" = .ok ["h"] ∧
      ((rereadTree.below ["h"]).filter (Discovery.matchesFile "*.go")).map
        (fun x => Discovery.pathBelow "//h" x.1) = ["//h/a.go"] := by
  decide +kernel

theorem typeFiles_rereadTree : typeFiles rereadTree rereader.settings.typesPaths = ["t/t.go", "/h/a.go"] := by
  obtain ⟨-, hexpand, -⟩ := paths_rereadTree
  have hpaths : rereader.settings.typesPaths = ["t/t.go", "/h/a.go"] := rfl
  rw [typeFiles, hpaths, List.flatMap_cons, List.flatMap_singleton, Glob.expandSorted, Glob.expandSorted, hexpand.1,
    hexpand.2, Text.sortStrings, Text.sortStrings, List.mergeSort_singleton, List.mergeSort_singleton]
  rfl

/-- What the files declare. -/
theorem declared_rereadTree :
    (structureIn rereadTree "AReq" "t/t.go" = some [] ∧ structureIn rereadTree "BReq" "t/t.go" = none ∧
      structureIn rereadTree "BReq" "/h/a.go" = some [("n", ⟨"n", "integer", false⟩)]) ∧
    (nodes? rereadFile).map (fun nodes => (pendingOf (Declaration.ofNodes nodes)).map fun h =>
      (h.name, h.receiver, h.declaration.docStart.offset, h.declaration.start.offset)) =
        some [("B", "AHandler", 39, 39), ("A", "AHandler", 78, 78)] := by
  rw [rereadTree, rereadFile, DocBlock.utf8_ofList, DocBlock.utf8_ofList, DocBlock.utf8_ofList]
  decide +kernel

theorem answerIn_rereadTree : rereader.answerIn rereadTree "types.AReq" = [] ∧
    rereader.answerIn rereadTree "types.BReq" = [("n", ⟨"n", "integer", false⟩)] := by
  have hnames := names_rereader.2.1
  obtain ⟨hfirst, helsewhere, hsecond⟩ := declared_rereadTree.1
  unfold answerIn
  rw [hnames.1, hnames.2, typeFiles_rereadTree]
  constructor
  · dsimp only
    rw [List.findSome?_cons, hfirst, Option.getD_some]
  · dsimp only
    rw [List.findSome?_cons, helsewhere, List.findSome?_cons, hsecond, Option.getD_some]

theorem pending_rereadFile : ∃ nodes x y, nodes? rereadFile = some nodes ∧
    pendingOf (Declaration.ofNodes nodes) = [y, x] ∧
    (x.name = "A" ∧ x.receiver = "AHandler" ∧ x.declaration.docStart.offset = 78 ∧ x.declaration.start.offset = 78) ∧
    (y.name = "B" ∧ y.receiver = "AHandler" ∧ y.declaration.docStart.offset = 39 ∧ y.declaration.start.offset = 39) := by
  obtain ⟨nodes, hnodes, hpending⟩ := Option.map_eq_some_iff.1 declared_rereadTree.2
  obtain ⟨y, x, htwo⟩ : ∃ y x, pendingOf (Declaration.ofNodes nodes) = [y, x] := by
    rw [← List.length_eq_two]
    simpa using congrArg List.length hpending
  rw [htwo] at hpending
  simp only [List.map_cons, List.map_nil, List.cons.injEq, Prod.mk.injEq, and_true] at hpending
  exact ⟨nodes, x, y, hnodes, htwo, hpending.2, hpending.1⟩

/-- Looking for the first type, the generator does not come to its own file. -/
theorem rereader_first (hforeseen : rereader.Foreseen rereadTree s) (hworkspace : s.workspace = rereadTree)
    (hanswers : s.requestTypes = []) (hkept : s.kept? "/h/a.go" = none) (file : Option String) {x : Handler}
    (hx : x.name = "A") :
    (rereader.annotate file x s).2.kept? "/h/a.go" = none ∧
      ((rereader.annotate file x s).2.requestTypes.find? fun e => e.1 == "types.BReq") = none := by
  have hname : DocBlock.requestName x.name = "types.AReq" := by rw [hx]; exact names_rereader.1.1
  have htype := names_rereader.2.1.1
  have hstructure : s.structure? "AReq" "t/t.go" = some [] := by
    rw [hforeseen.structures _ (by rw [typeFiles_rereadTree]; simp)]
    exact declared_rereadTree.1.1
  have hsearch : s.search rereader.settings.typesPaths file "types.AReq" = ([], (s.source file "t/t.go").2) := by
    unfold Session.search
    simp only [htype, hworkspace, typeFiles_rereadTree, Session.searchFiles_first hstructure]
  have hsession : (rereader.annotate file x s).2 =
      { (s.source file "t/t.go").2 with requestTypes := [("types.AReq", [])] } := by
    have hread := Session.source_requestTypes file "t/t.go" s
    have hrequest : (rereader.annotate file x s).2 =
        (s.requestType rereader.settings.typesPaths file (DocBlock.requestName x.name)).2 := rfl
    rw [hrequest, hname, Session.requestType, hanswers]
    simp only [List.find?_nil, hsearch, hread, hanswers, List.nil_append]
  have hother : ([("types.AReq", [])] : List (String × RequestType)).find? (fun e => e.1 == "types.BReq") = none := by
    decide
  rw [hsession]
  refine ⟨?_, hother⟩
  rw [← hkept]
  refine Session.kept?_source_ne file ?_
  rw [Session.keyOf, Session.keyOf, hworkspace]
  exact paths_rereadTree.2.2.2.1

/-- Behind the block of its second handler, the file cannot be parsed. -/
def rereadBroken : List UInt8 :=
  replaceRange rereadFile 78 78
    (commentLines (DocBlock.commentTexts "BearerAuth" [] "A" "AHandler" ⟨"/a\n\x7d", "get", "A", false⟩))

theorem nodes?_rereadBroken : nodes? rereadBroken = none := by
  have hlines : DocBlock.lines "BearerAuth" [] "A" "AHandler" ⟨"/a\n\x7d", "get", "A", false⟩ =
      ["A godoc", "@Summary A", "@Description A", "@Tags a", "@Accept json", "@Produce json",
        "@Param req query types.AReq false \"req\"",
        "@Success 200 \x7bobject\x7d types.Response\x7bdata=types.AResp\x7d \"Success\"",
        "@Failure 400 \x7bobject\x7d types.Response \"Bad request\"",
        "@Failure 401 \x7bobject\x7d types.Response \"Unauthorized\"",
        "@Failure 500 \x7bobject\x7d types.Response \"Internal server error\"", "@Router /a\n\x7d [get]"].map
          CodeText.ofString := by
    decide +kernel
  rw [← Option.isNone_iff_eq_none, rereadBroken, rereadFile, DocBlock.commentTexts, hlines]
  simp only [List.map_cons, List.map_nil, CodeText.utf8_ofString]
  repeat rw [DocBlock.utf8_ofList]
  decide +kernel

/-- Looking for the second type, a session that has not kept the file by one slash finds nothing. -/
theorem rereader_second {s : Session} (hforeseen : rereader.Foreseen rereadTree s)
    (hworkspace : s.workspace = rereadTree) (hkept : s.kept? "/h/a.go" = none) :
    Session.answer { s with workspace := rereadTree.put ["h", "a.go"] (.file rereadBroken) }
      rereader.settings.typesPaths "types.BReq" = [] := by
  have hw : s.workspace.Sound := hworkspace ▸ paths_rereadTree.1.1
  have hbytes : s.workspace.entryAt ["h", "a.go"] = some (.file rereadFile) := hworkspace ▸ rfl
  have hkeys : s.workspace.locate (s.keyOf "t/t.go") ≠ .ok ["h", "a.go"] ∧
      s.workspace.locate (s.keyOf "/h/a.go") = .ok ["h", "a.go"] := by
    rw [Session.keyOf, Session.keyOf, hworkspace]
    exact paths_rereadTree.2.2.1
  have hname := names_rereader.2.1.2
  have hput := Workspace.alike_put hw hbytes rereadBroken
  have helsewhere := Session.structure?_put_ne hw hbytes rereadBroken hkeys.1 "BReq"
  have hhere := Session.structure?_put_self hw hbytes rereadBroken hkeys.2 hkept "BReq"
  rw [hforeseen.structures _ (by rw [typeFiles_rereadTree]; simp)] at helsewhere
  rw [nodes?_rereadBroken, Option.map_none, Option.bind_none] at hhere
  rw [hworkspace] at hput helsewhere hhere
  unfold Session.answer
  simp only [hname, ← hput.typeFiles, typeFiles_rereadTree, List.findSome?_cons, List.findSome?_nil, helsewhere,
    declared_rereadTree.1.2.1, hhere, Option.getD_none]

theorem edit_rereader {x : Handler} (hx : x.name = "A" ∧ x.receiver = "AHandler" ∧ x.declaration.docStart.offset = 78 ∧
    x.declaration.start.offset = 78) :
    replaceRange rereadFile (rereader.annotatedIn rereadTree x).edit.start (rereader.annotatedIn rereadTree x).edit.stop
      (rereader.annotatedIn rereadTree x).edit.block = rereadBroken := by
  obtain ⟨hname, hreceiver, hstart, hstop⟩ := hx
  simp only [Annotated.edit, Declaration.edit, annotatedIn, annotated, hname, hreceiver, hstart, hstop,
    names_rereader.1.1, names_rereader.2.2.1, answerIn_rereadTree.1, DocBlock.utf8_block]
  rfl

/-- Once the block of the second handler is written, that of the first says nothing of its request type. -/
theorem rereader_last {s : Session} {x y : Handler}
    (hx : x.name = "A" ∧ x.receiver = "AHandler" ∧ x.declaration.docStart.offset = 78 ∧ x.declaration.start.offset = 78)
    (hy : y.name = "B" ∧ y.receiver = "AHandler" ∧ y.declaration.docStart.offset = 39 ∧ y.declaration.start.offset = 39)
    (hforeseen : rereader.Foreseen rereadTree s) (hworkspace : s.workspace = rereadTree)
    (hkept : s.kept? "/h/a.go" = none) (hfind : (s.requestTypes.find? fun e => e.1 == "types.BReq") = none)
    (file : Option String) {r : FileResult} (hr : r.raised = none) :
    let written := rereader.writeBlock "//h/a.go" file (rereader.annotatedIn rereadTree x) r s
    written.1.raised = none ∧ ∃ b, (rereader.writeBlocks "//h/a.go" file [y] written.1 written.2).1.annotated =
        r.annotated ++ [rereader.annotatedIn rereadTree x, b] ∧
      b.block = DocBlock.block "BearerAuth" [] "B" "AHandler" (Route.resolve rereader.routes "" "B") := by
  intro written
  have hq : s.workspace.locate "//h/a.go" = .ok ["h", "a.go"] := hworkspace ▸ paths_rereadTree.1.2
  have hbytes : s.workspace.entryAt ["h", "a.go"] = some (.file rereadFile) := hworkspace ▸ rfl
  have hlength : 78 ≤ rereadFile.length := by
    rw [rereadFile, DocBlock.utf8_ofList, DocBlock.utf8_ofList]
    decide
  have hrequest := names_rereader.1.2
  have hstart : (rereader.annotatedIn rereadTree x).handler.declaration.docStart.offset = 78 := hx.2.2.1
  have hstop : (rereader.annotatedIn rereadTree x).handler.declaration.start.offset = 78 := hx.2.2.2
  have hscalar : rereader.ScalarRoute "A" ∧ rereader.ScalarRoute "B" := by decide +kernel
  obtain ⟨hrefused, -⟩ | ⟨-, -, hresult, hwrite⟩ | ⟨-, hnot, -⟩ := rereader.writeBlock_cases rfl hq hbytes file
    (rereader.annotatedIn rereadTree x) r (by rw [hstart, hstop]) (by rw [hstop]; exact hlength)
  · cases hrefused
  rotate_left
  · refine absurd ((rereader.scalar_annotatedIn rereadTree x).2 ?_) hnot
    rw [hx.1]
    exact hscalar.1
  obtain ⟨hsources, hanswers⟩ := rereader.writeBlock_memory "//h/a.go" file (rereader.annotatedIn rereadTree x) r s
  rw [edit_rereader hx, hworkspace] at hwrite
  change written.1 = _ at hresult
  change written.2.workspace = _ at hwrite
  change written.2.sources = _ at hsources
  change written.2.requestTypes = _ at hanswers
  rw [hworkspace] at hq hbytes
  have hput := Workspace.alike_put paths_rereadTree.1.1 hbytes rereadBroken
  have htype : (written.2.requestType rereader.settings.typesPaths file "types.BReq").1 = [] := by
    rw [Session.requestType, hanswers, hfind]
    dsimp only
    rw [(Session.search_structure rereader.settings.typesPaths file "types.BReq" written.2).1,
      ← rereader_second hforeseen hworkspace hkept]
    exact Session.answer_congr (s := { s with workspace := rereadTree.put ["h", "a.go"] (.file rereadBroken) }) hwrite
      hsources _ _
  have hsame := rereader.annotate_workspace file y written.2
  have hq₂ : (rereader.annotate file y written.2).2.workspace.locate "//h/a.go" = .ok ["h", "a.go"] := by
    rw [hsame, hwrite, ← hput.locate, hq]
  have hbytes₂ : (rereader.annotate file y written.2).2.workspace.entryAt ["h", "a.go"] = some (.file rereadBroken) := by
    rw [hsame, hwrite]
    exact Workspace.entryAt_put_self hbytes _
  have hbroken : 39 ≤ rereadBroken.length := by
    rw [rereadBroken, replaceRange, List.append_assoc, List.length_append, List.length_take]
    omega
  obtain ⟨hrefused, -⟩ | ⟨-, -, hlast, -⟩ | ⟨-, hnot, -⟩ := rereader.writeBlock_cases rfl hq₂ hbytes₂ file
    (rereader.annotate file y written.2).1 written.1 (by rw [annotate_handler, hy.2.2.1, hy.2.2.2])
    (by rw [annotate_handler, hy.2.2.2]; exact hbroken)
  · cases hrefused
  rotate_left
  · refine absurd ((rereader.annotate_scalar file y written.2).2 ?_) hnot
    rw [hy.1]
    exact hscalar.2
  have hraised : written.1.raised = none := by rw [hresult]; exact hr
  refine ⟨hraised, (rereader.annotate file y written.2).1, ?_, ?_⟩
  · rw [rereader.writeBlocks_next [] (by rw [hlast]; exact hraised), writeBlocks, hlast, hresult]
    simp
  · unfold annotate
    simp only [hy.1, hy.2.1, hrequest, htype]
    rfl

/-- The blocks that are written by a session that has read nothing. -/
theorem rereader_writes (hforeseen : rereader.Foreseen rereadTree s) (hworkspace : s.workspace = rereadTree)
    (hanswers : s.requestTypes = []) (hnone : ∀ path, s.kept? path = none) :
    ∃ a b, (rereader.processFile "//h/a.go" s).1.annotated = [a, b] ∧
      b.block = DocBlock.block "BearerAuth" [] "B" "AHandler" (Route.resolve rereader.routes "" "B") := by
  have hw : s.workspace.Sound := hworkspace ▸ paths_rereadTree.1.1
  have hq : s.workspace.locate "//h/a.go" = .ok ["h", "a.go"] := hworkspace ▸ paths_rereadTree.1.2
  have hbytes : s.workspace.entryAt ["h", "a.go"] = some (.file rereadFile) := by rw [hworkspace]; rfl
  have hkeys : s.keyOf "//h/a.go" ≠ s.keyOf "/h/a.go" := by
    rw [Session.keyOf, Session.keyOf, hworkspace]
    exact paths_rereadTree.2.2.2.2.1
  have hcurrent : s.Current "//h/a.go" := by
    intro found hkept
    rw [hnone] at hkept
    cases hkept
  obtain ⟨nodes, x, y, hnodes, hpending, hx, hy⟩ := pending_rereadFile
  rw [rereader.processFile_parsed hw hq hbytes hcurrent hnodes, hpending]
  generalize some (PathText.base "//h/a.go") = file
  have hcollected := hforeseen.collect file "//h/a.go"
  have hworkspace₁ := (collect_turns (q := []) file "//h/a.go" s).2.trans hworkspace
  obtain ⟨hkept, hfind⟩ := rereader_first hcollected hworkspace₁ ((collect_requestTypes file "//h/a.go" s).trans hanswers)
    ((kept?_collect_ne file hkeys).trans (hnone _)) file hx.1
  obtain ⟨hblock, hforeseen₁⟩ := hcollected.annotate file x
  obtain ⟨hraised, b, hresult, hb⟩ := rereader_last hx hy hforeseen₁
    ((rereader.annotate_workspace _ x _).trans hworkspace₁) hkept hfind file
    (r := ⟨"//h/a.go", countsOf (Declaration.ofNodes nodes), none, [], none⟩) rfl
  rw [← hblock] at hraised hresult
  rw [List.reverse_cons, List.reverse_singleton, List.singleton_append, rereader.writeBlocks_next [y] hraised, hresult]
  exact ⟨_, b, rfl, hb⟩

/-- Both blocks have bytes. -/
theorem rereader_unbroken (notes : List Note) :
    (rereader.processFile "//h/a.go" { Session.start rereadTree with notes }).1.raised = none := by
  obtain ⟨hw, hq⟩ := paths_rereadTree.1
  obtain ⟨nodes, x, y, hnodes, hpending, hx, hy⟩ := pending_rereadFile
  have hscalar : rereader.ScalarRoute "A" ∧ rereader.ScalarRoute "B" := by decide +kernel
  refine (rereader.processFile_raised_iff (s := { Session.start rereadTree with notes }) rfl hw
    (Workspace.read_eq_ok_iff.2 ⟨_, hq, rfl⟩) (fun _ hkept => nomatch hkept) hnodes).2 ?_
  rw [hpending]
  simpa [hx.1, hy.1] using ⟨fun _ => hscalar.2, fun _ => hscalar.1⟩

/-- The blocks that are announced. -/
theorem rereader_announces :
    ∃ a b, (rereader.foretold rereadTree "//h/a.go").annotated = [a, b] ∧
      b.block = DocBlock.block "BearerAuth" [("n", ⟨"n", "integer", false⟩)] "B" "AHandler"
        (Route.resolve rereader.routes "" "B") := by
  have hrequest := names_rereader.1.2
  obtain ⟨nodes, x, y, hnodes, hpending, -, hy⟩ := pending_rereadFile
  rw [rereader.foretold_parsed paths_rereadTree.1.1 paths_rereadTree.1.2 rfl hnodes, hpending]
  refine ⟨rereader.annotatedIn rereadTree x, rereader.annotatedIn rereadTree y, rfl, ?_⟩
  simp only [annotatedIn, annotated, hy.1, hy.2.1, hrequest, answerIn_rereadTree.2]
  rfl

/-- **A run unlike its rehearsal.** The storage takes every block, and yet the run writes another block than the
one that was announced: its first block has broken the file, which it reads again under another root. -/
theorem run_unlike_rehearsal :
    (∀ path x, rereader.accepts path x = true) ∧
      ∃ report report', (rereader.run (.start rereadTree)).1 = .ok report ∧
        (rereader.rehearsal.run (.start rereadTree)).1 = .ok report' ∧
        report.results.map (fun r => r.annotated.map Annotated.block) ≠
          report'.results.map (fun r => r.annotated.map Annotated.block) := by
  refine ⟨fun _ _ => rfl, ?_⟩
  obtain ⟨⟨hw, -⟩, -, -, -, -, hlocate, hbelow⟩ := paths_rereadTree
  have hfiles : Discovery.handlerFiles rereadTree "//h" "*.go" = .ok ["//h/a.go"] :=
    Workspace.handlerFiles_eq hlocate rfl hbelow (List.pairwise_singleton _ _)
  obtain ⟨notes, s', hrun, -⟩ := rereader.run_singleton (s := .start rereadTree) hfiles rereader_unbroken
  obtain ⟨hreport, -⟩ := rereader.rehearsal_run hw hfiles (by simp)
  refine ⟨_, _, congrArg Prod.fst hrun, hreport, fun heq => ?_⟩
  obtain ⟨a, b, hwritten, hb⟩ := rereader_writes (Foreseen.start rereadTree notes) rfl rfl fun _ => rfl
  obtain ⟨a', b', hannounced, hb'⟩ := rereader_announces
  simp only [List.map_cons, List.map_nil, hwritten, hannounced, hb, hb', List.cons.injEq, and_true] at heq
  exact names_rereader.2.2.2 heq.2

end Generator

end RouteDoc
