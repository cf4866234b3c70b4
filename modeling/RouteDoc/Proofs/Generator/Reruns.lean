/-
A second run.

Where every block was written and stays on its lines, a run leaves each file either
unparsable or without a handler to be documented (`Settled`): the functions that
waited for a doc block are exactly those that have one now (`countsOf_settled`). A run
over settled files has nothing to write, so it changes nothing and says what the first
one has done (`run_twice`). It does not matter how the tasks of the two runs take turns
(`RunsTo`), nor which files they look for types in. A line end in a method hides the
marker of a block, and then a second run writes again (`run_twice_rewrites`).
-/
import RouteDoc.Proofs.Generator.Progress
import RouteDoc.Proofs.Generator.Rehearsals

namespace RouteDoc

open Go

/-! ## Documented functions -/

namespace Go

variable {ds xs es : List Declaration}

theorem Documents.sublist (h : Documents ds xs es) : xs.Sublist ds := by
  induction h with
  | nil => exact .slnil
  | keep _ _ ih => exact ih.cons _
  | edit _ _ _ ih => exact ih.cons_cons _

end Go

namespace Generator

variable {ds es : List Declaration}

theorem isHandler_eq {d e : Declaration} (h : d.function = e.function) : isHandler d = isHandler e :=
  congrArg (fun p => p.2.2) (profile_eq h)

/-- Where all functions that wait for a doc block get one, none is left waiting. -/
theorem none_pending {xs : List Declaration} (h : Documents ds xs es) (hxs : xs = ds.filter isPending) :
    es.filter isPending = [] := by
  induction h with
  | nil => rfl
  | @keep d e ds xs es hde hrest ih =>
    rw [List.filter_cons] at hxs
    split at hxs
    · -- The functions that get a block would be more than those that wait for one.
      exfalso
      have hall : xs.filter isPending = xs := by
        rw [List.filter_eq_self, hxs]
        rintro x hx
        rcases List.mem_cons.1 hx with rfl | hx
        · assumption
        · exact List.of_mem_filter hx
      have hlength := (hrest.sublist.filter isPending).length_le
      rw [hall, hxs, List.length_cons] at hlength
      omega
    · rename_i hd
      have he : isPending e = isPending d := by
        rw [isPending, isPending, isHandler_eq hde.function, hde.documented]
      rw [List.filter_cons_of_neg (by rw [he]; exact hd)]
      exact ih hxs
  | @edit d e ds xs es hfunction hdoc hrest ih =>
    rw [List.filter_cons_of_neg (by simp [isPending, hdoc])]
    rw [List.filter_cons] at hxs
    split at hxs
    · exact ih (List.cons.inj hxs).2
    · rename_i hd
      have hmem : d ∈ ds.filter isPending := hxs ▸ List.mem_cons_self
      exact absurd (List.of_mem_filter hmem) hd

theorem handlers_length (ds : List Declaration) :
    (ds.filterMap Handler.of?).length = ((ds.map isHandler).filter id).length := by
  rw [handlers_eq, List.length_map, List.filter_map, List.length_map, Function.id_comp]

/-- The counts of functions of which none waits for a doc block. -/
theorem countsOf_settled (h : Documents ds (ds.filter isPending) es) :
    pendingOf es = [] ∧ countsOf es =
      { total := (countsOf ds).total, handlers := (countsOf ds).handlers,
        alreadyDocumented := (countsOf ds).handlers } := by
  have hpending : pendingOf es = [] := by rw [pendingOf_eq, none_pending h rfl]; rfl
  have htotal : es.length = ds.length := by
    simpa using congrArg List.length (h.map_eq (f := Declaration.function) fun _ _ h => h).symm
  have hhandlers : (es.filterMap Handler.of?).length = (ds.filterMap Handler.of?).length := by
    rw [handlers_length, handlers_length, h.map_eq fun _ _ => isHandler_eq]
  have halready : (es.filterMap Handler.of?).filter (·.documented) = es.filterMap Handler.of? := by
    rw [List.filter_eq_self]
    intro x hx
    have hnot := List.filter_eq_nil_iff.1 hpending x hx
    simpa using hnot
  refine ⟨hpending, ?_⟩
  unfold countsOf
  simp only [htotal, hhandlers, halready]

/-! ## Settled files -/

/-- A file as a run leaves it: it cannot be parsed, or no handler in it is left to be documented. -/
inductive Settled (w : Workspace) (path : String) (r : FileResult) : Prop where
  | unparsable {q : Place} {bytes : List UInt8} : w.locate path = .ok q → w.entryAt q = some (.file bytes) →
      nodes? bytes = none → r.path = path → r.ok = false → Settled w path r
  | documented {q : Place} {bytes : List UInt8} {nodes : List Node} : w.locate path = .ok q →
      w.entryAt q = some (.file bytes) → nodes? bytes = some nodes → pendingOf (Declaration.ofNodes nodes) = [] →
      r.path = path → r.ok = true →
      countsOf (Declaration.ofNodes nodes) =
        { total := r.counts.total, handlers := r.counts.handlers, alreadyDocumented := r.counts.handlers } →
      Settled w path r

/-- What a second run says of a file, after what the first one said. -/
structure Repeats (r r' : FileResult) : Prop where
  path : r'.path = r.path
  ok : r'.ok = r.ok
  counts : r.ok = true →
    r'.counts = ⟨r.counts.total, r.counts.handlers, r.counts.handlers, 0⟩

variable (g : Generator) {w : Workspace} {files : List String} {path : String} {q : Place} {bytes : List UInt8}
  {nodes : List Node} {s : Session} {r r' : FileResult} {rs : List FileResult}

/-- The blocks of a handler that can be written, and that stay on their lines. -/
def Writable (path : String) (h : Handler) : Prop := g.accepts path h = true ∧ g.CleanRoute h.name

variable {g}

/-- **A file that has ended is settled**, where every block could be written. -/
theorem Ended.settled (h : g.Ended path q bytes nodes s r) (hdry : g.settings.dryRun = false)
    (hraised : r.raised = none) (hq : s.workspace.locate path = .ok q) (hnodes : nodes? bytes = some nodes)
    (hpending : ∀ x ∈ pendingOf (Declaration.ofNodes nodes), g.Writable path x) : Settled s.workspace path r := by
  obtain ⟨hp, hhandlers⟩ := h.complete hraised
  have hall : (pendingOf (Declaration.ofNodes nodes)).filter (g.takes path) = pendingOf (Declaration.ofNodes nodes) :=
    List.filter_eq_self.2 fun x hx => by rw [takes, (hpending x hx).1, Bool.or_true]
  rw [hall] at hhandlers
  have hdocs : ∀ a ∈ r.annotated, ∃ lines, a.edit = a.handler.declaration.edit (commentLines lines) ∧ DocLines lines := by
    intro a ha
    have hmem : a.handler ∈ pendingOf (Declaration.ofNodes nodes) := by
      rw [← List.mem_reverse, ← hhandlers]
      exact List.mem_map_of_mem ha
    exact (hp.drawn a ha).documents hnodes hmem (hpending _ hmem).2
  obtain ⟨-, nodes', hrewritten⟩ := exists_rewritten_pending hnodes hdocs (hhandlers ▸ .refl _)
  have hentry := hp.entry
  rw [hdry, if_neg (by simp)] at hentry
  have hdocuments := hrewritten.documents
  rw [← List.map_reverse] at hdocuments
  have hdeclarations : r.annotated.reverse.map (fun a => a.handler.declaration) =
      (Declaration.ofNodes nodes).filter isPending := by
    have hreverse := congrArg List.reverse hhandlers
    rw [List.reverse_reverse, ← List.map_reverse] at hreverse
    rw [← pendingOf_declarations, ← hreverse, List.map_map]
    rfl
  rw [hdeclarations] at hdocuments
  obtain ⟨hnone, hcounts⟩ := countsOf_settled hdocuments
  refine .documented hq hentry hrewritten.parses hnone ?_ ?_ ?_
  · rw [hp.result]
  · rw [hp.result]
    rfl
  · rw [hcounts, hp.result]

/-- What is said of a settled file: what was said before, and nothing is new. -/
theorem Settled.repeats (h : Settled w path r) (hreported : Reported w path r')
    (hended : ∀ q bytes nodes, w.locate path = .ok q → w.entryAt q = some (.file bytes) → nodes? bytes = some nodes →
      g.Ended path q bytes nodes s r') : Repeats r r' := by
  cases h with
  | @unparsable q bytes hq hbytes hnodes hpath hok =>
    have hload : Source.load w path = .error (.unparsable path "syntax error") := by rw [load_found hq hbytes, hnodes]
    exact ⟨hreported.path.trans hpath.symm, (hreported.not_ok hload).trans hok.symm, fun h => by rw [hok] at h; cases h⟩
  | @documented q bytes nodes hq hbytes hnodes hpending hpath hok hcounts =>
    cases hended q bytes nodes hq hbytes hnodes with
    | whole hp =>
      obtain ⟨front, hsplit, -, hhandlers⟩ := hp.behind
      rw [hpending, List.append_nil] at hsplit
      obtain rfl : front = [] := hsplit.symm
      have hnone : r'.annotated = [] := List.map_eq_nil_iff.1 hhandlers
      have hresult := hp.result
      rw [hnone, hcounts] at hresult
      rw [hresult]
      exact ⟨hpath.symm, hok.symm, fun _ => rfl⟩
    | broken hp _ _ =>
      obtain ⟨front, hsplit, -⟩ := hp.behind
      rw [hpending] at hsplit
      simp at hsplit

theorem Settled.pending (h : Settled w path r) : pendingAt w path = [] := by
  unfold pendingAt
  cases h with
  | unparsable hq hbytes hnodes => rw [load_found hq hbytes, hnodes]
  | documented hq hbytes hnodes hpending =>
    rw [load_found hq hbytes, hnodes]
    exact hpending

theorem settled_pending (h : List.Forall₂ (Settled w) files rs) : ∀ f ∈ files, pendingAt w f = [] := by
  induction h with
  | nil => simp
  | cons hf _ ih => exact List.forall_mem_cons.2 ⟨hf.pending, ih⟩

theorem forall₂_repeats {rs' : List FileResult} (h : List.Forall₂ (Settled w) files rs)
    (h' : List.Forall₂ (fun f r' => ∀ r, Settled w f r → Repeats r r') files rs') : List.Forall₂ Repeats rs rs' := by
  induction h generalizing rs' with
  | nil =>
    cases h'
    exact .nil
  | cons hf _ ih =>
    cases h' with
    | cons hf' h' => exact .cons (hf' _ hf) (ih h')

end Generator

/-! ## Every schedule -/

namespace Pool

variable {g : Generator} {w : Workspace} {files : List String} {p : Pool} {rs : List FileResult}

/-- **A run settles its files**, whatever the schedule. -/
theorem Advance.settles (h : p.Advance g w files) (hdry : g.settings.dryRun = false)
    (hfound : ∀ f ∈ files, ∃ q bytes, w.locate f = .ok q ∧ w.entryAt q = some (.file bytes)) (hdone : p.Finished)
    (hraised : ∀ r ∈ p.results, r.raised = none) (hpending : ∀ f ∈ files, Generator.PendingIn w g.Writable f) :
    List.Forall₂ (Generator.Settled p.session.workspace) files p.results := by
  refine forall₂_results h.course.paths fun x hx => ?_
  obtain ⟨r, hr⟩ := Option.isSome_iff_exists.1 (hdone x hx)
  refine ⟨r, hr, ?_⟩
  have hmem : x.1 ∈ files := h.course.paths ▸ List.mem_map_of_mem hx
  obtain ⟨q, bytes, hq, hbytes⟩ := hfound x.1 hmem
  have hq' : p.session.workspace.locate x.1 = .ok q := h.course.alike.locate x.1 ▸ hq
  have hreported := h.course.reported hx hr
  cases hnodes : nodes? bytes with
  | none =>
    have hsame : p.session.workspace.entryAt q = w.entryAt q := by
      by_contra hchange
      obtain ⟨-, f, -, hqf, source, hload, -⟩ := h.course.changes q hchange
      rw [Generator.load_found hqf hbytes, hnodes] at hload
      cases hload
    have hload : Source.load w x.1 = .error (.unparsable x.1 "syntax error") := by
      rw [Generator.load_found hq hbytes, hnodes]
    exact .unparsable hq' (hsame.trans hbytes) hnodes hreported.path (hreported.not_ok hload)
  | some nodes =>
    have hnone := hraised r (List.mem_filterMap.2 ⟨x, hx, hr⟩)
    exact (h.ended hx hr hq hbytes hnodes).settled hdry hnone hq' hnodes
      (hpending x.1 hmem bytes nodes (Workspace.read_eq_ok_iff.2 ⟨q, hq, hbytes⟩) hnodes)

/-- **Settled files stay as they are**, whatever the schedule. -/
theorem Advance.repeats (h : p.Advance g w files) (hw : w.Sound) (hdone : p.Finished)
    (hfound : ∀ f ∈ files, ∃ q bytes, w.locate f = .ok q ∧ w.entryAt q = some (.file bytes))
    (hsettled : List.Forall₂ (Generator.Settled w) files rs) :
    Generator.verdict p.results = .ok ⟨Generator.totalOf p.results, p.results⟩ ∧ p.session.workspace = w ∧
      List.Forall₂ Generator.Repeats rs p.results := by
  have hpending := Generator.settled_pending hsettled
  refine ⟨?_, ?_, ?_⟩
  · obtain ⟨⟨f, hf, x, hx, -⟩, -⟩ | ⟨-, hverdict⟩ := h.verdict hfound hdone
    · rw [hpending f hf] at hx
      cases hx
    · exact hverdict
  · refine (h.course.alike.eq_of_entryAt hw fun q => ?_).symm
    by_contra hchange
    obtain ⟨-, f, hf, -, source, hload, hsome⟩ := h.course.changes q (Ne.symm hchange)
    have hnone := hpending f hf
    rw [Generator.pendingAt, hload] at hnone
    exact hsome hnone
  · refine Generator.forall₂_repeats hsettled (forall₂_results h.course.paths fun x hx => ?_)
    obtain ⟨r', hr'⟩ := Option.isSome_iff_exists.1 (hdone x hx)
    exact ⟨r', hr', fun r hr => hr.repeats (h.course.reported hx hr') fun q bytes nodes hq hbytes hnodes =>
      h.ended hx hr' hq hbytes hnodes⟩

end Pool

namespace Generator

variable (g : Generator) {w : Workspace} {files : List String} {s s' : Session} {report : Report}

/-! ## Runs -/

/-- What a run can come to where the handler files are handled side by side, in some order of turns. -/
inductive RunsTo (s : Session) : Except Failure Report × Session → Prop where
  | failed {failure : Failure} :
      Discovery.handlerFiles s.workspace g.settings.handlerDir g.settings.handlerPattern = .error failure →
      RunsTo s (.error failure, s)
  | empty : Discovery.handlerFiles s.workspace g.settings.handlerDir g.settings.handlerPattern = .ok [] →
      RunsTo s (.error (.noHandlers g.settings.handlerDir g.settings.handlerPattern), s)
  | handled {files : List String} {schedule : List Nat} {p : Pool} :
      Discovery.handlerFiles s.workspace g.settings.handlerDir g.settings.handlerPattern = .ok files → files ≠ [] →
      (Pool.start files (g.opened files.length s)).run g schedule = p → p.Finished →
      RunsTo s (g.conclude p.results p.session)

/-- One file after the other is one of the ways to run. -/
theorem run_runsTo (s : Session) : g.RunsTo s (g.run s) := by
  cases hfiles : Discovery.handlerFiles s.workspace g.settings.handlerDir g.settings.handlerPattern with
  | error failure =>
    unfold run
    simp only [hfiles]
    exact .failed hfiles
  | ok files =>
    cases files with
    | nil =>
      unfold run
      simp only [hfiles]
      exact .empty hfiles
    | cons f files =>
      obtain ⟨schedule, hdone, hresults, hsession⟩ :=
        Pool.run_sequential (g := g) (f :: files) (g.opened (f :: files).length s)
      have hruns : g.RunsTo s _ := .handled hfiles (by simp) rfl hdone
      rw [hresults, hsession] at hruns
      unfold run
      simp only [hfiles]
      exact hruns

/-- A note at the start makes no difference. -/
theorem opened_start (hw : w.Sound)
    (hfiles : Discovery.handlerFiles w g.settings.handlerDir g.settings.handlerPattern = .ok files) (n : Nat) :
    (g.opened n (.start w)).workspace = w ∧ Apart (g.opened n (.start w)) files ∧ (g.opened n (.start w)).Reflects := by
  obtain ⟨notes, hopened⟩ := g.opened_eq n (.start w)
  rw [hopened]
  exact ⟨rfl, apart_start hw hfiles notes, fun _ he => nomatch he⟩

/-- Tasks for handler files, with notes before and behind them. -/
theorem RunsTo.handled_of_files {out : Except Failure Report × Session} (h : g.RunsTo (.start w) out) (hw : w.Sound)
    (hfiles : Discovery.handlerFiles w g.settings.handlerDir g.settings.handlerPattern = .ok files)
    (hne : files ≠ []) :
    ∃ p : Pool, p.Advance g w files ∧ p.Finished ∧ out.1 = verdict p.results ∧
      out.2.workspace = p.session.workspace := by
  cases h with
  | failed hnone => cases hnone.symm.trans hfiles
  | empty hnone => exact absurd (Except.ok.inj (hfiles.symm.trans hnone)) hne
  | @handled files' schedule p hfiles' _ hrun hdone =>
    obtain rfl := Except.ok.inj (hfiles.symm.trans hfiles')
    obtain ⟨hsame, hapart, hreflects⟩ := g.opened_start hw hfiles files.length
    have hadvance := (Pool.advance_start (g := g) hapart hreflects).run (by rw [hsame]; exact hw) hapart schedule
    rw [hsame, hrun] at hadvance
    obtain ⟨hverdict, hworkspace⟩ := g.conclude_eq p.results p.session
    exact ⟨p, hadvance, hdone, hverdict, hworkspace⟩

/-- A run that ends with a report has gone over handler files. -/
theorem RunsTo.exists_files {out : Except Failure Report × Session} (h : g.RunsTo s out) (hok : out.1 = .ok report) :
    ∃ files, Discovery.handlerFiles s.workspace g.settings.handlerDir g.settings.handlerPattern = .ok files ∧
      files ≠ [] := by
  cases h with
  | failed hnone => cases hok
  | empty hnone => cases hok
  | handled hfiles hne _ _ => exact ⟨_, hfiles, hne⟩

/-- **A second run changes nothing.** After a run in which every block was written and stays on its lines, a run of
any generator over the same directory and names leaves every file as it is, and says of each file that could be parsed
that all its handlers are documented. Both runs may handle their files side by side: all that matters is that every
task gets enough turns. -/
theorem run_twice (hdry : g.settings.dryRun = false) (hw : w.Sound) (hrun : g.RunsTo (.start w) (.ok report, s'))
    (hpending : g.EveryPending w g.Writable) (g' : Generator)
    (hdir : g'.settings.handlerDir = g.settings.handlerDir)
    (hpattern : g'.settings.handlerPattern = g.settings.handlerPattern) :
    (∃ files n, Discovery.handlerFiles s'.workspace g'.settings.handlerDir g'.settings.handlerPattern = .ok files ∧
      ∀ schedule : List Nat, (∀ i < files.length, n ≤ schedule.count i) →
        ((Pool.start files (g'.opened files.length (.start s'.workspace))).run g' schedule).Finished) ∧
    ∀ out, g'.RunsTo (.start s'.workspace) out → ∃ report', out.1 = .ok report' ∧ out.2.workspace = s'.workspace ∧
      List.Forall₂ Repeats report.results report'.results := by
  obtain ⟨files, hfiles, hne⟩ := hrun.exists_files g rfl
  obtain ⟨p, hadvance, hdone, hreport, hworkspace⟩ := hrun.handled_of_files g hw hfiles hne
  obtain ⟨hraised, rfl⟩ := verdict_eq_ok_iff.1 hreport.symm
  dsimp only at hworkspace
  have hfound := (Workspace.handlerFiles_files hw hfiles).1
  have hsettled := hadvance.settles hdry hfound hdone hraised (hpending files hfiles)
  have halike := hadvance.course.alike
  rw [← hworkspace] at hsettled halike
  have hw' := halike.sound hw
  have hfiles' : Discovery.handlerFiles s'.workspace g'.settings.handlerDir g'.settings.handlerPattern = .ok files := by
    rw [hdir, hpattern, ← halike.handlerFiles]
    exact hfiles
  constructor
  · obtain ⟨hsame, hapart, -⟩ := g'.opened_start hw' hfiles' files.length
    obtain ⟨n, hends⟩ := Pool.run_finishes g' (by rw [hsame]; exact hw') hapart
    exact ⟨files, n, hfiles', hends⟩
  · intro out hrun'
    obtain ⟨p', hadvance', hdone', hreport', hworkspace'⟩ := hrun'.handled_of_files g' hw' hfiles' hne
    obtain ⟨hverdict, hsame, hrepeats⟩ :=
      hadvance'.repeats hw' hdone' (Workspace.handlerFiles_files hw' hfiles').1 hsettled
    exact ⟨_, hreport'.trans hverdict, hworkspace'.trans hsame, hrepeats⟩

/-- The two files that declare types are handled turn by turn, and then again in any way. -/
theorem run_twice_ownTypes :
    ∃ n p report s', (Pool.start ["h/a.go", "h/b.go"] (.start ownTypes)).run ownTypesGenerator
          (List.replicate n [0, 1]).flatten = p ∧ p.Finished ∧
      ownTypesGenerator.conclude p.results p.session = (.ok report, s') ∧
        ∀ out, ownTypesGenerator.RunsTo (.start s'.workspace) out → ∃ report', out.1 = .ok report' ∧
          out.2.workspace = s'.workspace ∧ List.Forall₂ Repeats report.results report'.results := by
  obtain ⟨hw, hfiles⟩ := tree_ownTypes
  -- Nothing is said at the start of this run.
  have hopened : ownTypesGenerator.opened 2 (.start ownTypes) = .start ownTypes := rfl
  obtain ⟨-, hapart, hreflects⟩ := ownTypesGenerator.opened_start hw hfiles 2
  rw [hopened] at hapart hreflects
  obtain ⟨n, hends⟩ := Pool.run_finishes ownTypesGenerator hw hapart
  obtain ⟨p, hp⟩ : ∃ p, (Pool.start ["h/a.go", "h/b.go"] (.start ownTypes)).run ownTypesGenerator
      (List.replicate n [0, 1]).flatten = p := ⟨_, rfl⟩
  have hdone : p.Finished := by
    rw [← hp]
    refine hends _ fun i hi => ?_
    obtain rfl | rfl : i = 0 ∨ i = 1 := by
      simp only [List.length_cons, List.length_nil] at hi
      omega
    · simp [List.count_flatten]
    · simp [List.count_flatten]
  have hadvance := (Pool.advance_start (g := ownTypesGenerator) hapart hreflects).run hw hapart
    (List.replicate n [0, 1]).flatten
  rw [hp] at hadvance
  have hwhole : ¬ownTypesGenerator.BreaksOff ownTypes ["h/a.go", "h/b.go"] :=
    not_breaksOff fun f hf bytes nodes hread hnodes x hx => (pending_ownTypes hf bytes nodes hread hnodes x hx).2
  obtain ⟨hbreaks, -⟩ | ⟨-, hverdict⟩ := hadvance.verdict hapart.found hdone
  · exact absurd hbreaks hwhole
  have hconclude : ownTypesGenerator.conclude p.results p.session = (.ok ⟨totalOf p.results, p.results⟩, _) :=
    Prod.ext ((ownTypesGenerator.conclude_eq p.results p.session).1.trans hverdict) rfl
  have hrun : ownTypesGenerator.RunsTo (.start ownTypes) _ := .handled hfiles (by simp) hp hdone
  have hpending : ownTypesGenerator.EveryPending ownTypes ownTypesGenerator.Writable := by
    intro files hfiles' f hf bytes nodes hread hnodes x hx
    obtain rfl := Except.ok.inj (hfiles.symm.trans hfiles')
    exact ⟨rfl, (pending_ownTypes hf bytes nodes hread hnodes x hx).1⟩
  refine ⟨n, p, _, _, hp, hdone, hconclude, ?_⟩
  exact (ownTypesGenerator.run_twice rfl hw (hconclude ▸ hrun) hpending ownTypesGenerator rfl rfl).2

/-! ## A line end in a method -/

/-- A method with an empty line and the start of a comment in it. -/
def splitGenerator : Generator :=
  { plainGenerator with routes := [("A", ⟨"/a", "get\n\n//", "A", false⟩)] }

/-- A file with one handler, with its doc block from `start` to `stop` replaced. -/
def splitFile (source : List UInt8) (start stop : Nat) : List UInt8 :=
  replaceRange source start stop (commentLines (DocBlock.commentTexts splitGenerator.scheme [] "A" "AHandler"
    (Route.resolve splitGenerator.routes splitGenerator.lead "A")))

theorem run_splitGenerator {source : List UInt8} {start stop : Nat}
    (hpending : (nodes? source).map (fun nodes => (pendingOf (Declaration.ofNodes nodes)).map fun h =>
      (h.name, h.receiver, h.declaration.docStart.offset, h.declaration.start.offset)) =
        some [("A", "AHandler", start, stop)]) :
    ∃ report s', splitGenerator.run (.start (oneFile source)) = (.ok report, s') ∧
      s'.workspace = oneFile (splitFile source start stop) := by
  have hone : ∀ notes,
      (splitGenerator.processFile "./a.go" { Session.start (oneFile source) with notes }).1.raised = none ∧
      (splitGenerator.processFile "./a.go" { Session.start (oneFile source) with notes }).2.workspace =
        oneFile (splitFile source start stop) := by
    intro notes
    obtain ⟨hraised, hworkspace⟩ := splitGenerator.processFile_one (s := { Session.start (oneFile source) with notes })
      rfl (oneFile_sound source) (locate_oneFile source) rfl (fun found hkept => by cases hkept) hpending
      (fun _ => rfl) (by decide +kernel) (by decide +kernel)
    exact ⟨hraised, hworkspace.trans (put_oneFile source _)⟩
  obtain ⟨notes, s', hrun, hworkspace⟩ :=
    splitGenerator.run_singleton (handlerFiles_oneFile source) fun notes => (hone notes).1
  exact ⟨_, s', hrun, hworkspace.trans (hone notes).2⟩

/-- **With a line end in a method a second run writes again**: the path and the scheme stay on their
lines, every block is written, and yet the second run of the same generator changes the file. -/
theorem run_twice_rewrites :
    (Route.resolve splitGenerator.routes splitGenerator.lead "A").path.OneLine ∧ splitGenerator.scheme.OneLine ∧
      ∃ report s', splitGenerator.run (.start (oneFile oneHandler)) = (.ok report, s') ∧
        ∃ report' s'', splitGenerator.run (.start s'.workspace) = (.ok report', s'') ∧
          s''.workspace ≠ s'.workspace := by
  have hroute : Route.resolve splitGenerator.routes splitGenerator.lead "A" =
      ⟨"/api/a", "get\n\n//", "A", false⟩ := by decide +kernel
  have hlines := lines_oddMethod "/api/a" "get\n\n//" (by decide +kernel) (by decide)
  have hsplit : ∀ source start stop, splitFile source start stop = replaceRange source start stop (commentLines
      ((DocBlock.lines "BearerAuth" [] "A" "AHandler" ⟨"/api/a", "get\n\n//", "A", false⟩).map fun l =>
        0x20 :: l.utf8)) := by
    intro source start stop
    rw [splitFile, hroute]
    rfl
  have hpending : (nodes? (splitFile oneHandler 0 0)).map (fun nodes => (pendingOf (Declaration.ofNodes nodes)).map
      fun h => (h.name, h.receiver, h.declaration.docStart.offset, h.declaration.start.offset)) =
        some [("A", "AHandler", 393, 397)] := by
    rw [hsplit, hlines, oneHandler]
    simp only [List.map_cons, List.map_nil, List.cons_append, List.nil_append, CodeText.utf8_append,
      CodeText.utf8_ofString]
    repeat rw [DocBlock.utf8_ofList]
    decide +kernel
  obtain ⟨report, s', hrun, hfirst⟩ := run_splitGenerator nodes?_oneHandler
  obtain ⟨report', s'', hrun', hsecond⟩ := run_splitGenerator hpending
  refine ⟨by rw [hroute]; decide, by decide, report, s', hrun, report', s'', hfirst ▸ hrun', fun heq => ?_⟩
  rw [hfirst, hsecond] at heq
  have hbytes : splitFile (splitFile oneHandler 0 0) 393 397 = splitFile oneHandler 0 0 := by
    simpa [oneFile] using heq
  have hlength := congrArg List.length hbytes
  revert hlength
  rw [hsplit, hsplit, hlines, oneHandler]
  simp only [List.map_cons, List.map_nil, List.cons_append, List.nil_append, CodeText.utf8_append,
    CodeText.utf8_ofString]
  repeat rw [DocBlock.utf8_ofList]
  decide +kernel

end Generator

end RouteDoc
