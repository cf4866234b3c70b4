/-
What a run comes to.

A run fails where there is no directory, or no handler file in it, and then it has
done nothing. It fails, too, where a handler breaks the handling of its file off: its
block has no bytes. Otherwise it reports on every handler file, in order, with a
failure exactly where the file cannot be loaded; it changes no file but those with a
handler to document; and the files that cannot be loaded do not matter to the
others, which end as they would in a tree without them (`run_outcome`). A scheme
with a surrogate that stands alone is enough for a run without a report
(`run_without_report`).
-/
import RouteDoc.Proofs.Generator.Absences
import RouteDoc.Proofs.Generator.Progress

namespace RouteDoc

open Go

/-! ## Files that cannot be loaded -/

namespace Workspace

variable {w : Workspace} {files : List String} {p : Place}

/-- The places of the files that cannot be loaded. -/
def unloadable (w : Workspace) (files : List String) : List Place :=
  (files.filter fun f => !(Source.load w f).isOk).filterMap fun f => (w.locate f).toOption

theorem mem_unloadable : p ∈ w.unloadable files ↔
    ∃ f ∈ files, (∃ failure, Source.load w f = .error failure) ∧ w.locate f = .ok p := by
  unfold unloadable
  simp only [List.mem_filterMap, List.mem_filter, Bool.not_eq_true']
  have hload : ∀ f, (Source.load w f).isOk = false ↔ ∃ failure, Source.load w f = .error failure := by
    intro f
    cases Source.load w f with
    | error failure => simp [Except.isOk, Except.toBool]
    | ok found => simp [Except.isOk, Except.toBool]
  have hlocate : ∀ f, (w.locate f).toOption = some p ↔ w.locate f = .ok p := by
    intro f
    cases w.locate f with
    | error fault => simp [Except.toOption]
    | ok q => simp [Except.toOption]
  simp only [hload, hlocate, and_assoc]

end Workspace

namespace Generator

variable (g : Generator) {w : Workspace} {files : List String} {f : String}

section

variable (hfound : ∀ f ∈ files, ∃ q bytes, w.locate f = .ok q ∧ w.entryAt q = some (.file bytes))

include hfound

theorem unloadable_unparsable {q : Place} (hq : q ∈ w.unloadable files) :
    ∃ bytes, w.entryAt q = some (.file bytes) ∧ nodes? bytes = none := by
  obtain ⟨f, hf, ⟨failure, hload⟩, hlocate⟩ := Workspace.mem_unloadable.1 hq
  obtain ⟨q', bytes, hq', hbytes⟩ := hfound f hf
  obtain rfl := Except.ok.inj (hlocate.symm.trans hq')
  refine ⟨bytes, hbytes, ?_⟩
  rw [load_found hlocate hbytes] at hload
  cases hnodes : nodes? bytes with
  | none => rfl
  | some nodes =>
    rw [hnodes] at hload
    cases hload

theorem areFiles_unloadable : w.AreFiles (w.unloadable files) := by
  intro q hq
  obtain ⟨bytes, hbytes, -⟩ := unloadable_unparsable hfound hq
  exact ⟨bytes, hbytes⟩

theorem reaches_unloadable (hf : f ∈ files) :
    w.reaches (w.unloadable files) f = true ↔ ∃ failure, Source.load w f = .error failure := by
  rw [Workspace.reaches_iff]
  constructor
  · rintro ⟨q, hq, hlocate⟩
    obtain ⟨bytes, hbytes, hnodes⟩ := unloadable_unparsable hfound hq
    rw [load_found hlocate hbytes, hnodes]
    exact ⟨_, rfl⟩
  · intro hload
    obtain ⟨q, bytes, hlocate, -⟩ := hfound f hf
    exact ⟨q, Workspace.mem_unloadable.2 ⟨f, hf, hload, hlocate⟩, hlocate⟩

theorem beside_start (notes notes₀ : List Note) :
    ({ Session.start w with notes } : Session).Beside w (w.unloadable files)
      { Session.start (w.without (w.unloadable files)) with notes := notes₀ } :=
  ⟨.refl w, rfl, rfl, rfl, fun _ hq => unloadable_unparsable hfound hq, fun _ he => nomatch he⟩

end

/-! ## Runs -/

/-- Whatever the schedule, files that are handled have an outcome. -/
theorem pool_outcome (hw : w.Sound) {dir pattern : String} (hfiles : Discovery.handlerFiles w dir pattern = .ok files)
    (notes : List Note) {schedule : List Nat}
    (hdone : ((Pool.start files { Session.start w with notes }).run g schedule).Finished) :
    g.Outcome w files ((Pool.start files { Session.start w with notes }).run g schedule).results
      ((Pool.start files { Session.start w with notes }).run g schedule).session.workspace := by
  have hapart := apart_start hw hfiles notes
  have hcourse := (Pool.course_start (g := g) hapart).run hw hapart schedule
  exact hcourse.outcome hdone

/-- Whatever the schedule, files that are handled end with a report or are broken off. -/
theorem pool_verdict (hw : w.Sound) {dir pattern : String} (hfiles : Discovery.handlerFiles w dir pattern = .ok files)
    (notes : List Note) {schedule : List Nat}
    (hdone : ((Pool.start files { Session.start w with notes }).run g schedule).Finished) :
    let results := ((Pool.start files { Session.start w with notes }).run g schedule).results
    g.BreaksOff w files ∧ (∃ fault, verdict results = .error (.unencodable fault)) ∨
      ¬g.BreaksOff w files ∧ verdict results = .ok ⟨totalOf results, results⟩ := by
  have hapart := apart_start hw hfiles notes
  have hadvance := (Pool.advance_start (g := g) hapart fun _ he => nomatch he).run hw hapart schedule
  exact hadvance.verdict hapart.found hdone

theorem processFiles_verdict (hw : w.Sound) {dir pattern : String}
    (hfiles : Discovery.handlerFiles w dir pattern = .ok files) (notes : List Note) :
    let results := (g.processFiles files { Session.start w with notes }).1
    g.BreaksOff w files ∧ (∃ fault, verdict results = .error (.unencodable fault)) ∨
      ¬g.BreaksOff w files ∧ verdict results = .ok ⟨totalOf results, results⟩ := by
  obtain ⟨schedule, hdone, hresults, -⟩ := Pool.run_sequential (g := g) files { Session.start w with notes }
  have hverdict := g.pool_verdict hw hfiles notes hdone
  rwa [hresults] at hverdict

theorem processFiles_outcome (hw : w.Sound) {dir pattern : String}
    (hfiles : Discovery.handlerFiles w dir pattern = .ok files) (notes : List Note) :
    g.Outcome w files (g.processFiles files { Session.start w with notes }).1
      (g.processFiles files { Session.start w with notes }).2.workspace := by
  obtain ⟨schedule, hdone, hresults, hsession⟩ :=
    Pool.run_sequential (g := g) files { Session.start w with notes }
  have houtcome := g.pool_outcome hw hfiles notes hdone
  rwa [hresults, hsession] at houtcome

/-- Files handled with and without those that are gone: what is left of the results are those that are no
failures, and every other place ends with the same entry. -/
structure Unaffected (gone : List Place) (results : List FileResult) (w' : Workspace) (results₀ : List FileResult)
    (w₀' : Workspace) : Prop where
  results : results₀ = results.filter FileResult.ok
  entries : ∀ p, p ∉ gone → w₀'.entryAt p = w'.entryAt p

theorem processFiles_unaffected (hw : w.Sound) {dir pattern : String}
    (hfiles : Discovery.handlerFiles w dir pattern = .ok files) (notes notes₀ : List Note) :
    let gone := w.unloadable files
    let s₀ : Session := { Session.start (w.without gone) with notes := notes₀ }
    let files₀ := files.filter fun f => !w.reaches gone f
    Unaffected gone (g.processFiles files { Session.start w with notes }).1
      (g.processFiles files { Session.start w with notes }).2.workspace
      (g.processFiles files₀ s₀).1 (g.processFiles files₀ s₀).2.workspace := by
  intro gone s₀ files₀
  have hfound := (Workspace.handlerFiles_files hw hfiles).1
  obtain ⟨hresults, hbeside⟩ := g.processFiles_beside (beside_start hfound notes notes₀) hw hfound
    (fun f hf => reaches_unloadable hfound hf) (g.processFiles_outcome hw hfiles notes).reports
  exact ⟨hresults, fun p hp => hbeside.entryAt hp⟩

/-- Every schedule for all files has one for those that can be loaded. -/
theorem pool_unaffected (hw : w.Sound) {dir pattern : String}
    (hfiles : Discovery.handlerFiles w dir pattern = .ok files) {schedule : List Nat}
    (hdone : ((Pool.start files (.start w)).run g schedule).Finished) :
    let gone := w.unloadable files
    let p := (Pool.start files (.start w)).run g schedule
    let files₀ := files.filter fun f => !w.reaches gone f
    ∃ schedule₀, let p₀ := (Pool.start files₀ (.start (w.without gone))).run g schedule₀
      p₀.Finished ∧ Unaffected gone p.results p.session.workspace p₀.results p₀.session.workspace := by
  intro gone p files₀
  have hapart := apart_start hw hfiles []
  obtain ⟨schedule₀, hbeside⟩ :=
    (Pool.Beside.start (beside_start hapart.found [] []) hapart.found).run (g := g) hw schedule
  have hcourse := (Pool.course_start (g := g) hapart).run hw hapart schedule
  refine ⟨schedule₀, hbeside.finished hdone, ?_, fun p hp => hbeside.session.entryAt hp⟩
  exact hbeside.results hcourse fun f hf => reaches_unloadable hapart.found hf

theorem succeeded_add_failed (report : Report) : report.succeeded + report.failed = report.results.length :=
  (List.length_eq_length_filter_add FileResult.ok).symm

/-- What a run over handler files comes to: an outcome for all of them, and the same for the others where those
that cannot be loaded are not there. -/
structure Completes (w : Workspace) (files : List String) (report : Report) (w' : Workspace) : Prop where
  outcome : g.Outcome w files report.results w'
  counts : report.succeeded + report.failed = files.length
  unaffected : report.succeeded ≠ 0 →
    ∃ report₀ s₀, g.run (.start (w.without (w.unloadable files))) = (.ok report₀, s₀) ∧
      Unaffected (w.unloadable files) report.results w' report₀.results s₀.workspace

theorem processFiles_completes (hw : w.Sound)
    (hfiles : Discovery.handlerFiles w g.settings.handlerDir g.settings.handlerPattern = .ok files)
    (notes : List Note) {report : Report}
    (hreport : verdict (g.processFiles files { Session.start w with notes }).1 = .ok report) :
    g.Completes w files report (g.processFiles files { Session.start w with notes }).2.workspace := by
  have houtcome := g.processFiles_outcome hw hfiles notes
  obtain ⟨hraised, rfl⟩ := verdict_eq_ok_iff.1 hreport
  refine ⟨houtcome, ?_, fun hsome => ?_⟩
  · rw [succeeded_add_failed]
    exact houtcome.reports.length_eq.symm
  · have hgone := areFiles_unloadable (Workspace.handlerFiles_files hw hfiles).1
    have hfiles₀ := Workspace.handlerFiles_without hw hgone hfiles
    have hne : (files.filter fun f => !w.reaches (w.unloadable files) f) ≠ [] := by
      intro hnil
      have hresults := (g.processFiles_unaffected hw hfiles notes []).results
      rw [hnil] at hresults
      exact hsome (List.length_eq_zero_iff.2 hresults.symm)
    obtain ⟨notes₀, s₀, hrun, hworkspace⟩ :=
      g.run_eq (s := .start (w.without (w.unloadable files))) hfiles₀ hne
    have hunaffected := g.processFiles_unaffected hw hfiles notes notes₀
    have hraised₀ : ∀ r ∈ (g.processFiles (files.filter fun f => !w.reaches (w.unloadable files) f)
        { Session.start (w.without (w.unloadable files)) with notes := notes₀ }).1, r.raised = none := by
      intro r hr
      rw [hunaffected.results] at hr
      exact hraised r (List.mem_of_mem_filter hr)
    refine ⟨_, s₀, hrun.trans (congrArg (·, s₀) (verdict_of_raised hraised₀)), hunaffected.results, fun p hp => ?_⟩
    rw [hworkspace]
    exact hunaffected.entries p hp

/-- How a run over handler files ends. -/
theorem run_verdict (hw : w.Sound)
    (hfiles : Discovery.handlerFiles w g.settings.handlerDir g.settings.handlerPattern = .ok files)
    (hne : files ≠ []) :
    g.BreaksOff w files ∧ (∃ fault, (g.run (.start w)).1 = .error (.unencodable fault)) ∨
      ¬g.BreaksOff w files ∧ ∃ report, (g.run (.start w)).1 = .ok report ∧
        g.Completes w files report (g.run (.start w)).2.workspace := by
  obtain ⟨notes, s', hrun, hworkspace⟩ := g.run_eq (s := .start w) hfiles hne
  rw [hrun]
  obtain ⟨hbreaks, hfault⟩ | ⟨hwhole, hreport⟩ := g.processFiles_verdict hw hfiles notes
  · exact .inl ⟨hbreaks, hfault⟩
  · exact .inr ⟨hwhole, _, hreport, hworkspace ▸ g.processFiles_completes hw hfiles notes hreport⟩

/-- How a run can go. -/
theorem run_cases (hw : w.Sound) :
    (w.isDirectory g.settings.handlerDir = false ∧
      g.run (.start w) = (.error (.noDirectory g.settings.handlerDir), .start w)) ∨
    (w.isDirectory g.settings.handlerDir = true ∧ ¬w.HasMatch g.settings.handlerDir g.settings.handlerPattern ∧
      g.run (.start w) = (.error (.noHandlers g.settings.handlerDir g.settings.handlerPattern), .start w)) ∨
    (w.isDirectory g.settings.handlerDir = true ∧ w.HasMatch g.settings.handlerDir g.settings.handlerPattern ∧
      ∃ files, Discovery.handlerFiles w g.settings.handlerDir g.settings.handlerPattern = .ok files ∧
        (g.BreaksOff w files ∧ (∃ fault, (g.run (.start w)).1 = .error (.unencodable fault)) ∨
          ¬g.BreaksOff w files ∧ ∃ report, (g.run (.start w)).1 = .ok report ∧
            g.Completes w files report (g.run (.start w)).2.workspace)) := by
  cases hfiles : Discovery.handlerFiles w g.settings.handlerDir g.settings.handlerPattern with
  | error failure =>
    obtain ⟨hdirectory, rfl⟩ := Workspace.handlerFiles_error_iff.1 hfiles
    refine .inl ⟨hdirectory, ?_⟩
    unfold run
    simp only [Session.start, hfiles]
  | ok files =>
    by_cases hempty : files = []
    · subst hempty
      obtain ⟨hdirectory, hnone⟩ := (Workspace.handlerFiles_nil_iff hw).1 hfiles
      refine .inr (.inl ⟨hdirectory, hnone, ?_⟩)
      unfold run
      simp only [Session.start, hfiles]
    · obtain ⟨place, hplace, hdirectory, -⟩ := Workspace.handlerFiles_ok hfiles
      exact .inr (.inr ⟨Workspace.isDirectory_iff.2 ⟨place, hplace, hdirectory⟩,
        (Workspace.handlerFiles_ne_nil_iff hw hfiles).1 hempty, files, rfl, g.run_verdict hw hfiles hempty⟩)

/-- What tasks for handler files come to, whatever the schedule. -/
theorem pool_completes (hw : w.Sound)
    (hfiles : Discovery.handlerFiles w g.settings.handlerDir g.settings.handlerPattern = .ok files)
    (schedule : List Nat) (hdone : ((Pool.start files (.start w)).run g schedule).Finished) :
    let p := (Pool.start files (.start w)).run g schedule
    (g.BreaksOff w files ∧ (∃ fault, verdict p.results = .error (.unencodable fault)) ∨
      ¬g.BreaksOff w files ∧ verdict p.results = .ok ⟨totalOf p.results, p.results⟩) ∧
    g.Outcome w files p.results p.session.workspace ∧
    ∃ files₀ schedule₀, Discovery.handlerFiles (w.without (w.unloadable files)) g.settings.handlerDir
        g.settings.handlerPattern = .ok files₀ ∧
      let p₀ := (Pool.start files₀ (.start (w.without (w.unloadable files)))).run g schedule₀
      p₀.Finished ∧
        Unaffected (w.unloadable files) p.results p.session.workspace p₀.results p₀.session.workspace := by
  have hgone := areFiles_unloadable (Workspace.handlerFiles_files hw hfiles).1
  obtain ⟨schedule₀, hpool⟩ := g.pool_unaffected hw hfiles hdone
  exact ⟨g.pool_verdict hw hfiles [] hdone, g.pool_outcome hw hfiles [] hdone, _, schedule₀,
    Workspace.handlerFiles_without hw hgone hfiles, hpool⟩

/-- **What a run comes to.** It fails where the handler directory is none, or has no file in it with a name that the
pattern stands for, and then nothing has happened. It fails where a handler breaks the handling of its file off. There
is no other failure. Otherwise it completes: it reports on every handler file, in order, with a failure exactly where
the file cannot be loaded; no file is created or deleted, and none changes but handler files that can be loaded and
have a handler to document; and the other files have the results and the contents that they have in a run over the
tree without the files that cannot be loaded. Tasks that are done side by side come to an end when they get enough
turns, and then all of that holds of them as well, whatever the schedule. -/
theorem run_outcome (hw : w.Sound) :
    ((g.run (.start w)).1 = .error (.noDirectory g.settings.handlerDir) ↔
      w.isDirectory g.settings.handlerDir = false) ∧
    ((g.run (.start w)).1 = .error (.noHandlers g.settings.handlerDir g.settings.handlerPattern) ↔
      w.isDirectory g.settings.handlerDir = true ∧ ¬w.HasMatch g.settings.handlerDir g.settings.handlerPattern) ∧
    (∀ failure, (g.run (.start w)).1 = .error failure →
      (g.run (.start w)).2 = .start w ∧ (failure = .noDirectory g.settings.handlerDir ∨
        failure = .noHandlers g.settings.handlerDir g.settings.handlerPattern) ∨
      ∃ files fault, Discovery.handlerFiles w g.settings.handlerDir g.settings.handlerPattern = .ok files ∧
        g.BreaksOff w files ∧ failure = .unencodable fault) ∧
    (∀ report, (g.run (.start w)).1 = .ok report → ∃ files,
      Discovery.handlerFiles w g.settings.handlerDir g.settings.handlerPattern = .ok files ∧ ¬g.BreaksOff w files ∧
      g.Completes w files report (g.run (.start w)).2.workspace) ∧
    ∀ files, Discovery.handlerFiles w g.settings.handlerDir g.settings.handlerPattern = .ok files →
      (∃ n, ∀ schedule : List Nat, (∀ i < files.length, n ≤ schedule.count i) →
        ((Pool.start files (.start w)).run g schedule).Finished) ∧
      ∀ schedule, let p := (Pool.start files (.start w)).run g schedule
        p.Finished →
          (g.BreaksOff w files ∧ (∃ fault, verdict p.results = .error (.unencodable fault)) ∨
            ¬g.BreaksOff w files ∧ verdict p.results = .ok ⟨totalOf p.results, p.results⟩) ∧
          g.Outcome w files p.results p.session.workspace ∧
          ∃ files₀ schedule₀, Discovery.handlerFiles (w.without (w.unloadable files)) g.settings.handlerDir
              g.settings.handlerPattern = .ok files₀ ∧
            let p₀ := (Pool.start files₀ (.start (w.without (w.unloadable files)))).run g schedule₀
            p₀.Finished ∧
              Unaffected (w.unloadable files) p.results p.session.workspace p₀.results p₀.session.workspace := by
  have hpools : ∀ files, Discovery.handlerFiles w g.settings.handlerDir g.settings.handlerPattern = .ok files → _ :=
    fun files hfiles => And.intro (Pool.run_finishes g hw (apart_start hw hfiles []))
      (g.pool_completes hw hfiles)
  obtain ⟨hdirectory, hrun⟩ | ⟨hdirectory, hnone, hrun⟩ |
    ⟨hdirectory, hsome, files, hfiles, ⟨hbreaks, fault, hrun⟩ | ⟨hwhole, report, hrun, hcompletes⟩⟩ := g.run_cases hw
  · rw [hrun, hdirectory]
    refine ⟨by simp, by simp, fun failure h => .inl ⟨rfl, .inl (Except.error.inj h).symm⟩, fun report h => ?_, hpools⟩
    cases h
  · rw [hrun, hdirectory]
    refine ⟨by simp, by simpa using hnone, fun failure h => .inl ⟨rfl, .inr (Except.error.inj h).symm⟩,
      fun report h => ?_, hpools⟩
    cases h
  · rw [hrun, hdirectory]
    refine ⟨by simp, by simpa using hsome, fun failure h => .inr ⟨files, fault, hfiles, hbreaks, ?_⟩,
      fun report h => ?_, hpools⟩
    · exact (Except.error.inj h).symm
    · cases h
  · rw [hrun, hdirectory]
    refine ⟨by simp, by simpa using hsome, fun failure h => ?_, fun report' h => ⟨files, hfiles, hwhole, ?_⟩, hpools⟩
    · cases h
    · rw [← Except.ok.inj h]
      exact hcompletes

/-- A directory with a handler file, and with one that cannot be parsed. -/
def mixedFiles : Workspace where
  entries := [(["h"], .directory), (["h", "a.go"], .file oneHandler), (["h", "b.go"], .file (Text.utf8 "func \x7b\n"))]
  cwd := []

/-- A generator that looks for types in the handler files. -/
def mixedGenerator : Generator where
  settings := ⟨"h", "router.go", ["h/*.go"], "*.go", "BearerAuth", "/api", 2, false, "authorized", "public", false⟩
  routes := []

theorem whole_mixedFiles : ¬mixedGenerator.BreaksOff mixedFiles ["h/a.go", "h/b.go"] := by
  refine not_breaksOff ?_
  intro f hf
  refine pendingIn_of_all ?_
  revert f
  rw [mixedFiles, oneHandler, DocBlock.utf8_ofList, DocBlock.utf8_ofList]
  decide +kernel

/-- The file that cannot be parsed is said to have failed, and the other one has the result that it has alone. -/
theorem run_outcome_mixedFiles :
    ∃ report s', mixedGenerator.run (.start mixedFiles) = (.ok report, s') ∧
      report.results.map (fun r => (r.path, r.ok)) = [("h/a.go", true), ("h/b.go", false)] ∧
      ∃ report₀ s₀, mixedGenerator.run (.start (mixedFiles.without [["h", "b.go"]])) = (.ok report₀, s₀) ∧
        report₀.results = report.results.filter FileResult.ok ∧
        s₀.workspace.entryAt ["h", "a.go"] = s'.workspace.entryAt ["h", "a.go"] := by
  have hw : mixedFiles.Sound := by decide +kernel
  have hlocate : mixedFiles.locate "h" = .ok ["h"] := by decide +kernel
  have hfiles : Discovery.handlerFiles mixedFiles "h" "*.go" = .ok ["h/a.go", "h/b.go"] :=
    Workspace.handlerFiles_eq hlocate (by decide +kernel) (by decide +kernel) (by decide +kernel)
  have hgone : mixedFiles.unloadable ["h/a.go", "h/b.go"] = [["h", "b.go"]] := by decide +kernel
  obtain ⟨hbreaks, -⟩ | ⟨-, report, hrun, -⟩ := mixedGenerator.run_verdict hw hfiles (by simp)
  · exact absurd hbreaks whole_mixedFiles
  obtain ⟨-, -, -, hreport, -⟩ := mixedGenerator.run_outcome hw
  obtain ⟨files, hfiles', -, hcompletes⟩ := hreport _ hrun
  obtain rfl := Except.ok.inj (hfiles.symm.trans hfiles')
  refine ⟨report, _, Prod.ext hrun rfl, ?_⟩
  obtain ⟨total, results⟩ := report
  have hok : ∀ f ∈ ["h/a.go", "h/b.go"], ∀ r, Reported mixedFiles f r →
      r.ok = !mixedFiles.reaches [["h", "b.go"]] f := by
    intro f hf r hr
    rw [← hgone]
    exact hr.ok_eq (reaches_unloadable (Workspace.handlerFiles_files hw hfiles).1 hf)
  obtain ⟨a, rest, ha, hrest, rfl⟩ := List.forall₂_cons_left_iff.1 hcompletes.outcome.reports
  obtain ⟨b, none, hb, hnone, rfl⟩ := List.forall₂_cons_left_iff.1 hrest
  obtain rfl := List.forall₂_nil_left_iff.1 hnone
  have haok : a.ok = true := (hok _ (by simp) a ha).trans (by decide +kernel)
  have hbok : b.ok = false := (hok _ (by simp) b hb).trans (by decide +kernel)
  refine ⟨by simp [ha.path, hb.path, haok, hbok], ?_⟩
  obtain ⟨report₀, s₀, hrun₀, hunaffected⟩ := hcompletes.unaffected (by simp [Report.succeeded, haok])
  rw [hgone] at hrun₀ hunaffected
  exact ⟨report₀, s₀, hrun₀, hunaffected.results, hunaffected.entries _ (by decide)⟩

/-! ## A run without a report -/

/-- A generator for a secured route whose scheme is the second half of a pair of surrogates. -/
def loneScheme : Generator :=
  { plainGenerator with routes := [("A", ⟨"/a", "get", "A", true⟩)], scheme := [.surrogate 1279] }

/-- **A run without a report**: there is a handler file, and yet the run only fails. -/
theorem run_without_report :
    (oneFile oneHandler).isDirectory "." = true ∧ (oneFile oneHandler).HasMatch "." "*.go" ∧
      ∃ fault, (loneScheme.run (.start (oneFile oneHandler))).1 = .error (.unencodable fault) := by
  have hw := oneFile_sound oneHandler
  have hfiles := handlerFiles_oneFile oneHandler
  obtain ⟨place, hplace, hdirectory, -⟩ := Workspace.handlerFiles_ok hfiles
  refine ⟨Workspace.isDirectory_iff.2 ⟨place, hplace, hdirectory⟩,
    (Workspace.handlerFiles_ne_nil_iff hw hfiles).1 (by simp), ?_⟩
  obtain ⟨nodes, hnodes, hpending⟩ := Option.map_eq_some_iff.1 nodes?_oneHandler
  obtain ⟨h, hmem, hname⟩ : ∃ h ∈ pendingOf (Declaration.ofNodes nodes), h.name = "A" := by
    have hnames := congrArg (List.map Prod.fst) hpending
    rw [List.map_map] at hnames
    exact List.mem_map.1 (hnames ▸ List.mem_singleton_self "A")
  have hbreaks : loneScheme.BreaksOff (oneFile oneHandler) ["./a.go"] := by
    have hread : (oneFile oneHandler).read "./a.go" = .ok oneHandler :=
      Workspace.read_eq_ok_iff.2 ⟨_, locate_oneFile oneHandler, rfl⟩
    refine ⟨"./a.go", List.mem_singleton_self _, h, mem_pendingAt.2 ⟨_, nodes, hread, hnodes, hmem⟩, ?_⟩
    have hnot : ¬loneScheme.ScalarRoute "A" := by decide +kernel
    rw [stops, breaks, hname, decide_eq_false hnot]
    rfl
  obtain ⟨-, hfault⟩ | ⟨hwhole, -⟩ := loneScheme.run_verdict hw hfiles (by simp)
  · exact hfault
  · exact absurd hbreaks hwhole

end Generator

end RouteDoc
