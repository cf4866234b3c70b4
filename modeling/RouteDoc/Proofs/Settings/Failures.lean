/-
How settings fail.

Settings that are wrong fail as settings, whatever the environment holds and
whatever is asked for under known names, and the tool then ends with exit code 1.
Only a settings file can fail in another way, and `Escape` says when: its bytes
are no text, a value in it cannot be read, one of its keys is no text, or one of
them is `self` (`settings_failures`). The tool does not report such a failure.
-/
import RouteDoc.CommandLine
import RouteDoc.Proofs.Settings.Layers

namespace RouteDoc

namespace Settings

variable {processors : Option Int} {w : Workspace} {path : Option String} {env : Environment}
  {asked l : Layer} {c : Settings} {f : Failure} {entries : List (Value × Value)}

theorem bind_eq_error_iff {ε α β : Type} {x : Except ε α} {g : α → Except ε β} {e : ε} :
    (x >>= g) = .error e ↔ x = .error e ∨ ∃ a, x = .ok a ∧ g a = .error e := by
  cases x <;> simp [bind, Except.bind]

/-! ## Files that fail in another way -/

/-- The settings file that is read. -/
def file? (w : Workspace) (path : Option String) : Option String := path.orElse fun _ => find w none

/-- What a file fails with where it does not fail as settings. -/
def Escape (w : Workspace) (path : String) : Failure → Prop
  | .undecodable fault => ∃ bytes, w.read path = .ok bytes ∧ Text.decodeByBlocks bytes = .error fault
  | .value fault => ∃ bytes chars, w.read path = .ok bytes ∧ Text.decodeByBlocks bytes = .ok chars ∧
      Yaml.load (Text.unifyLines chars) = .error (.value fault)
  | .keyNotText => ∃ entries, loadFile w path = .ok entries ∧ ∃ e ∈ entries, ∀ name, e.1 ≠ .str name
  | .repeatedArgument operation name => operation = "GeneratorConfig.with_overrides" ∧ name = "self" ∧
      ∃ entries, loadFile w path = .ok entries ∧ (∀ e ∈ entries, ∃ name, e.1 = .str name) ∧
        ∃ e ∈ entries, e.1 = .str "self"
  | _ => False

/-- The file that is read fails with `f`, and not as settings. -/
def Escapes (w : Workspace) (path : Option String) (f : Failure) : Prop :=
  ∃ p, file? w path = some p ∧ Escape w p f

theorem Escapes.not_settings (h : Escapes w path f) : f.isOf .settings = false := by
  obtain ⟨p, -, h⟩ := h
  cases f with
  | undecodable | value | keyNotText | repeatedArgument => rfl
  | _ => exact h.elim

/-! ## Reading the file -/

theorem layerOf_eq_ok_iff : layerOf entries = .ok l ↔ entries = l.map fun e => (.str e.1, e.2) := by
  unfold layerOf
  dsimp only
  split
  · rename_i found hfound
    have hentries : entries = found.map fun e => (.str e.1, e.2) :=
      (mapM_eq_some_iff (by rintro ⟨key, v⟩ ⟨name, v'⟩; cases key <;> simp)).1 hfound
    rw [Except.ok.injEq, hentries]
    constructor
    · rintro rfl
      rfl
    · intro h
      exact (List.map_inj_right (by rintro ⟨a, v⟩ ⟨b, v'⟩ hab; simpa using hab)).1 h
  · rename_i hnone
    constructor
    · intro h; cases h
    · intro h
      cases hnone.symm.trans ((mapM_eq_some_iff (by rintro ⟨key, v⟩ ⟨name, v'⟩; cases key <;> simp)).2 h)

theorem layerOf_error (h : layerOf entries = .error f) : f = .keyNotText := by
  unfold layerOf at h
  dsimp only at h
  split at h
  · cases h
  · exact (Except.error.inj h).symm

/-- A mapping is a layer exactly where all its keys are texts. -/
theorem layerOf_ok_iff : (∃ l, layerOf entries = .ok l) ↔ ∀ e ∈ entries, ∃ name, e.1 = .str name := by
  simp only [layerOf_eq_ok_iff]
  constructor
  · rintro ⟨l, rfl⟩ e he
    obtain ⟨e', -, rfl⟩ := List.mem_map.1 he
    exact ⟨e'.1, rfl⟩
  · intro h
    induction entries with
    | nil => exact ⟨[], rfl⟩
    | cons e entries ih =>
      obtain ⟨name, hname⟩ := h e (by simp)
      obtain ⟨l, rfl⟩ := ih fun e he => h e (by simp [he])
      exact ⟨(name, e.2) :: l, by rw [List.map_cons, ← hname]⟩

theorem layerOf_eq_error_iff :
    layerOf entries = .error f ↔ f = .keyNotText ∧ ∃ e ∈ entries, ∀ name, e.1 ≠ .str name := by
  have hkeys : (∃ e ∈ entries, ∀ name, e.1 ≠ .str name) ↔ ¬∃ l, layerOf entries = .ok l := by
    simp [layerOf_ok_iff]
  rw [hkeys]
  constructor
  · intro h
    exact ⟨layerOf_error h, by rw [h]; rintro ⟨_, h'⟩; cases h'⟩
  · rintro ⟨rfl, hnone⟩
    cases h : layerOf entries with
    | ok l => exact absurd ⟨l, h⟩ hnone
    | error f => rw [layerOf_error h]

theorem loadFile_error {p : String} (h : loadFile w p = .error f) : f.isOf .settings = true ∨ Escape w p f := by
  unfold loadFile at h
  split at h
  · obtain rfl := Except.error.inj h
    exact .inl rfl
  rename_i bytes hbytes
  split at h
  · rename_i fault hfault
    obtain rfl := Except.error.inj h
    exact .inr ⟨bytes, hbytes, hfault⟩
  rename_i chars hchars
  split at h
  · obtain rfl := Except.error.inj h
    exact .inl rfl
  · rename_i fault hfault
    obtain rfl := Except.error.inj h
    exact .inr ⟨bytes, chars, hbytes, hchars, hfault⟩
  · cases h
  · cases h
  · obtain rfl := Except.error.inj h
    exact .inl rfl

/-- The layer of the file fails as settings, or as `Escape` says. -/
theorem fileLayer_error (h : fileLayer w path = .error f) : f.isOf .settings = true ∨ Escapes w path f := by
  unfold fileLayer at h
  split at h
  · cases h
  rename_i p hp
  rcases bind_eq_error_iff.1 h with hload | ⟨entries, hload, hlayer⟩
  · exact (loadFile_error hload).imp_right fun hescape => ⟨p, hp, hescape⟩
  · obtain ⟨rfl, hkeys⟩ := layerOf_eq_error_iff.1 hlayer
    exact .inr ⟨p, hp, entries, hload, hkeys⟩

/-- A layer that comes from a file comes from a mapping with texts for keys. -/
theorem fileLayer_self {file : Layer} (h : fileLayer w path = .ok file)
    (hself : (file.any fun e => e.1 == "self") = true) :
    Escapes w path (.repeatedArgument "GeneratorConfig.with_overrides" "self") := by
  obtain ⟨e, he, hname⟩ := List.any_eq_true.1 hself
  unfold fileLayer at h
  split at h
  · obtain rfl := Except.ok.inj h
    cases he
  rename_i p hp
  obtain ⟨entries, hload, hlayer⟩ := bind_eq_ok_iff.1 h
  refine ⟨p, hp, rfl, rfl, entries, hload, layerOf_ok_iff.1 ⟨file, hlayer⟩, (.str e.1, e.2), ?_, ?_⟩
  · rw [layerOf_eq_ok_iff.1 hlayer]
    exact List.mem_map_of_mem he
  · rw [beq_iff_eq.1 hname]

/-! ## Failing layers -/

theorem mapError_isOf {α : Type} {x : Except SettingsFault α} (h : x.mapError Failure.settings = .error f) :
    f.isOf .settings = true := by
  cases x with
  | ok _ => cases h
  | error fault =>
    obtain rfl := Except.error.inj h
    rfl

/-- A layer over settings fails as settings, unless it gives something to `self`. -/
theorem override_error (h : c.override processors l = .error f) (hself : (l.any fun e => e.1 == "self") = false) :
    f.isOf .settings = true := by
  unfold override at h
  rw [hself] at h
  simp only [Bool.false_eq_true, if_false] at h
  split at h
  · obtain rfl := Except.error.inj h
    rfl
  · split at h
    · cases h
    · exact mapError_isOf h

theorem override_self (h : (l.any fun e => e.1 == "self") = true) :
    c.override processors l = .error (.repeatedArgument "GeneratorConfig.with_overrides" "self") := by
  unfold override
  rw [if_pos h]

/-- All layers together fail as settings, or as the file does. -/
theorem resolve_error (hasked : asked.Known) (h : resolve processors w path env asked = .error f) :
    f.isOf .settings = true ∨ Escapes w path f := by
  obtain ⟨c₀, -, hmake⟩ := defaults_make processors
  rw [resolve_eq, hmake] at h
  change (fileLayer w path >>= _) = _ at h
  rcases bind_eq_error_iff.1 h with hfile | ⟨file, hfile, h⟩
  · exact fileLayer_error hfile
  rcases bind_eq_error_iff.1 h with hover | ⟨c₁, -, h⟩
  · cases hself : file.any fun e => e.1 == "self" with
    | true =>
      rw [override_self hself] at hover
      obtain rfl := Except.error.inj hover
      exact .inr (fileLayer_self hfile hself)
    | false => exact .inl (override_error hover hself)
  rcases bind_eq_error_iff.1 h with henv | ⟨fromEnv, henv, h⟩
  · exact .inl (mapError_isOf henv)
  rcases bind_eq_error_iff.1 h with hover | ⟨c₂, -, h⟩
  · exact .inl (override_error hover (environmentLayer_known (mapError_eq_ok_iff.1 henv)).not_self)
  · exact .inl (override_error h hasked.not_self)

/-- A file that fails in another way makes the whole fail with that. -/
theorem resolve_of_escapes (h : Escapes w path f) : resolve processors w path env asked = .error f := by
  obtain ⟨c₀, -, hmake⟩ := defaults_make processors
  obtain ⟨p, hp, hescape⟩ := h
  have hfile : fileLayer w path = loadFile w p >>= layerOf := by
    unfold fileLayer
    rw [show (path.orElse fun _ => find w none) = some p from hp]
  rw [resolve_eq, hmake, hfile]
  change ((loadFile w p >>= layerOf) >>= _) = _
  cases f with
  | undecodable fault =>
    obtain ⟨bytes, hbytes, hfault⟩ := hescape
    have hload : loadFile w p = .error (.undecodable fault) := by simp [loadFile, hbytes, hfault]
    rw [hload]
    rfl
  | value fault =>
    obtain ⟨bytes, chars, hbytes, hchars, hfault⟩ := hescape
    have hload : loadFile w p = .error (.value fault) := by simp [loadFile, hbytes, hchars, hfault]
    rw [hload]
    rfl
  | keyNotText =>
    obtain ⟨entries, hload, hkeys⟩ := hescape
    rw [hload]
    change (layerOf entries >>= _) = _
    rw [layerOf_eq_error_iff.2 ⟨rfl, hkeys⟩]
    rfl
  | repeatedArgument operation name =>
    obtain ⟨rfl, rfl, entries, hload, hkeys, e, he, hself⟩ := hescape
    obtain ⟨file, hlayer⟩ := layerOf_ok_iff.2 hkeys
    rw [layerOf_eq_ok_iff.1 hlayer] at he
    obtain ⟨e', he', rfl⟩ := List.mem_map.1 he
    rw [hload]
    change (layerOf entries >>= _) = _
    rw [hlayer]
    change (c₀.override processors file >>= _) = _
    rw [override_self (List.any_eq_true.2 ⟨e', he', beq_iff_eq.2 (Value.str.inj hself)⟩)]
    rfl
  | _ => exact hescape.elim

end Settings

/-! ## The command line -/

namespace CommandLine

theorem known_set {r : Request} (h : r.settings.Known) (s : Setting) (v : Value) : (r.set s v).settings.Known := by
  intro e he
  rcases List.mem_append.1 he with he | he
  · exact h e he
  · obtain rfl := List.mem_singleton.1 he
    rw [Setting.ofKey?_key]
    rfl

theorem takeValue_known {r r' : Request} {s : Switch} {value : String} (h : r.settings.Known)
    (htake : r.takeValue s value = .ok r') : r'.settings.Known := by
  unfold Request.takeValue at htake
  split at htake
  · split at htake
    · obtain rfl := Except.ok.inj htake
      exact known_set h _ _
    · cases htake
  · split at htake
    · obtain rfl := Except.ok.inj htake
      exact h
    · cases htake
  · obtain rfl := Except.ok.inj htake
    exact h
  · split at htake
    · obtain rfl := Except.ok.inj htake
      exact known_set h _ _
    · obtain rfl := Except.ok.inj htake
      exact h

theorem takeFlag_known {r r' : Request} {s : Switch} (h : r.settings.Known)
    (htake : r.takeFlag s = .ok r') : r'.settings.Known := by
  have hvolume : ∀ other verbose, r.takeVolume s other verbose = .ok r' → r'.settings.Known := by
    intro other verbose htake
    unfold Request.takeVolume at htake
    split at htake
    · cases htake
    · obtain rfl := Except.ok.inj htake
      exact known_set h _ _
  unfold Request.takeFlag at htake
  split at htake
  · exact hvolume _ _ htake
  · exact hvolume _ _ htake
  · obtain rfl := Except.ok.inj htake
    exact known_set h _ _
  · obtain rfl := Except.ok.inj htake
    exact h

/-- Arguments ask for settings by known names only. -/
theorem readWords_known {words : List (String × Word)} {r r' : Request} {left : List String}
    (h : r.settings.Known) (hread : readWords words r left = .run r') : r'.settings.Known := by
  fun_induction readWords words r left with
  | case1 =>
    obtain rfl := Reading.run.inj hread
    exact h
  | case3 _ _ _ _ _ _ _ _ htake ih | case5 _ _ _ _ _ _ _ _ htake ih => exact ih (takeValue_known h htake) hread
  | case11 _ _ _ _ _ _ _ _ htake _ ih => exact ih (takeFlag_known h htake) hread
  | case13 _ _ _ _ _ _ ih => exact ih h hread
  | _ => cases hread

theorem read_known {arguments : List String} {r : Request} (h : read arguments = .run r) : r.settings.Known := by
  unfold read at h
  split at h
  · cases h
  · exact readWords_known Layer.known_nil h

open Settings (Escapes)

/-- **Settings fail as settings, but for the file.** With known names asked for, a failure is of another
kind exactly where the file is at fault in one of the ways of `Escape`. The tool ends with exit code 1
on every other failure, and leaves such a one to its caller. -/
theorem settings_failures (processors : Option Int) (w : Workspace) (path : Option String) (env : Settings.Environment)
    {asked : Layer} (hasked : asked.Known) :
    (∀ f, Settings.resolve processors w path env asked = .error f ∧ f.isOf .settings = false ↔ Escapes w path f) ∧
    ∀ (around : Surroundings) (arguments : List String) (r : Request) (f : Failure), read arguments = .run r →
      settingsFor around r = .error f →
      Escapes around.workspace (r.config.map PathText.tidy) f ∧ (run around arguments).code = .error f ∨
      ¬Escapes around.workspace (r.config.map PathText.tidy) f ∧
        run around arguments = stopped around.workspace 1 (errorLine f) := by
  constructor
  · intro f
    constructor
    · rintro ⟨hresolve, hother⟩
      refine (Settings.resolve_error hasked hresolve).resolve_left ?_
      simp [hother]
    · intro h
      exact ⟨Settings.resolve_of_escapes h, h.not_settings⟩
  · intro around arguments r f hread hfails
    have hrun : run around arguments = perform around r := by
      unfold run
      rw [hread]
    rw [hrun]
    unfold perform
    rw [hfails]
    cases hkind : f.isOf .settings with
    | true =>
      refine .inr ⟨fun h => ?_, by simp [hkind]⟩
      rw [h.not_settings] at hkind
      cases hkind
    | false =>
      refine .inl ⟨?_, by simp [hkind]⟩
      refine (Settings.resolve_error (read_known hread) hfails).resolve_left ?_
      simp [hkind]

/-- Surroundings with some files and nothing else. -/
def aroundFiles (entries : List (Place × Entry)) : Surroundings where
  workspace := ⟨entries, []⟩
  environment := []
  processors := some 4
  moment := ⟨⟨2024, 1, 2, 3, 4, 5, 0⟩, ⟨2024, 1, 2, 3, 4, 5, 0⟩⟩
  journal := {}

/-- A file whose bytes are `1: a` and a line end. -/
def numberedFile : Surroundings := aroundFiles [([".swagcomment.yaml"], .file (Text.utf8 "1: a\n"))]

/-- A key that is a number is not reported; a concurrency that cannot be is. -/
theorem settings_failures_numberedFile :
    Settings.resolve (some 4) numberedFile.workspace none [] [("dry_run", .bool true)] = .error .keyNotText ∧
    (run (aroundFiles []) ["--concurrency", "-1"]).code = .ok 1 := by
  have hasked : Layer.Known [("dry_run", .bool true)] := by
    intro e he
    obtain rfl := List.mem_singleton.1 he
    decide
  obtain ⟨hresolve, hrun⟩ := settings_failures (some 4) numberedFile.workspace none [] hasked
  constructor
  · have hfile : Settings.file? numberedFile.workspace none = some "/.swagcomment.yaml" := by decide +kernel
    have hkeys : (Settings.loadFile numberedFile.workspace "/.swagcomment.yaml").toOption.map
        (fun entries => entries.map fun e => e.1.typeName) = some ["int"] := by decide +kernel
    obtain ⟨entries, hentries, hnames⟩ := Option.map_eq_some_iff.1 hkeys
    obtain ⟨e, rest, rfl, hname, -⟩ := List.map_eq_cons_iff.1 hnames
    have hload := Settings.toOption_eq_some_iff.1 hentries
    have hkey : ∀ name, e.1 ≠ .str name := by
      intro name hstr
      rw [hstr] at hname
      change "str" = "int" at hname
      revert hname
      decide
    exact ((hresolve .keyNotText).2 ⟨_, hfile, _, hload, e, by simp, hkey⟩).1
  · have hread : read ["--concurrency", "-1"] = .run { settings := [("concurrency", .int (-1))] } := rfl
    have hnofile : Settings.file? (aroundFiles []).workspace none = none := by decide +kernel
    cases hsettings : settingsFor (aroundFiles []) { settings := [("concurrency", .int (-1))] } with
    | ok c =>
      have hfails : (settingsFor (aroundFiles []) { settings := [("concurrency", .int (-1))] }).toOption = none := by
        decide +kernel
      rw [hsettings] at hfails
      cases hfails
    | error f =>
      rcases hrun _ _ _ f hread hsettings with ⟨⟨p, hp, -⟩, -⟩ | ⟨-, hstopped⟩
      · cases hnofile.symm.trans hp
      · rw [hstopped]
        rfl

/-- A file of one byte that no text has. -/
def bytesFile : Surroundings := aroundFiles [([".swagcomment.yaml"], .file [0xff])]

/-- Bytes that are no text are a failure of another kind, which the tool does not report. -/
theorem undecodable_file_escapes :
    ∃ f, Settings.resolve (some 4) bytesFile.workspace none [] [] = .error f ∧ f.isOf .settings = false ∧
      (run bytesFile []).code = .error f := by
  have hfile : Settings.file? bytesFile.workspace none = some "/.swagcomment.yaml" := by decide +kernel
  have hbytes : bytesFile.workspace.read "/.swagcomment.yaml" = .ok [0xff] :=
    Settings.toOption_eq_some_iff.1 (by decide +kernel)
  have hfault : Text.decodeByBlocks [0xff] = .error ⟨0, 1, 0xff, .startByte⟩ := rfl
  have hescapes : Escapes bytesFile.workspace none (.undecodable ⟨0, 1, 0xff, .startByte⟩) :=
    ⟨_, hfile, _, hbytes, hfault⟩
  have hsettings : settingsFor bytesFile {} = .error (.undecodable ⟨0, 1, 0xff, .startByte⟩) :=
    Settings.resolve_of_escapes hescapes
  refine ⟨_, Settings.resolve_of_escapes hescapes, rfl, ?_⟩
  change (perform bytesFile {}).code = _
  unfold perform
  rw [hsettings]
  rfl

end CommandLine

end RouteDoc
