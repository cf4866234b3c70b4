/-
Settings from several layers.

The file, the environment and what is asked for directly are laid over the
defaults one after the other, and each time the settings are checked. What comes
out is what one check of the values of the highest layers makes
(`resolve_merges`): `highest` picks them, setting by setting. A layer in between
can still be refused where the settings of all layers together are valid, and
only because it gives one name to both groups of routes (`resolve_accepts`).
-/
import RouteDoc.Proofs.Settings.Checking

namespace RouteDoc

/-! ## The highest layer -/

namespace Layer

/-- The value of the first of some layers that gives the setting one, or else the default. -/
def highest (layers : List Layer) : RawSettings := fun s =>
  (layers.findSome? fun l => l.given.value? s).getD (Settings.defaults s)

/-- All settings by name, each with the value of the first layer that gives it one. -/
def merged (layers : List Layer) : Layer := Setting.all.map fun s => (s.key, highest layers s)

theorem highest_nil : highest [] = Settings.defaults := rfl

theorem highest_cons (l : Layer) (layers : List Layer) : highest (l :: layers) = l.given.onTop (highest layers) := by
  funext s
  unfold highest onTop
  rw [List.findSome?_cons]
  cases l.given.value? s <;> rfl

/-- What a layer that has some settings from a list of values gives them. -/
theorem value?_map (raw : RawSettings) (ss : List Setting) (s : Setting) :
    value? (ss.map fun s => (s.key, raw s)) s = if s ∈ ss then some (raw s) else none := by
  have hkey : ((fun e : String × Value => e.1 == s.key) ∘ fun s => (s.key, raw s)) = fun t => t == s := by
    funext t
    rw [Function.comp_apply, Bool.eq_iff_iff, beq_iff_eq, beq_iff_eq]
    exact ⟨Setting.key_injective, congrArg Setting.key⟩
  unfold value?
  rw [← List.map_reverse, List.find?_map, hkey]
  split
  · rename_i hs
    obtain ⟨t, ht⟩ := Option.isSome_iff_exists.1
      (List.find?_isSome.2 ⟨s, List.mem_reverse.2 hs, beq_self_eq_true s⟩ :
        (ss.reverse.find? fun t => t == s).isSome)
    obtain rfl : t = s := beq_iff_eq.1 (List.find?_some (p := fun t => t == s) ht)
    rw [ht]
    rfl
  · rename_i hs
    have hnone : (ss.reverse.find? fun t => t == s) = none := by
      rw [List.find?_eq_none]
      intro t ht hts
      exact hs (beq_iff_eq.1 hts ▸ List.mem_reverse.1 ht)
    rw [hnone]
    rfl

theorem known_map (raw : RawSettings) (ss : List Setting) : Known (ss.map fun s => (s.key, raw s)) := by
  intro e he
  obtain ⟨s, -, rfl⟩ := List.mem_map.1 he
  rw [Setting.ofKey?_key]
  rfl

end Layer

namespace Settings

variable {processors : Option Int} {w : Workspace} {path : Option String} {env : Environment}
  {asked file fromEnv l : Layer} {raw : RawSettings} {c : Settings}

open Layer

/-- Settings made at once from the values of the highest layers. -/
theorem make_merged (layers : List Layer) :
    make processors (merged layers) = (check processors (highest layers)).mapError .settings := by
  have hnone : ((merged layers).find? fun e => (Setting.ofKey? e.1).isNone) = none := by
    rw [List.find?_eq_none]
    intro e he
    have hknown := known_map (highest layers) Setting.all e he
    rw [Option.isSome_iff_ne_none] at hknown
    simpa using hknown
  have hraw : (merged layers).onTop defaults = highest layers := by
    funext s
    unfold onTop merged
    rw [value?_map, if_pos s.mem_all]
    rfl
  unfold make
  rw [hnone, hraw]

/-- Settings are not changed by any of their own values. -/
theorem override_own (hc : c.Valid) (ss : List Setting) :
    c.override processors (ss.map fun s => (s.key, c.raw s)) = .ok c := by
  have hgiven : given (ss.map fun s => (s.key, c.raw s)) = ss.map fun s => (s.key, c.raw s) := by
    rw [given, List.filter_eq_self]
    intro e he
    obtain ⟨s, -, rfl⟩ := List.mem_map.1 he
    cases s <;> rfl
  have hraw : onTop (ss.map fun s => (s.key, c.raw s)) c.raw = c.raw := by
    funext s
    unfold onTop
    rw [value?_map]
    split <;> rfl
  rw [override_eq_ok_iff hc, hgiven, hraw]
  exact ⟨known_map c.raw ss, check_raw hc⟩

/-! ## The layers of a run -/

/-- The layer of the settings file, where there is one. -/
def fileLayer (w : Workspace) (path : Option String) : Except Failure Layer :=
  match path.orElse fun _ => find w none with
  | none => .ok []
  | some path => loadFile w path >>= layerOf

theorem defaultConcurrency_pos (processors : Option Int) : 1 ≤ defaultConcurrency processors :=
  Int.le_trans (by decide) (Int.le_max_left 2 _)

/-- The defaults make settings. -/
theorem defaults_make (processors : Option Int) :
    ∃ c, check processors defaults = .ok c ∧ make processors [] = .ok c := by
  let c : Settings := ⟨"./internal/api/http/web/handler", "./internal/api/http/web/router.go",
    ["./internal/api/http/web/types/*.go", "./pkg/types/*.go"], "*_handler.go", "BearerAuth", "",
    defaultConcurrency processors, true, "authorized", "api", false⟩
  have hcheck : check processors defaults = .ok c := by
    refine check_eq_ok_iff.2 ⟨fun s => ?_, defaultConcurrency_pos processors, ?_, ?_, ?_, ?_, ?_⟩
    · cases s with
      | concurrency => exact ⟨0, rfl, rfl⟩
      | _ => rfl
    all_goals
      dsimp only [c]
      decide
  have hmake : make processors [] = (check processors defaults).mapError .settings := rfl
  exact ⟨c, hcheck, by rw [hmake, hcheck]; rfl⟩

theorem override_nil (c : Settings) : c.override processors [] = .ok c := by
  have hknown : (unknown []).isEmpty = true := unknown_isEmpty_iff.2 known_nil
  unfold override
  rw [hknown]
  rfl

/-- Three layers, one after the other. -/
theorem resolve_eq (processors : Option Int) (w : Workspace) (path : Option String) (env : Environment)
    (asked : Layer) :
    resolve processors w path env asked = (do
      let c ← make processors []
      let file ← fileLayer w path
      let c ← c.override processors file
      let fromEnv ← (environmentLayer env).mapError .settings
      let c ← c.override processors fromEnv
      c.override processors asked) := by
  unfold resolve fileLayer
  cases make processors [] with
  | error _ => rfl
  | ok c =>
    cases path.orElse fun _ => find w none with
    | none =>
      change _ = (c.override processors [] >>= _)
      rw [override_nil]
      rfl
    | some path =>
      change ((loadFile w path >>= _) >>= _) = ((loadFile w path >>= layerOf) >>= _)
      cases loadFile w path with
      | error _ => rfl
      | ok entries =>
        change ((layerOf entries >>= _) >>= _) = (layerOf entries >>= _)
        cases layerOf entries <;> rfl

/-- The environment gives settings only. -/
theorem environmentLayer_known (h : environmentLayer env = .ok fromEnv) : fromEnv.Known := by
  have hvariables : ∀ (names : List (String × Setting)) (l : Layer), layerOfVariables env names = .ok l → l.Known := by
    intro names
    induction names with
    | nil =>
      intro l hl
      obtain rfl := Except.ok.inj hl
      exact known_nil
    | cons named names ih =>
      intro l hl
      unfold layerOfVariables at hl
      split at hl
      · exact ih l hl
      · obtain ⟨v, -, hl⟩ := bind_eq_ok_iff.1 hl
        obtain ⟨more, hmore, hl⟩ := bind_eq_ok_iff.1 hl
        obtain rfl := Except.ok.inj hl
        intro e he
        rcases List.mem_cons.1 he with rfl | he
        · rw [Setting.ofKey?_key]
          rfl
        · exact ih more hmore e he
  exact hvariables _ _ h

/-- What a layer makes over settings is what it makes over the values they come from. -/
theorem override_made (h : check processors raw = .ok c) {d : Settings} :
    c.override processors l = .ok d ↔ l.Known ∧ check processors (l.given.onTop raw) = .ok d := by
  rw [override_eq_ok_iff (check_eq_ok_iff.1 h).2, check_onTop_raw h]

/-- Settings come out exactly when each layer leaves valid ones. -/
theorem resolve_eq_ok_iff : resolve processors w path env asked = .ok c ↔
    ∃ file fromEnv, fileLayer w path = .ok file ∧ environmentLayer env = .ok fromEnv ∧ file.Known ∧ asked.Known ∧
      (∃ d, check processors (highest [file]) = .ok d) ∧ (∃ d, check processors (highest [fromEnv, file]) = .ok d) ∧
      check processors (highest [asked, fromEnv, file]) = .ok c := by
  obtain ⟨c₀, hc₀, hmake⟩ := defaults_make processors
  rw [resolve_eq, hmake]
  change (fileLayer w path >>= _) = _ ↔ _
  simp only [highest_cons, highest_nil, bind_eq_ok_iff, mapError_eq_ok_iff]
  constructor
  · rintro ⟨file, hfile, c₁, h₁, fromEnv, henv, c₂, h₂, h₃⟩
    obtain ⟨hfileKnown, h₁⟩ := (override_made hc₀).1 h₁
    obtain ⟨-, h₂⟩ := (override_made h₁).1 h₂
    obtain ⟨haskedKnown, h₃⟩ := (override_made h₂).1 h₃
    exact ⟨file, fromEnv, hfile, henv, hfileKnown, haskedKnown, ⟨c₁, h₁⟩, ⟨c₂, h₂⟩, h₃⟩
  · rintro ⟨file, fromEnv, hfile, henv, hfileKnown, haskedKnown, ⟨c₁, h₁⟩, ⟨c₂, h₂⟩, h₃⟩
    exact ⟨file, hfile, c₁, (override_made hc₀).2 ⟨hfileKnown, h₁⟩, fromEnv, henv, c₂,
      (override_made h₁).2 ⟨environmentLayer_known henv, h₂⟩, (override_made h₂).2 ⟨haskedKnown, h₃⟩⟩

/-- **Layers merge setting by setting.** Where settings come out of the layers, they are those made at
once from the values of the highest layers; they are valid; and they stay the same under any of their
own values. -/
theorem resolve_merges (h : resolve processors w path env asked = .ok c) :
    (∃ file fromEnv, fileLayer w path = .ok file ∧ environmentLayer env = .ok fromEnv ∧
      make processors (merged [asked, fromEnv, file]) = .ok c) ∧
    c.Valid ∧ ∀ ss : List Setting, c.override processors (ss.map fun s => (s.key, c.raw s)) = .ok c := by
  obtain ⟨file, fromEnv, hfile, henv, -, -, -, -, hcheck⟩ := resolve_eq_ok_iff.1 h
  have hvalid := (check_eq_ok_iff.1 hcheck).2
  refine ⟨⟨file, fromEnv, hfile, henv, ?_⟩, hvalid, override_own hvalid⟩
  rw [make_merged]
  exact mapError_eq_ok_iff.2 hcheck

/-- A settings file in the working directory. -/
def layered : Workspace where
  entries := [([".swagcomment.yaml"], .file (Text.utf8 "authorized_group: private\nverbose: ~\nconcurrency: 3\n"))]
  cwd := []

/-- A file, a variable and two values that are asked for. -/
theorem resolve_merges_layered :
    ∃ c, resolve (some 4) layered none [("SWAGCOMMENT_CONCURRENCY", "0")]
        [("public_group", .str "open"), ("types_paths", .str "a/*.go, b/*.go")] = .ok c ∧
      c.authorizedGroup = "private" ∧ c.publicGroup = "open" ∧ c.verbose = true ∧ c.concurrency = 4 ∧
      c.typesPaths = ["a/*.go", "b/*.go"] ∧
      (∃ file fromEnv, fileLayer layered none = .ok file ∧
        environmentLayer [("SWAGCOMMENT_CONCURRENCY", "0")] = .ok fromEnv ∧
        make (some 4) (merged [[("public_group", .str "open"), ("types_paths", .str "a/*.go, b/*.go")], fromEnv, file]) =
          .ok c) ∧
      c.override (some 4) (Setting.all.map fun s => (s.key, c.raw s)) = .ok c := by
  have hevaluates : (resolve (some 4) layered none [("SWAGCOMMENT_CONCURRENCY", "0")]
      [("public_group", .str "open"), ("types_paths", .str "a/*.go, b/*.go")]).toOption.map (fun c =>
        (c.authorizedGroup, c.publicGroup, c.verbose, c.concurrency, c.typesPaths)) =
      some ("private", "open", true, 4, ["a/*.go", "b/*.go"]) := by decide +kernel
  obtain ⟨c, hc, hvalues⟩ := Option.map_eq_some_iff.1 hevaluates
  have hresolve := toOption_eq_some_iff.1 hc
  simp only [Prod.mk.injEq] at hvalues
  obtain ⟨h1, h2, h3, h4, h5⟩ := hvalues
  obtain ⟨hmerged, -, hown⟩ := resolve_merges hresolve
  exact ⟨c, hresolve, h1, h2, h3, h4, h5, hmerged, hown Setting.all⟩

end Settings

/-! ## Values that are acceptable on their own -/

/-- The values that a setting can have, whatever the others are. -/
def Setting.Accepts : Setting → Value → Prop
  | .handlerDir, v | .routerFile, v | .apiLead, v => ∃ t, v = .str t
  | .handlerPattern, v | .securityScheme, v | .authorizedGroup, v | .publicGroup, v => ∃ t, t ≠ "" ∧ v = .str t
  | .typesPaths, v => (∃ t, v = .str t) ∨ ∃ ts : List String, v = .list (ts.map .str) ∨ v = .tuple (ts.map .str)
  | .concurrency, v => ∃ n : Int, 0 ≤ n ∧ v = .int n
  | .verbose, v | .dryRun, v => ∃ b, v = .bool b

/-- Each value is one that its setting can have. -/
def Layer.Acceptable (l : Layer) : Prop := ∀ s v, (Setting.key s, v) ∈ l.given → s.Accepts v

theorem Layer.known_acceptable_iff {l : Layer} :
    l.Known ∧ l.Acceptable ↔ ∀ e ∈ l, ∃ s : Setting, e.1 = s.key ∧ (isNull e.2 = true ∨ s.Accepts e.2) := by
  constructor
  · rintro ⟨hknown, hvalues⟩ e he
    obtain ⟨s, hs⟩ := Option.isSome_iff_exists.1 (hknown e he)
    have hkey : s.key = e.1 := by simpa using List.find?_some hs
    refine ⟨s, hkey.symm, ?_⟩
    by_cases hnull : isNull e.2 = true
    · exact .inl hnull
    · refine .inr (hvalues s e.2 ?_)
      rw [hkey]
      exact List.mem_filter.2 ⟨he, by simpa using hnull⟩
  · intro h
    constructor
    · intro e he
      obtain ⟨s, hs, -⟩ := h e he
      rw [hs, Setting.ofKey?_key]
      rfl
    · intro s v hv
      obtain ⟨hmem, hnull⟩ := List.mem_filter.1 hv
      obtain ⟨t, ht, hnull' | haccepts⟩ := h _ hmem
      · rw [hnull'] at hnull
        cases hnull
      · rw [Setting.key_injective ht]
        exact haccepts

/-- The name that values give to both groups of routes. -/
def RawSettings.sharedGroup? (raw : RawSettings) : Option String :=
  match raw .authorizedGroup, raw .publicGroup with
  | .str authorized, .str other => if authorized == other then some other else none
  | _, _ => none

namespace Settings

variable {processors : Option Int} {w : Workspace} {path : Option String} {env : Environment}
  {asked file fromEnv l : Layer} {raw : RawSettings} {c : Settings}

open Layer

theorem chosenConcurrency_pos {n : Int} (h : 0 ≤ n) : 1 ≤ chosenConcurrency processors n := by
  unfold chosenConcurrency
  split
  · exact defaultConcurrency_pos processors
  · rename_i hn
    rw [beq_iff_eq] at hn
    omega

theorem typesPathsOf_accepts {v : Value} (h : Setting.typesPaths.Accepts v) :
    ∃ found : List String, typesPathsOf v = .ok (found.map .str) := by
  obtain ⟨t, rfl⟩ | ⟨ts, rfl | rfl⟩ := h
  · exact ⟨splitList t, rfl⟩
  · exact ⟨ts, rfl⟩
  · exact ⟨ts, rfl⟩

/-- Values that are acceptable one by one make settings, unless both groups have one name. -/
theorem check_of_accepts (processors : Option Int) (h : ∀ s : Setting, s.Accepts (raw s)) :
    (∃ group, raw.sharedGroup? = some group ∧ check processors raw = .error (.equalGroups group)) ∨
      raw.sharedGroup? = none ∧ ∃ c, check processors raw = .ok c := by
  obtain ⟨handlerDir, hdir⟩ := h .handlerDir
  obtain ⟨routerFile, hrouter⟩ := h .routerFile
  obtain ⟨apiLead, hlead⟩ := h .apiLead
  obtain ⟨typesPaths, htypes⟩ := typesPathsOf_accepts (h .typesPaths)
  obtain ⟨handlerPattern, hpattern, hpattern'⟩ := h .handlerPattern
  obtain ⟨securityScheme, hscheme, hscheme'⟩ := h .securityScheme
  obtain ⟨authorizedGroup, hauthorized, hauthorized'⟩ := h .authorizedGroup
  obtain ⟨publicGroup, hpublic, hpublic'⟩ := h .publicGroup
  obtain ⟨n, hn, hconcurrency⟩ := h .concurrency
  obtain ⟨verbose, hverbose⟩ := h .verbose
  obtain ⟨dryRun, hdry⟩ := h .dryRun
  let c : Settings := ⟨handlerDir, routerFile, typesPaths, handlerPattern, securityScheme, apiLead,
    chosenConcurrency processors n, verbose, authorizedGroup, publicGroup, dryRun⟩
  have hgives : ∀ s, Gives processors c s (raw s) := by
    intro s
    cases s with
    | typesPaths => exact htypes
    | concurrency => exact ⟨n, hconcurrency, rfl⟩
    | _ => assumption
  have hshared : raw.sharedGroup? = if authorizedGroup == publicGroup then some publicGroup else none := by
    unfold RawSettings.sharedGroup?
    rw [hauthorized', hpublic']
  have hpositive : ¬c.concurrency < 1 := Int.not_lt.2 (chosenConcurrency_pos hn)
  have hfault : c.fault? = if authorizedGroup == publicGroup then some (.equalGroups publicGroup) else none := by
    simp [fault?, hpositive, c, hscheme, hpattern, hauthorized, hpublic]
  rw [check_of_gives hgives, hfault, hshared]
  split
  · exact .inl ⟨publicGroup, rfl, rfl⟩
  · exact .inr ⟨rfl, c, rfl⟩

theorem Valid.accepts (hc : c.Valid) (s : Setting) : s.Accepts (c.raw s) := by
  have hpositive := hc.concurrency
  cases s with
  | typesPaths => exact .inr ⟨c.typesPaths, .inr rfl⟩
  | concurrency => exact ⟨c.concurrency, by omega, rfl⟩
  | handlerPattern => exact ⟨_, hc.handlerPattern, rfl⟩
  | securityScheme => exact ⟨_, hc.securityScheme, rfl⟩
  | authorizedGroup => exact ⟨_, hc.authorizedGroup, rfl⟩
  | publicGroup => exact ⟨_, hc.publicGroup, rfl⟩
  | _ => exact ⟨_, rfl⟩

theorem accepts_onTop (hl : l.Acceptable) (h : ∀ s : Setting, s.Accepts (raw s)) (s : Setting) :
    s.Accepts (l.given.onTop raw s) := by
  unfold onTop
  cases hv : l.given.value? s with
  | none => exact h s
  | some v =>
    unfold value? at hv
    obtain ⟨e, he, rfl⟩ := Option.map_eq_some_iff.1 hv
    have hkey : e.1 = s.key := by simpa using List.find?_some he
    have hmem := List.mem_reverse.1 (List.mem_of_find?_eq_some he)
    exact hl s e.2 (by rw [← hkey]; exact hmem)

/-- Which groups a layer leaves over settings can be told from the values they come from. -/
theorem sharedGroup?_onTop_raw (h : check processors raw = .ok c) (l : Layer) :
    (l.onTop c.raw).sharedGroup? = (l.onTop raw).sharedGroup? := by
  have hgives := (check_eq_ok_iff.1 h).1
  have hauthorized : raw .authorizedGroup = c.raw .authorizedGroup := hgives .authorizedGroup
  have hpublic : raw .publicGroup = c.raw .publicGroup := hgives .publicGroup
  unfold RawSettings.sharedGroup? onTop
  rw [hauthorized, hpublic]

/-- A layer of acceptable values is refused only where it leaves one name for both groups. -/
theorem override_of_acceptable (hc : check processors raw = .ok c) (hknown : l.Known) (hl : l.Acceptable) :
    (∃ group, (l.given.onTop raw).sharedGroup? = some group ∧
      c.override processors l = .error (.settings (.equalGroups group))) ∨
    (l.given.onTop raw).sharedGroup? = none ∧
      ∃ d, c.override processors l = .ok d ∧ check processors (l.given.onTop raw) = .ok d := by
  have hvalid := (check_eq_ok_iff.1 hc).2
  rw [override_of_known hvalid hknown, ← sharedGroup?_onTop_raw hc]
  rcases check_of_accepts processors (accepts_onTop hl hvalid.accepts) with
    ⟨group, hshared, hcheck⟩ | ⟨hshared, d, hcheck⟩
  · exact .inl ⟨group, hshared, by rw [hcheck]; rfl⟩
  · exact .inr ⟨hshared, d, by rw [hcheck]; rfl, (check_onTop_raw hc _).1 hcheck⟩

/-- **What becomes of acceptable layers.** Where each value of each layer is acceptable and the values
of the highest layers make settings, these settings come out, unless the file alone or the file with
the environment leaves one name for both groups of routes. -/
theorem resolve_accepts (hfile : fileLayer w path = .ok file) (henv : environmentLayer env = .ok fromEnv)
    (hknown : ∀ l ∈ [file, asked], l.Known) (hvalues : ∀ l ∈ [file, fromEnv, asked], l.Acceptable)
    (hmerged : make processors (merged [asked, fromEnv, file]) = .ok c) :
    resolve processors w path env asked =
      match (highest [file]).sharedGroup?.or (highest [fromEnv, file]).sharedGroup? with
      | some group => .error (.settings (.equalGroups group))
      | none => .ok c := by
  obtain ⟨c₀, hc₀, hmake⟩ := defaults_make processors
  rw [make_merged, mapError_eq_ok_iff] at hmerged
  simp only [highest_cons, highest_nil] at hmerged ⊢
  rw [resolve_eq, hmake, hfile, henv]
  change (c₀.override processors file >>= _) = _
  rcases override_of_acceptable hc₀ (hknown file (by simp)) (hvalues file (by simp)) with
    ⟨group, hshared, hover⟩ | ⟨hshared, c₁, hover, hc₁⟩
  · rw [hshared, hover]
    rfl
  rw [hshared, hover, Option.none_or]
  change (c₁.override processors fromEnv >>= _) = _
  rcases override_of_acceptable hc₁ (environmentLayer_known henv) (hvalues fromEnv (by simp)) with
    ⟨group, hshared, hover⟩ | ⟨hshared, c₂, hover, hc₂⟩
  · rw [hshared, hover]
    rfl
  rw [hshared, hover]
  exact (override_made hc₂).2 ⟨hknown asked (by simp), hmerged⟩

theorem fileLayer_none : fileLayer ⟨[], []⟩ none = .ok [] := by
  have hfind : find ⟨[], []⟩ none = none := by decide +kernel
  simp [fileLayer, hfind]

/-- Each group comes from another layer, and with each layer there are two. -/
theorem resolve_accepts_twoGroups :
    ∃ c, resolve (some 4) ⟨[], []⟩ none [("SWAGCOMMENT_PUBLIC_GROUP", "open"), ("SWAGCOMMENT_CONCURRENCY", " 0 ")]
      [("authorized_group", .str "api"), ("verbose", .null)] =
      .ok c ∧ c.authorizedGroup = "api" ∧ c.publicGroup = "open" ∧ c.concurrency = 4 := by
  let fromEnv : Layer := [("concurrency", .int 0), ("public_group", .str "open")]
  let asked : Layer := [("authorized_group", .str "api"), ("verbose", .null)]
  have hfile : Known [] ∧ Acceptable [] := known_acceptable_iff.2 (by intro e he; cases he)
  have hfromEnv : fromEnv.Known ∧ fromEnv.Acceptable := known_acceptable_iff.2 <| by
    intro e he
    simp only [fromEnv, List.mem_cons, List.not_mem_nil, or_false] at he
    rcases he with rfl | rfl
    · exact ⟨.concurrency, rfl, .inr ⟨0, by decide, rfl⟩⟩
    · exact ⟨.publicGroup, rfl, .inr ⟨"open", by decide, rfl⟩⟩
  have hasked : asked.Known ∧ asked.Acceptable := known_acceptable_iff.2 <| by
    intro e he
    simp only [asked, List.mem_cons, List.not_mem_nil, or_false] at he
    rcases he with rfl | rfl
    · exact ⟨.authorizedGroup, rfl, .inr ⟨"api", by decide, rfl⟩⟩
    · exact ⟨.verbose, rfl, .inl rfl⟩
  have henv : environmentLayer [("SWAGCOMMENT_PUBLIC_GROUP", "open"), ("SWAGCOMMENT_CONCURRENCY", " 0 ")] =
      .ok fromEnv := rfl
  have hmerged : make (some 4) (merged [asked, fromEnv, []]) = .ok _ := rfl
  have hresolve := resolve_accepts fileLayer_none henv
    (by simp only [List.forall_mem_cons]; exact ⟨hfile.1, hasked.1, nofun⟩)
    (by simp only [List.forall_mem_cons]; exact ⟨hfile.2, hfromEnv.2, hasked.2, nofun⟩) hmerged
  exact ⟨_, hresolve, rfl, rfl, rfl⟩

/-- Two groups that differ are refused where the environment gives the one the default name of the other. -/
theorem resolve_refuses_groups :
    ∃ (fromEnv asked : Layer) (c : Settings), asked = [("public_group", .str "open")] ∧
      environmentLayer [("SWAGCOMMENT_AUTHORIZED_GROUP", "api")] = .ok fromEnv ∧ fileLayer ⟨[], []⟩ none = .ok [] ∧
      (fromEnv.Known ∧ fromEnv.Acceptable) ∧ (asked.Known ∧ asked.Acceptable) ∧
      make (some 4) (merged [asked, fromEnv, []]) = .ok c ∧
      resolve (some 4) ⟨[], []⟩ none [("SWAGCOMMENT_AUTHORIZED_GROUP", "api")] asked =
        .error (.settings (.equalGroups "api")) := by
  have hfromEnv : Known [("authorized_group", .str "api")] ∧ Acceptable [("authorized_group", .str "api")] :=
    known_acceptable_iff.2 <| by
      intro e he
      obtain rfl := List.mem_singleton.1 he
      exact ⟨.authorizedGroup, rfl, .inr ⟨"api", by decide, rfl⟩⟩
  have hasked : Known [("public_group", .str "open")] ∧ Acceptable [("public_group", .str "open")] :=
    known_acceptable_iff.2 <| by
      intro e he
      obtain rfl := List.mem_singleton.1 he
      exact ⟨.publicGroup, rfl, .inr ⟨"open", by decide, rfl⟩⟩
  have henv : environmentLayer [("SWAGCOMMENT_AUTHORIZED_GROUP", "api")] = .ok [("authorized_group", .str "api")] := rfl
  refine ⟨_, _, _, rfl, henv, fileLayer_none, hfromEnv, hasked, rfl, ?_⟩
  obtain ⟨c₀, hc₀, hmake⟩ := defaults_make (some 4)
  rw [resolve_eq, hmake, fileLayer_none, henv]
  change (c₀.override (some 4) [] >>= _) = _
  rw [override_nil]
  change (c₀.override (some 4) [("authorized_group", .str "api")] >>= _) = _
  have hshared : (onTop (given [("authorized_group", .str "api")]) defaults).sharedGroup? = some "api" := rfl
  rcases override_of_acceptable hc₀ hfromEnv.1 hfromEnv.2 with ⟨group, hgroup, hover⟩ | ⟨hnone, -⟩
  · obtain rfl := Option.some.inj (hshared.symm.trans hgroup)
    rw [hover]
    rfl
  · cases hshared.symm.trans hnone

end Settings

end RouteDoc
