/-
What the check of settings accepts.

`Gives` says what a value means for one setting, and `Valid` what settings must
be as a whole. Values make settings exactly when each of them gives its setting
and the settings are valid (`check_eq_ok_iff`). Settings that are valid give
themselves, so a value may be replaced by what it has already been read as
(`check_onTop_raw`).
-/
import RouteDoc.Settings.File

namespace RouteDoc

namespace Setting

theorem mem_all (s : Setting) : s ∈ all := by cases s <;> decide

theorem ofKey?_key (s : Setting) : ofKey? s.key = some s := by cases s <;> decide

theorem key_injective {s t : Setting} (h : s.key = t.key) : s = t := by
  have hkeys := congrArg ofKey? h
  rw [ofKey?_key, ofKey?_key] at hkeys
  exact Option.some.inj hkeys

end Setting

namespace Settings

variable {processors : Option Int} {raw : RawSettings} {c d : Settings} {v : Value} {s : Setting}

theorem bind_eq_ok_iff {ε α β : Type} {x : Except ε α} {f : α → Except ε β} {b : β} :
    (x >>= f) = .ok b ↔ ∃ a, x = .ok a ∧ f a = .ok b := by
  cases x with
  | error e =>
    constructor
    · intro h; cases h
    · rintro ⟨_, h, -⟩; cases h
  | ok a =>
    constructor
    · exact fun h => ⟨a, rfl, h⟩
    · rintro ⟨_, h, h'⟩
      exact Except.ok.inj h ▸ h'

theorem mapError_eq_ok_iff {ε ε' α : Type} {f : ε → ε'} {x : Except ε α} {a : α} :
    x.mapError f = .ok a ↔ x = .ok a := by
  cases x with
  | error e =>
    constructor
    · intro h; cases h
    · intro h; cases h
  | ok b =>
    constructor
    · intro h; cases h; rfl
    · intro h; cases h; rfl

theorem toOption_eq_some_iff {ε α : Type} {x : Except ε α} {a : α} : x.toOption = some a ↔ x = .ok a := by
  cases x with
  | error e =>
    constructor
    · intro h; cases h
    · intro h; cases h
  | ok b =>
    constructor
    · intro h; cases h; rfl
    · intro h; cases h; rfl

/-! ## Valid settings -/

/-- What holds of settings as a whole. -/
structure Valid (c : Settings) : Prop where
  concurrency : 1 ≤ c.concurrency
  securityScheme : c.securityScheme ≠ ""
  handlerPattern : c.handlerPattern ≠ ""
  authorizedGroup : c.authorizedGroup ≠ ""
  publicGroup : c.publicGroup ≠ ""
  groups : c.authorizedGroup ≠ c.publicGroup

theorem fault?_eq_none_iff : c.fault? = none ↔ c.Valid := by
  unfold fault?
  constructor
  · intro h
    split at h
    · cases h
    split at h
    · cases h
    split at h
    · cases h
    split at h
    · cases h
    split at h
    · cases h
    rename_i h1 h2 h3 h4 h5
    simp only [Bool.or_eq_true, String.isEmpty_iff, beq_iff_eq, not_or, Int.not_lt] at h1 h2 h3 h4 h5
    exact ⟨h1, h2, h3, h4.1, h4.2, h5⟩
  · rintro ⟨h1, h2, h3, h4, h5, h6⟩
    have h1 : ¬c.concurrency < 1 := by omega
    simp [h1, h2, h3, h4, h5, h6]

/-! ## What values mean -/

/-- The number of files handled at once that a number asks for: zero leaves the choice open. -/
def chosenConcurrency (processors : Option Int) (n : Int) : Int :=
  if n == 0 then defaultConcurrency processors else n

/-- The value makes the setting what it is in `c`. -/
def Gives (processors : Option Int) (c : Settings) : Setting → Value → Prop
  | .typesPaths, v => typesPathsOf v = .ok (c.typesPaths.map .str)
  | .concurrency, v => ∃ n, v = .int n ∧ c.concurrency = chosenConcurrency processors n
  | s, v => v = c.raw s

theorem text_eq_ok_iff {t : String} : text s v = .ok t ↔ v = .str t := by
  cases v <;> simp [text]

theorem integer_eq_ok_iff {n : Int} : integer s v = .ok n ↔ v = .int n := by
  cases v <;> simp [integer]

theorem truth_eq_ok_iff {b : Bool} : truth s v = .ok b ↔ v = .bool b := by
  cases v <;> simp [truth]

theorem mapM_eq_some_iff {α β : Type} {f : α → Option β} {g : β → α} (h : ∀ a b, f a = some b ↔ a = g b)
    {as : List α} {bs : List β} : as.mapM f = some bs ↔ as = bs.map g := by
  induction as generalizing bs with
  | nil => cases bs <;> simp
  | cons a as ih =>
    rw [List.mapM_cons]
    simp only [Option.bind_eq_bind, Option.bind_eq_some_iff, Option.pure_def, Option.some_inj, h, ih]
    constructor
    · rintro ⟨b, rfl, bs, rfl, rfl⟩
      rfl
    · intro hmap
      cases bs with
      | nil => cases hmap
      | cons b bs =>
        obtain ⟨hb, hbs⟩ := List.cons.inj hmap
        exact ⟨b, hb, bs, hbs, rfl⟩

theorem map_str_inj {found found' : List String} : found.map Value.str = found'.map Value.str ↔ found = found' :=
  List.map_inj_right fun _ _ h => Value.str.inj h

theorem texts_eq_ok_iff {items : List Value} {found : List String} :
    texts items = .ok found ↔ items = found.map .str := by
  unfold texts
  dsimp only
  split
  · rename_i found' hfound
    have hitems : items = found'.map .str := (mapM_eq_some_iff (by intro a b; cases a <;> simp)).1 hfound
    rw [hitems, map_str_inj, Except.ok.injEq]
  · rename_i hnone
    constructor
    · intro h; cases h
    · intro hitems
      cases hnone.symm.trans ((mapM_eq_some_iff (by intro a b; cases a <;> simp)).2 hitems)

theorem typed_eq_ok_iff : typed raw = .ok c ↔
    typesPathsOf (raw .typesPaths) = .ok (c.typesPaths.map .str) ∧ raw .concurrency = .int c.concurrency ∧
      ∀ s, s ≠ .typesPaths → s ≠ .concurrency → raw s = c.raw s := by
  simp only [typed, bind_eq_ok_iff, text_eq_ok_iff, integer_eq_ok_iff, truth_eq_ok_iff, texts_eq_ok_iff]
  constructor
  · rintro ⟨_, htypes, _, h1, _, h2, _, rfl, _, h3, _, h4, _, h5, _, h6, _, h7, _, h8, _, h9, _, h10, hc⟩
    obtain rfl := Except.ok.inj hc
    refine ⟨htypes, h6, fun s hs hs' => ?_⟩
    cases s with
    | typesPaths => exact absurd rfl hs
    | concurrency => exact absurd rfl hs'
    | _ => assumption
  · rintro ⟨htypes, hconcurrency, h⟩
    exact ⟨_, htypes, _, h .handlerDir nofun nofun, _, h .routerFile nofun nofun, _, rfl,
      _, h .handlerPattern nofun nofun, _, h .securityScheme nofun nofun, _, h .apiLead nofun nofun, _, hconcurrency,
      _, h .verbose nofun nofun, _, h .authorizedGroup nofun nofun, _, h .publicGroup nofun nofun,
      _, h .dryRun nofun nofun, rfl⟩

/-! ## The check -/

/-- Values that give all settings make these settings, unless they are at fault as a whole. -/
theorem check_of_gives (h : ∀ s, Gives processors c s (raw s)) :
    check processors raw = match c.fault? with
      | some fault => .error fault
      | none => .ok c := by
  obtain ⟨n, hn, hc⟩ := h .concurrency
  have htyped : typed raw = .ok { c with concurrency := n } := by
    refine typed_eq_ok_iff.2 ⟨h .typesPaths, hn, fun s hs hs' => ?_⟩
    have hvalue := h s
    cases s with
    | typesPaths => exact absurd rfl hs
    | concurrency => exact absurd rfl hs'
    | _ => exact hvalue
  have hsettle : settle processors { c with concurrency := n } = c := by
    unfold chosenConcurrency at hc
    unfold settle
    dsimp only
    split at hc
    · rename_i hzero
      rw [if_pos hzero, ← hc]
    · rename_i hzero
      rw [if_neg hzero, ← hc]
  unfold check
  rw [htyped]
  simp only [bind, Except.bind, hsettle]
  cases c.fault? <;> rfl

/-- **Values make settings** exactly when each gives its setting and the settings are valid. -/
theorem check_eq_ok_iff :
    check processors raw = .ok c ↔ (∀ s, Gives processors c s (raw s)) ∧ c.Valid := by
  constructor
  · intro h
    obtain ⟨d, hd, h⟩ := bind_eq_ok_iff.1 h
    dsimp only at h
    split at h
    · cases h
    · rename_i hfault
      obtain rfl := Except.ok.inj h
      refine ⟨fun s => ?_, fault?_eq_none_iff.1 hfault⟩
      obtain ⟨htypes, hconcurrency, hd⟩ := typed_eq_ok_iff.1 hd
      unfold settle
      cases s with
      | typesPaths => split <;> exact htypes
      | concurrency =>
        refine ⟨d.concurrency, hconcurrency, ?_⟩
        unfold chosenConcurrency
        split <;> rfl
      | _ => split <;> exact hd _ nofun nofun
  · rintro ⟨hgives, hvalid⟩
    rw [check_of_gives hgives, fault?_eq_none_iff.2 hvalid]

/-! ## Settings as values -/

/-- A setting read as `c` has it may be replaced by the value that `c` has for it. -/
theorem gives_raw_iff (hc : c.Valid) (h : Gives processors c s v) :
    Gives processors d s (c.raw s) ↔ Gives processors d s v := by
  cases s with
  | typesPaths =>
    change typesPathsOf (.tuple _) = _ ↔ typesPathsOf v = _
    rw [show typesPathsOf v = _ from h]
    rfl
  | concurrency =>
    obtain ⟨n, rfl, hn⟩ := h
    have hpositive := hc.concurrency
    have hsame : chosenConcurrency processors c.concurrency = chosenConcurrency processors n := by
      rw [← hn, chosenConcurrency, if_neg (by rw [beq_iff_eq]; omega)]
    constructor
    · rintro ⟨_, hm, hd⟩
      obtain rfl := Value.int.inj hm
      exact ⟨n, rfl, hd.trans hsame⟩
    · rintro ⟨_, hm, hd⟩
      obtain rfl := Value.int.inj hm
      exact ⟨c.concurrency, rfl, hd.trans hsame.symm⟩
  | _ => rw [show v = _ from h]

theorem gives_raw (hc : c.Valid) (s : Setting) : Gives processors c s (c.raw s) := by
  cases s with
  | concurrency =>
    have hpositive := hc.concurrency
    exact ⟨c.concurrency, rfl, by rw [chosenConcurrency, if_neg (by rw [beq_iff_eq]; omega)]⟩
  | _ => exact rfl

/-- Valid settings make themselves. -/
theorem check_raw (hc : c.Valid) : check processors c.raw = .ok c :=
  check_eq_ok_iff.2 ⟨gives_raw hc, hc⟩

/-- A layer over settings makes what it makes over the values that these settings were made from. -/
theorem check_onTop_raw (h : check processors raw = .ok c) (l : Layer) :
    check processors (l.onTop c.raw) = .ok d ↔ check processors (l.onTop raw) = .ok d := by
  obtain ⟨hgives, hvalid⟩ := check_eq_ok_iff.1 h
  rw [check_eq_ok_iff, check_eq_ok_iff]
  refine and_congr_left fun _ => forall_congr' fun s => ?_
  unfold Layer.onTop
  cases l.value? s with
  | some v => exact Iff.rfl
  | none => exact gives_raw_iff hvalid (hgives s)

end Settings

/-! ## Layers -/

namespace Layer

variable {l : Layer}

/-- All names are names of settings. -/
def Known (l : Layer) : Prop := ∀ e ∈ l, (Setting.ofKey? e.1).isSome = true

theorem known_nil : Known [] := by
  intro e he
  cases he

theorem unknown_isEmpty_iff : l.unknown.isEmpty = true ↔ l.Known := by
  have hsort : ∀ names : List String, Text.sortStrings names = [] ↔ names = [] := by
    intro names
    rw [← List.length_eq_zero_iff, ← List.length_eq_zero_iff, Text.sortStrings, List.length_mergeSort]
  have hdups : ∀ names : List String, names.eraseDups = [] ↔ names = [] := by
    intro names
    cases names <;> simp [List.eraseDups_cons]
  unfold unknown
  simp only [List.isEmpty_iff, hsort, hdups, List.filter_eq_nil_iff, List.forall_mem_map]
  simp [Known, Option.isSome_iff_ne_none]

theorem Known.not_self (h : l.Known) : (l.any fun e => e.1 == "self") = false := by
  rw [List.any_eq_false]
  intro e he hself
  have hknown := h e he
  rw [beq_iff_eq.1 hself] at hknown
  revert hknown
  decide

/-- A layer that gives no setting anything changes nothing. -/
theorem onTop_of_given_nil (h : l.given = []) (raw : RawSettings) : l.given.onTop raw = raw := by
  rw [h]
  rfl

end Layer

namespace Settings

variable {processors : Option Int} {c d : Settings} {l : Layer}

theorem override_of_known (hc : c.Valid) (hl : l.Known) :
    c.override processors l = (check processors (l.given.onTop c.raw)).mapError .settings := by
  unfold override
  rw [hl.not_self, Layer.unknown_isEmpty_iff.2 hl]
  simp only [Bool.false_eq_true, if_false, Bool.not_true]
  split
  · rename_i hgiven
    rw [Layer.onTop_of_given_nil (List.isEmpty_iff.1 hgiven), check_raw hc]
    rfl
  · rfl

/-- **A layer over valid settings.** Its names have to be known, and with its values in place of some
of theirs the settings have to be valid again. -/
theorem override_eq_ok_iff (hc : c.Valid) :
    c.override processors l = .ok d ↔ l.Known ∧ check processors (l.given.onTop c.raw) = .ok d := by
  constructor
  · intro h
    have hl : l.Known := by
      rw [← Layer.unknown_isEmpty_iff]
      unfold override at h
      split at h
      · cases h
      split at h
      · cases h
      rename_i hunknown
      simpa using hunknown
    rw [override_of_known hc hl] at h
    exact ⟨hl, mapError_eq_ok_iff.1 h⟩
  · rintro ⟨hl, h⟩
    rw [override_of_known hc hl, mapError_eq_ok_iff.2 h]

end Settings

end RouteDoc
