/-
What handling a file does to a session.

A session is taken further by notes, by sources that are read, by names that are
looked up, and by bytes written to the one file that is handled (`Turns`). Names
keep their answers, every answer was read off a structure (`Reflected`), and a
file at any other place stays what it was, also for whoever has read it
(`Current`).
-/
import RouteDoc.Generator
import RouteDoc.Proofs.Keyed
import RouteDoc.Proofs.Workspace.Writing

namespace RouteDoc

/-! ## Known kinds -/

/-- The kinds that a parameter can have. -/
def kindNames : List String := ["integer", "number", "boolean", "string"]

def RequestType.KnownKinds (t : RequestType) : Prop := ∀ e ∈ t, e.2.kind ∈ kindNames

namespace RequestType

theorem kindOf_mem (type : Go.TypeExpr) : kindOf type ∈ kindNames := by
  have htable : ∀ e ∈ kinds, e.2 ∈ kindNames := by decide
  unfold kindOf
  split
  · split
    · rename_i e he
      exact htable e (List.mem_of_find?_eq_some he)
    · decide
  · decide

theorem param?_kind {type : Go.TypeExpr} {tag : Option (List UInt8)} {p : PathParam}
    (h : param? type tag = some p) : p.kind ∈ kindNames := by
  unfold param? at h
  simp only [Option.bind_eq_bind, Option.bind_eq_some_iff, Option.pure_def, Option.some.injEq] at h
  obtain ⟨_, _, _, _, rfl⟩ := h
  exact kindOf_mem type

theorem KnownKinds.insert {t : RequestType} (h : t.KnownKinds) {p : PathParam} (hp : p.kind ∈ kindNames) :
    (t.insert p).KnownKinds := by
  unfold RequestType.insert
  split
  · intro e he
    obtain ⟨e', he', rfl⟩ := List.mem_map.1 he
    split
    · exact hp
    · exact h e' he'
  · intro e he
    rcases List.mem_append.1 he with he | he
    · exact h e he
    · rw [List.mem_singleton.1 he]; exact hp

theorem knownKinds_ofFields (fields : List (Go.TypeExpr × Option (List UInt8))) : (ofFields fields).KnownKinds := by
  have hfold : ∀ (ps : List PathParam) (t : RequestType), (∀ p ∈ ps, p.kind ∈ kindNames) → t.KnownKinds →
      (ps.foldl RequestType.insert t).KnownKinds := by
    intro ps
    induction ps with
    | nil => exact fun _ _ ht => ht
    | cons p ps ih =>
      intro t hps ht
      obtain ⟨hp, hps⟩ := List.forall_mem_cons.1 hps
      exact ih _ hps (ht.insert hp)
  refine hfold _ _ (fun p hp => ?_) (by intro e he; cases he)
  obtain ⟨f, -, hf⟩ := List.mem_filterMap.1 hp
  exact param?_kind hf

/-! ## Reflected types -/

/-- A request type that was read off the fields of a structure; where there is none it has no fields. -/
def Reflected (t : RequestType) : Prop := ∃ fields, t = ofFields fields

theorem reflected_nil : Reflected [] := ⟨[], rfl⟩

theorem Reflected.knownKinds {t : RequestType} (h : t.Reflected) : t.KnownKinds := by
  obtain ⟨fields, rfl⟩ := h
  exact knownKinds_ofFields fields

/-- A reflected type has each name once. -/
theorem Reflected.nodup {t : RequestType} (h : t.Reflected) : (t.map Prod.fst).Nodup := by
  obtain ⟨fields, rfl⟩ := h
  have hentries : ofFields fields =
      Keyed.ofEntries ((fields.filterMap fun f => param? f.1 f.2).map fun p => (p.name, p)) := by
    rw [Keyed.ofEntries, List.foldl_map]
    rfl
  rw [hentries]
  refine (Keyed.keys_ofEntries_order _).imp fun {a b} hlt heq => ?_
  rw [heq] at hlt
  exact absurd hlt (Nat.lt_irrefl _)

theorem reflected_inTypes? {name : String} {declared : List Go.DeclaredType} {t : RequestType}
    (h : inTypes? name declared = some t) : t.Reflected := by
  obtain ⟨d, -, hd⟩ := List.exists_of_findSome?_eq_some h
  split at hd
  · unfold ofType? at hd
    split at hd
    · exact ⟨_, (Option.some.inj hd).symm⟩
    · cases hd
  · cases hd

end RequestType

namespace Session

/-! ## Turns -/

/-- What handling the file at a place does to a session. -/
inductive Turns (q : Place) (s : Session) : Session → Prop where
  | refl : Turns q s s
  | note {s' : Session} (n : Note) : Turns q s s' → Turns q s (s'.note n)
  | source {s' : Session} (file : Option String) (path : String) :
      Turns q s s' → Turns q s (s'.source file path).2
  | answer {s' : Session} {name : String} {type : RequestType} : Turns q s s' →
      (s'.requestTypes.find? fun e => e.1 == name) = none → type.Reflected →
      Turns q s { s' with requestTypes := s'.requestTypes ++ [(name, type)] }
  | write {s' : Session} {bytes : List UInt8} (bytes' : List UInt8) : Turns q s s' →
      s'.workspace.entryAt q = some (.file bytes) →
      Turns q s { s' with workspace := s'.workspace.put q (.file bytes') }

variable {q : Place} {s s' s'' : Session}

theorem Turns.trans (h : s.Turns q s') (h' : s'.Turns q s'') : s.Turns q s'' := by
  induction h' with
  | refl => exact h
  | note n _ ih => exact ih.note n
  | source file path _ ih => exact ih.source file path
  | answer _ hnone htype ih => exact ih.answer hnone htype
  | write bytes' _ hq ih => exact ih.write bytes' hq

theorem Turns.notes (h : s.Turns q s') (ns : List Note) : s.Turns q (ns.foldl Session.note s') := by
  induction ns generalizing s' with
  | nil => exact h
  | cons n ns ih => exact ih (h.note n)

theorem foldl_note_workspace (ns : List Note) (s : Session) :
    (ns.foldl Session.note s).workspace = s.workspace := by
  induction ns generalizing s with
  | nil => rfl
  | cons n ns ih => exact ih (s.note n)

/-! ### Sources -/

theorem source_of_kept {path : String} {found : Go.Source} (h : s.kept? path = some found) (file : Option String) :
    s.source file path = (.ok found, s) := by
  unfold source
  rw [h]

theorem source_of_error {path : String} {failure : Failure} (h : s.kept? path = none)
    (hload : Go.Source.load s.workspace (s.keyOf path) = .error failure) (file : Option String) :
    s.source file path = (.error failure, s) := by
  unfold source
  simp only [h, hload]

theorem source_of_load {path : String} {found : Go.Source} (h : s.kept? path = none)
    (hload : Go.Source.load s.workspace (s.keyOf path) = .ok found) (file : Option String) :
    ∃ n, s.source file path =
      (.ok found, ({ s with sources := s.sources ++ [(s.keyOf path, found)] } : Session).note n) := by
  unfold source
  simp only [h, hload]
  exact ⟨_, rfl⟩

/-- What asking for a source does. -/
theorem source_cases (file : Option String) (path : String) (s : Session) :
    (∃ found, s.kept? path = some found ∧ s.source file path = (.ok found, s)) ∨
    (∃ failure, s.kept? path = none ∧ Go.Source.load s.workspace (s.keyOf path) = .error failure ∧
      s.source file path = (.error failure, s)) ∨
    ∃ found n, s.kept? path = none ∧ Go.Source.load s.workspace (s.keyOf path) = .ok found ∧
      s.source file path =
        (.ok found, ({ s with sources := s.sources ++ [(s.keyOf path, found)] } : Session).note n) := by
  cases hkept : s.kept? path with
  | some found => exact .inl ⟨found, rfl, source_of_kept hkept file⟩
  | none =>
    cases hload : Go.Source.load s.workspace (s.keyOf path) with
    | error failure => exact .inr (.inl ⟨failure, rfl, rfl, source_of_error hkept hload file⟩)
    | ok found =>
      obtain ⟨n, hs⟩ := source_of_load hkept hload file
      exact .inr (.inr ⟨found, n, rfl, rfl, hs⟩)

theorem source_workspace (file : Option String) (path : String) (s : Session) :
    (s.source file path).2.workspace = s.workspace := by
  obtain ⟨_, _, h⟩ | ⟨_, _, _, h⟩ | ⟨_, _, _, _, h⟩ := source_cases file path s
  · rw [h]
  · rw [h]
  · rw [h]; rfl

theorem source_requestTypes (file : Option String) (path : String) (s : Session) :
    (s.source file path).2.requestTypes = s.requestTypes := by
  obtain ⟨_, _, h⟩ | ⟨_, _, _, h⟩ | ⟨_, _, _, _, h⟩ := source_cases file path s
  · rw [h]
  · rw [h]
  · rw [h]; rfl

/-- A search only reads sources. -/
theorem searchFiles_reads (file : Option String) (name : String) (paths : List String) (s : Session) :
    (s.searchFiles file name paths).2.workspace = s.workspace ∧
      (s.searchFiles file name paths).2.requestTypes = s.requestTypes := by
  induction paths generalizing s with
  | nil => exact ⟨rfl, rfl⟩
  | cons path paths ih =>
    have hworkspace := source_workspace file path s
    have hanswers := source_requestTypes file path s
    unfold searchFiles
    split
    · rename_i heq
      rw [heq] at hworkspace hanswers
      exact ⟨(ih _).1.trans hworkspace, (ih _).2.trans hanswers⟩
    · rename_i heq
      rw [heq] at hworkspace hanswers
      split
      · exact ⟨hworkspace, hanswers⟩
      · exact ⟨(ih _).1.trans hworkspace, (ih _).2.trans hanswers⟩

theorem search_reads (patterns : List String) (file : Option String) (qualified : String) (s : Session) :
    (s.search patterns file qualified).2.workspace = s.workspace ∧
      (s.search patterns file qualified).2.requestTypes = s.requestTypes := by
  unfold search
  split
  · exact ⟨rfl, rfl⟩
  · rename_i name _
    have hfiles := searchFiles_reads file name (typeFiles s.workspace patterns) s
    split
    · rename_i heq
      rw [heq] at hfiles
      exact hfiles
    · rename_i heq
      rw [heq] at hfiles
      exact hfiles

theorem requestType_workspace (patterns : List String) (file : Option String) (qualified : String) (s : Session) :
    (s.requestType patterns file qualified).2.workspace = s.workspace := by
  unfold requestType
  split
  · rfl
  · exact (search_reads patterns file qualified s).1

/-! ### Lookups -/

theorem searchFiles_turns (file : Option String) (name : String) (paths : List String) (s : Session) :
    s.Turns q (s.searchFiles file name paths).2 ∧
      ∀ type, (s.searchFiles file name paths).1 = some type → type.Reflected := by
  induction paths generalizing s with
  | nil => exact ⟨.refl, fun _ h => nomatch h⟩
  | cons path paths ih =>
    have hsource : s.Turns q (s.source file path).2 := .source file path .refl
    unfold searchFiles
    split
    · rename_i heq
      rw [heq] at hsource
      exact ⟨(hsource.note _).trans (ih _).1, (ih _).2⟩
    · rename_i heq
      rw [heq] at hsource
      split
      · rename_i hfound
        refine ⟨hsource, fun type htype => ?_⟩
        rw [← Option.some.inj htype]
        exact RequestType.reflected_inTypes? hfound
      · exact ⟨hsource.trans (ih _).1, (ih _).2⟩

theorem search_turns (patterns : List String) (file : Option String) (qualified : String) (s : Session) :
    s.Turns q (s.search patterns file qualified).2 ∧ (s.search patterns file qualified).1.Reflected := by
  unfold search
  split
  · exact ⟨.refl, RequestType.reflected_nil⟩
  · rename_i name _
    have hfiles := searchFiles_turns (q := q) file name (typeFiles s.workspace patterns) s
    split
    · rename_i heq
      rw [heq] at hfiles
      exact ⟨hfiles.1, hfiles.2 _ rfl⟩
    · rename_i heq
      rw [heq] at hfiles
      exact ⟨hfiles.1.note _, RequestType.reflected_nil⟩

theorem requestType_turns (patterns : List String) (file : Option String) (qualified : String) (s : Session) :
    s.Turns q (s.requestType patterns file qualified).2 := by
  unfold requestType
  split
  · exact .refl
  · rename_i hnone
    have hsearch := search_turns (q := q) patterns file qualified s
    refine hsearch.1.answer ?_ hsearch.2
    rw [(search_reads patterns file qualified s).2]
    exact hnone

/-! ## What stays -/

/-- The source that is kept for a path is what the file there says. -/
def Current (s : Session) (path : String) : Prop :=
  ∀ found, s.kept? path = some found → Go.Source.load s.workspace (s.keyOf path) = .ok found

theorem current_start (w : Workspace) (path : String) : (start w).Current path := by
  intro found h
  cases h

theorem source_eq_load {path : String} (h : s.Current path) (file : Option String) :
    (s.source file path).1 = Go.Source.load s.workspace (s.keyOf path) := by
  obtain ⟨found, hkept, hs⟩ | ⟨_, _, hload, hs⟩ | ⟨_, _, _, hload, hs⟩ := source_cases file path s
  · rw [hs, h found hkept]
  · rw [hs, hload]
  · rw [hs, hload]

theorem kept?_append (s : Session) (key path : String) (found : Go.Source) (n : Note) :
    (({ s with sources := s.sources ++ [(key, found)] } : Session).note n).kept? path =
      (s.kept? path).or (if key == s.keyOf path then some found else none) := by
  have hkey : (({ s with sources := s.sources ++ [(key, found)] } : Session).note n).keyOf path = s.keyOf path := rfl
  have hsources : (({ s with sources := s.sources ++ [(key, found)] } : Session).note n).sources =
      s.sources ++ [(key, found)] := rfl
  rw [kept?, kept?, hkey, hsources, List.find?_append, List.find?_singleton, Option.map_or]
  split <;> rfl

theorem Current.source {path : String} (h : s.Current path) (file : Option String) (path' : String) :
    (s.source file path').2.Current path := by
  obtain ⟨_, _, hs⟩ | ⟨_, _, _, hs⟩ | ⟨found, n, _, hload, hs⟩ := source_cases file path' s
  · rwa [hs]
  · rwa [hs]
  · rw [hs]
    intro found' hkept
    rw [kept?_append] at hkept
    cases hold : s.kept? path with
    | some found'' =>
      rw [hold] at hkept
      exact h found' (hold.trans hkept)
    | none =>
      rw [hold, Option.none_or] at hkept
      split at hkept
      · rename_i hkey
        rw [beq_iff_eq] at hkey
        rw [← Option.some.inj hkept]
        exact hkey ▸ hload
      · cases hkept

theorem keyOf_eq {s s' : Session} (h : s.workspace.Alike s'.workspace) (path : String) :
    s.keyOf path = s'.keyOf path := by
  rw [keyOf, keyOf, h.cwdText]

section

variable {q : Place} {bytes : List UInt8} (hw : s.workspace.Sound) (hq : s.workspace.entryAt q = some (.file bytes))
  (bytes' : List UInt8) (path : String)

include hw hq

theorem keyOf_put : keyOf { s with workspace := s.workspace.put q (.file bytes') } path = s.keyOf path := by
  rw [keyOf, keyOf, (Workspace.alike_put hw hq bytes').cwdText]

theorem kept?_put : kept? { s with workspace := s.workspace.put q (.file bytes') } path = s.kept? path := by
  rw [kept?, kept?, keyOf_put hw hq]

end

theorem load_eq {w w' : Workspace} {path : String} (h : w.read path = w'.read path) :
    Go.Source.load w path = Go.Source.load w' path := by
  rw [Go.Source.load, Go.Source.load, h]

/-- All answers of a session were read off structures. -/
def Reflects (s : Session) : Prop := ∀ e ∈ s.requestTypes, e.2.Reflected

theorem reflects_start (w : Workspace) : (start w).Reflects := by
  intro e he
  cases he

namespace Turns

theorem alike (h : s.Turns q s') (hw : s.workspace.Sound) : s.workspace.Alike s'.workspace := by
  induction h with
  | refl => exact .refl _
  | note n _ ih => exact ih
  | source file path _ ih => rwa [source_workspace]
  | answer _ _ _ ih => exact ih
  | write bytes' _ hq ih => exact ih.trans (Workspace.alike_put (ih.sound hw) hq bytes')

theorem sound (h : s.Turns q s') (hw : s.workspace.Sound) : s'.workspace.Sound := (h.alike hw).sound hw

theorem entryAt (h : s.Turns q s') {p : Place} (hp : p ≠ q) : s'.workspace.entryAt p = s.workspace.entryAt p := by
  induction h with
  | refl => rfl
  | note n _ ih => exact ih
  | source file path _ ih => rwa [source_workspace]
  | answer _ _ _ ih => exact ih
  | write bytes' _ hq ih => exact (Workspace.entryAt_put_ne hq _ hp).trans ih

theorem requestTypes (h : s.Turns q s') : s.requestTypes <+: s'.requestTypes := by
  induction h with
  | refl => exact List.prefix_rfl
  | note n _ ih => exact ih
  | source file path _ ih => rwa [source_requestTypes]
  | answer _ _ _ ih => exact ih.trans (List.prefix_append _ _)
  | write bytes' _ hq ih => exact ih

/-- A name keeps its answer. -/
theorem answer_stays (h : s.Turns q s') {name : String} {e : String × RequestType}
    (he : (s.requestTypes.find? fun e => e.1 == name) = some e) :
    (s'.requestTypes.find? fun e => e.1 == name) = some e := by
  obtain ⟨more, hmore⟩ := h.requestTypes
  rw [← hmore, List.find?_append, he]
  rfl

/-- Sources are never dropped. -/
theorem source_stays (h : s.Turns q s') (hw : s.workspace.Sound) {path : String} {found : Go.Source}
    (hkept : s.kept? path = some found) : s'.kept? path = some found := by
  induction h with
  | refl => exact hkept
  | note n _ ih => exact ih
  | @source s' file path' _ ih =>
    obtain ⟨_, _, hs⟩ | ⟨_, _, _, hs⟩ | ⟨found', n, _, _, hs⟩ := source_cases file path' s'
    · rw [hs]; exact ih
    · rw [hs]; exact ih
    · rw [hs, kept?_append, ih]
      rfl
  | answer _ _ _ ih => exact ih
  | write bytes' hturns hq ih => rw [kept?_put (hturns.sound hw) hq, ih]

/-- What holds of reflected types goes on to hold of all answers. -/
theorem answers {P : RequestType → Prop} (hP : ∀ t : RequestType, t.Reflected → P t) (h : s.Turns q s')
    (hs : ∀ e ∈ s.requestTypes, P e.2) : ∀ e ∈ s'.requestTypes, P e.2 := by
  induction h with
  | refl => exact hs
  | note n _ ih => exact ih
  | source file path _ ih => rwa [source_requestTypes]
  | answer _ _ htype ih =>
    intro e he
    rcases List.mem_append.1 he with he | he
    · exact ih e he
    · rw [List.mem_singleton.1 he]
      exact hP _ htype
  | write bytes' _ hq ih => exact ih

theorem reflects (h : s.Turns q s') (hs : s.Reflects) : s'.Reflects := h.answers (fun _ ht => ht) hs

/-- Whoever has read another file has read what is there. -/
theorem current (h : s.Turns q s') (hw : s.workspace.Sound) {path : String} (hs : s.Current path)
    (hpath : s.workspace.locate (s.keyOf path) ≠ .ok q) : s'.Current path := by
  induction h with
  | refl => exact hs
  | note n _ ih => exact ih
  | source file path' _ ih => exact ih.source file path'
  | answer _ _ _ ih => exact ih
  | @write s' bytes bytes' hturns hq ih =>
    intro found hkept
    have halike := hturns.alike hw
    have hput := Workspace.alike_put (halike.sound hw) hq bytes'
    have hkey : s'.keyOf path = keyOf { s' with workspace := s'.workspace.put q (.file bytes') } path :=
      keyOf_eq hput path
    have hread : s'.workspace.read (s'.keyOf path) =
        (s'.workspace.put q (.file bytes')).read (s'.keyOf path) := hput.read_eq fun p hp => by
      refine (Workspace.entryAt_put_ne hq _ ?_).symm
      rintro rfl
      rw [← keyOf_eq halike, ← halike.locate] at hp
      exact hpath hp
    rw [← hkey]
    refine (load_eq hread).symm.trans (ih found ?_)
    rw [← hkept, kept?, kept?, hkey]

end Turns

end Session

end RouteDoc
