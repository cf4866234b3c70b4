/-
A range of a file, replaced.

All that can become of a rewrite is said once (`Rewrites`): the range is none, the
file does not open, something fails on the way, the text has no bytes, the range
ends at no offset, or the draft takes the place of the file. What is left of the
tree, and when which of them happens, follows (`rewrite_exact`). The start of a range is checked against
the end of the file and its end is not, so a range that runs over the end takes
what is left of the file with it (`rewrite_length`).
-/
import Mathlib.Data.List.Nodup
import Mathlib.Data.List.Perm.Subperm
import RouteDoc.Proofs.Splicing.Drafts

namespace RouteDoc

namespace Storage

variable (storage : Storage) {w : Workspace} {path : String} {place directory : Place} {bytes : List UInt8}

/-- The storage opens the file at a path. -/
structure Opens (w : Workspace) (path : String) (place : Place) (bytes : List UInt8) : Prop where
  located : w.locate path = .ok place
  entry : w.entryAt place = some (.file bytes)
  opened : storage.fault .openFile = none

/-- The storage makes a draft in a directory: a name that it tries is free there. -/
structure Makes (w : Workspace) (directory : Place) : Prop where
  created : storage.fault .create = none
  free : ∃ text ∈ storage.names, w.entryAt (directory ++ [Draft.nameOf text]) = none

/-- The storage does all that it takes to fill a draft. -/
def Serves (chunk : Nat) (bytes : List UInt8) (start stop : Nat) (block : CodeText) : Prop :=
  ∀ op, Takes chunk bytes.length start stop block.size? op → storage.fault op = none

theorem openFile_eq_ok_iff : storage.openFile w path = .ok (place, bytes) ↔ storage.Opens w path place bytes := by
  unfold openFile
  constructor
  · intro h
    split at h
    · cases h
    · cases h
    · rename_i place' bytes' hlocate hread
      split at h
      · cases h
      · rename_i hopened
        obtain ⟨rfl, rfl⟩ : place' = place ∧ bytes' = bytes := by simpa using h
        obtain ⟨q, hq, hentry⟩ := Workspace.read_eq_ok_iff.1 hread
        obtain rfl : place' = q := Except.ok.inj (hlocate.symm.trans hq)
        exact ⟨hlocate, hentry, hopened⟩
  · rintro ⟨hlocate, hentry, hopened⟩
    have hread : w.read path = .ok bytes := Workspace.read_eq_ok_iff.2 ⟨place, hlocate, hentry⟩
    simp only [hlocate, hread, hopened]

/-- A draft is made at a free place or not at all. -/
theorem create_cases (w : Workspace) (directory : Place) :
    (∃ reason, storage.create w directory = .error reason ∧ ¬ storage.Makes w directory) ∨
      ∃ p, w.entryAt p = none ∧ storage.create w directory = .ok (w.draft p []) ∧ storage.Makes w directory := by
  unfold create
  cases hfault : storage.fault .create with
  | some reason => exact .inl ⟨reason, rfl, fun h => nomatch hfault.symm.trans h.created⟩
  | none =>
    dsimp only
    split
    · rename_i hnone
      refine .inl ⟨_, rfl, fun ⟨_, text, htext, hfree⟩ => ?_⟩
      exact List.find?_eq_none.1 hnone _ (List.mem_map_of_mem htext) (by rw [hfree]; rfl)
    · rename_i p hp
      obtain ⟨text, htext, rfl⟩ := List.mem_map.1 (List.mem_of_find?_eq_some hp)
      have hfree : w.entryAt (directory ++ [Draft.nameOf text]) = none := by simpa using List.find?_some hp
      refine .inr ⟨_, hfree, ?_, hfault, text, htext, hfree⟩
      rw [Workspace.put_free hfree]
      rfl

theorem nameOf_injective {text text' : String} (h : Draft.nameOf text = Draft.nameOf text') : text = text' := by
  have hlist := congrArg String.toList h
  unfold Draft.nameOf at hlist
  rw [String.toList_append, String.toList_append, String.toList_append, String.toList_append] at hlist
  exact String.toList_injective (List.append_cancel_left (List.append_cancel_right hlist))

/-- One of more names than there are entries is free. -/
theorem ofRefusal_makes (w : Workspace) (directory : Place) : (ofRefusal w none).Makes w directory := by
  refine ⟨rfl, ?_⟩
  by_contra hnone
  simp only [not_exists, not_and] at hnone
  have hnodup : ((ofRefusal w none).names.map fun text => directory ++ [Draft.nameOf text]).Nodup := by
    refine List.Nodup.map (fun text text' h => ?_) (List.Nodup.map (fun n n' h => ?_) List.nodup_range)
    · exact nameOf_injective (by simpa using h)
    · simpa using congrArg String.length h
  have hsub : ((ofRefusal w none).names.map fun text => directory ++ [Draft.nameOf text]) ⊆ w.entries.map Prod.fst := by
    intro p hp
    obtain ⟨text, htext, rfl⟩ := List.mem_map.1 hp
    obtain ⟨e, he⟩ := Option.ne_none_iff_exists'.1 (hnone text htext)
    exact List.mem_map.2 ⟨_, Workspace.mem_of_entryAt he (by simp), rfl⟩
  have hle := (hnodup.subperm hsub).length_le
  simp only [ofRefusal, List.length_map, List.length_range] at hle
  omega

theorem Opens.unique {storage : Storage} {place' : Place} {bytes' : List UInt8} (h : storage.Opens w path place bytes)
    (h' : storage.Opens w path place' bytes') : place = place' ∧ bytes = bytes' := by
  obtain rfl : place = place' := Except.ok.inj (h.located.symm.trans h'.located)
  have hentry := h.entry.symm.trans h'.entry
  exact ⟨rfl, Entry.file.inj (Option.some.inj hentry)⟩

theorem Opens.read {storage : Storage} (h : storage.Opens w path place bytes) : w.read path = .ok bytes :=
  Workspace.read_eq_ok_iff.2 ⟨place, h.located, h.entry⟩

end Storage

/-! ## A file over a file -/

namespace Workspace

section

variable {w : Workspace} {q : Place} {bytes : List UInt8} (h : w.entryAt q = some (.file bytes)) (bytes' : List UInt8)
include h

theorem follow_put (p : Place) (cs : List String) : (w.put q (.file bytes')).follow p cs = w.follow p cs := by
  induction cs generalizing p with
  | nil => rfl
  | cons c cs ih =>
    rw [follow, follow]
    by_cases hp : p = q
    · subst hp
      rw [entryAt_put_self h, h]
    · rw [entryAt_put_ne h _ hp, ih, ih, ih]

theorem read_put_file {path : String} (hq : w.locate path = .ok q) :
    (w.put q (.file bytes')).read path = .ok bytes' := by
  refine read_eq_ok_iff.2 ⟨q, ?_, entryAt_put_self h _⟩
  have hcwd : (w.put q (.file bytes')).cwd = w.cwd := by unfold put; split <;> rfl
  rw [← hq, locate, locate, hcwd, follow_put h]

/-- No place comes or goes. -/
theorem keys_put : (w.put q (.file bytes')).entries.map Prod.fst = w.entries.map Prod.fst := by
  rw [put, if_pos (any_key_of_entryAt h), List.map_map]
  refine List.map_congr_left fun x _ => ?_
  rw [Function.comp_apply]
  split
  · rename_i hkey
    exact (beq_iff_eq.1 hkey).symm
  · rfl

end

/-! ## What becomes of a rewrite -/

variable (storage : Storage) (chunk : Nat) (w : Workspace) (path : String) (start stop : Int) (block : CodeText)
  (handler : String)

/-- A file has the start of a range, and the storage does all that it takes to replace the range. -/
structure Ready (place : Place) (bytes : List UInt8) : Prop where
  range : 0 ≤ start ∧ start ≤ stop
  opens : storage.Opens w path place bytes
  reach : start.toNat ≤ bytes.length
  makes : storage.Makes w place.dropLast
  serves : storage.Serves chunk bytes start.toNat stop.toNat block

/-- What can become of a rewrite. -/
inductive Rewrites : Except Failure Unit × Workspace → Prop where
  | range : ¬ (0 ≤ start ∧ start ≤ stop) → Rewrites (.error (.spliceRange start stop), w)
  | unopened (reason : String) : 0 ≤ start ∧ start ≤ stop → (∀ place bytes, ¬ storage.Opens w path place bytes) →
      Rewrites (.error (.splice path (spliceName handler) reason), w)
  | stopped (reason : String) {place : Place} {bytes : List UInt8} : 0 ≤ start ∧ start ≤ stop →
      storage.Opens w path place bytes →
      bytes.length < start.toNat ∨ ¬ storage.Makes w place.dropLast ∨
        ¬ storage.Serves chunk bytes start.toNat stop.toNat block →
      Rewrites (.error (.splice path (spliceName handler) reason), w)
  | unencodable {place : Place} {bytes : List UInt8} {fault : EncodeFault} :
      Ready storage chunk w path start stop block place bytes → block.encode = .error fault →
      Rewrites (.error (.unencodable fault), w)
  | far {place : Place} {bytes : List UInt8} : Ready storage chunk w path start stop block place bytes →
      block.Scalar → Storage.TooFar bytes.length stop.toNat → Rewrites (.error .offsetTooLarge, w)
  | done {place : Place} {bytes : List UInt8} : Ready storage chunk w path start stop block place bytes →
      block.Scalar → ¬ Storage.TooFar bytes.length stop.toNat →
      Rewrites (.ok (), w.put place (.file (replaceRange bytes start.toNat stop.toNat block.utf8)))

variable {chunk}

theorem rewrite_rewrites (hchunk : 0 < chunk) :
    Rewrites storage chunk w path start stop block handler
      (w.rewrite storage chunk path start stop block handler) := by
  unfold rewrite
  dsimp only
  by_cases hrange : 0 ≤ start ∧ start ≤ stop
  swap
  · have hbad : start < 0 ∨ stop < start := by omega
    rw [if_pos (by simpa using hbad)]
    exact .range hrange
  rw [if_neg (by simpa using hrange)]
  cases hopen : storage.openFile w path with
  | error reason =>
    refine .unopened reason hrange fun place bytes h => ?_
    cases hopen.symm.trans ((storage.openFile_eq_ok_iff).2 h)
  | ok file =>
    obtain ⟨place, bytes⟩ := file
    have hopens := (storage.openFile_eq_ok_iff).1 hopen
    dsimp only
    obtain ⟨reason, hcreate, hmakes⟩ | ⟨p, hfree, hcreate, hmakes⟩ := storage.create_cases w place.dropLast
    · rw [hcreate]
      exact .stopped reason hrange hopens (.inr (.inl hmakes))
    rw [hcreate]
    dsimp only
    by_cases hreach : start.toNat ≤ bytes.length
    swap
    · have hshort := Nat.lt_of_not_le hreach
      obtain ⟨-, hfill⟩ | ⟨op, reason, after, -, -, hfill⟩ := storage.fill_short hfree hchunk bytes block hshort
      · rw [hfill]
        dsimp only
        rw [discard_draft hfree]
        exact .stopped _ hrange hopens (.inl hshort)
      · rw [hfill]
        dsimp only
        rw [discard_draft hfree]
        exact .stopped reason hrange hopens (.inl hshort)
    -- An operation that fails is the end of it, whatever the text and the end of the range are.
    have hstopped : ∀ {op reason after}, Storage.Takes chunk bytes.length start.toNat stop.toNat block.size? op →
        storage.fault op = some reason → Rewrites storage chunk w path start stop block handler
          (.error (.splice path (spliceName handler) reason), (w.draft p after).discard) := by
      intro op reason after htakes hfault
      rw [discard_draft hfree]
      exact .stopped reason hrange hopens (.inr (.inr fun hserves => nomatch hfault.symm.trans (hserves op htakes)))
    cases hblock : block.encode with
    | error fault =>
      obtain ⟨hserves, hfill⟩ | ⟨op, reason, after, htakes, hfault, hfill⟩ :=
        storage.fill_unencodable hfree hchunk bytes block stop.toNat hreach hblock
      · rw [hfill]
        dsimp only
        rw [discard_draft hfree]
        exact .unencodable ⟨hrange, hopens, hreach, hmakes, hserves⟩ hblock
      · rw [hfill]
        exact hstopped htakes hfault
    | ok encoded =>
      have hscalar := (CodeText.encode_eq_ok_iff.1 hblock).1
      obtain ⟨hserves, hfill⟩ | ⟨op, reason, after, htakes, hfault, hfill⟩ :=
        storage.fill_runs hfree hchunk bytes block hreach hscalar
      · have hready : Ready storage chunk w path start stop block place bytes :=
          ⟨hrange, hopens, hreach, hmakes, hserves⟩
        by_cases hfar : Storage.TooFar bytes.length stop.toNat
        · rw [hfill, if_pos hfar]
          dsimp only
          rw [discard_draft hfree]
          exact .far hready hscalar hfar
        · rw [hfill, if_neg hfar]
          dsimp only
          rw [replace_draft hfree]
          exact .done hready hscalar hfar
      · rw [hfill]
        exact hstopped htakes hfault

namespace Rewrites

variable {storage w path start stop block handler} {result : Except Failure Unit × Workspace}
  (h : Rewrites storage chunk w path start stop block handler result)
include h

theorem range_iff : result.1 = .error (.spliceRange start stop) ↔ ¬ (0 ≤ start ∧ start ≤ stop) := by
  cases h with
  | range hbad => exact iff_of_true rfl hbad
  | unopened _ hrange | stopped _ hrange => exact iff_of_false (by simp) (not_not_intro hrange)
  | unencodable hready | far hready | done hready => exact iff_of_false (by simp) (not_not_intro hready.range)

/-- A rewrite that nothing stops comes to the text and then to the end of the range. -/
theorem of_ready {place : Place} {bytes : List UInt8} (hready : Ready storage chunk w path start stop block place bytes) :
    (∃ fault, block.encode = .error fault ∧ result.1 = .error (.unencodable fault)) ∨
      block.Scalar ∧ (Storage.TooFar bytes.length stop.toNat ∧ result.1 = .error .offsetTooLarge ∨
        ¬ Storage.TooFar bytes.length stop.toNat ∧ result.1 = .ok ()) := by
  cases h with
  | range hbad => exact absurd hready.range hbad
  | unopened _ _ hnone => exact absurd hready.opens (hnone _ _)
  | stopped _ _ hopens hwhy =>
    obtain ⟨rfl, rfl⟩ := hready.opens.unique hopens
    rcases hwhy with hshort | hnot | hnot
    · exact absurd hready.reach (Nat.not_le.2 hshort)
    · exact absurd hready.makes hnot
    · exact absurd hready.serves hnot
  | unencodable hready' hblock => exact .inl ⟨_, hblock, rfl⟩
  | far hready' hscalar hfar =>
    obtain ⟨rfl, rfl⟩ := hready.opens.unique hready'.opens
    exact .inr ⟨hscalar, .inl ⟨hfar, rfl⟩⟩
  | done hready' hscalar hfar =>
    obtain ⟨rfl, rfl⟩ := hready.opens.unique hready'.opens
    exact .inr ⟨hscalar, .inr ⟨hfar, rfl⟩⟩

theorem unencodable_iff (fault : EncodeFault) : result.1 = .error (.unencodable fault) ↔
    block.encode = .error fault ∧ ∃ place bytes, Ready storage chunk w path start stop block place bytes := by
  constructor
  · intro hresult
    cases h with
    | range | unopened | stopped | far | done => cases hresult
    | unencodable hready hblock =>
      obtain rfl := Failure.unencodable.inj (Except.error.inj hresult)
      exact ⟨hblock, _, _, hready⟩
  · rintro ⟨hblock, place, bytes, hready⟩
    obtain ⟨fault', hblock', hresult⟩ | ⟨hscalar, -⟩ := h.of_ready hready
    · rw [hresult, Except.error.inj (hblock.symm.trans hblock')]
    · exact absurd hscalar (CodeText.not_scalar_of_fault hblock)

theorem offset_iff : result.1 = .error .offsetTooLarge ↔
    block.Scalar ∧ ∃ place bytes, Ready storage chunk w path start stop block place bytes ∧
      Storage.TooFar bytes.length stop.toNat := by
  constructor
  · intro hresult
    cases h with
    | range | unopened | stopped | unencodable | done => cases hresult
    | far hready hscalar hfar => exact ⟨hscalar, _, _, hready, hfar⟩
  · rintro ⟨hscalar, place, bytes, hready, hfar⟩
    obtain ⟨fault, hblock, -⟩ | ⟨-, ⟨-, hresult⟩ | ⟨hnot, -⟩⟩ := h.of_ready hready
    · exact absurd hscalar (CodeText.not_scalar_of_fault hblock)
    · exact hresult
    · exact absurd hfar hnot

theorem splice_iff : (∃ reason, result.1 = .error (.splice path (spliceName handler) reason)) ↔
    (0 ≤ start ∧ start ≤ stop) ∧ ((∀ place bytes, ¬ storage.Opens w path place bytes) ∨
      ∃ place bytes, storage.Opens w path place bytes ∧
        (bytes.length < start.toNat ∨ ¬ storage.Makes w place.dropLast ∨
          ¬ storage.Serves chunk bytes start.toNat stop.toNat block)) := by
  constructor
  · rintro ⟨reason, hresult⟩
    cases h with
    | range | unencodable | far | done => cases hresult
    | unopened _ hrange hnone => exact ⟨hrange, .inl hnone⟩
    | stopped _ hrange hopens hwhy => exact ⟨hrange, .inr ⟨_, _, hopens, hwhy⟩⟩
  · rintro ⟨hrange, hwhy⟩
    cases h with
    | range hbad => exact absurd hrange hbad
    | unopened reason | stopped reason => exact ⟨reason, rfl⟩
    | unencodable hready | far hready | done hready =>
      rcases hwhy with hnone | ⟨place, bytes, hopens', hshort | hnot | hnot⟩
      · exact absurd hready.opens (hnone _ _)
      all_goals obtain ⟨rfl, rfl⟩ := hready.opens.unique hopens'
      · exact absurd hready.reach (Nat.not_le.2 hshort)
      · exact absurd hready.makes hnot
      · exact absurd hready.serves hnot

/-- There are four sorts of failure, and none leaves anything behind. -/
theorem failure {failure : Failure} (hresult : result.1 = .error failure) :
    (failure = .spliceRange start stop ∨ (∃ fault, failure = .unencodable fault) ∨ failure = .offsetTooLarge ∨
      ∃ reason, failure = .splice path (spliceName handler) reason) ∧ result.2 = w := by
  cases h with
  | range => exact ⟨.inl (Except.error.inj hresult).symm, rfl⟩
  | unencodable => exact ⟨.inr (.inl ⟨_, (Except.error.inj hresult).symm⟩), rfl⟩
  | far => exact ⟨.inr (.inr (.inl (Except.error.inj hresult).symm)), rfl⟩
  | unopened reason | stopped reason => exact ⟨.inr (.inr (.inr ⟨reason, (Except.error.inj hresult).symm⟩)), rfl⟩
  | done => cases hresult

/-- What it takes for a range to be replaced. -/
theorem done_of {place : Place} {bytes : List UInt8} (hready : Ready storage chunk w path start stop block place bytes)
    (hscalar : block.Scalar) (hfar : ¬ Storage.TooFar bytes.length stop.toNat) : result.1 = .ok () := by
  obtain ⟨fault, hblock, -⟩ | ⟨-, ⟨hfar', -⟩ | ⟨-, hresult⟩⟩ := h.of_ready hready
  · exact absurd hscalar (CodeText.not_scalar_of_fault hblock)
  · exact absurd hfar' hfar
  · exact hresult

theorem success (hresult : result.1 = .ok ()) : block.Scalar ∧ ∃ place bytes, storage.Opens w path place bytes ∧
    start.toNat ≤ bytes.length ∧
      result.2 = w.put place (.file (replaceRange bytes start.toNat stop.toNat block.utf8)) := by
  cases h with
  | range | unopened | stopped | unencodable | far => cases hresult
  | done hready hscalar => exact ⟨hscalar, _, _, hready.opens, hready.reach, rfl⟩

end Rewrites

/-- How much a storage takes at a time makes no difference where it refuses nothing. -/
theorem rewrite_chunk (hquiet : ∀ op, op ≠ .create → storage.fault op = none) {chunk' : Nat} (hchunk : 0 < chunk)
    (hchunk' : 0 < chunk') :
    w.rewrite storage chunk path start stop block handler = w.rewrite storage chunk' path start stop block handler := by
  unfold rewrite
  dsimp only
  split
  · rfl
  · split
    · rfl
    · obtain ⟨reason, hcreate, -⟩ | ⟨p, hfree, hcreate, -⟩ := storage.create_cases w _
      · rw [hcreate]
      · rw [hcreate]
        dsimp only
        rw [storage.fill_eq hfree hchunk _ _ hquiet, storage.fill_eq hfree hchunk' _ _ hquiet]

/-- **A range is replaced as a whole or not at all.** -/
theorem rewrite_exact (hchunk : 0 < chunk) :
    let result := w.rewrite storage chunk path start stop block handler
    (result.1 = .error (.spliceRange start stop) ↔ ¬ (0 ≤ start ∧ start ≤ stop)) ∧
    -- A text without bytes, and a range that ends at no offset, where nothing fails before they are looked at.
    (∀ fault, result.1 = .error (.unencodable fault) ↔
      block.encode = .error fault ∧ ∃ place bytes, Ready storage chunk w path start stop block place bytes) ∧
    (result.1 = .error .offsetTooLarge ↔
      block.Scalar ∧ ∃ place bytes, Ready storage chunk w path start stop block place bytes ∧
        Storage.TooFar bytes.length stop.toNat) ∧
    -- A file that does not open or is too short, and all that the storage may refuse.
    ((∃ reason, result.1 = .error (.splice path (spliceName handler) reason)) ↔
      (0 ≤ start ∧ start ≤ stop) ∧ ((∀ place bytes, ¬ storage.Opens w path place bytes) ∨
        ∃ place bytes, storage.Opens w path place bytes ∧
          (bytes.length < start.toNat ∨ ¬ storage.Makes w place.dropLast ∨
            ¬ storage.Serves chunk bytes start.toNat stop.toNat block))) ∧
    -- There is no other failure, and none leaves anything behind.
    (∀ failure, result.1 = .error failure →
      (failure = .spliceRange start stop ∨ (∃ fault, failure = .unencodable fault) ∨ failure = .offsetTooLarge ∨
        ∃ reason, failure = .splice path (spliceName handler) reason) ∧ result.2 = w) ∧
    (result.1 = .ok () → ∃ place bytes encoded, storage.Opens w path place bytes ∧ start.toNat ≤ bytes.length ∧
      block.encode = .ok encoded ∧
      result.2.read path = .ok (bytes.take start.toNat ++ encoded ++ bytes.drop stop.toNat) ∧
      (∀ p, p ≠ place → result.2.entryAt p = w.entryAt p) ∧
      result.2.entries.map Prod.fst = w.entries.map Prod.fst) ∧
    ((∀ op, storage.fault op = none) → ∀ chunk', 0 < chunk' →
      w.rewrite storage chunk' path start stop block handler = result) := by
  intro result
  have hcases : Rewrites storage chunk w path start stop block handler result :=
    rewrite_rewrites storage w path start stop block handler hchunk
  refine ⟨hcases.range_iff, hcases.unencodable_iff, hcases.offset_iff, hcases.splice_iff, fun _ => hcases.failure,
    fun hresult => ?_, fun hquiet chunk' hchunk' => ?_⟩
  · obtain ⟨hscalar, place, bytes, hopens, hreach, hput⟩ := hcases.success hresult
    rw [hput]
    exact ⟨place, bytes, block.utf8, hopens, hreach, CodeText.encode_of_scalar hscalar,
      read_put_file hopens.entry _ hopens.located, fun _ hp => entryAt_put_ne hopens.entry _ hp,
      keys_put hopens.entry _⟩
  · exact rewrite_chunk storage w path start stop block handler (fun op _ => hquiet op) hchunk' hchunk

/-- The workspace after a splice, where the storage makes drafts unless it refuses to. -/
theorem splice_eq (refusal : Option String) :
    w.splice path start stop block handler refusal =
      if !(decide (0 ≤ start) && decide (start ≤ stop)) then .error (.spliceRange start stop)
      else
        match w.locate path, w.read path with
        | .error fault, _ | _, .error fault => .error (.splice path (spliceName handler) (fault.message path))
        | .ok place, .ok bytes =>
          match refusal with
          | some reason => .error (.splice path (spliceName handler) reason)
          | none =>
            if bytes.length < start.toNat then
              .error (.splice path (spliceName handler) s!"source ended {start.toNat - bytes.length} bytes early")
            else
              match block.encode with
              | .error fault => .error (.unencodable fault)
              | .ok encoded =>
                if Storage.TooFar bytes.length stop.toNat then .error .offsetTooLarge
                else .ok (w.put place (.file (replaceRange bytes start.toNat stop.toNat encoded))) := by
  unfold splice rewrite Storage.openFile
  cases !(decide (0 ≤ start) && decide (start ≤ stop)) with
  | true => rfl
  | false =>
    cases w.locate path with
    | error fault => rfl
    | ok place =>
      cases w.read path with
      | error fault => rfl
      | ok bytes =>
        cases refusal with
        | some reason => rfl
        | none =>
          have hquiet (op : Operation) (_ : op ≠ .create) : (Storage.ofRefusal w none).fault op = none := by
            cases op <;> rfl
          obtain ⟨reason, -, hmakes⟩ | ⟨p, hfree, hcreate, -⟩ :=
            (Storage.ofRefusal w none).create_cases w place.dropLast
          · exact absurd (Storage.ofRefusal_makes w _) hmakes
          · have hfill : (Storage.ofRefusal w none).fill chunkSize bytes start.toNat stop.toNat block
                (w.draft p []) = _ := (Storage.ofRefusal w none).fill_eq hfree (by decide) bytes _ hquiet
            simp only [Bool.false_eq_true, if_false, hquiet .openFile (by simp), hcreate, hfill]
            by_cases hshort : bytes.length < start.toNat
            · simp only [hshort, if_true]
              rfl
            simp only [hshort, if_false]
            cases block.encode with
            | error fault => rfl
            | ok encoded =>
              by_cases hfar : Storage.TooFar bytes.length stop.toNat
              · simp only [hfar, if_true]
                rfl
              · simp only [hfar, if_false, replace_draft hfree]

/-- A file of six bytes. -/
def sixBytes : Workspace := ⟨[(["a.go"], .file (Text.utf8 "abcdef"))], []⟩

/-- A storage that refuses the operations of a list. -/
def refusing (ops : List Operation) : Storage :=
  ⟨["x"], fun op => if op ∈ ops then some "no space left on device" else none⟩

theorem opens_sixBytes (ops : List Operation) (h : .openFile ∉ ops) :
    (refusing ops).Opens sixBytes "a.go" ["a.go"] (Text.utf8 "abcdef") :=
  ⟨by decide +kernel, rfl, if_neg h⟩

theorem ready_sixBytes {first last : Nat} (hrange : first ≤ last) (hreach : first ≤ 6) (block : CodeText) :
    Ready (refusing []) 3 sixBytes "a.go" first last block ["a.go"] (Text.utf8 "abcdef") where
  range := by omega
  opens := opens_sixBytes [] (by simp)
  reach := by rwa [Int.toNat_natCast]
  makes := ⟨rfl, "x", List.mem_singleton_self _, rfl⟩
  serves op _ := by simp [refusing]

theorem rewrite_sixBytes {first last : Nat} (hrange : first ≤ last) (hreach : first ≤ 6)
    (hfar : ¬ Storage.TooFar 6 last) :
    (sixBytes.rewrite (refusing []) 3 "a.go" first last "XYZ" "").1 = .ok () := by
  refine (rewrite_rewrites (refusing []) sixBytes "a.go" first last "XYZ" "" (by decide : 0 < 3)).done_of
    (ready_sixBytes hrange hreach _) (CodeText.scalar_ofString _) ?_
  rwa [Int.toNat_natCast]

/-- Two bytes of six, replaced three bytes at a time; on a storage that is full before the last chunk; and by a
text with a surrogate behind its first character. -/
theorem rewrite_exact_sixBytes :
    ((sixBytes.rewrite (refusing []) 3 "a.go" (2 : Nat) (4 : Nat) "XYZ" "").1 = .ok () ∧
      (sixBytes.rewrite (refusing []) 3 "a.go" (2 : Nat) (4 : Nat) "XYZ" "").2.read "a.go" =
        .ok (Text.utf8 "abXYZef")) ∧
    ((∃ reason, (sixBytes.rewrite (refusing [.write 5]) 3 "a.go" 2 4 "XYZ" "").1 =
        .error (.splice "a.go" "declaration" reason)) ∧
      (sixBytes.rewrite (refusing [.write 5]) 3 "a.go" 2 4 "XYZ" "").2 = sixBytes) ∧
    sixBytes.rewrite (refusing []) 3 "a.go" (2 : Nat) (4 : Nat) [.char 'X', .surrogate 0] "" =
      (.error (.unencodable ⟨1, 0, 0⟩), sixBytes) := by
  have hdone := rewrite_sixBytes (by decide : 2 ≤ 4) (by decide) (by decide)
  obtain ⟨place, bytes, encoded, hopens, -, hencoded, hread, -⟩ :=
    (rewrite_exact (refusing []) sixBytes "a.go" (2 : Nat) (4 : Nat) "XYZ" "" (by decide : 0 < 3)).2.2.2.2.2.1 hdone
  obtain ⟨rfl, rfl⟩ := (opens_sixBytes [] (by simp)).unique hopens
  obtain rfl : Text.utf8 "XYZ" = encoded := (CodeText.utf8_ofString _).symm.trans (CodeText.encode_eq_ok_iff.1 hencoded).2
  have hfull := rewrite_exact (refusing [.write 5]) sixBytes "a.go" 2 4 "XYZ" "" (by decide : 0 < 3)
  have htakes : Storage.Takes 3 6 2 4 (some 3) (.write 5) :=
    .inr (.inr ⟨3, rfl, .inr ⟨by decide, .inr (.inl ⟨0, by decide, .inr rfl⟩)⟩⟩)
  obtain ⟨reason, hreason⟩ := hfull.2.2.2.1.2 ⟨by decide, .inr ⟨_, _, opens_sixBytes _ (by decide),
    .inr (.inr fun hserves => nomatch hserves _ htakes)⟩⟩
  have hlone := rewrite_exact (refusing []) sixBytes "a.go" (2 : Nat) (4 : Nat) [.char 'X', .surrogate 0] ""
    (by decide : 0 < 3)
  have hrefused := (hlone.2.1 ⟨1, 0, 0⟩).2 ⟨by decide, _, _, ready_sixBytes (by decide) (by decide) _⟩
  exact ⟨⟨hdone, hread⟩, ⟨⟨reason, hreason⟩, (hfull.2.2.2.2.1 _ hreason).2⟩,
    Prod.ext hrefused (hlone.2.2.2.2.1 _ hrefused).2⟩

/-- A range whose end is no offset is one all the same, and nothing is replaced. -/
theorem splice_offset_sixBytes :
    (0 : Int) ≤ 0 ∧ (0 : Int) ≤ 9223372036854775808 ∧
      sixBytes.splice "a.go" 0 9223372036854775808 "X" "" = .error .offsetTooLarge := by
  have hfile := opens_sixBytes [] (by simp)
  have hfar : Storage.TooFar (Text.utf8 "abcdef").length (9223372036854775808 : Int).toNat := by decide
  refine ⟨by decide, by decide, ?_⟩
  rw [splice_eq]
  simp only [hfile.located, hfile.read, CodeText.encode_of_scalar (CodeText.scalar_ofString _)]
  rw [if_neg (by decide), if_neg (by decide), if_pos hfar]

/-- **A rewrite keeps all that lies outside its range exactly where the range ends within the file.** A range that
starts behind the end is refused; one that only ends there is not, and takes the rest of the file with it. -/
theorem rewrite_length (hchunk : 0 < chunk) {bytes : List UInt8} (hread : w.read path = .ok bytes) {first last : Nat}
    (hrange : first ≤ last) :
    let result := w.rewrite storage chunk path first last block handler
    (result.1 = .ok () → ∃ bytes' encoded, block.encode = .ok encoded ∧ result.2.read path = .ok bytes' ∧
      ((bytes'.length : Int) = bytes.length - (last - first) + encoded.length ↔ last ≤ bytes.length) ∧
      (bytes.length < last → bytes' = bytes.take first ++ encoded)) ∧
    (∀ failure, result.1 = .error failure → result.2 = w) ∧
    (bytes.length < first → ∃ reason, result.1 = .error (.splice path (spliceName handler) reason)) ∧
    (first ≤ bytes.length → block.Scalar → ¬ Storage.TooFar bytes.length last → ∀ place,
      storage.Opens w path place bytes → storage.Makes w place.dropLast → storage.Serves chunk bytes first last block →
        result.1 = .ok ()) := by
  intro result
  have hcases : Rewrites storage chunk w path first last block handler result :=
    rewrite_rewrites storage w path first last block handler hchunk
  have hints : (0 : Int) ≤ first ∧ (first : Int) ≤ last := by omega
  refine ⟨fun hresult => ?_, fun _ hresult => (hcases.failure hresult).2, fun hshort => ?_, ?_⟩
  · obtain ⟨hscalar, place, found, hopens, hreach, hput⟩ := hcases.success hresult
    obtain rfl : bytes = found := Except.ok.inj (hread.symm.trans hopens.read)
    rw [Int.toNat_natCast] at hreach
    rw [hput, Int.toNat_natCast, Int.toNat_natCast]
    refine ⟨_, _, CodeText.encode_of_scalar hscalar, read_put_file hopens.entry _ hopens.located, ?_, fun hover => ?_⟩
    · simp only [replaceRange, List.length_append, List.length_take, List.length_drop]
      omega
    · rw [replaceRange, List.drop_of_length_le (Nat.le_of_lt hover), List.append_nil]
  · obtain ⟨place, hlocated, hentry⟩ := read_eq_ok_iff.1 hread
    refine hcases.splice_iff.2 ⟨hints, ?_⟩
    by_cases hopened : storage.fault .openFile = none
    · exact .inr ⟨place, bytes, ⟨hlocated, hentry, hopened⟩, .inl (by simpa using hshort)⟩
    · exact .inl fun _ _ hopens => hopened hopens.opened
  · intro hreach hscalar hfar place hopens hmakes hserves
    refine hcases.done_of ⟨hints, hopens, ?_, hmakes, ?_⟩ hscalar ?_
    · rwa [Int.toNat_natCast]
    · rwa [Int.toNat_natCast, Int.toNat_natCast]
    · rwa [Int.toNat_natCast]

/-- Of six bytes the last four are lost to a range that ends behind them. -/
theorem rewrite_length_sixBytes : sixBytes.read "a.go" = .ok (Text.utf8 "abcdef") ∧
    ∃ bytes', (sixBytes.rewrite (refusing []) 3 "a.go" (2 : Nat) (9 : Nat) "XYZ" "").2.read "a.go" = .ok bytes' ∧
      bytes' = (Text.utf8 "abcdef").take 2 ++ Text.utf8 "XYZ" := by
  have hread := (opens_sixBytes [] (by simp)).read
  have hdone := rewrite_sixBytes (by decide : 2 ≤ 9) (by decide) (by decide)
  obtain ⟨bytes', encoded, hencoded, hbytes, -, hlost⟩ :=
    (rewrite_length (refusing []) sixBytes "a.go" "XYZ" "" (by decide : 0 < 3) hread (by decide : 2 ≤ 9)).1 hdone
  obtain rfl : Text.utf8 "XYZ" = encoded := (CodeText.utf8_ofString _).symm.trans (CodeText.encode_eq_ok_iff.1 hencoded).2
  exact ⟨hread, bytes', hbytes, hlost (by decide)⟩

/-- A range that starts in a file and ends behind it is replaced, and the lengths do not add up. -/
theorem splice_over_end_sixBytes :
    ∃ after, sixBytes.splice "a.go" 2 8 "X" "" = .ok after ∧ after.read "a.go" = .ok (Text.utf8 "abX") ∧
      ((Text.utf8 "abX").length : Int) ≠ 6 - (8 - 2) + (Text.utf8 "X").length := by
  have hfile := opens_sixBytes [] (by simp)
  refine ⟨_, ?_, read_put_file hfile.entry (Text.utf8 "abX") hfile.located, by decide⟩
  have hbytes : replaceRange (Text.utf8 "abcdef") (2 : Int).toNat (8 : Int).toNat (Text.utf8 "X") =
      Text.utf8 "abX" := rfl
  rw [splice_eq]
  simp only [hfile.located, hfile.read, CodeText.encode_of_scalar (CodeText.scalar_ofString _),
    CodeText.utf8_ofString]
  rw [if_neg (by decide), if_neg (by decide), if_neg (by decide), hbytes]

end Workspace

end RouteDoc
