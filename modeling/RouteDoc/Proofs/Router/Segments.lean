/-
Paths, segment by segment.

A pattern is rewritten one segment at a time: where something follows the first
colon of a segment, it is the name of a placeholder and stands in braces
(`canonical_eq_join`). Braces that a pattern does not have of its own are those
of its placeholders, so reading the documented path back lists the names that
the segments bind, in order (`placeholders_canonical`).
-/
import RouteDoc.Proofs.Text.CodeTexts
import RouteDoc.Proofs.Workspace.Paths
import RouteDoc.Route.Canonical

namespace RouteDoc

/-- A piece has nothing that the text does not have. -/
theorem Text.mem_of_mem_splitAt {α : Type} [BEq α] [LawfulBEq α] {sep c : α} {s piece : List α}
    (hpiece : piece ∈ splitAt sep s) (hc : c ∈ piece) : c ∈ s := by
  induction s generalizing piece with
  | nil =>
    obtain rfl : piece = [] := by simpa [splitAt] using hpiece
    exact hc
  | cons d s ih =>
    rw [splitAt] at hpiece
    split at hpiece
    · exact absurd ‹_› (splitAt_ne_nil sep s)
    rename_i first more hsplit
    rw [hsplit] at ih
    split at hpiece
    · rcases List.mem_cons.1 hpiece with rfl | hpiece
      · cases hc
      · exact List.mem_cons_of_mem d (ih hpiece hc)
    · rcases List.mem_cons.1 hpiece with rfl | hpiece
      · exact List.mem_cons.2 ((List.mem_cons.1 hc).imp_right (ih List.mem_cons_self))
      · exact List.mem_cons_of_mem d (ih (List.mem_cons_of_mem first hpiece) hc)

namespace Route

/-- The name that a segment binds: what follows its first colon, where that is something. -/
def nameIn (segment : List Char) : Option (List Char) :=
  match segment.dropWhile (· != ':') with
  | [] => none
  | _ :: name => if name.isEmpty then none else some name

/-- A segment with its name in braces, where it binds one. -/
def canonicalSegment (segment : List Char) : List Char :=
  match nameIn segment with
  | none => segment
  | some name => segment.takeWhile (· != ':') ++ '{' :: (name ++ ['}'])

/-- The names that a pattern binds, from left to right. -/
def boundNames (pattern : List Char) : List (List Char) := (Text.splitAt '/' pattern).filterMap nameIn

variable {segment name tail : List Char} {c : Char}

/-! ## Segments -/

theorem nameIn_colon (name : List Char) : nameIn (':' :: name) = if name.isEmpty then none else some name := by
  simp [nameIn]

theorem nameIn_cons (hc : c ≠ ':') : nameIn (c :: segment) = nameIn segment := by
  simp [nameIn, hc]

theorem canonicalSegment_cons (hc : c ≠ ':') :
    canonicalSegment (c :: segment) = c :: canonicalSegment segment := by
  unfold canonicalSegment
  rw [nameIn_cons hc]
  cases nameIn segment with
  | none => rfl
  | some name => simp [hc]

/-- A segment that binds a name has it behind a colon. -/
theorem nameIn_eq_some (h : nameIn segment = some name) :
    segment = segment.takeWhile (· != ':') ++ ':' :: name ∧ name ≠ [] := by
  unfold nameIn at h
  have hsplit := List.takeWhile_append_dropWhile (p := (· != ':')) (l := segment)
  have hcolon := List.head?_dropWhile_not (· != ':') segment
  split at h
  · cases h
  · rename_i c rest hdrop
    rw [hdrop] at hsplit hcolon
    obtain rfl : c = ':' := by simpa using hcolon
    split at h
    · cases h
    · rename_i hne
      obtain rfl := Option.some.inj h
      exact ⟨hsplit.symm, by simpa using hne⟩

/-- What can follow a segment: nothing, or a slash. -/
def EndsSegment (tail : List Char) : Prop := tail = [] ∨ ∃ rest, tail = '/' :: rest

theorem namesSomething_append (hslash : '/' ∉ name) (htail : EndsSegment tail) :
    namesSomething (name ++ tail) = !name.isEmpty := by
  cases name with
  | nil =>
    rcases htail with rfl | ⟨rest, rfl⟩
    · rfl
    · simp [namesSomething]
  | cons c name =>
    simp only [List.mem_cons, not_or] at hslash
    simp [namesSomething, Ne.symm hslash.1]

/-- A name goes on to the end of its segment. -/
theorem canonicalFrom_name (hslash : '/' ∉ name) (htail : EndsSegment tail) :
    canonicalFrom true (name ++ tail) = name ++ '}' :: canonicalFrom false tail := by
  induction name with
  | nil =>
    rcases htail with rfl | ⟨rest, rfl⟩
    · rfl
    · simp [canonicalFrom]
  | cons c name ih =>
    simp only [List.mem_cons, not_or] at hslash
    have hc : (c == '/') = false := by simpa using Ne.symm hslash.1
    rw [List.cons_append, canonicalFrom, hc]
    simpa using ih hslash.2

theorem canonicalFrom_segment (hslash : '/' ∉ segment) (htail : EndsSegment tail) :
    canonicalFrom false (segment ++ tail) = canonicalSegment segment ++ canonicalFrom false tail := by
  induction segment with
  | nil => rfl
  | cons c segment ih =>
    simp only [List.mem_cons, not_or] at hslash
    rw [List.cons_append, canonicalFrom, namesSomething_append hslash.2 htail]
    by_cases hc : c = ':'
    · subst hc
      rw [canonicalSegment, nameIn_colon]
      cases segment with
      | nil => simp
      | cons d segment =>
        have hname := canonicalFrom_name hslash.2 htail
        simpa using hname
    · have hcolon : (c == ':') = false := by simpa using hc
      rw [canonicalSegment_cons hc, hcolon]
      simpa using ih hslash.2

/-- **A pattern is rewritten segment by segment.** -/
theorem canonical_eq_join (pattern : List Char) :
    canonical pattern = List.intercalate ['/'] ((Text.splitAt '/' pattern).map canonicalSegment) := by
  induction hn : pattern.length using Nat.strongRecOn generalizing pattern with
  | _ n ih =>
    subst hn
    by_cases hmem : '/' ∈ pattern
    · obtain ⟨segment, rest, rfl, hslash⟩ := List.eq_append_cons_of_mem hmem
      have hrest := ih rest.length (by simp; omega) rest rfl
      have htail : canonicalFrom false ('/' :: rest) = '/' :: canonical rest := by
        simp [canonicalFrom, canonical]
      obtain ⟨first, more, hsplit⟩ := List.exists_cons_of_ne_nil (Text.splitAt_ne_nil '/' rest)
      rw [canonical, canonicalFrom_segment hslash (.inr ⟨rest, rfl⟩), htail, hrest, Text.splitAt_append,
        Text.splitAt_of_not_mem hslash, hsplit]
      simp [List.intercalate_cons_cons]
    · rw [Text.splitAt_of_not_mem hmem, canonical]
      have hwhole := canonicalFrom_segment hmem (.inl (Eq.refl []))
      simpa [canonicalFrom] using hwhole

/-! ## Placeholders -/

open CodeText (ofChars)

theorem placeholdersFrom_skip (skip : Nat) (s : CodeText) :
    placeholdersFrom skip s = placeholdersFrom 0 (s.drop skip) := by
  induction s generalizing skip with
  | nil => cases skip <;> rfl
  | cons c s ih =>
    cases skip with
    | zero => rfl
    | succ skip => simpa [placeholdersFrom] using ih skip

/-- A text without an opening brace is passed over. -/
theorem placeholdersFrom_pass {s : CodeText} (h : .char '{' ∉ s) (t : CodeText) :
    placeholdersFrom 0 (s ++ t) = placeholdersFrom 0 t := by
  induction s with
  | nil => rfl
  | cons c s ih =>
    simp only [List.mem_cons, not_or] at h
    have hc : (c == .char '{') = false := by simpa using Ne.symm h.1
    rw [List.cons_append, placeholdersFrom, hc]
    simpa using ih h.2

theorem placeholdersFrom_braces {name : CodeText} (hne : name ≠ []) (hclose : .char '}' ∉ name) (t : CodeText) :
    placeholdersFrom 0 (.char '{' :: (name ++ .char '}' :: t)) = name :: placeholdersFrom 0 t := by
  have htake : (name ++ .char '}' :: t).takeWhile (· != .char '}') = name := by
    rw [List.takeWhile_append_of_pos fun c hc => by
      simpa using fun heq : c = .char '}' => hclose (heq ▸ hc)]
    simp
  have hname : placeholderAt (name ++ .char '}' :: t) = some name := by
    unfold placeholderAt
    simp [htake, hne]
  rw [placeholdersFrom, hname]
  simp only [beq_self_eq_true, if_true]
  rw [placeholdersFrom_skip]
  simp

theorem placeholdersFrom_segment (hopen : '{' ∉ segment) (hclose : '}' ∉ segment) (t : CodeText) :
    placeholdersFrom 0 (ofChars (canonicalSegment segment) ++ t) =
      (nameIn segment).toList.map ofChars ++ placeholdersFrom 0 t := by
  unfold canonicalSegment
  cases hname : nameIn segment with
  | none => exact placeholdersFrom_pass (by simpa using hopen) t
  | some name =>
    obtain ⟨hsegment, hne⟩ := nameIn_eq_some hname
    rw [hsegment] at hopen hclose
    simp only [List.mem_append, List.mem_cons, not_or] at hopen hclose
    have hname : ofChars name ≠ [] := by simpa [ofChars] using hne
    have hbraces := placeholdersFrom_braces hname (by simpa using hclose.2.2) t
    have hchars : ofChars (segment.takeWhile (· != ':') ++ '{' :: (name ++ ['}'])) ++ t =
        ofChars (segment.takeWhile (· != ':')) ++ .char '{' :: (ofChars name ++ .char '}' :: t) := by
      simp [ofChars]
    rw [hchars, placeholdersFrom_pass (by simpa using hopen.1), hbraces]
    rfl

theorem placeholdersFrom_join {segments : List (List Char)} (hopen : ∀ x ∈ segments, '{' ∉ x)
    (hclose : ∀ x ∈ segments, '}' ∉ x) :
    placeholdersFrom 0 (ofChars (List.intercalate ['/'] (segments.map canonicalSegment))) =
      (segments.filterMap nameIn).map ofChars := by
  induction segments with
  | nil => rfl
  | cons first more ih =>
    obtain ⟨hopen₁, hopens⟩ := List.forall_mem_cons.1 hopen
    obtain ⟨hclose₁, hcloses⟩ := List.forall_mem_cons.1 hclose
    have hlist : (first :: more).filterMap nameIn = (nameIn first).toList ++ more.filterMap nameIn := by
      cases hname : nameIn first <;> simp [hname]
    rw [hlist, List.map_append, ← ih hopens hcloses]
    cases more with
    | nil =>
      have hlast := placeholdersFrom_segment hopen₁ hclose₁ []
      simpa [ofChars] using hlast
    | cons second more =>
      have hchars : ∀ x y : List Char, ofChars (x ++ ['/'] ++ y) = ofChars x ++ ([.char '/'] ++ ofChars y) := by
        simp [ofChars]
      rw [List.map_cons, List.map_cons, List.intercalate_cons_cons, hchars,
        placeholdersFrom_segment hopen₁ hclose₁, placeholdersFrom_pass (by decide)]

/-- **The placeholders of a pattern without braces** are the names that its segments bind. -/
theorem placeholders_canonical {pattern : List Char} (hopen : '{' ∉ pattern) (hclose : '}' ∉ pattern) :
    placeholders (ofChars (canonical pattern)) = (boundNames pattern).map ofChars := by
  rw [canonical_eq_join]
  exact placeholdersFrom_join (fun x hx hmem => hopen (Text.mem_of_mem_splitAt hx hmem))
    fun x hx hmem => hclose (Text.mem_of_mem_splitAt hx hmem)

end Route

end RouteDoc
