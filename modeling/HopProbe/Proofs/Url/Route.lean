import HopProbe.Proofs.Url.Segments
import HopProbe.Url.Parser

/-!
# What a path is made of

Whatever a path was read from or extended with, each character of its segments
is one that a path allows. None of them ends the path.
-/

set_option autoImplicit false

namespace HopProbe.Url
open HopProbe.Text

def Allows (segments : List (List Char)) : Prop :=
  ∀ segment ∈ segments, ∀ c ∈ segment, Percent.Allowed Percent.path c

theorem Allows.concat {segments : List (List Char)} {segment : List Char} (front : Allows segments)
    (last : ∀ c ∈ segment, Percent.Allowed Percent.path c) : Allows (segments ++ [segment]) := by
  intro s hs
  rcases List.mem_append.mp hs with hs | hs
  · exact front s hs
  · rw [List.mem_singleton.mp hs]
    exact last

theorem Allows.sublist {segments more : List (List Char)} (h : Allows more)
    (part : segments.Sublist more) : Allows segments :=
  fun s hs => h s (part.mem hs)

theorem allowed_of_isAlpha {c : Char} (h : c.isAlpha = true) : Percent.Allowed Percent.path c := by
  have ascii : c.toNat < 128 := (visible_of_isAlpha h).2
  have all : ∀ n : Fin 128, (Char.ofNat n).isAlpha = true →
      (Char.ofNat n).toNat < 0x80 ∧ Percent.path (Char.ofNat n) = false := by decide
  exact forall_ascii (P := fun c => c.isAlpha = true → Percent.Allowed Percent.path c) all ascii h

theorem path_stable : Percent.Stable Percent.path := forall_of_all (by decide)

theorem allowed_drive {letter : Char} (h : letter.isAlpha = true) :
    ∀ c ∈ [letter, ':'], Percent.Allowed Percent.path c := by
  intro c hc
  simp only [List.mem_cons, List.not_mem_nil, or_false] at hc
  rcases hc with rfl | rfl
  · exact allowed_of_isAlpha h
  · exact ⟨by decide, by decide⟩

theorem isAlpha_of_driveLetter {segment : List Char} {letter : Char}
    (h : driveLetter? segment = some letter) : letter.isAlpha = true := by
  unfold driveLetter? at h
  split at h
  · split at h
    · next drive =>
      cases h
      exact drive.1
    · cases h
  · cases h

section
variable (kind : SchemeKind) {w : Way}

theorem Way.allows_parent (h : Allows w.segments) : Allows w.parent.segments := by
  unfold parent
  split
  · split
    · exact h
    · exact h.sublist (List.dropLast_sublist _)
  · exact h

theorem Way.allows_append (h : Allows w.segments) {segment : List Char}
    (made : ∀ c ∈ segment, Percent.Allowed Percent.path c) :
    Allows (w.append kind segment).segments := by
  unfold append
  split
  · next letter found =>
    split at found
    · have drive := allowed_drive (isAlpha_of_driveLetter found)
      have none : Allows [] := by simp [Allows]
      exact none.concat drive
    · cases found
  · exact h.concat made

theorem Way.allows_enter (h : Allows w.segments) {segment : List Char}
    (made : ∀ c ∈ segment, Percent.Allowed Percent.path c) :
    Allows (w.enter kind segment).segments := by
  unfold enter
  split
  · exact allows_parent h
  · split
    · exact h
    · exact allows_append kind h made

theorem Way.allows_arrive (h : Allows w.segments) {segment : List Char}
    (made : ∀ c ∈ segment, Percent.Allowed Percent.path c) :
    Allows (w.arrive kind segment).segments := by
  unfold arrive
  split
  · exact allows_append kind (allows_parent h) (by simp)
  · split
    · exact allows_append kind h (by simp)
    · exact allows_append kind h made

theorem Way.allows_take (h : Allows w.segments) {encode : List Char → List Char}
    (made : ∀ cs, ∀ c ∈ encode cs, Percent.Allowed Percent.path c) (isLast : Bool)
    (piece : List Char) : Allows (w.take kind encode isLast piece).segments := by
  unfold take
  split
  · next letter rest drive =>
    have alpha : letter.isAlpha = true := by
      unfold cutDrive? at drive
      split at drive
      · split at drive
        · next found =>
          cases drive
          exact found.2.2.1
        · cases drive
      · cases drive
    have first : Allows [[letter, ':']] := by
      intro s hs
      rw [List.mem_singleton.mp hs]
      exact allowed_drive alpha
    exact first.concat (made rest)
  · dsimp only
    split
    · exact allows_arrive kind h (made _)
    · exact allows_enter kind h (made _)

theorem Way.allows_walk (pieces : List (List Char)) (h : Allows w.segments) :
    Allows (w.walk kind pieces).segments := by
  have made (cs : List Char) : ∀ c ∈ Percent.encode Percent.path cs, Percent.Allowed Percent.path c :=
    fun c hc => Percent.allowed_of_mem_encode path_stable hc
  fun_induction Way.walk kind w pieces with
  | case1 w => exact h
  | case2 w last => exact allows_take kind h made true last
  | case3 w piece rest _ ih => exact ih (allows_take kind h made false piece)

theorem fileSegments_sublist (segments : List (List Char)) :
    (fileSegments segments).Sublist segments := by
  fun_induction fileSegments segments with
  | case1 s rest ih => exact ih.cons []
  | case2 segments => exact List.Sublist.refl _

theorem allows_segmentsOf (cs : List Char) : Allows (segmentsOf kind cs) := by
  have walked := Way.allows_walk kind (w := ⟨[], false⟩) (slashPieces kind cs) (by simp [Allows])
  unfold segmentsOf wayOf
  dsimp only
  split
  · exact walked.sublist (fileSegments_sublist _)
  · exact walked

theorem allows_pushSegment {segments : List (List Char)} (h : Allows segments) (text : String) :
    Allows (pushSegment kind segments text) := by
  have made (cs : List Char) :
      ∀ c ∈ Percent.encode (segmentEscapes kind) cs, Percent.Allowed Percent.path c := by
    intro c hc
    rcases Percent.mem_encode hc with ⟨-, ascii, allowed⟩ | mark
    · refine ⟨ascii, ?_⟩
      revert allowed
      unfold segmentEscapes
      split
      · simp only [Percent.specialSegment, Percent.segment, Bool.or_eq_false_iff]
        exact fun h => h.1.1
      · simp only [Percent.segment, Bool.or_eq_false_iff]
        exact fun h => h.1
    · exact Percent.allowed_of_mem_marks path_stable mark
  unfold pushSegment
  split
  · exact h
  · refine Way.allows_take kind ?_ made true _
    dsimp only
    split
    · simp [Allows]
    · exact h

end

theorem allows_push {kind : SchemeKind} {parts : List (List Char)} (h : Allows parts)
    (more : List String) : Allows (more.foldl (pushSegment kind) (withoutEmptyEnd parts)) := by
  have start : Allows (withoutEmptyEnd parts) := by
    unfold withoutEmptyEnd
    split
    · exact h.sublist (List.dropLast_sublist _)
    · exact h
  generalize withoutEmptyEnd parts = segments at start
  induction more generalizing segments with
  | nil => exact start
  | cons text more ih => exact ih _ (allows_pushSegment kind start text)

theorem allows_routeBehind {kind : SchemeKind} {cs : List Char} {parts : List (List Char)}
    (h : routeBehind kind cs = .segments parts) : Allows parts := by
  unfold routeBehind at h
  split at h
  · cases h
    intro s hs
    split at hs <;> simp_all
  · cases h
    exact allows_segmentsOf kind _

theorem allows_withAuthority {scheme : String} {tail : Tail} {cs : List Char} {u : Url}
    (h : withAuthority scheme tail cs = .ok u) {parts : List (List Char)}
    (route : u.route = .segments parts) : Allows parts := by
  simp only [withAuthority, bind, Except.bind] at h
  split at h
  · cases h
  · cases h
    exact allows_routeBehind route

theorem allows_fileUrl {tail : Tail} {typed : List Char} {u : Url}
    (h : fileUrl tail typed = .ok u) {parts : List (List Char)}
    (route : u.route = .segments parts) : Allows parts := by
  have walked {host : Host} {path : List Char}
      (made : (.ok (fileOn host tail path) : Except ParseError Url) = .ok u) : Allows parts := by
    cases made
    cases route
    exact allows_segmentsOf .file path
  simp only [fileUrl] at h
  split at h
  · split at h
    · split at h
      · exact walked h
      · simp only [bind, Except.bind] at h
        split at h
        · cases h
        · exact walked h
    · exact walked h
  · exact walked h
  · exact walked h

/-- No character of a path that was read is one that a path would escape. -/
theorem allows_of_parse {s : String} {u : Url} (h : parse s = .ok u) {parts : List (List Char)}
    (route : u.route = .segments parts) : Allows parts := by
  simp only [parse] at h
  split at h
  · cases h
  · unfold bodyOf at h
    dsimp only at h
    split at h
    · exact allows_fileUrl h route
    · exact allows_withAuthority h route
    · split at h
      · exact allows_withAuthority h route
      · cases h
        cases route
        exact allows_segmentsOf .plain _
      · cases h
        cases route

theorem not_mem_segmentsText {parts : List (List Char)} (h : Allows parts) {c : Char}
    (escaped : Percent.path c = true) (other : c ≠ '/') : c ∉ segmentsText parts := by
  intro hc
  obtain ⟨segment, inside, hc⟩ := List.mem_flatMap.mp hc
  rcases List.mem_cons.mp hc with slash | hc
  · exact other slash
  · have allowed := (h segment inside c hc).2
    rw [escaped] at allowed
    cases allowed

def endsPath (c : Char) : Bool := c == '?' || c == '#'

theorem takeWhile_path {path : List Char} (inside : '?' ∉ path ∧ '#' ∉ path) (u : Url) :
    (path ++ (u.queryText.toList ++ u.fragmentText.toList)).takeWhile (! endsPath ·) = path := by
  have ends : (u.queryText.toList ++ u.fragmentText.toList).takeWhile (! endsPath ·) = [] := by
    cases query : u.query with
    | some q => simp [queryText, query, endsPath]
    | none =>
      cases fragment : u.fragment with
      | some f => simp [queryText, query, fragmentText, fragment, endsPath]
      | none => simp [queryText, query, fragmentText, fragment]
  have all : ∀ c ∈ path, (! endsPath c) = true := by
    intro c hc
    have mark : c ≠ '?' ∧ c ≠ '#' :=
      ⟨fun e => inside.1 (e ▸ hc), fun e => inside.2 (e ▸ hc)⟩
    simp [endsPath, mark]
  rw [List.takeWhile_append_of_pos all, ends, List.append_nil]

def frontText (u : Url) : String := u.scheme ++ ":" ++ u.authorityText ++ u.guardText

theorem toList_text {u : Url} {parts : List (List Char)} (route : u.route = .segments parts) :
    u.text.toList = u.frontText.toList ++
      (segmentsText parts ++ (u.queryText.toList ++ u.fragmentText.toList)) := by
  simp [text, frontText, target, pathText, route, Route.text]

/-- A path is read off the text of its URL, where what stands in front of it is known. -/
theorem segmentsText_of_text {u v : Url} {parts others : List (List Char)}
    (front : u.frontText = v.frontText) (route : u.route = .segments parts)
    (other : v.route = .segments others) (first : Allows parts) (second : Allows others)
    (same : u.text = v.text) : segmentsText parts = segmentsText others := by
  have marks {parts : List (List Char)} (h : Allows parts) :
      '?' ∉ segmentsText parts ∧ '#' ∉ segmentsText parts :=
    ⟨not_mem_segmentsText h (by decide) (by decide), not_mem_segmentsText h (by decide) (by decide)⟩
  have behind := congrArg String.toList same
  rw [toList_text route, toList_text other, front] at behind
  rw [← takeWhile_path (marks first) u, List.append_cancel_left behind,
    takeWhile_path (marks second) v]

end HopProbe.Url
