import HopProbe.Proofs.Url.Parsing

/-!
# What stands behind a scheme

A text that begins with a scheme in small letters is cut at its number signs
and question marks behind the scheme only. A query then stays beside all else
of the URL: what stands before it is read as if it were not there.
-/

set_option autoImplicit false

namespace HopProbe.Url
open HopProbe.Text

theorem dropWhile_front {p : Char → Bool} {front : List Char} (h : ∀ c ∈ front, p c = false)
    (filled : front ≠ []) (cs : List Char) : (front ++ cs).dropWhile p = front ++ cs := by
  obtain ⟨c, more, rfl⟩ := List.exists_cons_of_ne_nil filled
  have first : p c = false := h c (by simp)
  rw [List.cons_append, List.dropWhile_cons_of_neg (by simp [first])]

theorem dropEndWhile_back {p : Char → Bool} {back : List Char} (h : ∀ c ∈ back, p c = false)
    (filled : back ≠ []) (cs : List Char) : dropEndWhile p (cs ++ back) = cs ++ back := by
  have backwards : ∀ c ∈ back.reverse, p c = false := fun c hc => h c (List.mem_reverse.mp hc)
  have kept := dropWhile_front backwards (by simpa using filled) cs.reverse
  rw [dropEndWhile, List.reverse_append, kept, List.reverse_append, List.reverse_reverse,
    List.reverse_reverse]

theorem cutOff_front {sep : Char} {front : List Char} (h : sep ∉ front) (cs : List Char) :
    cutOff sep (front ++ cs) = (front ++ (cutOff sep cs).1, (cutOff sep cs).2) := by
  rw [cutOff, cutFirst_front h, cutOff]
  cases cutFirst sep cs <;> rfl

theorem skipCounted_append {front : List Char} (h : ∀ c ∈ front, isIgnored c = false)
    (cs : List Char) : skipCounted front.length (front ++ cs) = cs := by
  induction front with
  | nil => rw [List.length_nil, List.nil_append, skipCounted]
  | cons c front ih =>
    have first : isIgnored c = false := h c (by simp)
    rw [List.length_cons, List.cons_append, skipCounted, first]
    exact ih fun d hd => h d (by simp [hd])

theorem ascii_of_isSchemeChar {c : Char} (h : isSchemeChar c = true) : c.toNat < 128 := by
  simp only [isSchemeChar, Bool.or_eq_true, beq_iff_eq] at h
  rcases h with ((letter | rfl) | rfl) | rfl
  · exact (visible_of_isAlphanum letter).2
  all_goals decide

def IsScheme (name : String) : Prop :=
  name.toList.head?.any Char.isAlpha = true ∧
    ∀ c ∈ name.toList, isSchemeChar c = true ∧ c.toLower = c

instance (name : String) : Decidable (IsScheme name) :=
  @instDecidableAnd _ _ _ (List.decidableBAll _ _)

theorem inside_scheme {name : String} (h : IsScheme name) :
    ∀ c ∈ name.toList ++ [':'], 0x20 < c.toNat ∧ c ≠ '#' ∧ c ≠ '?' := by
  have all : ∀ n : Fin 128, isSchemeChar (Char.ofNat n) = true →
      0x20 < (Char.ofNat n).toNat ∧ Char.ofNat n ≠ '#' ∧ Char.ofNat n ≠ '?' := by decide
  intro c hc
  rcases List.mem_append.mp hc with hc | hc
  · have allowed := (h.2 c hc).1
    exact forall_ascii (P := fun c => isSchemeChar c = true → 0x20 < c.toNat ∧ c ≠ '#' ∧ c ≠ '?')
      all (ascii_of_isSchemeChar allowed) allowed
  · rw [List.mem_singleton.mp hc]
    decide

theorem isIgnored_of_visible {c : Char} (h : 0x20 < c.toNat) : isIgnored c = false := by
  have kept : counted [c] = [c] := counted_eq_self (by simpa using h)
  simpa [counted] using kept

theorem cutScheme_scheme {name : String} (h : IsScheme name) (cs : List Char) :
    cutScheme (name.toList ++ ':' :: cs) = some (name, cs) := by
  obtain ⟨letter, allowed⟩ := h
  have noColon : ':' ∉ name.toList := fun hm => absurd (allowed ':' hm).1 (by decide)
  have lowered : name.toList.map Char.toLower = name.toList := by
    rw [List.map_congr_left fun c hc => (allowed c hc).2, List.map_id']
  have valid : name.toList.all isSchemeChar = true := List.all_eq_true.mpr fun c hc => (allowed c hc).1
  have found := cutFirst_append noColon cs
  cases front : name.toList with
  | nil => simp [front] at letter
  | cons c rest =>
    rw [front] at found lowered valid letter
    have alpha : c.isAlpha = true := letter
    rw [List.cons_append] at found ⊢
    simp only [cutScheme, alpha, found, valid, lowered, if_true]
    rw [← front, String.ofList_toList]

theorem parse_scheme {name : String} (h : IsScheme name) (rest : List Char) :
    parse (String.ofList (name.toList ++ ':' :: rest)) =
      let (body, fragment) := cutOff '#' (dropEndWhile isEdgeBlank rest)
      let (body, query) := cutOff '?' body
      bodyOf name ⟨query.map (queryOf (SchemeKind.of name) ∘ counted),
        fragment.map (encodedText Percent.fragment ∘ counted)⟩ body := by
  have inside := inside_scheme h
  have edge : ∀ c ∈ name.toList ++ [':'], isEdgeBlank c = false := fun c hc => by
    simpa [isEdgeBlank] using (inside c hc).1
  have kept : ∀ c ∈ name.toList ++ [':'], isIgnored c = false := fun c hc =>
    isIgnored_of_visible (inside c hc).1
  have front (cs : List Char) : name.toList ++ ':' :: cs = (name.toList ++ [':']) ++ cs := by simp
  have noHash : '#' ∉ name.toList ++ [':'] := fun hm => (inside _ hm).2.1 rfl
  have noMark : '?' ∉ name.toList ++ [':'] := fun hm => (inside _ hm).2.2 rfl
  have trimmed : bare (name.toList ++ ':' :: rest) =
      (name.toList ++ [':']) ++ dropEndWhile isEdgeBlank rest := by
    rw [bare, front, dropWhile_front edge (by simp), dropEndWhile_append edge]
  have whole : (name.toList ++ [':']).filter (! isIgnored ·) = name.toList ++ [':'] :=
    counted_eq_self fun c hc => (inside c hc).1
  have typed (cs : List Char) : counted ((name.toList ++ [':']) ++ cs) =
      name.toList ++ ':' :: counted cs := by
    rw [counted, List.filter_append, whole, front (counted cs), counted]
  rw [parse, String.toList_ofList, trimmed, cutOff_front noHash]
  dsimp only
  rw [cutOff_front noMark]
  dsimp only
  rw [typed, cutScheme_scheme h]
  dsimp only
  have length (cs : List Char) : (name.toList ++ ':' :: cs).length - cs.length =
      (name.toList ++ [':']).length := by
    simp only [List.length_append, List.length_cons, List.length_nil]
    omega
  rw [length, skipCounted_append kept]

/-- Whether anything follows an authority decides about a lone at sign, which names no host anyway. -/
theorem authorityOf_special (port : Nat) (followed : Bool) (cs : List Char) :
    authorityOf (.special port) followed cs = authorityOf (.special port) false cs := by
  by_cases lone : cs = ['@']
  · subst lone
    cases followed <;> rfl
  · simp [authorityOf, lone]

def withQuery (query : Option String) (u : Url) : Url := { u with query := query }

theorem withAuthority_query {scheme : String} {port : Nat}
    (special : SchemeKind.of scheme = .special port) (query : Option String) (cs : List Char) :
    withAuthority scheme ⟨query, none⟩ cs =
      (withAuthority scheme ⟨none, none⟩ cs).map (withQuery query) := by
  simp only [withAuthority, special]
  rw [authorityOf_special, authorityOf_special port (!_ || _ || _)]
  cases authorityOf (.special port) false (cs.takeWhile (! (SchemeKind.special port).isSlash ·)) with
  | error e => rfl
  | ok read => rfl

theorem tail_of_withAuthority {scheme : String} {tail : Tail} {cs : List Char} {u : Url}
    (h : withAuthority scheme tail cs = .ok u) : u.query = tail.query ∧ u.fragment = tail.fragment := by
  simp only [withAuthority, bind, Except.bind] at h
  split at h
  · cases h
  · cases h
    exact ⟨rfl, rfl⟩

theorem bodyOf_of_special {scheme : String} {port : Nat} (special : SchemeKind.of scheme = .special port)
    (tail : Tail) (typed : List Char) :
    bodyOf scheme tail typed =
      withAuthority scheme tail ((counted typed).dropWhile (SchemeKind.special port).isSlash) := by
  simp only [bodyOf, special]

theorem inside_query {c : Char} (h : Percent.Allowed Percent.specialQuery c) :
    0x20 < c.toNat ∧ c ≠ '#' := by
  have all : ∀ n : Fin 128, Percent.specialQuery (Char.ofNat n) = false →
      0x20 < (Char.ofNat n).toNat ∧ Char.ofNat n ≠ '#' := by decide
  exact forall_ascii (P := fun c => Percent.specialQuery c = false → 0x20 < c.toNat ∧ c ≠ '#')
    all h.1 h.2

section
variable {name : String} (h : IsScheme name) {port : Nat} (special : SchemeKind.of name = .special port)
  {rest : List Char} (plain : ∀ c ∈ rest, 0x20 < c.toNat ∧ c ≠ '#' ∧ c ≠ '?')
include h special plain

theorem parse_without_query : parse (String.ofList (name.toList ++ ':' :: rest)) =
    withAuthority name ⟨none, none⟩ (rest.dropWhile (SchemeKind.special port).isSlash) := by
  have noHash : '#' ∉ rest := fun hm => (plain _ hm).2.1 rfl
  have noMark : '?' ∉ rest := fun hm => (plain _ hm).2.2 rfl
  have edges : dropEndWhile isEdgeBlank rest = rest :=
    dropEndWhile_eq_self fun c hc => by simpa [isEdgeBlank] using (plain c hc).1
  have whole : counted rest = rest := counted_eq_self fun c hc => (plain c hc).1
  rw [parse_scheme h, edges, cutOff_of_not_mem noHash]
  dsimp only
  rw [cutOff_of_not_mem noMark, bodyOf_of_special special, whole]
  rfl

/-- A query that needs no escapes is kept as it is, and nothing else is read otherwise for it. -/
theorem parse_with_query {query : List Char}
    (allowed : ∀ c ∈ query, Percent.Allowed Percent.specialQuery c) :
    parse (String.ofList (name.toList ++ ':' :: (rest ++ '?' :: query))) =
      (parse (String.ofList (name.toList ++ ':' :: rest))).map
        (withQuery (some (String.ofList query))) := by
  have visible : ∀ c ∈ rest ++ '?' :: query, 0x20 < c.toNat ∧ c ≠ '#' := by
    intro c hc
    rcases List.mem_append.mp hc with hc | hc
    · exact ⟨(plain c hc).1, (plain c hc).2.1⟩
    · rcases List.mem_cons.mp hc with rfl | hc
      · decide
      · exact inside_query (allowed c hc)
  have noHash : '#' ∉ rest ++ '?' :: query := fun hm => (visible _ hm).2 rfl
  have noMark : '?' ∉ rest := fun hm => (plain _ hm).2.2 rfl
  have edges : dropEndWhile isEdgeBlank (rest ++ '?' :: query) = rest ++ '?' :: query :=
    dropEndWhile_eq_self fun c hc => by simpa [isEdgeBlank] using (visible c hc).1
  have whole : counted rest = rest := counted_eq_self fun c hc => (plain c hc).1
  have written : queryOf (.special port) (counted query) = String.ofList query := by
    rw [counted_eq_self fun c hc => (inside_query (allowed c hc)).1]
    exact congrArg String.ofList (Percent.encode_eq_self allowed)
  rw [parse_without_query h special plain, ← withAuthority_query special, parse_scheme h, edges,
    cutOff_of_not_mem noHash]
  dsimp only
  rw [cutOff_append noMark, bodyOf_of_special special, whole, special]
  dsimp only
  rw [Option.map_some, Function.comp_apply, written, Option.map_none]

end

/-! ### Behind two slashes -/

theorem bodyOf_slashes {scheme : String} (plain : SchemeKind.of scheme = .plain) (tail : Tail)
    (cs : List Char) :
    bodyOf scheme tail ('/' :: '/' :: cs) = withAuthority scheme tail (counted cs) := by
  have typed : counted ('/' :: '/' :: cs) = '/' :: '/' :: counted cs := rfl
  simp only [bodyOf, plain, typed]

theorem parse_authority {name : String} (h : IsScheme name) (plain : SchemeKind.of name = .plain)
    (rest : List Char) :
    parse (String.ofList (name.toList ++ ':' :: '/' :: '/' :: rest)) =
      let (body, fragment) := cutOff '#' (dropEndWhile isEdgeBlank rest)
      let (body, query) := cutOff '?' body
      withAuthority name ⟨query.map (queryOf .plain ∘ counted),
        fragment.map (encodedText Percent.fragment ∘ counted)⟩ (counted body) := by
  have slashes (cs : List Char) : '/' :: '/' :: cs = ['/', '/'] ++ cs := rfl
  have edge : ∀ c ∈ ['/', '/'], isEdgeBlank c = false := forall_of_all (by decide)
  rw [parse_scheme h, slashes, dropEndWhile_append edge, cutOff_front (by decide)]
  dsimp only
  rw [cutOff_front (by decide)]
  dsimp only
  rw [← slashes, bodyOf_slashes plain, plain]

theorem host_of_withAuthority {scheme : String} {tail : Tail} {cs : List Char} {u : Url}
    (h : withAuthority scheme tail cs = .ok u) : ∃ host, u.host = some host := by
  simp only [withAuthority, bind, Except.bind] at h
  split at h
  · cases h
  · cases h
    exact ⟨_, rfl⟩

theorem cutCredentials_append {back : List Char} (h : '@' ∉ back) (front : List Char) :
    ∃ credentials place, cutCredentials (front ++ back) = (credentials, place ++ back) ∧
      ∀ c ∈ place, c ∈ front := by
  by_cases hm : '@' ∈ front
  · obtain ⟨after, before, cut, none⟩ := List.eq_append_cons_of_mem (List.mem_reverse.mpr hm)
    have whole : front = before.reverse ++ '@' :: after.reverse := by
      rw [← List.reverse_reverse front, cut]
      simp
    have behind : '@' ∉ after.reverse ++ back := by simp [none, h]
    refine ⟨credentialsOf before.reverse, after.reverse, ?_, fun c hc => by simp [whole, hc]⟩
    rw [cutCredentials, whole, List.append_assoc, List.cons_append, cutLast_append behind]
  · refine ⟨("", none), front, ?_, fun c hc => hc⟩
    rw [cutCredentials, cutLast_of_not_mem (by simp [hm, h])]

theorem port_of_authorityOf {front digits : List Char}
    (bare : ∀ c ∈ front, c ≠ '[' ∧ c ≠ ']' ∧ c ≠ ':') (number : ∀ c ∈ digits, c ≠ '@' ∧ c ≠ '\\')
    {followed : Bool} {a : Authority} {left : List Char}
    (h : authorityOf .plain followed (front ++ ':' :: digits) = .ok (a, left)) :
    portOf .plain digits = .ok a.port := by
  have noAt : '@' ∉ ':' :: digits := by
    intro hm
    rcases List.mem_cons.mp hm with hm | hm
    · cases hm
    · exact (number _ hm).1 rfl
  obtain ⟨credentials, place, found, inside⟩ := cutCredentials_append noAt front
  have cut : cutHost false (place ++ ':' :: digits) = (place, ':' :: digits) := by
    rw [Host.cutHost_append (fun c hc => ?_), Host.cutHost_ends (by simp [Host.Ends]),
      List.append_nil]
    obtain ⟨opened, closed, colon⟩ := bare c (inside c hc)
    exact ⟨opened, closed, fun same => absurd same colon⟩
  have whole : digits.takeWhile (· ≠ '\\') = digits :=
    List.takeWhile_eq_self_iff.mpr fun c hc => by simpa using (number c hc).2
  simp only [authorityOf, found, cut, whole, bind, Except.bind, pure, Except.pure, throw, throwThe,
    MonadExceptOf.throw] at h
  split at h
  · cases h
  · split at h
    · cases h
    · split at h
      · cases h
      · split at h
        · cases h
        · next port read =>
          cases h
          exact read

theorem port_of_parse {name : String} (h : IsScheme name) (plain : SchemeKind.of name = .plain)
    {front digits : List Char} (bare : ∀ c ∈ front, c ∉ ['/', '?', '#', '[', ']', ':'])
    (number : ∀ c ∈ digits, c.isDigit = true) {u : Url}
    (read : parse (String.ofList (name.toList ++ ':' :: '/' :: '/' :: (front ++ ':' :: digits))) =
      .ok u) : portOf .plain digits = .ok u.port := by
  have visible : ∀ c ∈ ':' :: digits, 0x20 < c.toNat ∧ c ∉ ['/', '?', '#', '@', '\\'] := by
    intro c hc
    rcases List.mem_cons.mp hc with rfl | hc
    · decide
    · exact forall_digit (P := fun c => 0x20 < c.toNat ∧ c ∉ ['/', '?', '#', '@', '\\']) (by decide)
        (number c hc)
  have absent {d : Char} (hd : d ∈ ['/', '?', '#']) : d ∉ front ++ ':' :: digits := by
    intro hm
    have both : ∀ d ∈ ['/', '?', '#'], d ∈ ['/', '?', '#', '[', ']', ':'] ∧
        d ∈ ['/', '?', '#', '@', '\\'] := forall_of_all (by decide)
    rcases List.mem_append.mp hm with hm | hm
    · exact bare d hm (both d hd).1
    · exact (visible d hm).2 (both d hd).2
  have ended : dropEndWhile isEdgeBlank (front ++ ':' :: digits) = front ++ ':' :: digits :=
    dropEndWhile_back (fun c hc => by simpa [isEdgeBlank] using (visible c hc).1) (by simp) front
  have typed : counted (front ++ ':' :: digits) = counted front ++ ':' :: digits := by
    rw [counted, List.filter_append]
    exact congrArg _ (counted_eq_self fun c hc => (visible c hc).1)
  have front' : ∀ c ∈ counted front, c ∈ front := fun c hc => (List.mem_filter.mp hc).1
  rw [parse_authority h plain, ended, cutOff_of_not_mem (absent (by decide))] at read
  dsimp only at read
  rw [cutOff_of_not_mem (absent (by decide)), typed] at read
  have whole : (counted front ++ ':' :: digits).takeWhile (! SchemeKind.plain.isSlash ·) =
      counted front ++ ':' :: digits := by
    refine List.takeWhile_eq_self_iff.mpr fun c hc => ?_
    have other : c ≠ '/' := by
      rintro rfl
      rw [← typed] at hc
      exact absent (d := '/') (by decide) (List.mem_filter.mp hc).1
    simp [SchemeKind.isSlash, SchemeKind.isSpecial, other]
  simp only [withAuthority, plain, whole, bind, Except.bind] at read
  split at read
  · cases read
  · next made =>
    cases read
    refine port_of_authorityOf (fun c hc => ?_) (fun c hc => ?_) made
    · have outside := bare c (front' c hc)
      simp only [List.mem_cons, List.not_mem_nil, or_false, not_or] at outside
      exact ⟨outside.2.2.2.1, outside.2.2.2.2.1, outside.2.2.2.2.2⟩
    · have outside := (visible c (by simp [hc])).2
      simp only [List.mem_cons, List.not_mem_nil, or_false, not_or] at outside
      exact ⟨outside.2.2.2.1, outside.2.2.2.2⟩

end HopProbe.Url
