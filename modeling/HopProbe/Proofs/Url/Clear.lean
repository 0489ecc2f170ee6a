import HopProbe.Proofs.Url.Domain
import HopProbe.Proofs.Url.Route
import HopProbe.Proofs.Url.Scheme

/-!
# URLs are written without controls

Whatever a URL was read from, none of its parts holds a character below the
space: names of hosts are mapped or escaped, and all else is escaped. So it is
when parts are put in or taken out.
-/

set_option autoImplicit false

namespace HopProbe.Url
open HopProbe.Text

theorem Percent.printable_encode {escaped : EscapeSet}
    (controls : ∀ c, isControl c = true → escaped c = true) (cs : List Char) :
    Printable (encode escaped cs) := by
  intro c hc
  rcases mem_encode hc with ⟨-, -, allowed⟩ | mark
  · refine Decidable.byContradiction fun low => ?_
    have control : isControl c = true := by
      simp only [isControl, Bool.or_eq_true, decide_eq_true_eq]
      omega
    rw [controls c control] at allowed
    cases allowed
  · have visible : ∀ m ∈ marks, 0x20 ≤ m.toNat := forall_of_all (by decide)
    exact visible c mark

theorem printable_userinfo (cs : List Char) : Printable (encodedText Percent.userinfo cs).toList := by
  rw [encodedText, String.toList_ofList]
  exact Percent.printable_encode
    (fun c h => by simp [Percent.userinfo, Percent.path, Percent.fragment, h]) cs

theorem printable_fragment (cs : List Char) : Printable (encodedText Percent.fragment cs).toList := by
  rw [encodedText, String.toList_ofList]
  exact Percent.printable_encode (fun c h => by simp [Percent.fragment, h]) cs

theorem printable_queryOf (kind : SchemeKind) (cs : List Char) : Printable (queryOf kind cs).toList := by
  rw [queryOf, encodedText, String.toList_ofList]
  refine Percent.printable_encode (fun c h => ?_) cs
  split <;> simp [Percent.specialQuery, Percent.query, h]

theorem printable_segmentsText {parts : List (List Char)} (h : Allows parts) :
    Printable (segmentsText parts) := by
  refine printable_flatMap fun segment there => printable_cons.mpr ⟨by decide, fun c hc => ?_⟩
  have allowed := (h segment there c hc).2
  simp only [Percent.path, Percent.fragment, Percent.isControl, Bool.or_eq_false_iff,
    decide_eq_false_iff_not] at allowed
  omega

namespace Host

theorem printable_v6 (groups : List Nat) : Printable (text (.v6 groups)).toList := by
  have inner : Printable (IpAddress.compressed groups) := by
    intro c hc
    rcases IpAddress.mem_compressed hc with rfl | ⟨n, digit⟩
    · decide
    · have range := (hexValue_range digit).1
      omega
  rw [text, String.toList_ofList]
  exact printable_append.mpr ⟨printable_cons.mpr ⟨by decide, inner⟩, by decide⟩

theorem printable_v4 (a b c d : UInt8) : Printable (text (.v4 a b c d)).toList := by
  rw [text, String.toList_ofList]
  refine printable_joined (by decide) fun part hp => ?_
  obtain ⟨x, -, rfl⟩ := List.mem_map.mp hp
  exact printable_decimal x.toNat

theorem printable_plain {cs : List Char} {host : Host} (h : plain cs = .ok host) :
    Printable host.text.toList :=
  fun c hc => Nat.le_of_lt ((plain_ok h).inside c hc).1

theorem printable_bracketed {cs : List Char} {host : Host} (h : bracketed cs = .ok host) :
    Printable host.text.toList := by
  unfold bracketed ofV6? at h
  split at h
  · split at h
    · next found =>
      cases h
      split at found
      · cases found
        exact printable_v6 _
      · cases found
    · cases h
  · cases h

theorem v4_of_v4? {name : List Char} {host : Host} (h : v4? name = some host) :
    ∃ a b c d, host = .v4 a b c d := by
  unfold v4? at h
  dsimp only at h
  split at h
  · obtain ⟨numbers, -, h⟩ := Option.bind_eq_some_iff.mp h
    obtain ⟨last, -, h⟩ := Option.bind_eq_some_iff.mp h
    split at h
    · cases h
      exact ⟨_, _, _, _, rfl⟩
    · cases h
  · cases h

theorem printable_special {cs : List Char} {host : Host} (h : special cs = .ok host) :
    Printable host.text.toList := by
  have controls (c : Char) (low : c.toNat < 0x20) : isForbiddenAscii c = true := by
    simp only [isForbiddenAscii, Bool.or_eq_true, decide_eq_true_eq]
    exact Or.inl (Or.inl (by omega))
  unfold special at h
  split at h
  · exact printable_bracketed h
  · split at h
    · cases h
    · cases h
    · next domain filled named =>
      obtain ⟨name, -, named⟩ := Option.bind_eq_some_iff.mp named
      have printable := printable_asciiName controls named
      split at h
      · split at h
        · next found =>
          cases h
          obtain ⟨a, b, c, d, rfl⟩ := v4_of_v4? found
          exact printable_v4 a b c d
        · cases h
      · cases h
        rw [text, String.toList_ofList]
        exact printable

theorem printable_hostOf {kind : SchemeKind} {cs : List Char} {host : Host}
    (h : hostOf kind cs = .ok host) : Printable host.text.toList := by
  unfold hostOf at h
  split at h
  · cases h
  · cases h
    exact printable_nil
  · exact printable_plain h
  · exact printable_special h

end Host

structure Clear (u : Url) : Prop where
  scheme : Printable u.scheme.toList
  username : Printable u.username.toList
  password : ∀ password ∈ u.password, Printable password.toList
  host : ∀ host ∈ u.host, Printable host.text.toList
  segments : ∀ parts, u.route = .segments parts → Allows parts
  opaquePath : ∀ cs, u.route = .opaquePath cs → Printable cs
  query : ∀ query ∈ u.query, Printable query.toList
  fragment : ∀ fragment ∈ u.fragment, Printable fragment.toList

section
variable {u : Url}

theorem Clear.printable_credentials (h : u.Clear) : Printable u.credentialsText.toList := by
  unfold credentialsText
  split
  · next password given => simp [h.username, h.password password given]
  · split
    · exact printable_nil
    · simp [h.username]

theorem Clear.printable_authority (h : u.Clear) : Printable u.authorityText.toList := by
  unfold authorityText
  split
  · exact printable_nil
  · next host there =>
    split
    · simp [h.printable_credentials, h.host host there]
    · simp [h.printable_credentials, h.host host there]

theorem Clear.printable_path (h : u.Clear) : Printable u.pathText.toList := by
  unfold pathText
  cases route : u.route with
  | segments parts =>
    rw [Route.text, String.toList_ofList]
    exact printable_segmentsText (h.segments parts route)
  | opaquePath cs =>
    rw [Route.text, String.toList_ofList]
    exact h.opaquePath cs route

theorem Clear.printable_text (h : u.Clear) : Printable u.text.toList := by
  have guard : Printable u.guardText.toList := by
    unfold guardText
    split <;> decide
  have query : Printable u.queryText.toList := by
    unfold queryText
    split
    · next query given => simp [h.query query given]
    · exact printable_nil
  have fragment : Printable u.fragmentText.toList := by
    unfold fragmentText
    split
    · next fragment given => simp [h.fragment fragment given]
    · exact printable_nil
  simp [text, target, h.scheme, h.printable_authority, guard, h.printable_path, query, fragment]

theorem Clear.withoutFragment (h : u.Clear) : u.withoutFragment.Clear :=
  { h with fragment := by simp [Url.withoutFragment] }

theorem Clear.withoutCredentials (h : u.Clear) : u.withoutCredentials.Clear :=
  { h with username := printable_nil, password := by simp [Url.withoutCredentials] }

theorem Clear.setQuery (h : u.Clear) (query : Option String) : (u.setQuery query).Clear :=
  { h with
    query := by
      intro written there
      obtain ⟨q, -, rfl⟩ := Option.map_eq_some_iff.mp there
      exact printable_queryOf _ _ }

theorem Clear.push {v : Url} (h : u.Clear) {more : List String} (pushed : u.push? more = some v) :
    v.Clear := by
  unfold push? at pushed
  split at pushed
  · cases pushed
  · next parts route =>
    cases pushed
    exact { h with
      segments := by
        rintro _ ⟨⟩
        exact allows_push (h.segments parts route) more
      opaquePath := by
        rintro _ ⟨⟩ }

end

theorem printable_credentialsOf (cs : List Char) :
    Printable (credentialsOf cs).1.toList ∧
      ∀ password ∈ (credentialsOf cs).2, Printable password.toList := by
  unfold credentialsOf
  split
  · refine ⟨printable_userinfo _, ?_⟩
    rintro _ ⟨⟩
    exact printable_userinfo _
  · exact ⟨printable_userinfo _, by simp⟩

theorem printable_cutCredentials (cs : List Char) :
    Printable (cutCredentials cs).1.1.toList ∧
      ∀ password ∈ (cutCredentials cs).1.2, Printable password.toList := by
  unfold cutCredentials
  split
  · exact ⟨printable_nil, by simp⟩
  · exact printable_credentialsOf _

theorem printable_authorityOf {kind : SchemeKind} {followed : Bool} {cs left : List Char}
    {a : Authority} (h : authorityOf kind followed cs = .ok (a, left)) :
    Printable a.username.toList ∧ (∀ password ∈ a.password, Printable password.toList) ∧
      Printable a.host.text.toList := by
  obtain ⟨user, password⟩ := printable_cutCredentials cs
  unfold authorityOf at h
  simp only [bind, Except.bind, pure, Except.pure, throw, throwThe, MonadExceptOf.throw] at h
  split at h
  · cases h
  · split at h
    · cases h
    · next host read =>
      have known := Host.printable_hostOf read
      split at h
      · split at h
        · cases h
        · split at h
          · cases h
          · cases h
            exact ⟨user, password, known⟩
      · split at h
        · cases h
        · cases h
          exact ⟨user, password, known⟩

structure Tail.Clear (tail : Tail) : Prop where
  query : ∀ query ∈ tail.query, Printable query.toList
  fragment : ∀ fragment ∈ tail.fragment, Printable fragment.toList

theorem clear_withAuthority {scheme : String} (named : Printable scheme.toList) {tail : Tail}
    (h : tail.Clear) {cs : List Char} {u : Url} (read : withAuthority scheme tail cs = .ok u) :
    u.Clear := by
  obtain ⟨-, parts, route⟩ := withAuthority_ok read
  have segments (parts : List (List Char)) (route : u.route = .segments parts) : Allows parts :=
    allows_withAuthority read route
  have opaquePath (cs : List Char) (other : u.route = .opaquePath cs) : Printable cs := by
    rw [route] at other
    cases other
  simp only [withAuthority, bind, Except.bind] at read
  split at read
  · cases read
  · next authority made =>
    cases read
    obtain ⟨user, password, host⟩ := printable_authorityOf made
    refine ⟨named, user, password, ?_, segments, opaquePath, h.query, h.fragment⟩
    rintro _ ⟨⟩
    exact host

theorem clear_fileOn {host : Host} (named : Printable host.text.toList) {tail : Tail}
    (h : tail.Clear) (path : List Char) : (fileOn host tail path).Clear := by
  have scheme : Printable "file".toList := by decide
  refine ⟨scheme, printable_nil, by simp [fileOn], ?_, ?_, ?_, h.query, h.fragment⟩
  · rintro _ ⟨⟩
    split
    · exact printable_nil
    · exact named
  · rintro _ ⟨⟩
    exact allows_segmentsOf .file path
  · rintro _ ⟨⟩

theorem clear_fileUrl {tail : Tail} (h : tail.Clear) {typed : List Char} {u : Url}
    (read : fileUrl tail typed = .ok u) : u.Clear := by
  have nowhere (path : List Char) : (fileOn emptyHost tail path).Clear :=
    clear_fileOn (show Printable emptyHost.text.toList by decide) h path
  simp only [fileUrl] at read
  split at read
  · split at read
    · split at read
      · exact Except.ok.inj read ▸ nowhere _
      · simp only [bind, Except.bind] at read
        split at read
        · cases read
        · next made =>
          cases read
          exact clear_fileOn (Host.printable_hostOf made) h _
    · exact Except.ok.inj read ▸ nowhere _
  · exact Except.ok.inj read ▸ nowhere _
  · exact Except.ok.inj read ▸ nowhere _

theorem clear_withoutHost {scheme : String} (named : Printable scheme.toList) {tail : Tail}
    (h : tail.Clear) {route : Route} (segments : ∀ parts, route = .segments parts → Allows parts)
    (opaquePath : ∀ cs, route = .opaquePath cs → Printable cs) :
    (withoutHost scheme tail route).Clear :=
  ⟨named, printable_nil, by simp [withoutHost], by simp [withoutHost], segments, opaquePath,
    h.query, h.fragment⟩

theorem clear_bodyOf {scheme : String} (named : Printable scheme.toList) {tail : Tail}
    (h : tail.Clear) {typed : List Char} {u : Url} (read : bodyOf scheme tail typed = .ok u) :
    u.Clear := by
  unfold bodyOf at read
  dsimp only at read
  split at read
  · exact clear_fileUrl h read
  · exact clear_withAuthority named h read
  · split at read
    · exact clear_withAuthority named h read
    · cases read
      refine clear_withoutHost named h ?_ (by simp)
      rintro _ ⟨⟩
      exact allows_segmentsOf .plain _
    · cases read
      refine clear_withoutHost named h (by simp) ?_
      rintro _ ⟨⟩
      exact Percent.printable_encode (fun c control => control) _

theorem printable_cutScheme {cs rest : List Char} {scheme : String}
    (h : cutScheme cs = some (scheme, rest)) : Printable scheme.toList := by
  have lowered : ∀ n : Fin 128, isSchemeChar (Char.ofNat n) = true →
      0x20 ≤ (Char.ofNat n).toLower.toNat := by decide
  unfold cutScheme at h
  split at h
  · cases h
  · split at h
    · split at h
      · split at h
        · next allowed =>
          cases h
          rw [String.toList_ofList]
          intro c hc
          obtain ⟨d, hd, rfl⟩ := List.mem_map.mp hc
          have schemeChar := List.all_eq_true.mp allowed d hd
          exact forall_ascii (P := fun c => isSchemeChar c = true → 0x20 ≤ c.toLower.toNat) lowered
            (ascii_of_isSchemeChar schemeChar) schemeChar
        · cases h
      · cases h
    · cases h

/-- No part of a URL that was read holds a control. -/
theorem clear_of_parse {s : String} {u : Url} (h : parse s = .ok u) : u.Clear := by
  simp only [parse] at h
  split at h
  · cases h
  · next scheme rest cut =>
    refine clear_bodyOf (printable_cutScheme cut) ⟨?_, ?_⟩ h
    · intro query there
      obtain ⟨q, -, rfl⟩ := Option.map_eq_some_iff.mp there
      exact printable_queryOf _ _
    · intro fragment there
      obtain ⟨f, -, rfl⟩ := Option.map_eq_some_iff.mp there
      exact printable_fragment _

end HopProbe.Url
