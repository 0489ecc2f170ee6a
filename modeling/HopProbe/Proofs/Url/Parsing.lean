import HopProbe.Proofs.Text.Edges
import HopProbe.Proofs.Url.Host

/-!
# What a URL that was read is made of

A URL of a special scheme with hosts has a path of segments. One that is not
special is read back from its text when it is an authority and nothing else:
what its parts were encoded for does not end them, and is not encoded again.
-/

set_option autoImplicit false

namespace HopProbe.Url
open HopProbe.Text

theorem withAuthority_ok {scheme : String} {tail : Tail} {cs : List Char} {u : Url}
    (h : withAuthority scheme tail cs = .ok u) :
    u.scheme = scheme ∧ ∃ parts, u.route = .segments parts := by
  simp only [withAuthority, bind, Except.bind] at h
  split at h
  · cases h
  · cases h
    refine ⟨rfl, ?_⟩
    unfold routeBehind
    split
    · exact ⟨_, rfl⟩
    · exact ⟨_, rfl⟩

theorem fileUrl_scheme {tail : Tail} {typed : List Char} {u : Url}
    (h : fileUrl tail typed = .ok u) : u.scheme = "file" := by
  have named {host : Host} {path : List Char}
      (made : (.ok (fileOn host tail path) : Except ParseError Url) = .ok u) :
      u.scheme = "file" := by
    cases made
    rfl
  simp only [fileUrl] at h
  split at h
  · split at h
    · split at h
      · exact named h
      · simp only [bind, Except.bind] at h
        split at h
        · cases h
        · exact named h
    · exact named h
  · exact named h
  · exact named h

theorem bodyOf_special {scheme : String} {tail : Tail} {typed : List Char} {u : Url}
    (h : bodyOf scheme tail typed = .ok u) {port : Nat} (special : u.kind = .special port) :
    ∃ parts, u.route = .segments parts := by
  unfold bodyOf at h
  dsimp only at h
  split at h
  · rw [Url.kind, fileUrl_scheme h] at special
    cases special
  · exact (withAuthority_ok h).2
  · next plain =>
    have named : u.scheme = scheme := by
      split at h
      · exact (withAuthority_ok h).1
      · cases h
        rfl
      · cases h
        rfl
    rw [Url.kind, named, plain] at special
    cases special

theorem segments_of_parse {s : String} {u : Url} (h : parse s = .ok u) {port : Nat}
    (special : u.kind = .special port) : ∃ parts, u.route = .segments parts := by
  simp only [parse] at h
  split at h
  · cases h
  · exact bodyOf_special h special

theorem portOf_lt {kind : SchemeKind} {cs : List Char} {port : Option Nat}
    (h : portOf kind cs = .ok port) : ∀ n ∈ port, n < 65536 := by
  unfold portOf at h
  split at h
  · cases h
    simp
  · split at h
    · cases h
    · next m read =>
      have below := readDigits_lt read (by decide)
      cases h
      split <;> simp [below]

theorem authorityOf_plain {followed : Bool} {cs left : List Char} {a : Authority}
    (h : authorityOf .plain followed cs = .ok (a, left)) :
    a.host.Plain ∧ ∀ n ∈ a.port, n < 65536 := by
  unfold authorityOf at h
  simp only [bind, Except.bind, pure, Except.pure, throw, throwThe, MonadExceptOf.throw] at h
  split at h
  · cases h
  · split at h
    · cases h
    · next host read =>
      have known : host.Plain := Host.plain_ok read
      split at h
      · split at h
        · cases h
        · split at h
          · cases h
          · next port digits =>
            cases h
            exact ⟨known, portOf_lt digits⟩
      · split at h
        · cases h
        · cases h
          exact ⟨known, by simp⟩

theorem withAuthority_plain {scheme : String} {tail : Tail} {cs : List Char} {u : Url}
    (plain : SchemeKind.of scheme = .plain) (h : withAuthority scheme tail cs = .ok u) :
    ∃ host, u.host = some host ∧ host.Plain ∧ ∀ n ∈ u.port, n < 65536 := by
  simp only [withAuthority, plain, bind, Except.bind] at h
  split at h
  · cases h
  · next authority read =>
    cases h
    exact ⟨_, rfl, authorityOf_plain read⟩

theorem plain_of_parse {s : String} {u : Url} (h : parse s = .ok u) (plain : u.kind = .plain)
    {host : Host} (there : u.host = some host) : host.Plain ∧ ∀ n ∈ u.port, n < 65536 := by
  have named {scheme : String} {tail : Tail} {cs : List Char}
      (h : withAuthority scheme tail cs = .ok u) : host.Plain ∧ ∀ n ∈ u.port, n < 65536 := by
    rw [Url.kind, (withAuthority_ok h).1] at plain
    obtain ⟨_, same, known⟩ := withAuthority_plain plain h
    obtain rfl := Option.some.inj (there.symm.trans same)
    exact known
  simp only [parse] at h
  split at h
  · cases h
  · unfold bodyOf at h
    dsimp only at h
    split at h
    · rw [Url.kind, fileUrl_scheme h] at plain
      cases plain
    · exact named h
    · split at h
      · exact named h
      · cases h
        cases there
      · cases h
        cases there

theorem counted_eq_self {cs : List Char} (h : ∀ c ∈ cs, 0x20 < c.toNat) : counted cs = cs := by
  refine List.filter_eq_self.mpr fun c hc => ?_
  have visible := h c hc
  have other {d : Char} (low : d.toNat ≤ 0x20) : c ≠ d := by
    rintro rfl
    omega
  simp [isIgnored, other (d := '\t') (by decide), other (d := '\n') (by decide),
    other (d := '\r') (by decide)]

theorem cutOff_of_not_mem {sep : Char} {cs : List Char} (h : sep ∉ cs) :
    cutOff sep cs = (cs, none) := by
  rw [cutOff, cutFirst_of_not_mem h]

theorem cutOff_append {sep : Char} {cs : List Char} (h : sep ∉ cs) (rest : List Char) :
    cutOff sep (cs ++ sep :: rest) = (cs, some rest) := by
  rw [cutOff, cutFirst_append h]

theorem mem_marks_of_mem_toDigits {n : Nat} {c : Char} (h : c ∈ Nat.toDigits 10 n) :
    c ∈ Percent.marks := by
  obtain ⟨d, small, rfl⟩ := digit_of_mem_toDigits (by decide) h
  exact Percent.mem_marks (hexValue_digitChar (by omega))

def portText : Option Nat → List Char
  | some port => ':' :: Nat.toDigits 10 port
  | none => []

theorem mem_portText {port : Option Nat} {c : Char} (h : c ∈ portText port) :
    c = ':' ∨ c ∈ Percent.marks := by
  cases port with
  | none => cases h
  | some p =>
    rcases List.mem_cons.mp h with rfl | digit
    · exact Or.inl rfl
    · exact Or.inr (mem_marks_of_mem_toDigits digit)

theorem portOf_toDigits {n : Nat} (h : n < 65536) :
    portOf .plain (Nat.toDigits 10 n) = .ok (some n) := by
  unfold portOf
  split
  · next none => exact absurd none Nat.toDigits_ne_nil
  · rw [readDigits_toDigits _ h]
    rfl

theorem userinfo_stable : Percent.Stable Percent.userinfo := forall_of_all (by decide)

theorem credentialsOf_encode (name : List Char) {secret : List Char} (given : secret ≠ []) :
    credentialsOf (Percent.encode Percent.userinfo name ++
        ':' :: Percent.encode Percent.userinfo secret) =
      (encodedText Percent.userinfo name, some (encodedText Percent.userinfo secret)) := by
  have colon : ':' ∉ Percent.encode Percent.userinfo name :=
    Percent.not_mem_encode (by decide) (by decide) name
  have again := Percent.encode_encode userinfo_stable secret
  rw [credentialsOf, cutOff_append colon]
  cases written : Percent.encode Percent.userinfo secret with
  | nil => exact absurd (Percent.encode_eq_nil.mp written) given
  | cons c cs =>
    rw [written] at again
    simp only [encodedText, Percent.encode_encode userinfo_stable, again, written]

def placeText (host : Host) (port : Option Nat) : List Char := host.text.toList ++ portText port

theorem inside_of_mem_placeText {host : Host} (plain : host.Plain) {port : Option Nat} {c : Char}
    (h : c ∈ placeText host port) : Host.Inside c := by
  have marks : ∀ m ∈ Percent.marks, Host.Inside m := forall_of_all (by decide)
  rcases List.mem_append.mp h with text | port
  · exact plain.inside c text
  · rcases mem_portText port with rfl | mark
    · decide
    · exact marks c mark

/-- An authority is read back from its parts. -/
theorem authorityOf_encode (name : List Char) {secret : List Char} (given : secret ≠ [])
    {host : Host} (plain : host.Plain) (filled : host.isEmpty = false) {port : Option Nat}
    (low : ∀ n ∈ port, n < 65536) :
    authorityOf .plain false (Percent.encode Percent.userinfo name ++
        ':' :: Percent.encode Percent.userinfo secret ++ '@' :: placeText host port) =
      .ok (⟨encodedText Percent.userinfo name, some (encodedText Percent.userinfo secret), host, port⟩,
        []) := by
  have noAt : '@' ∉ placeText host port := fun h =>
    (inside_of_mem_placeText plain h).2.2.2.2.1 rfl
  have ends : Host.Ends (portText port) := by
    cases port with
    | none => simp [Host.Ends, portText]
    | some p => simp [Host.Ends, portText]
  have read : hostOf .plain host.text.toList = .ok host := plain.read
  have credentials : cutCredentials (Percent.encode Percent.userinfo name ++
        ':' :: Percent.encode Percent.userinfo secret ++ '@' :: placeText host port) =
      ((encodedText Percent.userinfo name, some (encodedText Percent.userinfo secret)),
        placeText host port) := by
    rw [cutCredentials, cutLast_append noAt, ← credentialsOf_encode name given]
  have cut : cutHost false (placeText host port) = (host.text.toList, portText port) :=
    plain.cut ends
  simp only [authorityOf, credentials, cut, read, Bool.false_eq_true, and_false, if_false]
  cases port with
  | none => simp [portText, filled, pure, Except.pure, bind, Except.bind]
  | some p =>
    have digits : (Nat.toDigits 10 p).takeWhile (· ≠ '\\') = Nat.toDigits 10 p := by
      refine List.takeWhile_eq_self_iff.mpr fun c hc => ?_
      have all : ∀ m ∈ Percent.marks, decide (m ≠ '\\') = true := forall_of_all (by decide)
      exact all c (mem_marks_of_mem_toDigits hc)
    simp only [portText, filled, bind, Except.bind, pure, Except.pure, digits,
      portOf_toDigits (low p rfl), Bool.false_eq_true, if_false, List.drop_length]

end HopProbe.Url
