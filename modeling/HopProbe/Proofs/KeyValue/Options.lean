import HopProbe.Proofs.KeyValue.Credentials
import HopProbe.Proofs.Text.Keyed
import HopProbe.Proofs.Verbs.Remainder

/-!
# What a list of options says

Of an endpoint that is no URL, the host part counts and the last value of each
of four options. The URL that it becomes has the scheme and the place that are
read from the host part, and is an endpoint of its own.
-/

set_option autoImplicit false

namespace HopProbe.KeyValue
open HopProbe.Text

def hostPart (endpoint : String) : String :=
  String.ofList (trimmed ((pieces ',' endpoint.toList).headD []))

def optionsOf (endpoint : String) : List (List Char) := (pieces ',' endpoint.toList).tail

def saidOption (part : List Char) : Option (String × String) := option? (trimmed part)

/-- The last value of an option, by its name in small letters. -/
def lastOption (endpoint name : String) : Option String :=
  lastSaid? saidOption (optionsOf endpoint) name

def optionNames : List String := ["password", "user", "ssl", "defaultdatabase"]

def schemeOf (endpoint : String) : String :=
  if (lastOption endpoint "ssl").any (sameLetters "true") then "rediss" else "redis"

theorem urlText_of_options {endpoint : String} (h : hasSchemeMark endpoint.toList = false) :
    urlText endpoint =
      if hostPart endpoint = "" then .error .empty
      else (ofOptions endpoint (hostPart endpoint)
        ((optionsOf endpoint).filterMap saidOption)).map Url.text := by
  have blank (cs : List Char) : cs.isEmpty = true ↔ String.ofList cs = "" := by simp
  rw [urlText, h, hostPart, optionsOf]
  cases pieces ',' endpoint.toList with
  | nil => rfl
  | cons first parts =>
    simp only [List.map_cons, List.headD_cons, List.tail_cons, List.filterMap_map, blank,
      Bool.false_eq_true, if_false]
    rfl

theorem ofOptions_congr {host : String} {given given' : List (String × String)}
    (same : ∀ name ∈ optionNames, lastValue? given name = lastValue? given' name)
    (endpoint endpoint' : String) :
    (ofOptions endpoint host given).toOption = (ofOptions endpoint' host given').toOption := by
  simp only [ofOptions, baseText, same "ssl" (by decide), same "user" (by decide),
    same "password" (by decide), same "defaultdatabase" (by decide)]
  cases Url.parse _ <;> rfl

/-- Whether an endpoint can be used, and as which URL, is said by its host part and four values. -/
theorem urlText_congr {a b : String} (h : hasSchemeMark a.toList = false)
    (h' : hasSchemeMark b.toList = false) (host : hostPart a = hostPart b)
    (same : ∀ name ∈ optionNames, lastOption a name = lastOption b name) :
    (urlText a).toOption = (urlText b).toOption := by
  have made : (ofOptions a (hostPart b) ((optionsOf a).filterMap saidOption)).toOption =
      (ofOptions b (hostPart b) ((optionsOf b).filterMap saidOption)).toOption :=
    ofOptions_congr same a b
  rw [urlText_of_options h, urlText_of_options h', host]
  split
  · rfl
  · have written (made : Except EndpointError Url) :
        (made.map Url.text).toOption = made.toOption.map Url.text := by cases made <;> rfl
    rw [written, written, made]

def Idle (option : List Char) : Prop :=
  ∀ name value, saidOption option = some (name, value) → name ∉ optionNames

/-- Options in another order, with more or less white space around them, with repetitions in front of
the last and with options between them that say nothing that counts. -/
abbrev Reordered : List (List Char) → List (List Char) → Prop :=
  Relation.EqvGen (Rearranged saidOption Idle (Around isBlank))

theorem saidOption_of_around {option spaced : List Char} (h : Around isBlank option spaced) :
    saidOption option = saidOption spaced := by
  rw [saidOption, saidOption, trimmed, trimmed, strip_eq_of_around h]

/-- URLs that differ in nothing but credentials and path. -/
structure SamePlace (u v : Url) : Prop where
  scheme : u.scheme = v.scheme
  host : u.host = v.host
  port : u.port = v.port
  query : u.query = v.query
  fragment : u.fragment = v.fragment

theorem SamePlace.trans {u v w : Url} (h : SamePlace u v) (h' : SamePlace v w) : SamePlace u w :=
  ⟨h.scheme.trans h'.scheme, h.host.trans h'.host, h.port.trans h'.port, h.query.trans h'.query,
    h.fragment.trans h'.fragment⟩

theorem samePlace_setUsername {u v : Url} {name : String} (h : u.setUsername? name = some v) :
    SamePlace v u := by
  unfold Url.setUsername? at h
  split at h
  · obtain rfl := Option.some.inj h
    split <;> exact ⟨rfl, rfl, rfl, rfl, rfl⟩
  · cases h

theorem samePlace_setPassword {u v : Url} {password : String} (h : u.setPassword? password = some v) :
    SamePlace v u := by
  unfold Url.setPassword? at h
  split at h
  · obtain rfl := Option.some.inj h
    exact ⟨rfl, rfl, rfl, rfl, rfl⟩
  · cases h

theorem samePlace_setPath (u : Url) (path : String) : SamePlace (u.setPath path) u := by
  unfold Url.setPath
  split <;> exact ⟨rfl, rfl, rfl, rfl, rfl⟩

theorem samePlace_orElse {ε : Type} {change : String → Url → Option Url}
    (places : ∀ s u v, change s u = some v → SamePlace v u) {error : ε} {value : Option String}
    {u v : Url} (h : orElse change error value u = .ok v) : SamePlace v u := by
  unfold orElse at h
  split at h
  · cases h
    exact ⟨rfl, rfl, rfl, rfl, rfl⟩
  · split at h
    · next made =>
      cases h
      exact places _ _ _ made
    · cases h

theorem ofOptions_place {endpoint host : String} {given : List (String × String)} {u : Url}
    (h : ofOptions endpoint host given = .ok u) :
    ∃ base, Url.parse (baseText host given) = .ok base ∧ SamePlace u base := by
  unfold ofOptions at h
  dsimp only at h
  split at h
  · next base read =>
    obtain ⟨_, ⟨⟩, h⟩ := Verbs.bind_eq_ok h
    obtain ⟨named, user, h⟩ := Verbs.bind_eq_ok h
    obtain ⟨locked, password, h⟩ := Verbs.bind_eq_ok h
    have first := samePlace_orElse (fun _ _ _ => samePlace_setUsername) user
    have second := samePlace_orElse (fun _ _ _ => samePlace_setPassword) password
    have third : SamePlace u locked := by
      rw [← Except.ok.inj h]
      cases lastValue? given "defaultdatabase" with
      | none => exact ⟨rfl, rfl, rfl, rfl, rfl⟩
      | some path => exact samePlace_setPath locked path
    exact ⟨base, read, third.trans (second.trans first)⟩
  · cases h

theorem isScheme_schemeOf (endpoint : String) :
    Url.IsScheme (schemeOf endpoint) ∧ Url.SchemeKind.of (schemeOf endpoint) = .plain := by
  unfold schemeOf
  split
  · exact ⟨by decide, rfl⟩
  · exact ⟨by decide, rfl⟩

theorem baseText_eq (endpoint : String) :
    baseText (hostPart endpoint) ((optionsOf endpoint).filterMap saidOption) =
      schemeOf endpoint ++ "://" ++ hostPart endpoint ++
        if ':' ∈ (hostPart endpoint).toList then "" else ":6379" := by
  have place : withPort (hostPart endpoint) =
      hostPart endpoint ++ if ':' ∈ (hostPart endpoint).toList then "" else ":6379" := by
    rw [withPort]
    by_cases colon : ':' ∈ (hostPart endpoint).toList
    · simp [colon]
    · simp [colon, String.append_assoc, defaultPort]
  rw [baseText, place, ← String.append_assoc]
  rfl

theorem authority_of_parse {name : String} (h : Url.IsScheme name)
    (plain : Url.SchemeKind.of name = .plain) {rest : String} {u : Url}
    (read : Url.parse (name ++ "://" ++ rest) = .ok u) :
    u.scheme = name ∧ ∃ host, u.host = some host := by
  have written : name ++ "://" ++ rest =
      String.ofList (name.toList ++ ':' :: '/' :: '/' :: rest.toList) := by
    apply String.toList_inj.mp
    simp
  rw [written, Url.parse_authority h plain] at read
  exact ⟨(Url.withAuthority_ok read).1, Url.host_of_withAuthority read⟩

theorem prefix_of_text {u : Url} {host : Url.Host} (h : u.host = some host) :
    (u.scheme ++ "://").toList <+: u.text.toList := by
  simp [Url.text, Url.authorityText, h]

theorem urlText_of_prefix {name text : String} (h : (name ++ "://").toList <+: text.toList) :
    urlText text = .ok text := by
  obtain ⟨back, same⟩ := h
  have marked : hasSchemeMark text.toList = true := by
    rw [hasSchemeMark_iff, ← same, String.toList_append]
    exact ⟨name.toList, back, rfl⟩
  rw [urlText, if_pos marked]

theorem url_of_urlText {a text : String} (h : hasSchemeMark a.toList = false)
    (made : urlText a = .ok text) :
    ∃ base u, u.text = text ∧
      Url.parse (schemeOf a ++ "://" ++ hostPart a ++
        if ':' ∈ (hostPart a).toList then "" else ":6379") = .ok base ∧ SamePlace u base ∧
      u.scheme = schemeOf a ∧ (schemeOf a ++ "://").toList <+: text.toList := by
  rw [urlText_of_options h] at made
  split at made
  · cases made
  · obtain ⟨u, built, rfl⟩ : ∃ u, ofOptions a (hostPart a)
        ((optionsOf a).filterMap saidOption) = .ok u ∧ u.text = text := by
      revert made
      generalize ofOptions a (hostPart a) ((optionsOf a).filterMap saidOption) = result
      intro made
      cases result with
      | error e => cases made
      | ok u => exact ⟨u, rfl, Except.ok.inj made⟩
    obtain ⟨base, read, place⟩ := ofOptions_place built
    rw [baseText_eq] at read
    obtain ⟨scheme, plain⟩ := isScheme_schemeOf a
    have behind := read
    rw [String.append_assoc] at behind
    obtain ⟨named, host, there⟩ := authority_of_parse scheme plain behind
    refine ⟨base, u, rfl, read, place, place.scheme.trans named, ?_⟩
    rw [← named, ← place.scheme]
    exact prefix_of_text (place.host.trans there)

/-- An endpoint stands for its URL. -/
theorem urlText_idem {a text : String} (made : urlText a = .ok text) : urlText text = .ok text := by
  cases h : hasSchemeMark a.toList with
  | true =>
    have same : urlText a = .ok a := by rw [urlText, if_pos h]
    have itself : a = text := Except.ok.inj (same.symm.trans made)
    rwa [← itself]
  | false =>
    obtain ⟨_, _, _, _, _, _, begins⟩ := url_of_urlText h made
    exact urlText_of_prefix begins

/-- The host part and the last values of four options say whether an endpoint can be used and as
which URL: one of its scheme, of its place, and for which it stands itself. -/
theorem urlText_by_last_values {a : String} (h : hasSchemeMark a.toList = false) :
    (∀ b, hasSchemeMark b.toList = false → hostPart a = hostPart b →
      (∀ name ∈ optionNames, lastOption a name = lastOption b name) →
      (urlText a).toOption = (urlText b).toOption) ∧
    (∀ b, hasSchemeMark b.toList = false → hostPart a = hostPart b →
      Reordered (optionsOf a) (optionsOf b) → (urlText a).toOption = (urlText b).toOption) ∧
    ∀ text, urlText a = .ok text → ∃ base u, text = u.text ∧
      Url.parse (schemeOf a ++ "://" ++ hostPart a ++
        if ':' ∈ (hostPart a).toList then "" else ":6379") = .ok base ∧ SamePlace u base ∧
      u.scheme = schemeOf a ∧ (schemeOf a ++ "://").toList <+: text.toList ∧
      ((∀ c ∈ (hostPart a).toList, c ∉ ['/', '?', '#', '[', ']', ':']) → u.port = some 6379) ∧
      urlText text = .ok text := by
  refine ⟨fun b h' host same => urlText_congr h h' host same, fun b h' host reordered => ?_, ?_⟩
  · refine urlText_congr h h' host fun name counts => ?_
    exact lastSaid?_of_rearranged (fun _ idle _ told => idle _ _ told counts)
      (fun _ _ around => saidOption_of_around around) reordered
  · intro text made
    obtain ⟨base, u, rfl, read, place, named, begins⟩ := url_of_urlText h made
    refine ⟨base, u, rfl, read, place, named, begins, fun bare => ?_, urlText_of_prefix begins⟩
    have noColon : ':' ∉ (hostPart a).toList := fun hm => bare ':' hm (by decide)
    have written : schemeOf a ++ "://" ++ hostPart a ++
        (if ':' ∈ (hostPart a).toList then "" else ":6379") =
        String.ofList ((schemeOf a).toList ++ ':' :: '/' :: '/' ::
          ((hostPart a).toList ++ ':' :: "6379".toList)) := by
      rw [if_neg noColon]
      apply String.toList_inj.mp
      simp
    rw [written] at read
    obtain ⟨scheme, plain⟩ := isScheme_schemeOf a
    have port := Url.port_of_parse scheme plain bare (forall_of_all (by decide)) read
    have number : Url.portOf .plain "6379".toList = .ok (some 6379) := by rfl
    rw [place.port]
    exact Except.ok.inj (port.symm.trans number)

theorem urlText_by_last_values_of_reordered :
    let a := "cache.example.net,user=probe,ssl=True"
    let b := "cache.example.net,\tssl=True ,retry=3,user=probe"
    (urlText a).toOption = (urlText b).toOption ∧
      ∃ u : Url, urlText a = .ok u.text ∧ u.scheme = "rediss" ∧ u.port = some 6379 ∧
        urlText u.text = .ok u.text := by
  intro a b
  let user := "user=probe".toList
  let ssl := "ssl=True".toList
  let spaced := "\tssl=True ".toList
  let retry := "retry=3".toList
  have h : hasSchemeMark a.toList = false := by decide
  have reordered : Reordered (optionsOf a) (optionsOf b) := by
    have cut : optionsOf a = [user, ssl] := by decide
    have cut' : optionsOf b = [spaced, retry, user] := by decide
    have swapped : Rearranged saidOption Idle (Around isBlank) [user, ssl] [ssl, user] :=
      .swap [] [] (v := "probe") (w := "True") (by rfl) (by rfl) (by decide)
    have widened : Rearranged saidOption Idle (Around isBlank) [ssl, user] [spaced, user] :=
      .respaced [] [user]
        ⟨['\t'], [' '], by decide, forall_of_all (by decide), forall_of_all (by decide)⟩
    have parted : Rearranged saidOption Idle (Around isBlank) [spaced, user] [spaced, retry, user] := by
      refine .idle [spaced] [user] fun name value told => ?_
      have said : saidOption retry = some ("retry", "3") := by rfl
      obtain rfl := congrArg Prod.fst (Option.some.inj (told.symm.trans said))
      decide
    rw [cut, cut']
    exact .trans _ _ _ (.rel _ _ swapped) (.trans _ _ _ (.rel _ _ widened) (.rel _ _ parted))
  obtain ⟨-, moved, becomes⟩ := urlText_by_last_values h
  refine ⟨moved b (by decide) (by decide) reordered, ?_⟩
  have used : (urlText a).toOption.isSome = true := by decide +kernel
  cases made : urlText a with
  | error e =>
    rw [made] at used
    cases used
  | ok text =>
    obtain ⟨base, u, rfl, -, -, scheme, -, port, again⟩ := becomes text made
    have secure : schemeOf a = "rediss" := by decide
    exact ⟨u, rfl, scheme.trans secure, port (forall_of_all (by decide)), again⟩

end HopProbe.KeyValue
