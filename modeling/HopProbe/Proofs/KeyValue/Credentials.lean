import HopProbe.KeyValue.Session
import HopProbe.Proofs.Url.Scheme

/-!
# Credentials of a key-value store

An endpoint of a host and options becomes a URL, from which the client takes
the credentials that it sends. The URL escapes all characters of a user and a
password that could end them but the percent sign. So a text that holds an
escape is taken for what the escape stands for, and every other text arrives.
-/

set_option autoImplicit false

namespace HopProbe.KeyValue
open HopProbe.Text HopProbe.Url

theorem parse_redis {cs : List Char} (visible : ∀ c ∈ cs, 0x20 < c.toNat) (noFragment : '#' ∉ cs)
    (noQuery : '?' ∉ cs) :
    parse (String.ofList ("redis://".toList ++ cs)) = withAuthority "redis" ⟨none, none⟩ cs := by
  have written : "redis://".toList ++ cs = "redis".toList ++ ':' :: '/' :: '/' :: cs := rfl
  have edges : dropEndWhile isEdgeBlank cs = cs :=
    dropEndWhile_eq_self fun c hc => by simpa [isEdgeBlank] using visible c hc
  rw [written, parse_authority (by decide) rfl, edges, cutOff_of_not_mem noFragment]
  dsimp only
  rw [cutOff_of_not_mem noQuery, counted_eq_self visible]
  rfl

def authorityWith (name secret : List Char) (host : Host) (port : Option Nat) : List Char :=
  Percent.encode Percent.userinfo name ++ ':' :: Percent.encode Percent.userinfo secret ++
    '@' :: placeText host port

def addressWith (name secret : List Char) (host : Host) (port : Option Nat) : Url where
  scheme := "redis"
  username := encodedText Percent.userinfo name
  password := some (encodedText Percent.userinfo secret)
  host := some host
  port := port
  guarded := false
  route := .segments []
  query := none
  fragment := none

theorem text_addressWith (name secret : List Char) (host : Host) (port : Option Nat) :
    (addressWith name secret host port).text =
      String.ofList ("redis://".toList ++ authorityWith name secret host port) := by
  rw [← String.toList_inj, String.toList_ofList]
  cases port <;> simp [addressWith, Url.text, authorityText, credentialsText, guardText, target,
    pathText, Route.text, segmentsText, queryText, fragmentText, authorityWith, placeText, portText,
    encodedText]

theorem inside_of_allowed {c : Char} (h : Percent.Allowed Percent.userinfo c) : Host.Inside c := by
  have all : ∀ k : Fin 128, Percent.userinfo (Char.ofNat k) = false →
      Host.Inside (Char.ofNat k) := by decide
  exact forall_ascii (P := fun c => Percent.userinfo c = false → Host.Inside c) all h.1 h.2

theorem mem_authorityWith {name secret : List Char} {host : Host} (plain : host.Plain)
    {port : Option Nat} {c : Char} (h : c ∈ authorityWith name secret host port) :
    Host.Inside c ∨ c = ':' ∨ c = '@' := by
  have written {typed : List Char} (hc : c ∈ Percent.encode Percent.userinfo typed) :
      Host.Inside c := inside_of_allowed (Percent.allowed_of_mem_encode userinfo_stable hc)
  simp only [authorityWith, List.mem_append, List.mem_cons] at h
  rcases h with (name | colon | secret) | sign | place
  · exact Or.inl (written name)
  · exact Or.inr (Or.inl colon)
  · exact Or.inl (written secret)
  · exact Or.inr (Or.inr sign)
  · exact Or.inl (inside_of_mem_placeText plain place)

theorem parse_addressWith (name : List Char) {secret : List Char} (given : secret ≠ [])
    {host : Host} (plain : host.Plain) (filled : host.isEmpty = false) {port : Option Nat}
    (low : ∀ n ∈ port, n < 65536) :
    Url.parse (addressWith name secret host port).text = .ok (addressWith name secret host port) := by
  have chars : ∀ c ∈ authorityWith name secret host port,
      0x20 < c.toNat ∧ c ≠ '#' ∧ c ≠ '/' ∧ c ≠ '?' := by
    intro c hc
    rcases mem_authorityWith plain hc with inside | rfl | rfl
    · exact ⟨inside.1, inside.2.1, inside.2.2.1, inside.2.2.2.1⟩
    · decide
    · decide
  have whole : (authorityWith name secret host port).takeWhile (! SchemeKind.plain.isSlash ·) =
      authorityWith name secret host port := by
    refine List.takeWhile_eq_self_iff.mpr fun c hc => ?_
    simp [SchemeKind.isSlash, SchemeKind.isSpecial, (chars c hc).2.2.1]
  have read := authorityOf_encode name given plain filled low
  rw [← authorityWith] at read
  have kind : SchemeKind.of "redis" = .plain := rfl
  rw [text_addressWith, parse_redis (fun c hc => (chars c hc).1)
    (fun h => (chars _ h).2.1 rfl) fun h => (chars _ h).2.2.2 rfl]
  simp only [withAuthority, kind, whole, List.drop_length, List.isEmpty_nil, Option.isSome_none,
    Bool.not_true, Bool.or_self, read, bind, Except.bind, pure, Except.pure]
  rfl

/-- A text that can stand between the commas of an endpoint. -/
def Listed (text : String) : Prop :=
  text ≠ "" ∧ ',' ∉ text.toList ∧ hasSchemeMark text.toList = false ∧ Edged isBlank text.toList

/-- A place that reads as a host, perhaps with a port, and as nothing else. -/
structure IsPlace (place : String) (host : Host) (port : Option Nat) : Prop where
  listed : Listed place
  filled : host.isEmpty = false
  read : Url.parse (baseText place []) =
    .ok ⟨"redis", "", none, some host, port, false, .segments [], none, none⟩

theorem IsPlace.plain {place : String} {host : Host} {port : Option Nat}
    (h : IsPlace place host port) : host.Plain ∧ ∀ n ∈ port, n < 65536 :=
  plain_of_parse h.read rfl rfl

theorem isPrefixOf_append {sep : Char} {front : List Char} (h : sep ∉ front) (cs rest : List Char) :
    front.isPrefixOf (cs ++ sep :: rest) = front.isPrefixOf cs := by
  induction front generalizing cs with
  | nil => rfl
  | cons p ps ih =>
    have other : p ≠ sep := fun e => h (by simp [e])
    cases cs with
    | nil => simp [List.isPrefixOf, other]
    | cons c cs => simp [List.isPrefixOf, ih (fun hm => h (by simp [hm]))]

theorem hasSchemeMark_iff (cs : List Char) : hasSchemeMark cs = true ↔ [':', '/', '/'] <:+: cs := by
  induction cs with
  | nil => simp [hasSchemeMark]
  | cons c cs ih =>
    rw [hasSchemeMark, Bool.or_eq_true, List.isPrefixOf_iff_prefix, ih, List.infix_cons_iff]

theorem hasSchemeMark_of_not_mem {m : Char} (part : m ∈ [':', '/', '/']) {cs : List Char} (h : m ∉ cs) :
    hasSchemeMark cs = false :=
  Bool.eq_false_iff.mpr fun marked => h (((hasSchemeMark_iff cs).mp marked).subset part)

theorem hasSchemeMark_append {sep : Char} (h : sep ∉ [':', '/', '/']) (cs rest : List Char) :
    hasSchemeMark (cs ++ sep :: rest) = (hasSchemeMark cs || hasSchemeMark rest) := by
  induction cs with
  | nil =>
    have front := isPrefixOf_append h [] rest
    rw [List.nil_append] at front ⊢
    simp only [hasSchemeMark, front]
    rfl
  | cons c cs ih =>
    have front := isPrefixOf_append h (c :: cs) rest
    rw [List.cons_append] at front ⊢
    rw [hasSchemeMark, front, ih, hasSchemeMark, Bool.or_assoc]

def optionList (place user password : String) : String :=
  place ++ ",user=" ++ user ++ ",password=" ++ password

def optionText (name value : String) : List Char := name.toList ++ '=' :: value.toList

theorem toList_optionList (place user password : String) :
    (optionList place user password).toList = place.toList ++
      ',' :: (optionText "user" user ++ ',' :: optionText "password" password) := by
  simp [optionList, optionText]

def IsName (name : String) : Prop :=
  name ≠ "" ∧ lower name = name ∧ ∀ c ∈ name.toList, isBlank c = false ∧ c ∉ [',', '=', ':']

theorem isName_user : IsName "user" := ⟨by decide, by decide, forall_of_all (by decide)⟩

theorem isName_password : IsName "password" := ⟨by decide, by decide, forall_of_all (by decide)⟩

theorem option_read {name value : String} (filled : name ≠ "")
    (bare : ∀ c ∈ name.toList, isBlank c = false ∧ c ∉ [',', '=', ':']) (h : Listed value) :
    ',' ∉ optionText name value ∧ hasSchemeMark (optionText name value) = false ∧
      trimmed (optionText name value) = optionText name value ∧
      option? (optionText name value) = some (lower name, value) := by
  obtain ⟨given, noComma, noMark, edged⟩ := h
  have visible : Edged isBlank name.toList := edged_of_forall fun c hc => (bare c hc).1
  have absent {d : Char} (hd : d ∈ [',', '=', ':']) : d ∉ name.toList := fun hm => (bare d hm).2 hd
  have nameOnly : trimmed name.toList = name.toList := strip_edged visible
  have ends : Edged isBlank (optionText name value) :=
    Edged.between visible edged (by simpa using filled) (by simpa using given) ['=']
  refine ⟨?_, ?_, strip_edged ends, ?_⟩
  · simp [optionText, noComma, absent]
  · rw [optionText, hasSchemeMark_append (by decide), noMark,
      hasSchemeMark_of_not_mem (by decide) (absent (show ':' ∈ _ by decide))]
    rfl
  · rw [option?, optionText, cutFirst_append (absent (by decide)), Option.map_some]
    dsimp only
    rw [nameOnly, String.ofList_toList, String.ofList_toList]

theorem option_listed {name value : String} (named : IsName name) (h : Listed value) :
    ',' ∉ optionText name value ∧ hasSchemeMark (optionText name value) = false ∧
      trimmed (optionText name value) = optionText name value ∧
      option? (optionText name value) = some (name, value) := by
  obtain ⟨filled, small, bare⟩ := named
  have read := option_read filled bare h
  rwa [small] at read

theorem ofOptions_credentials {place user password endpoint : String} {host : Host}
    {port : Option Nat} (h : IsPlace place host port) (name : user ≠ "") (secret : password ≠ "") :
    ofOptions endpoint place [("user", user), ("password", password)] =
      .ok (addressWith user.toList password.toList host port) := by
  have base : baseText place [("user", user), ("password", password)] = baseText place [] := rfl
  have first : lastValue? [("user", user), ("password", password)] "user" = some user := rfl
  have second : lastValue? [("user", user), ("password", password)] "password" = some password := rfl
  have third : lastValue? [("user", user), ("password", password)] "defaultdatabase" = none := rfl
  have other : "" ≠ user := Ne.symm name
  simp [ofOptions, base, h.read, first, second, third, orElse, setUsername?, setPassword?,
    takesCredentials, hasHost, h.filled, other, secret, addressWith, bind, Except.bind, pure,
    Except.pure]

theorem urlText_optionList {place user password : String} {host : Host} {port : Option Nat}
    (h : IsPlace place host port) (name : Listed user) (secret : Listed password) :
    urlText (optionList place user password) =
      .ok (addressWith user.toList password.toList host port).text := by
  obtain ⟨given, noComma, noMark, edged⟩ := h.listed
  obtain ⟨one, unmarked, whole, read⟩ := option_listed isName_user name
  obtain ⟨one', unmarked', whole', read'⟩ := option_listed isName_password secret
  have marks : hasSchemeMark (optionList place user password).toList = false := by
    rw [toList_optionList, hasSchemeMark_append (by decide), hasSchemeMark_append (by decide), noMark,
      unmarked, unmarked']
    rfl
  have cut : (pieces ',' (optionList place user password).toList).map trimmed =
      [place.toList, optionText "user" user, optionText "password" password] := by
    have bare : trimmed place.toList = place.toList := strip_edged edged
    rw [toList_optionList, pieces_append noComma, pieces_append one, pieces_of_not_mem one']
    simp only [List.map_cons, List.map_nil, bare, whole, whole']
  have filled : place.toList.isEmpty = false := by simpa using given
  rw [urlText, marks, cut]
  simp only [Bool.false_eq_true, if_false, filled, List.filterMap_cons, read, read',
    List.filterMap_nil, String.ofList_toList, ofOptions_credentials h name.1 secret.1]
  rfl

/-- A text arrives just if no escape stands in it. -/
theorem decoded_iff (part text : String) :
    decoded part (encodedText Percent.userinfo text.toList) = .ok text ↔
      Percent.holdsEscape text.toList = false := by
  have same : Percent.decode (Percent.encode Percent.userinfo text.toList) =
      Percent.decode text.toList := Percent.decode_encode_of_stable userinfo_stable _
  have back : Utf8.text? (Percent.decode text.toList) = some text ↔
      Percent.decode text.toList = Utf8.encode text.toList := by
    rw [Utf8.text?, Option.map_eq_some_iff, ← Utf8.decode?_eq_some_iff]
    constructor
    · rintro ⟨cs, read, rfl⟩
      rw [String.toList_ofList] at read ⊢
      exact read
    · intro read
      exact ⟨_, read, String.ofList_toList⟩
  rw [← Percent.decode_eq_iff, ← back, decoded, encodedText, String.toList_ofList, same]
  cases Utf8.text? (Percent.decode text.toList) with
  | none => simp
  | some s => simp

theorem user_addressWith {user : String} (name : user ≠ "") (secret : List Char) (host : Host)
    (port : Option Nat) : KeyValue.user (addressWith user.toList secret host port) =
      (decoded "Username" (encodedText Percent.userinfo user.toList)).map some := by
  have named : encodedText Percent.userinfo user.toList ≠ "" := by
    intro none
    have empty : Percent.encode Percent.userinfo user.toList = [] := by
      simpa [encodedText] using congrArg String.toList none
    exact name (by simpa using Percent.encode_eq_nil.mp empty)
  exact if_neg named

theorem password_addressWith (name secret : List Char) (host : Host) (port : Option Nat) :
    KeyValue.password (addressWith name secret host port) =
      (decoded "Password" (encodedText Percent.userinfo secret)).map some := rfl

theorem ofNetworkUrl_addressWith {user : String} (name : user ≠ "") (secret : List Char) {host : Host}
    (filled : host.isEmpty = false) (port : Option Nat) :
    ofNetworkUrl (addressWith user.toList secret host port) = do
      let user ← decoded "Username" (encodedText Percent.userinfo user.toList)
      let password ← decoded "Password" (encodedText Percent.userinfo secret)
      return ⟨.network (hostName host) (port.getD 6379), ⟨some user, some password, 0⟩⟩ := by
  have first := user_addressWith name secret host port
  have second := password_addressWith user.toList secret host port
  have protocol : knownProtocol (addressWith user.toList secret host port) = .ok () := rfl
  have fragment : knownFragment (addressWith user.toList secret host port) = .ok () := rfl
  have path : database (addressWith user.toList secret host port).pathText = .ok 0 := rfl
  have there : (addressWith user.toList secret host port).host = some host := rfl
  simp only [ofNetworkUrl, there, filled, fragment, path, protocol, first, second, bind, Except.bind,
    pure, Except.pure, Bool.false_eq_true, if_false]
  cases decoded "Username" (encodedText Percent.userinfo user.toList) with
  | error e => rfl
  | ok name =>
    cases decoded "Password" (encodedText Percent.userinfo secret) with
    | error e => rfl
    | ok secret => rfl

/-- The user and the password of an endpoint are sent just if no escape stands in them. -/
theorem credentials_arrive_iff {place user password : String} {host : Host} {port : Option Nat}
    (h : IsPlace place host port) (name : Listed user) (secret : Listed password) :
    ∃ text address, urlText (optionList place user password) = .ok text ∧
      Url.parse text = .ok address ∧ address.host = some host ∧ address.port = port ∧
      (KeyValue.user address = .ok (some user) ↔ Percent.holdsEscape user.toList = false) ∧
      (KeyValue.password address = .ok (some password) ↔
        Percent.holdsEscape password.toList = false) ∧
      (targetOf (optionList place user password) =
          .ok ⟨.network (hostName host) (port.getD 6379), ⟨some user, some password, 0⟩⟩ ↔
        Percent.holdsEscape user.toList = false ∧ Percent.holdsEscape password.toList = false) := by
  have sent {read : Except String String} {given : String} :
      read.map some = .ok (some given) ↔ read = .ok given := by
    cases read <;> simp [Except.map]
  have given : password.toList ≠ [] := by simpa using secret.1
  have made := urlText_optionList h name secret
  have read := parse_addressWith user.toList given h.plain.1 h.filled h.plain.2
  have target : targetOf (optionList place user password) =
      ofNetworkUrl (addressWith user.toList password.toList host port) := by
    rw [targetOf, made]
    dsimp only
    rw [readUrl, read]
    exact if_pos (Or.inl rfl)
  refine ⟨_, _, made, read, rfl, rfl, ?_, ?_, ?_⟩
  · rw [user_addressWith name.1, sent, decoded_iff]
  · rw [password_addressWith, sent, decoded_iff]
  · rw [target, ofNetworkUrl_addressWith name.1 _ h.filled, ← decoded_iff "Username",
      ← decoded_iff "Password"]
    cases decoded "Username" (encodedText Percent.userinfo user.toList) with
    | error e => simp [bind, Except.bind]
    | ok name =>
      cases decoded "Password" (encodedText Percent.userinfo password.toList) with
      | error e => simp [bind, Except.bind]
      | ok secret => simp [bind, Except.bind, pure, Except.pure]

theorem credentials_arrive_iff_of_escape :
    let sent (password : String) : Except String Target :=
      .ok ⟨.network "cache.example.net" 6380, ⟨some "probe", some password, 0⟩⟩
    targetOf (optionList "cache.example.net:6380" "probe" "p%40ss") ≠ sent "p%40ss" ∧
      targetOf (optionList "cache.example.net:6380" "probe" "p@ss") = sent "p@ss" ∧
      urlText (optionList "cache.example.net:6380" "probe" "p%40ss") =
        urlText (optionList "cache.example.net:6380" "probe" "p@ss") := by
  have listed_of_all {text : String} (h : text ≠ "" ∧ ',' ∉ text.toList ∧
      hasSchemeMark text.toList = false ∧ (text.toList.all fun c => decide (isBlank c = false)) = true) :
      Listed text :=
    ⟨h.1, h.2.1, h.2.2.1, edged_of_forall (forall_of_all h.2.2.2)⟩
  have place : IsPlace "cache.example.net:6380" (.name "cache.example.net") (some 6380) :=
    ⟨listed_of_all (by decide), rfl, by rfl⟩
  have name : Listed "probe" := listed_of_all (by decide)
  have escaped : Listed "p%40ss" := listed_of_all (by decide)
  have bare : Listed "p@ss" := listed_of_all (by decide)
  obtain ⟨-, -, -, -, -, -, -, -, lost⟩ := credentials_arrive_iff place name escaped
  obtain ⟨-, -, -, -, -, -, -, -, kept⟩ := credentials_arrive_iff place name bare
  have written : Percent.encode Percent.userinfo "p%40ss".toList =
      Percent.encode Percent.userinfo "p@ss".toList := by decide
  refine ⟨fun same => absurd (lost.mp same).2 (by decide), kept.mpr (by decide), ?_⟩
  rw [urlText_optionList place name escaped, urlText_optionList place name bare]
  simp only [addressWith, encodedText, written]

end HopProbe.KeyValue
