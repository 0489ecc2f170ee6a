import HopProbe.Proofs.KeyValue.Options
import HopProbe.Proofs.KeyValue.Stored
import HopProbe.Proofs.Url.Place

/-!
# Two ways to name a database

A place and a number name a database as a URL with the number for its path,
or as a list with the number for an option. The list becomes the URL, and the
URL is read as the place and the number.
-/

set_option autoImplicit false

namespace HopProbe.KeyValue
open HopProbe.Text

def urlSpelling (host : Url.Host) (port number : Nat) : String :=
  "redis://" ++ host.text ++ ":" ++ toString port ++ "/" ++ toString number

def listSpelling (host : Url.Host) (port number : Nat) : String :=
  host.text ++ ":" ++ toString port ++ ",defaultDatabase=" ++ toString number

/-- A host and a port that a list of options can begin with, and a number of a database. -/
structure Nameable (host : Url.Host) (port number : Nat) : Prop where
  plain : host.Plain
  filled : host.isEmpty = false
  noComma : ',' ∉ host.text.toList
  port : port < 65536
  number : number < twoTo 63

theorem toList_urlSpelling (host : Url.Host) (port number : Nat) :
    (urlSpelling host port number).toList = "redis".toList ++
      ':' :: '/' :: '/' :: (Url.placeText host (some port) ++ '/' :: Nat.toDigits 10 number) := by
  simp [urlSpelling, Url.placeText, Url.portText]

theorem toList_listSpelling (host : Url.Host) (port number : Nat) :
    (listSpelling host port number).toList =
      Url.placeText host (some port) ++ ',' :: optionText "defaultDatabase" (toString number) := by
  simp [listSpelling, Url.placeText, Url.portText, optionText]

def spelledUrl (host : Url.Host) (port number : Nat) : Url :=
  Url.placeUrl "redis" host port [Nat.toDigits 10 number]

theorem text_spelledUrl (host : Url.Host) (port number : Nat) :
    (spelledUrl host port number).text = urlSpelling host port number := by
  apply String.toList_inj.mp
  rw [spelledUrl, Url.text_placeUrl, toList_urlSpelling]
  simp [Url.segmentsText]

theorem digit_stands {c : Char} (h : c.isDigit = true) :
    0x20 < c.toNat ∧ isBlank c = false ∧ c ∉ ['#', '?', ',', '/', '='] :=
  forall_digit (P := fun c => 0x20 < c.toNat ∧ isBlank c = false ∧ c ∉ ['#', '?', ',', '/', '='])
    (by decide) h

theorem listed_digits (number : Nat) : Listed (toString number) := by
  have written : (toString number).toList = Nat.toDigits 10 number := by simp
  have stands : ∀ c ∈ Nat.toDigits 10 number, 0x20 < c.toNat ∧ isBlank c = false ∧
      c ∉ ['#', '?', ',', '/', '='] := fun c hc => digit_stands (isDigit_toDigits number c hc)
  refine ⟨fun none => ?_, ?_, ?_, ?_⟩
  · rw [none] at written
    exact Nat.toDigits_ne_nil written.symm
  · rw [written]
    exact fun hm => (stands ',' hm).2.2 (by decide)
  · rw [written]
    exact hasSchemeMark_of_not_mem (by decide) fun hm => (stands '/' hm).2.2 (by decide)
  · rw [written]
    exact edged_of_forall fun c hc => (stands c hc).2.1

theorem databaseOption (number : Nat) :
    ',' ∉ optionText "defaultDatabase" (toString number) ∧
      hasSchemeMark (optionText "defaultDatabase" (toString number)) = false ∧
      trimmed (optionText "defaultDatabase" (toString number)) =
        optionText "defaultDatabase" (toString number) ∧
      option? (optionText "defaultDatabase" (toString number)) =
        some ("defaultdatabase", toString number) := by
  have filled : "defaultDatabase" ≠ "" := by decide
  have small : lower "defaultDatabase" = "defaultdatabase" := by decide
  have read := option_read filled (forall_of_all (by decide)) (listed_digits number)
  rwa [small] at read

theorem setPath_number (host : Url.Host) (port number : Nat) :
    (Url.placeUrl "redis" host port []).setPath (toString number) = spelledUrl host port number := by
  have digits := isDigit_toDigits number
  have typed : Url.counted (toString number).toList = Nat.toDigits 10 number := by
    have written : (toString number).toList = Nat.toDigits 10 number := by simp
    rw [written, Url.counted_eq_self fun c hc => (digit_stands (digits c hc)).1]
  have parts : Url.pathSegments .plain (Nat.toDigits 10 number) = [Nat.toDigits 10 number] := by
    cases written : Nat.toDigits 10 number with
    | nil => exact absurd written Nat.toDigits_ne_nil
    | cons c cs =>
      rw [written] at digits
      obtain ⟨-, -, other⟩ := digit_stands (digits c (by simp))
      have noSlash : Url.SchemeKind.plain.isSlash c = false := by
        have slash : c ≠ '/' := fun e => other (by simp [e])
        simp [Url.SchemeKind.isSlash, Url.SchemeKind.isSpecial, slash]
      have noMark : ¬ (c = '?' ∨ c = '#') := by
        rintro (rfl | rfl) <;> simp at other
      rw [Url.pathSegments, noSlash, if_neg (by simp), if_neg fun marked => noMark marked.2,
        Url.segmentsOf_digits digits]
  have set : (Url.placeUrl "redis" host port []).setPath (toString number) =
      Url.placeUrl "redis" host port (Url.pathSegments .plain (Url.counted (toString number).toList)) :=
    rfl
  rw [set, typed, parts, spelledUrl]

/-- The number is read back from the path, without the slash in front of it. -/
theorem database_spelledUrl (host : Url.Host) (port : Nat) {number : Nat} (low : number < twoTo 63) :
    database (spelledUrl host port number).pathText = .ok (number : Int) := by
  have path : (spelledUrl host port number).pathText.toList = '/' :: Nat.toDigits 10 number := by
    simp [spelledUrl, Url.placeUrl, Url.pathText, Url.Route.text, Url.segmentsText]
  have noSlash : ∀ c ∈ Nat.toDigits 10 number, isSlash c = false := by
    intro c hc
    have other := (digit_stands (isDigit_toDigits number c hc)).2.2
    simp only [isSlash, beq_eq_false_iff_ne]
    exact fun e => other (by simp [e])
  have behind : ('/' :: Nat.toDigits 10 number).dropWhile isSlash = Nat.toDigits 10 number := by
    have kept := Url.dropWhile_front noSlash Nat.toDigits_ne_nil []
    rw [List.append_nil] at kept
    rw [List.dropWhile_cons_of_pos (by rfl), kept]
  rw [database, path, behind, dropEndWhile_eq_self noSlash]
  split
  · next none => exact absurd none Nat.toDigits_ne_nil
  · rw [databaseNumber, readInteger_toDigits low]

section
variable {host : Url.Host} {port number : Nat} (h : Nameable host port number)
include h

theorem Nameable.parse_base :
    Url.parse (String.ofList ("redis".toList ++
        ':' :: '/' :: '/' :: Url.placeText host (some port))) =
      .ok (Url.placeUrl "redis" host port []) := by
  have named : Url.IsScheme "redis" := by decide
  have noPath : Url.routeBehind .plain [] = .segments [] := rfl
  have read := Url.parse_place named rfl h.plain h.filled h.port (by simp) (by simp) noPath
  rwa [List.append_nil] at read

theorem Nameable.parse_url :
    Url.parse (urlSpelling host port number) = .ok (spelledUrl host port number) := by
  have digits := isDigit_toDigits number
  have route : Url.routeBehind .plain ('/' :: Nat.toDigits 10 number) =
      .segments [Nat.toDigits 10 number] := by
    rw [Url.routeBehind, if_pos (by decide), Url.segmentsOf_digits digits]
  have visible : ∀ c ∈ '/' :: Nat.toDigits 10 number, 0x20 < c.toNat ∧ c ≠ '#' ∧ c ≠ '?' := by
    intro c hc
    rcases List.mem_cons.mp hc with rfl | hc
    · decide
    · obtain ⟨visible, -, other⟩ := digit_stands (digits c hc)
      exact ⟨visible, fun e => other (by simp [e]), fun e => other (by simp [e])⟩
  have named : Url.IsScheme "redis" := by decide
  have read := Url.parse_place named rfl h.plain h.filled h.port (by simp) visible route
  have written : urlSpelling host port number = String.ofList ("redis".toList ++
      ':' :: '/' :: '/' :: (Url.placeText host (some port) ++ '/' :: Nat.toDigits 10 number)) := by
    rw [← toList_urlSpelling, String.ofList_toList]
  rw [written]
  exact read

theorem Nameable.place {c : Char} (hc : c ∈ Url.placeText host (some port)) :
    isBlank c = false ∧ c ≠ ',' ∧ c ≠ '/' := by
  have blank : ∀ n : Fin 128, 0x20 < (Char.ofNat n).toNat → isBlank (Char.ofNat n) = false := by
    decide
  rcases List.mem_append.mp hc with name | behind
  · have inside := h.plain.inside c name
    refine ⟨?_, fun e => h.noComma (e ▸ name), inside.2.2.1⟩
    exact forall_ascii (P := fun c => 0x20 < c.toNat → isBlank c = false) blank
      (h.plain.ascii c name) inside.1
  · rcases List.mem_cons.mp behind with rfl | digit
    · decide
    · obtain ⟨-, blank, other⟩ := digit_stands (isDigit_toDigits port c digit)
      exact ⟨blank, fun e => other (by simp [e]), fun e => other (by simp [e])⟩

theorem Nameable.cut :
    pieces ',' (listSpelling host port number).toList =
      [Url.placeText host (some port), optionText "defaultDatabase" (toString number)] := by
  rw [toList_listSpelling, pieces_append fun hm => (h.place hm).2.1 rfl,
    pieces_of_not_mem (databaseOption number).1]

theorem Nameable.hostPart :
    hostPart (listSpelling host port number) = String.ofList (Url.placeText host (some port)) := by
  have bare : trimmed (Url.placeText host (some port)) = Url.placeText host (some port) :=
    strip_edged (edged_of_forall fun c hc => (h.place hc).1)
  rw [KeyValue.hostPart, h.cut, List.headD_cons, bare]

theorem Nameable.saidOptions :
    (optionsOf (listSpelling host port number)).filterMap saidOption =
      [("defaultdatabase", toString number)] := by
  obtain ⟨-, -, whole, read⟩ := databaseOption number
  have said : saidOption (optionText "defaultDatabase" (toString number)) =
      some ("defaultdatabase", toString number) := by rw [saidOption, whole, read]
  rw [optionsOf, h.cut, List.tail_cons, List.filterMap_cons_some said, List.filterMap_nil]

theorem Nameable.ofOptions (endpoint : String) :
    ofOptions endpoint (String.ofList (Url.placeText host (some port)))
        [("defaultdatabase", toString number)] = .ok (spelledUrl host port number) := by
  have colon : ':' ∈ Url.placeText host (some port) := by simp [Url.placeText, Url.portText]
  have base : baseText (String.ofList (Url.placeText host (some port)))
      [("defaultdatabase", toString number)] = String.ofList ("redis".toList ++
        ':' :: '/' :: '/' :: Url.placeText host (some port)) := by
    have plain : lastValue? [("defaultdatabase", toString number)] "ssl" = none := by
      simp [lastValue?]
    rw [baseText, plain]
    apply String.toList_inj.mp
    simp [withPort, colon]
  have first : lastValue? [("defaultdatabase", toString number)] "user" = none := by
    simp [lastValue?]
  have second : lastValue? [("defaultdatabase", toString number)] "password" = none := by
    simp [lastValue?]
  have third : lastValue? [("defaultdatabase", toString number)] "defaultdatabase" =
      some (toString number) := by simp [lastValue?]
  simp only [KeyValue.ofOptions, base, h.parse_base, first, second, third, orElse,
    setPath_number, bind, Except.bind, pure, Except.pure]

theorem Nameable.urlText_list :
    urlText (listSpelling host port number) = .ok (urlSpelling host port number) := by
  have unmarked : hasSchemeMark (listSpelling host port number).toList = false := by
    rw [toList_listSpelling, hasSchemeMark_append (by decide), (databaseOption number).2.1,
      hasSchemeMark_of_not_mem (by decide) fun hm => (h.place hm).2.2 rfl]
    rfl
  have filled : String.ofList (Url.placeText host (some port)) ≠ "" := by
    simp [Url.placeText, Url.portText]
  rw [urlText_of_options unmarked, h.hostPart, h.saidOptions, if_neg filled, h.ofOptions]
  exact congrArg Except.ok (text_spelledUrl host port number)

theorem Nameable.target :
    targetOf (urlSpelling host port number) =
      .ok ⟨.network (hostName host) port, ⟨none, none, number⟩⟩ := by
  have marked : urlText (urlSpelling host port number) = .ok (urlSpelling host port number) := by
    have front : ("redis" ++ "://").toList <+: (urlSpelling host port number).toList := by
      rw [toList_urlSpelling]
      exact ⟨_, rfl⟩
    exact urlText_of_prefix front
  rw [targetOf, marked]
  dsimp only
  rw [readUrl, h.parse_url]
  dsimp only
  rw [if_pos (show (spelledUrl host port number).scheme = "redis" ∨ _ from Or.inl rfl)]
  have there : (spelledUrl host port number).host = some host := rfl
  simp only [ofNetworkUrl, there, h.filled, database_spelledUrl host port h.number, bind, Except.bind,
    pure, Except.pure, Bool.false_eq_true, if_false]
  rfl

end

theorem targetOf_urlText {endpoint text : String} (h : urlText endpoint = .ok text) :
    targetOf text = targetOf endpoint := by
  rw [targetOf, targetOf, urlText_idem h, h]

end HopProbe.KeyValue

namespace HopProbe.World
open HopProbe.KeyValue

theorem database_urlText {endpoint text : String} (h : urlText endpoint = .ok text) (w : World) :
    w.database? text = w.database? endpoint := by
  rw [database?, session?, targetOf_urlText h]
  rfl

theorem database_spelled {host : Url.Host} {port number : Nat} (h : Nameable host port number)
    (w : World) :
    w.database? (urlSpelling host port number) =
        (if w.meetsStore (hostName host) port = .ok () then some (number : Int) else none) ∧
      w.database? (listSpelling host port number) = w.database? (urlSpelling host port number) := by
  refine ⟨?_, (database_urlText h.urlText_list w).symm⟩
  rw [database?, session?, h.target]
  dsimp only
  by_cases met : w.meetsStore (hostName host) port = .ok ()
  · rw [if_pos met, if_pos (show w.Meets (.network (hostName host) port) from met)]
    rfl
  · rw [if_neg met, if_neg (show ¬ w.Meets (.network (hostName host) port) from met)]
    rfl

end HopProbe.World
