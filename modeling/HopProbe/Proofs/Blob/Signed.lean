import HopProbe.Blob.Endpoint
import HopProbe.Proofs.Text.Edges
import HopProbe.Proofs.Url.Scheme

/-!
# Two ways to write a signed endpoint

A signature is the query of the service URL, or a segment beside the one with
the URL. A URL reader cuts the one off, a connection string the other, and
both leave the same base and the same signature, or none of them is read.
-/

set_option autoImplicit false

namespace HopProbe.Blob
open HopProbe.Text

/-- A service URL that ends with its path and can be a value in a connection string. -/
structure IsService (base : String) : Prop where
  begins : Endpoint.isServiceUrl base = true
  plain : ∀ c ∈ base.toList, 0x20 < c.toNat ∧ isBlank c = false ∧ c ≠ '#' ∧ c ≠ '?' ∧ c ≠ ';'

structure IsSignature (signature : String) : Prop where
  filled : signature ≠ ""
  allowed : ∀ c ∈ signature.toList, Url.Percent.Allowed Url.Percent.specialQuery c ∧ c ≠ ';'
  unmarked : signature.toList.head? ≠ some '?'

theorem isBlank_of_allowed {c : Char} (h : Url.Percent.Allowed Url.Percent.specialQuery c) :
    isBlank c = false := by
  have all : ∀ n : Fin 128, Url.Percent.specialQuery (Char.ofNat n) = false →
      isBlank (Char.ofNat n) = false := by decide
  exact forall_ascii (P := fun c => Url.Percent.specialQuery c = false → isBlank c = false) all h.1 h.2

theorem isServiceUrl_iff (s : String) : Endpoint.isServiceUrl s = true ↔
    "http://".toList <+: s.toList ∨ "https://".toList <+: s.toList := by
  rw [Endpoint.isServiceUrl, Bool.or_eq_true, List.isPrefixOf_iff_prefix, List.isPrefixOf_iff_prefix]

theorem isServiceUrl_append {s : String} (h : Endpoint.isServiceUrl s = true) (more : String) :
    Endpoint.isServiceUrl (s ++ more) = true := by
  rw [isServiceUrl_iff] at h ⊢
  rw [String.toList_append]
  exact h.imp (·.trans (List.prefix_append _ _)) (·.trans (List.prefix_append _ _))

theorem scheme_of_service {s : String} (h : Endpoint.isServiceUrl s = true) :
    ∃ name port rest, Url.IsScheme name ∧ Url.SchemeKind.of name = .special port ∧
      s.toList = name.toList ++ ':' :: rest := by
  rcases (isServiceUrl_iff s).mp h with ⟨rest, same⟩ | ⟨rest, same⟩
  · exact ⟨"http", 80, '/' :: '/' :: rest, by decide, by rfl, same.symm⟩
  · exact ⟨"https", 443, '/' :: '/' :: rest, by decide, by rfl, same.symm⟩

section
variable {base : String} (service : IsService base)
include service

/-- A service URL without a question mark has no query, and one that is put behind it leaves
everything else as it is. -/
theorem IsService.parse {signature : String} (signed : IsSignature signature) :
    (∀ u, Url.parse base = .ok u → u.query = none) ∧
      Url.parse (base ++ "?" ++ signature) =
        (Url.parse base).map (Url.withQuery (some signature)) := by
  obtain ⟨name, port, rest, scheme, special, same⟩ := scheme_of_service service.begins
  have plain : ∀ c ∈ rest, 0x20 < c.toNat ∧ c ≠ '#' ∧ c ≠ '?' := by
    intro c hc
    have known := service.plain c (by simp [same, hc])
    exact ⟨known.1, known.2.2.1, known.2.2.2.1⟩
  have whole : base = String.ofList (name.toList ++ ':' :: rest) := by
    rw [← same, String.ofList_toList]
  have longer : base ++ "?" ++ signature =
      String.ofList (name.toList ++ ':' :: (rest ++ '?' :: signature.toList)) := by
    apply String.toList_inj.mp
    simp [same]
  constructor
  · intro u read
    rw [whole, Url.parse_without_query scheme special plain] at read
    exact (Url.tail_of_withAuthority read).1
  · rw [longer, Url.parse_with_query scheme special plain fun c hc => (signed.allowed c hc).1,
      ← whole, String.ofList_toList]

end

/-- Text that a connection string keeps in one segment, with all that stands at its ends. -/
def Solid (cs : List Char) : Prop := ∀ c ∈ cs, isBlank c = false ∧ c ≠ ';'

instance (cs : List Char) : Decidable (Solid cs) := List.decidableBAll _ cs

theorem solid_append {cs ds : List Char} (h : Solid cs) (h' : Solid ds) : Solid (cs ++ ds) := by
  intro c hc
  exact (List.mem_append.mp hc).elim (h c) (h' c)

theorem Solid.trimmed {cs : List Char} (h : Solid cs) : trimmed cs = cs :=
  strip_edged (edged_of_forall fun c hc => (h c hc).1)

def segmentText (setting : String × String) : List Char :=
  setting.1.toList ++ '=' :: setting.2.toList

/-- A key and a value that are read back from their segment. -/
structure Writable (setting : String × String) : Prop where
  key : Solid setting.1.toList
  named : '=' ∉ setting.1.toList
  value : Solid setting.2.toList

theorem Writable.solid {setting : String × String} (h : Writable setting) :
    Solid (segmentText setting) :=
  solid_append h.key (solid_append (show Solid ['='] by decide) h.value)

theorem Writable.setting {setting : String × String} (h : Writable setting) :
    Endpoint.setting (segmentText setting) = .ok setting := by
  rw [Endpoint.setting, segmentText, cutFirst_append h.named]
  dsimp only
  rw [h.key.trimmed, h.value.trimmed, String.ofList_toList, String.ofList_toList]

/-- Settings are read back from the connection string they are written in. -/
theorem settings_of_written {given : List (String × String)} (filled : given ≠ [])
    (h : ∀ setting ∈ given, Writable setting) :
    (Endpoint.segments (String.ofList (joined [';'] (given.map segmentText)))).mapM Endpoint.setting =
      .ok given := by
  have cut : pieces ';' (joined [';'] (given.map segmentText)) = given.map segmentText := by
    refine pieces_joined (by simpa using filled) fun segment hs => ?_
    obtain ⟨setting, hm, rfl⟩ := List.mem_map.mp hs
    exact fun inside => ((h setting hm).solid _ inside).2 rfl
  have kept : Endpoint.segments (String.ofList (joined [';'] (given.map segmentText))) =
      given.map segmentText := by
    rw [Endpoint.segments, String.toList_ofList, cut]
    refine List.filter_eq_self.mpr fun segment hs => ?_
    obtain ⟨setting, hm, rfl⟩ := List.mem_map.mp hs
    rw [(h setting hm).solid.trimmed]
    simp [segmentText]
  rw [kept]
  clear kept cut filled
  induction given with
  | nil => rfl
  | cons setting given ih =>
    rw [List.map_cons, List.mapM_cons, (h setting (by simp)).setting, ih fun s hs => h s (by simp [hs])]
    rfl

theorem withoutQuestionMarks_append {marks signature : String} (marked : ∀ c ∈ marks.toList, c = '?')
    (unmarked : signature.toList.head? ≠ some '?') :
    Endpoint.withoutQuestionMarks (marks ++ signature) = signature := by
  rw [Endpoint.withoutQuestionMarks, String.toList_append,
    List.dropWhile_append_of_pos fun c hc => by simp [marked c hc]]
  cases written : signature.toList with
  | nil => simpa using written.symm
  | cons c cs =>
    have other : c ≠ '?' := by simpa [written] using unmarked
    rw [List.dropWhile_cons_of_neg (by simpa using other), ← written, String.ofList_toList]

theorem ofSettings_signed (base value : String) :
    Endpoint.ofSettings [("BlobEndpoint", base), ("SharedAccessSignature", value)] =
      (Endpoint.parseBase base).map fun u => ⟨u, some (Endpoint.withoutQuestionMarks value)⟩ := by
  have found : lastValue? [("BlobEndpoint", base), ("SharedAccessSignature", value)] "BlobEndpoint" =
      some base := by simp [lastValue?]
  have given : lastValue? [("BlobEndpoint", base), ("SharedAccessSignature", value)]
      "SharedAccessSignature" = some value := by simp [lastValue?]
  simp only [Endpoint.ofSettings, Endpoint.baseText?, found, given, Option.map_some, reduceCtorEq,
    false_and, if_false]
  cases Endpoint.parseBase base <;> rfl

theorem parse_connection {base signature marks : String} (service : IsService base)
    (signed : IsSignature signature) (marked : ∀ c ∈ marks.toList, c = '?') :
    Endpoint.parse ("BlobEndpoint=" ++ base ++ ";SharedAccessSignature=" ++ marks ++ signature) =
      (Endpoint.parseBase base).map fun u => ⟨u, some signature⟩ := by
  let given := [("BlobEndpoint", base), ("SharedAccessSignature", marks ++ signature)]
  have written : "BlobEndpoint=" ++ base ++ ";SharedAccessSignature=" ++ marks ++ signature =
      String.ofList (joined [';'] (given.map segmentText)) := by
    apply String.toList_inj.mp
    simp [given, joined, segmentText]
  have value : Solid (marks ++ signature).toList := by
    rw [String.toList_append]
    refine solid_append (fun c hc => ?_) fun c hc =>
      ⟨isBlank_of_allowed (signed.allowed c hc).1, (signed.allowed c hc).2⟩
    rw [marked c hc]
    decide
  have writable : ∀ setting ∈ given, Writable setting := by
    intro setting hs
    rcases List.mem_cons.mp hs with rfl | hs
    · exact ⟨show Solid "BlobEndpoint".toList by decide, show '=' ∉ "BlobEndpoint".toList by decide,
        fun c hc => ⟨(service.plain c hc).2.1, (service.plain c hc).2.2.2.2⟩⟩
    · rw [List.mem_singleton.mp hs]
      exact ⟨show Solid "SharedAccessSignature".toList by decide,
        show '=' ∉ "SharedAccessSignature".toList by decide, value⟩
  have other : Endpoint.isServiceUrl (String.ofList (joined [';'] (given.map segmentText))) = false := by
    simp [Endpoint.isServiceUrl, given, joined, segmentText, List.isPrefixOf]
  have read : Endpoint.ofConnectionString (String.ofList (joined [';'] (given.map segmentText))) =
      Endpoint.ofSettings given := by
    rw [Endpoint.ofConnectionString, settings_of_written (by simp [given]) writable]
    simp only [bind, Except.bind]
  rw [written, Endpoint.parse, if_neg (by simp [other]), read, ofSettings_signed,
    withoutQuestionMarks_append marked signed.unmarked]

theorem ofServiceUrl_eq (text : String) :
    Endpoint.ofServiceUrl text =
      (Endpoint.parseBase text).map fun u => ⟨u.setQuery none, u.query⟩ := by
  rw [Endpoint.ofServiceUrl]
  cases Endpoint.parseBase text <;> rfl

/-- An account given by its URL and one given by the connection string of the same parts are the
same endpoint, or neither is one. -/
theorem parse_agrees {base signature marks : String} (service : IsService base)
    (signed : IsSignature signature) (marked : ∀ c ∈ marks.toList, c = '?') :
    let asUrl := base ++ "?" ++ signature
    let asConnection := "BlobEndpoint=" ++ base ++ ";SharedAccessSignature=" ++ marks ++ signature
    ((∃ cause, Url.parse base = .error cause ∧
        Endpoint.parse asUrl = .error (.unreadable asUrl cause) ∧
        Endpoint.parse asConnection = .error (.unreadable base cause)) ∨
      ∃ u, Url.parse base = .ok u ∧ Endpoint.parse asUrl = .ok ⟨u, some signature⟩ ∧
        Endpoint.parse asConnection = .ok ⟨u, some signature⟩) ∧
    ∀ path query, ((Endpoint.parse asUrl).bind (·.url path query)).toOption =
      ((Endpoint.parse asConnection).bind (·.url path query)).toOption := by
  intro asUrl asConnection
  have connection : Endpoint.parse asConnection =
      (Endpoint.parseBase base).map fun u => ⟨u, some signature⟩ :=
    parse_connection service signed marked
  obtain ⟨unasked, longer⟩ := service.parse signed
  have begins : Endpoint.isServiceUrl asUrl = true :=
    isServiceUrl_append (isServiceUrl_append service.begins "?") signature
  rw [Endpoint.parseBase] at connection
  cases read : Url.parse base with
  | error cause =>
    have failed : Endpoint.parse asUrl = .error (.unreadable asUrl cause) := by
      rw [Endpoint.parse, if_pos begins, ofServiceUrl_eq, Endpoint.parseBase, longer, read]
      rfl
    rw [read] at connection
    rw [failed, connection]
    exact ⟨Or.inl ⟨cause, rfl, rfl, rfl⟩, fun path query => rfl⟩
  | ok u =>
    have same : (Url.withQuery (some signature) u).setQuery none = u := by
      rw [Url.setQuery, Url.withQuery, Option.map_none, ← unasked u read]
    have made : Endpoint.parse asUrl = .ok ⟨u, some signature⟩ := by
      rw [Endpoint.parse, if_pos begins, ofServiceUrl_eq, Endpoint.parseBase, longer, read]
      simp only [Except.map, same]
      rfl
    rw [read] at connection
    rw [made, connection]
    exact ⟨Or.inr ⟨u, rfl, rfl, rfl⟩, fun path query => rfl⟩

/-- What the two readers cut at stands in the base and in the signature too. -/
theorem parse_agrees_of_cut_marks :
    let base := "http://[::1]/a=1&b=%3F"
    let signature := "sv=1&sig=a%2Fb==?c"
    ∃ u, Endpoint.parse (base ++ "?" ++ signature) = .ok ⟨u, some signature⟩ ∧
      Endpoint.parse ("BlobEndpoint=" ++ base ++ ";SharedAccessSignature=" ++ "?" ++ signature) =
        .ok ⟨u, some signature⟩ := by
  intro base signature
  have service : IsService base := ⟨by decide, forall_of_all (by decide)⟩
  have signed : IsSignature signature :=
    ⟨by decide, forall_of_all (by decide), by decide⟩
  have read : (Url.parse base).toOption.isSome = true := by decide +kernel
  obtain ⟨⟨cause, failed, -⟩ | ⟨u, -, asUrl, asConnection⟩, -⟩ :=
    parse_agrees service signed (show ∀ c ∈ "?".toList, c = '?' from forall_of_all (by decide))
  · rw [failed] at read
    cases read
  · exact ⟨u, asUrl, asConnection⟩

end HopProbe.Blob
