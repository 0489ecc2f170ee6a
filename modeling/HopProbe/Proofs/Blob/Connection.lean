import HopProbe.Blob.Endpoint
import HopProbe.Proofs.Text.Edges
import HopProbe.Proofs.Text.Keyed
import HopProbe.Proofs.Text.Spelling
import Mathlib.Data.List.Basic

/-!
# What a connection string says

Of a connection string whose segments all have a key, the last value of each
of five keys counts, and of a sixth whether it is there. The order of the
segments, and what else stands between them, does not.
-/

set_option autoImplicit false

namespace HopProbe.Blob
open HopProbe.Text

/-- Key and value of a segment that has them. -/
def said (segment : List Char) : Option (String × String) := (Endpoint.setting segment).toOption

theorem said_written {key : List Char} (named : '=' ∉ key) (value : List Char) :
    said (key ++ '=' :: value) =
      some (String.ofList (trimmed key), String.ofList (trimmed value)) := by
  rw [said, Endpoint.setting, cutFirst_append named]
  rfl

theorem setting_of_mem {segment : List Char} (named : '=' ∈ segment) :
    ∃ setting, Endpoint.setting segment = .ok setting := by
  obtain ⟨key, value, rfl, other⟩ := List.eq_append_cons_of_mem named
  exact ⟨_, by rw [Endpoint.setting, cutFirst_append other]⟩

theorem setting_of_not_mem {segment : List Char} (unnamed : '=' ∉ segment) :
    Endpoint.setting segment = .error (.malformedSegment (String.ofList segment)) := by
  rw [Endpoint.setting, cutFirst_of_not_mem unnamed]

theorem mem_of_said {segment : List Char} {setting : String × String}
    (h : said segment = some setting) : '=' ∈ segment := by
  by_contra unnamed
  rw [said, setting_of_not_mem unnamed] at h
  cases h

def lastOf (connection key : String) : Option String :=
  lastSaid? said (pieces ';' connection.toList) key

/-- A text that is read as a connection string and has a key in each of its segments. -/
structure IsConnection (s : String) : Prop where
  other : Endpoint.isServiceUrl s = false
  named : ∀ segment ∈ pieces ';' s.toList, trimmed segment = [] ∨ '=' ∈ segment

theorem mapM_setting {segments : List (List Char)} (named : ∀ segment ∈ segments, '=' ∈ segment) :
    segments.mapM Endpoint.setting = .ok (segments.filterMap said) := by
  induction segments with
  | nil => rfl
  | cons segment segments ih =>
    obtain ⟨setting, read⟩ := setting_of_mem (named segment (by simp))
    have told : said segment = some setting := by rw [said, read]; rfl
    rw [List.mapM_cons, read, ih fun s hs => named s (by simp [hs]),
      List.filterMap_cons_some told]
    rfl

theorem mapM_malformed {front : List (List Char)} (named : ∀ segment ∈ front, '=' ∈ segment)
    {first : List Char} (unnamed : '=' ∉ first) (back : List (List Char)) :
    (front ++ first :: back).mapM Endpoint.setting =
      .error (.malformedSegment (String.ofList first)) := by
  rw [List.mapM_append, mapM_setting named, List.mapM_cons, setting_of_not_mem unnamed]
  rfl

theorem isBlank_of_trimmed {cs : List Char} (h : trimmed cs = []) : ∀ c ∈ cs, isBlank c = true := by
  obtain ⟨before, after, same, front, back⟩ := around_strip isBlank cs
  have empty : dropEndWhile isBlank (cs.dropWhile isBlank) = [] := h
  intro c hc
  rw [same, empty, List.append_nil] at hc
  exact (List.mem_append.mp hc).elim (front c) (back c)

theorem not_mem_of_trimmed {cs : List Char} (h : trimmed cs = []) : '=' ∉ cs :=
  fun hm => absurd (isBlank_of_trimmed h '=' hm) (by decide)

theorem mem_segments {segment : List Char} {connection : String} :
    segment ∈ Endpoint.segments connection ↔
      segment ∈ pieces ';' connection.toList ∧ trimmed segment ≠ [] := by
  simp [Endpoint.segments]

theorem filterMap_segments (connection : String) :
    (Endpoint.segments connection).filterMap said = (pieces ';' connection.toList).filterMap said := by
  rw [Endpoint.segments, List.filterMap_filter]
  refine List.filterMap_congr fun segment _ => ?_
  by_cases blank : trimmed segment = []
  · simp [blank, said, setting_of_not_mem (not_mem_of_trimmed blank), Except.toOption]
  · simp [blank]

theorem parse_of_connection {s : String} (h : IsConnection s) :
    Endpoint.parse s = Endpoint.ofSettings ((pieces ';' s.toList).filterMap said) := by
  have named : ∀ segment ∈ Endpoint.segments s, '=' ∈ segment := by
    intro segment hs
    obtain ⟨there, filled⟩ := mem_segments.mp hs
    exact (h.named segment there).resolve_left filled
  rw [Endpoint.parse, if_neg (by simp [h.other]), Endpoint.ofConnectionString, mapM_setting named,
    ← filterMap_segments]
  simp only [bind, Except.bind]

def valueKeys : List String :=
  ["BlobEndpoint", "SharedAccessSignature", "AccountName", "DefaultEndpointsProtocol",
    "EndpointSuffix"]

/-- Settings with the same values, and an account key in both or in none. -/
structure Alike (given given' : List (String × String)) : Prop where
  values : ∀ key ∈ valueKeys, lastValue? given key = lastValue? given' key
  locked : (lastValue? given "AccountKey").isSome = (lastValue? given' "AccountKey").isSome

theorem ofSettings_of_alike {given given' : List (String × String)} (h : Alike given given') :
    Endpoint.ofSettings given = Endpoint.ofSettings given' := by
  simp only [Endpoint.ofSettings, Endpoint.baseText?, h.locked,
    h.values "BlobEndpoint" (by decide), h.values "SharedAccessSignature" (by decide),
    h.values "AccountName" (by decide), h.values "DefaultEndpointsProtocol" (by decide),
    h.values "EndpointSuffix" (by decide)]

def Idle (segment : List Char) : Prop :=
  trimmed segment = [] ∨
    ∃ key value, said segment = some (key, value) ∧ key ∉ "AccountKey" :: valueKeys

def Respaced (segment spaced : List Char) : Prop :=
  ∃ key value key' value', segment = key ++ '=' :: value ∧ spaced = key' ++ '=' :: value' ∧
    '=' ∉ key ∧ Around isBlank key key' ∧ Around isBlank value value'

theorem said_of_respaced {segment spaced : List Char} (h : Respaced segment spaced) :
    said segment = said spaced := by
  obtain ⟨key, value, key', value', rfl, rfl, named, around, behind⟩ := h
  have still : '=' ∉ key' := around.not_mem (by decide) named
  rw [said_written named, said_written still, trimmed, trimmed, trimmed, trimmed,
    strip_eq_of_around around, strip_eq_of_around behind]

theorem said_of_idle {segment : List Char} (h : Idle segment) {key : String}
    (counts : key ∈ "AccountKey" :: valueKeys) (value : String) :
    said segment ≠ some (key, value) := by
  rintro told
  rcases h with blank | ⟨other, value', told', unknown⟩
  · exact not_mem_of_trimmed blank (mem_of_said told)
  · rw [told'] at told
    cases told
    exact unknown counts

/-- The segments of a connection string in another order, otherwise spaced, with repetitions in front
of the last and with segments between them that say nothing of a key that counts. -/
abbrev Reordered : List (List Char) → List (List Char) → Prop :=
  Relation.EqvGen (Rearranged said Idle Respaced)

theorem named_of_reordered {as bs : List (List Char)} (h : Reordered as bs)
    (named : ∀ segment ∈ as, trimmed segment = [] ∨ '=' ∈ segment) :
    ∀ segment ∈ bs, trimmed segment = [] ∨ '=' ∈ segment := by
  have same := eq_of_rearranged (fun segments : List (List Char) =>
    ∀ segment ∈ segments, trimmed segment = [] ∨ '=' ∈ segment) (fun _ _ step => propext (step.forall_iff
      (fun _ _ told => Or.inr (mem_of_said told))
      (fun _ idle => idle.imp id fun ⟨_, _, told, _⟩ => mem_of_said told)
      (fun _ _ ⟨_, _, _, _, first, second, _⟩ => by simp [first, second]))) h
  exact same.mp named

def accountKeyMessage : String :=
  "account-key connection strings are not supported; use a SharedAccessSignature"

theorem append_ne_accountKeyMessage {front : String}
    (other : front.toList.head?.any (· != 'a') = true) (more : String) :
    front ++ more ≠ accountKeyMessage := by
  intro same
  have begins : (front ++ more).toList.head? = some 'a' := by rw [same]; rfl
  cases written : front.toList with
  | nil => simp [written] at other
  | cons c cs =>
    rw [String.toList_append, written, List.cons_append, List.head?_cons] at begins
    rw [written, List.head?_cons, Option.some.inj begins] at other
    exact absurd other (by decide)

theorem message_eq_iff (e : EndpointError) : e.message = accountKeyMessage ↔ e = .accountKey := by
  refine ⟨fun same => ?_, fun h => h ▸ rfl⟩
  cases e with
  | accountKey => rfl
  | unreadable text cause =>
    have said : "endpoint " ++ (quote text ++ (": " ++ cause.message)) = accountKeyMessage := by
      rw [← String.append_assoc, ← String.append_assoc]
      exact same
    exact absurd said (append_ne_accountKeyMessage (by rfl) _)
  | malformedSegment segment => exact absurd same (append_ne_accountKeyMessage (by rfl) _)
  | noLocation => exact absurd same (by decide)
  | noPath base =>
    have said : "endpoint " ++ (base ++ " cannot hold a path") = accountKeyMessage := by
      rw [← String.append_assoc]
      exact same
    exact absurd said (append_ne_accountKeyMessage (by rfl) _)

/-- No settings fail for the account key but those that have one and no signature. -/
theorem ofSettings_accountKey_iff (given : List (String × String)) :
    Endpoint.ofSettings given = .error .accountKey ↔
      (lastValue? given "AccountKey").isSome ∧ lastValue? given "SharedAccessSignature" = none := by
  have read (text : String) (signature : Option String) :
      (do return (⟨← Endpoint.parseBase text, signature⟩ : Endpoint)) ≠ .error .accountKey := by
    rw [Endpoint.parseBase]
    cases Url.parse text <;> simp [bind, Except.bind, pure, Except.pure]
  simp only [Endpoint.ofSettings, Option.map_eq_none_iff]
  constructor
  · intro failed
    split at failed
    · next locked => exact locked.symm
    · split at failed
      · cases failed
      · exact absurd failed (read _ _)
  · intro locked
    rw [if_pos locked.symm]

/-- The segments of a connection string count only by the last values of five keys, and by whether
there is an account key. -/
theorem parse_by_last_values {a : String} (h : IsConnection a) :
    (∀ b, IsConnection b → (∀ key ∈ valueKeys, lastOf a key = lastOf b key) →
      ((lastOf a "AccountKey").isSome ↔ (lastOf b "AccountKey").isSome) →
      Endpoint.parse a = Endpoint.parse b) ∧
    (∀ b, Endpoint.isServiceUrl b = false →
      Reordered (pieces ';' a.toList) (pieces ';' b.toList) →
      IsConnection b ∧ Endpoint.parse a = Endpoint.parse b) ∧
    ((∃ e, Endpoint.parse a = .error e ∧ e.message = accountKeyMessage) ↔
      (lastOf a "AccountKey").isSome ∧ lastOf a "SharedAccessSignature" = none) ∧
    ∀ b, Endpoint.isServiceUrl b = false →
      (∃ segment ∈ pieces ';' b.toList, trimmed segment ≠ [] ∧ '=' ∉ segment) →
      ∃ front first back, Endpoint.segments b = front ++ first :: back ∧
        (∀ segment ∈ front, '=' ∈ segment) ∧ '=' ∉ first ∧
        Endpoint.parse b = .error (.malformedSegment (String.ofList first)) := by
  refine ⟨?_, ?_, ?_, ?_⟩
  · intro b h' values locked
    rw [parse_of_connection h, parse_of_connection h']
    exact ofSettings_of_alike ⟨values, Bool.eq_iff_iff.mpr locked⟩
  · intro b other reordered
    have h' : IsConnection b := ⟨other, named_of_reordered reordered h.named⟩
    have last (key : String) (counts : key ∈ "AccountKey" :: valueKeys) :
        lastOf a key = lastOf b key :=
      lastSaid?_of_rearranged (fun _ idle => said_of_idle idle counts)
        (fun _ _ same => said_of_respaced same) reordered
    refine ⟨h', ?_⟩
    rw [parse_of_connection h, parse_of_connection h']
    exact ofSettings_of_alike ⟨fun key counts => last key (by simp [counts]),
      congrArg Option.isSome (last "AccountKey" (by decide))⟩
  · rw [parse_of_connection h]
    exact ⟨fun ⟨e, failed, words⟩ =>
      (ofSettings_accountKey_iff _).mp (failed.trans (congrArg _ ((message_eq_iff e).mp words))),
      fun locked => ⟨.accountKey, (ofSettings_accountKey_iff _).mpr locked, rfl⟩⟩
  · rintro b other ⟨segment, there, filled, unnamed⟩
    have lacking : ((Endpoint.segments b).find? (! ·.contains '=')).isSome = true :=
      List.find?_isSome.mpr ⟨segment, mem_segments.mpr ⟨there, filled⟩, by simpa using unnamed⟩
    obtain ⟨first, found⟩ := Option.isSome_iff_exists.mp lacking
    obtain ⟨lacks, front, back, cut, before⟩ := List.find?_eq_some_iff_append.mp found
    have named : ∀ segment ∈ front, '=' ∈ segment := fun s hs => by simpa using before s hs
    have bare : '=' ∉ first := by simpa using lacks
    refine ⟨front, first, back, cut, named, bare, ?_⟩
    rw [Endpoint.parse, if_neg (by simp [other]), Endpoint.ofConnectionString, cut,
      mapM_malformed named bare]
    simp only [bind, Except.bind]

theorem parse_by_last_values_of_locked :
    let a := "AccountKey=k;BlobEndpoint=http://[::1]/"
    let b := "BlobEndpoint =\thttp://[::1]/;;AccountKey=k"
    (∃ e, Endpoint.parse a = .error e ∧ e.message = accountKeyMessage) ∧
      Endpoint.parse a = Endpoint.parse b := by
  intro a b
  let locked := "AccountKey=k".toList
  let place := "BlobEndpoint=http://[::1]/".toList
  let spaced := "BlobEndpoint =\thttp://[::1]/".toList
  have h : IsConnection a := ⟨by decide, by decide⟩
  have wider : Respaced place spaced := by
    refine ⟨"BlobEndpoint".toList, "http://[::1]/".toList, "BlobEndpoint ".toList,
      "\thttp://[::1]/".toList, by decide, by decide, by decide, ?_, ?_⟩
    · exact ⟨[], [' '], by decide, by simp, forall_of_all (by decide)⟩
    · exact ⟨['\t'], [], by decide, forall_of_all (by decide), by simp⟩
  have reordered : Reordered (pieces ';' a.toList) (pieces ';' b.toList) := by
    have cut : pieces ';' a.toList = [locked, place] := by decide
    have cut' : pieces ';' b.toList = [spaced, [], locked] := by decide
    have swapped : Rearranged said Idle Respaced [locked, place] [place, locked] :=
      .swap [] [] (v := "k") (w := "http://[::1]/") (by rfl) (by rfl) (by decide)
    have widened : Rearranged said Idle Respaced [place, locked] [spaced, locked] :=
      .respaced [] [locked] wider
    have parted : Rearranged said Idle Respaced [spaced, locked] [spaced, [], locked] :=
      .idle [spaced] [locked] (Or.inl rfl)
    rw [cut, cut']
    exact .trans _ _ _ (.rel _ _ swapped) (.trans _ _ _ (.rel _ _ widened) (.rel _ _ parted))
  obtain ⟨-, moved, fails, -⟩ := parse_by_last_values h
  exact ⟨fails.mpr ⟨by decide, by decide⟩, (moved b (by decide) reordered).2⟩

end HopProbe.Blob
