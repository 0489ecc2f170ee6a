import HopProbe.Proofs.Text.Cut
import HopProbe.Proofs.Text.Spelling
import HopProbe.Proofs.Verbs.Change

/-!
# The fields of a line

A line lists fields as names and values between bars. The fields arrive under
their names in the order of the list, and in place of what would be sent under
these names without them. A segment that is no field stops the line before
anything is sent.
-/

set_option autoImplicit false

namespace HopProbe.Verbs.Http
open HopProbe.Text HopProbe.Http

structure Carriable (name value : String) : Prop where
  filled : name ≠ ""
  token : ∀ c ∈ name.toList, isTokenChar c = true ∧ c ≠ '|'
  short : name.length < 65536
  plain : ∀ c ∈ value.toList, isFieldChar c = true ∧ c ≠ '|'

def segmentOf (pair : String × String) : List Char := pair.1.toList ++ '=' :: pair.2.toList

def fieldOf (pair : String × String) : Field := ⟨lower pair.1, pair.2⟩

def fieldAt (segment : List Char) : Field :=
  fieldOf (String.ofList (segment.takeWhile (· != '=')),
    String.ofList ((segment.dropWhile (· != '=')).drop 1))

def fieldsOf (segments : List (List Char)) : Fields :=
  (segments.filter (! ·.isEmpty)).map fieldAt

/-- Bars stand between the pairs of a list, and empty segments anywhere. -/
def Lists (list : String) (pairs : List (String × String)) : Prop :=
  ∃ segments, list.toList = joined ['|'] segments ∧
    segments.filter (! ·.isEmpty) = pairs.map segmentOf

inductive Refused : List Char → String → Prop
  | unnamed {segment : List Char} (filled : segment ≠ []) (bare : '=' ∉ segment) :
    Refused segment ("header " ++ quote (String.ofList segment) ++ " is not key=value")
  | name {name value : List Char} (cut : '=' ∉ name) (bad : isToken (String.ofList name) = false) :
    Refused (name ++ '=' :: value)
      ("header name " ++ quote (String.ofList name) ++ ": invalid HTTP header name")
  | value {name value : List Char} (cut : '=' ∉ name) (good : isToken (String.ofList name) = true)
    (bad : isFieldValue (String.ofList value) = false) :
    Refused (name ++ '=' :: value)
      ("header value " ++ quote (String.ofList value) ++ ": failed to parse header value")

def Method.word : Method → String
  | .get => "GET"
  | .post => "POST"

def ownFields (method : Method) (url : Url) : Fields :=
  login url ++ match method with
    | .get => [userAgent]
    | .post => [userAgent, scriptType]

theorem not_mem_segmentOf {name value : String} (hn : '|' ∉ name.toList)
    (hv : '|' ∉ value.toList) : '|' ∉ segmentOf (name, value) := by
  simp [segmentOf, hn, hv]

theorem isToken_of_carriable {name value : String} (h : Carriable name value) :
    isToken name = true := by
  have tokens : name.toList.all isTokenChar = true :=
    List.all_eq_true.mpr fun c hc => (h.token c hc).1
  simp [isToken, h.filled, tokens, h.short]

theorem fieldAt_append {name : List Char} (cut : '=' ∉ name) (value : List Char) :
    fieldAt (name ++ '=' :: value) = fieldOf (String.ofList name, String.ofList value) := by
  have before : ∀ c ∈ name, (c != '=') = true := fun c hc => by
    simpa using fun same : c = '=' => cut (same ▸ hc)
  simp [fieldAt, List.takeWhile_append_of_pos before, List.dropWhile_append_of_pos before]

theorem fieldAt_segmentOf {pair : String × String} (h : Carriable pair.1 pair.2) :
    fieldAt (segmentOf pair) = fieldOf pair := by
  have cut : '=' ∉ pair.1.toList := fun mark => absurd (h.token '=' mark).1 (by decide)
  rw [segmentOf, fieldAt_append cut, String.ofList_toList, String.ofList_toList]

theorem readField_of_carriable {name value : String} (h : Carriable name value) :
    readField (segmentOf (name, value)) = .ok (fieldOf (name, value)) := by
  have cut : '=' ∉ name.toList := fun mark => absurd (h.token '=' mark).1 (by decide)
  have valued : isFieldValue value = true :=
    List.all_eq_true.mpr fun c hc => (h.plain c hc).1
  simp only [readField, segmentOf, cutFirst_append cut, String.ofList_toList,
    isToken_of_carriable h, valued, if_true, fieldOf]

/-- By induction on the segments: as long as there is room, each puts its field behind the others. -/
theorem readSegments_append {segments : List (List Char)}
    (reads : ∀ s ∈ segments, readField s = .ok (fieldAt s)) (rest : List (List Char))
    (taken : Fields)
    (room : isFull (taken ++ segments.map fieldAt).names.dropLast = false) :
    readSegments taken (segments ++ rest) = readSegments (taken ++ segments.map fieldAt) rest := by
  induction segments generalizing taken with
  | nil => simp
  | cons s segments ih =>
    have first : isFull taken.names = false := by
      refine isFull_of_subset (fun name inside => ?_) room
      simp only [Fields.names, List.map_cons, List.map_append, List.dropLast_append_cons]
      exact List.mem_append_left _ inside
    have more := ih (fun t ht => reads t (List.mem_cons_of_mem _ ht)) (taken ++ [fieldAt s])
      (by simpa using room)
    rw [List.cons_append, readSegments, reads s List.mem_cons_self]
    simpa [bind, Except.bind, first] using more

theorem filter_pieces_joined {segments : List (List Char)} (h : ∀ s ∈ segments, '|' ∉ s) :
    (pieces '|' (joined ['|'] segments)).filter (! ·.isEmpty) =
      segments.filter (! ·.isEmpty) := by
  cases segments with
  | nil => rfl
  | cons s segments => rw [pieces_joined (by simp) h]

theorem readFields_of_lists {list : String} {pairs : List (String × String)}
    (h : ∀ p ∈ pairs, Carriable p.1 p.2) (lists : Lists list pairs)
    (room : isFull (Fields.names (pairs.map fieldOf)) = false) :
    readFields list = .ok (pairs.map fieldOf) := by
  obtain ⟨segments, text, kept⟩ := lists
  have noBar : ∀ s ∈ segments, '|' ∉ s := by
    intro s hs bar
    have filled : s ∈ segments.filter (! ·.isEmpty) := by
      simp [List.mem_filter, hs, List.ne_nil_of_mem bar]
    rw [kept] at filled
    obtain ⟨p, hp, rfl⟩ := List.mem_map.mp filled
    exact not_mem_segmentOf (fun inName => ((h p hp).token _ inName).2 rfl)
      (fun inValue => ((h p hp).plain _ inValue).2 rfl) bar
  have there : (pairs.map segmentOf).map fieldAt = pairs.map fieldOf := by
    rw [List.map_map]
    exact List.map_congr_left fun p hp => fieldAt_segmentOf (h p hp)
  have reads : ∀ s ∈ pairs.map segmentOf, readField s = .ok (fieldAt s) := by
    rintro _ hs
    obtain ⟨p, hp, rfl⟩ := List.mem_map.mp hs
    rw [fieldAt_segmentOf (h p hp)]
    exact readField_of_carriable (h p hp)
  have read := readSegments_append reads [] []
    (isFull_of_subset (List.dropLast_subset _) (by rwa [there]))
  rw [List.append_nil, there] at read
  rw [readFields, text, filter_pieces_joined noBar, kept, read]
  rfl

theorem Refused.read {segment : List Char} {detail : String} (h : Refused segment detail) :
    segment ≠ [] ∧ readField segment = .error (.invalid .http detail) := by
  cases h with
  | unnamed filled bare => exact ⟨filled, by rw [readField, cutFirst_of_not_mem bare]⟩
  | name cut bad => exact ⟨by simp, by simp [readField, cutFirst_append cut, bad]⟩
  | value cut good bad => exact ⟨by simp, by simp [readField, cutFirst_append cut, good, bad]⟩

theorem readField_cases (segment : List Char) :
    segment = [] ∨ readField segment = .ok (fieldAt segment) ∨ ∃ detail, Refused segment detail := by
  by_cases bare : '=' ∈ segment
  · obtain ⟨name, value, rfl, cut⟩ := List.eq_append_cons_of_mem bare
    cases named : isToken (String.ofList name) with
    | false => exact .inr (.inr ⟨_, .name cut named⟩)
    | true =>
      cases valued : isFieldValue (String.ofList value) with
      | false => exact .inr (.inr ⟨_, .value cut named valued⟩)
      | true =>
        refine .inr (.inl ?_)
        simp [readField, cutFirst_append cut, fieldAt_append cut, fieldOf, named, valued]
  · by_cases filled : segment = []
    · exact .inl filled
    · exact .inr (.inr ⟨_, .unnamed filled bare⟩)

/-- What is said of the first segment that is refused, and what stands before it. -/
inductive FirstRefused : List (List Char) → List (List Char) → String → Prop
  | here {segment : List Char} {rest : List (List Char)} {detail : String}
    (refused : Refused segment detail) : FirstRefused (segment :: rest) [] detail
  | later {segment : List Char} {rest before : List (List Char)} {detail : String}
    (accepted : ∀ other, ¬ Refused segment other) (more : FirstRefused rest before detail) :
    FirstRefused (segment :: rest) (segment :: before) detail

theorem Refused.unique {segment : List Char} {detail other : String} (h : Refused segment detail)
    (h' : Refused segment other) : detail = other := by
  have same := h.read.2.symm.trans h'.read.2
  simpa using same

theorem FirstRefused.unique {segments before front : List (List Char)} {detail other : String}
    (h : FirstRefused segments before detail) (h' : FirstRefused segments front other) :
    before = front ∧ detail = other := by
  induction h generalizing front with
  | here refused =>
    cases h' with
    | here again => exact ⟨rfl, refused.unique again⟩
    | later accepted => exact absurd refused (accepted _)
  | later accepted _ ih =>
    cases h' with
    | here refused => exact absurd refused (accepted _)
    | later _ more =>
      obtain ⟨rfl, same⟩ := ih more
      exact ⟨rfl, same⟩

theorem exists_firstRefused {segments : List (List Char)}
    (h : ∃ s ∈ segments, ∃ detail, Refused s detail) :
    ∃ before detail, FirstRefused segments before detail := by
  induction segments with
  | nil => simp at h
  | cons s rest ih =>
    by_cases now : ∃ detail, Refused s detail
    · obtain ⟨detail, refused⟩ := now
      exact ⟨[], detail, .here refused⟩
    · obtain ⟨t, ht, refused⟩ := h
      have later : t ∈ rest := (List.mem_cons.mp ht).resolve_left fun same => now (same ▸ refused)
      obtain ⟨before, detail, first⟩ := ih ⟨t, later, refused⟩
      exact ⟨s :: before, detail, .later (not_exists.mp now) first⟩

theorem FirstRefused.split {segments before : List (List Char)} {detail : String}
    (h : FirstRefused segments before detail) : (∃ segment after,
      segments = before ++ segment :: after ∧ Refused segment detail) ∧
    ∀ s ∈ before, ∀ other, ¬ Refused s other := by
  induction h with
  | here refused => exact ⟨⟨_, _, rfl, refused⟩, by simp⟩
  | later accepted _ ih =>
    obtain ⟨⟨segment, after, rfl, refused⟩, others⟩ := ih
    exact ⟨⟨segment, after, rfl, refused⟩, List.forall_mem_cons.mpr ⟨accepted, others⟩⟩

theorem readFields_of_firstRefused {list detail : String} {before : List (List Char)}
    (first : FirstRefused (pieces '|' list.toList) before detail)
    (room : isFull (fieldsOf before).names.dropLast = false) :
    readFields list = .error (.invalid .http detail) := by
  obtain ⟨⟨segment, after, whole, refused⟩, accepted⟩ := first.split
  obtain ⟨filled, unread⟩ := refused.read
  have reads : ∀ s ∈ before.filter (! ·.isEmpty), readField s = .ok (fieldAt s) := by
    intro s hs
    obtain ⟨inside, kept⟩ := List.mem_filter.mp hs
    rcases readField_cases s with rfl | read | ⟨other, refused⟩
    · cases kept
    · exact read
    · exact absurd refused (accepted s inside other)
  have behind : (segment :: after).filter (! ·.isEmpty) = segment :: after.filter (! ·.isEmpty) :=
    List.filter_cons_of_pos (by simpa using filled)
  rw [readFields, whole, List.filter_append, behind, readSegments_append reads _ [] room,
    readSegments, unread]
  rfl

section
variable (method : Method) (u list : String) (rest : List String) (context : Context) (w : World)

theorem read_line : read (method.word :: u :: list :: rest) =
    (readFields list).map fun fields => ⟨method, u, fields⟩ := by
  have word : Method.read method.word = .ok method := by cases method <;> rfl
  have two : (method.word :: u :: list :: rest)[2]? = some list := rfl
  simp only [read, argument, List.getElem?_cons_zero, List.getElem?_cons_succ, two, bind, Except.bind,
    word]
  cases readFields list <;> rfl

variable {method u list}

theorem execute_of_unread {e : UsageError} (unread : readFields list = .error e) :
    builtin.execute ⟨Verb.http.name, method.word :: u :: list :: rest⟩ context w =
      (.failed (.usage e), w) := by
  have line : phases.read (method.word :: u :: list :: rest) = .error e := by
    show read _ = _
    rw [read_line, unread]
    rfl
  rw [execute_builtin]
  exact phases.execute_of_read_error line context w

theorem request_of_reachable {url : Url} (parsed : Url.parse u = .ok url)
    (reachable : Reachable url) (fields : Fields) (remainder : String) :
    ∃ sent, request ⟨method, u, fields⟩ remainder = .ok sent ∧ sent.SentTo url ∧
      ∃ body, sent.fields = framed body (fields.replacing (ownFields method url)) := by
  simp only [request, parsed]
  cases method with
  | get =>
    obtain ⟨sent, made, there, arranged⟩ := prepare_of_reachable reachable .get fields _ _
    exact ⟨sent, made, there, _, arranged⟩
  | post =>
    obtain ⟨sent, made, there, arranged⟩ := prepare_of_reachable reachable .post fields _ _
    exact ⟨sent, made, there, _, arranged⟩

theorem events_of_request {fields : Fields} (listed : readFields list = .ok fields)
    {sent : Request} (made : request ⟨method, u, fields⟩ context.remainderScript = .ok sent)
    (room : isFull (sent.fields.names ++ managed) = false) :
    ∃ followed : List Event,
      (builtin.execute ⟨Verb.http.name, method.word :: u :: list :: rest⟩ context w).2.events =
        w.events ++ .request sent :: followed ∧ ∀ e ∈ followed, ∃ r, e = .followUp r := by
  have line : read (method.word :: u :: list :: rest) = .ok ⟨method, u, fields⟩ := by
    rw [read_line, listed]
    rfl
  have performed : ((perform ⟨method, u, fields⟩ context).run.run w).2 =
      ((send sent).run.run w).2 := by
    rw [perform_world, made]
    dsimp only
    rw [if_neg (by simp [room])]
  have ran := (execute_world line context w).trans performed
  obtain ⟨followed, events, follow⟩ := send_events sent w
  exact ⟨followed, (congrArg World.events ran).trans events, follow⟩

end

def listed (pairs : List (String × String)) (name : String) : List String :=
  (pairs.filter fun p => sameLetters p.1 name).map Prod.snd

theorem values_fieldOf (pairs : List (String × String)) (name : String) :
    Fields.values (pairs.map fieldOf) (lower name) = listed pairs name := by
  simp only [Fields.values, listed, List.filter_map, List.map_map]
  rfl

theorem values_replacing_listed (pairs : List (String × String)) (own : Fields) (name : String) :
    (Fields.replacing (pairs.map fieldOf) own).values (lower name) =
      if listed pairs name = [] then own.values (lower name) else listed pairs name := by
  have named := Fields.values_eq_nil_iff (pairs.map fieldOf) (lower name)
  rw [values_fieldOf] at named
  rw [Fields.values_replacing_eq, values_fieldOf]
  split_ifs with inside none none
  · exact absurd inside (named.mp none)
  · rfl
  · rfl
  · exact absurd (named.mpr inside) none

theorem names_sent {sent : Request} {body : List UInt8} {given own : Fields}
    (arranged : sent.fields = framed body (given.replacing own)) :
    sent.fields.names ++ managed ⊆ given.names ++ own.names ++ managed := by
  intro name there
  rcases List.mem_append.mp there with among | settled
  · by_cases framing : name = "transfer-encoding"
    · exact List.mem_append_right _ (by simp [framing, managed])
    · have valued : sent.fields.values name ≠ [] := fun none =>
        (Fields.values_eq_nil_iff _ name).mp none among
      rw [arranged, values_framed body _ framing, Fields.values_replacing_eq] at valued
      refine List.mem_append_left _ (List.mem_append.mpr ?_)
      by_cases listed : name ∈ given.names
      · exact Or.inl listed
      · rw [if_neg listed] at valued
        exact Or.inr (not_imp_comm.mp (Fields.values_eq_nil_iff own name).mpr valued)
  · exact List.mem_append_right _ settled

/-- The fields of a list arrive as they are, in place of those of the same names that the
request has of its own; a list with a segment that is refused stops the line at the first
such segment, and nothing is sent. A table of fields must have room for what is read and sent. -/
theorem fields_arrive (method : Method) (u list : String) (rest : List String)
    (context : Context) (w : World) :
    let step := builtin.execute ⟨Verb.http.name, method.word :: u :: list :: rest⟩ context w
    (∀ url pairs, Url.parse u = .ok url → Reachable url → (∀ p ∈ pairs, Carriable p.1 p.2) →
      Lists list pairs →
      isFull (Fields.names (pairs.map fieldOf) ++ (ownFields method url).names ++ managed) = false →
      ∃ sent followed, step.2.events = w.events ++ .request sent :: followed ∧
        (∀ e ∈ followed, ∃ r, e = .followUp r) ∧ sent.SentTo url ∧
        ∀ name, lower name ∉ managed → sent.fields.values (lower name) =
          if listed pairs name = [] then (ownFields method url).values (lower name)
          else listed pairs name) ∧
    ((∃ s ∈ pieces '|' list.toList, ∃ detail, Refused s detail) →
      ∃ before detail, FirstRefused (pieces '|' list.toList) before detail ∧
        (isFull (fieldsOf before).names.dropLast = false →
          step = (.failed (.usage (.invalid .http detail)), w))) := by
  intro step
  constructor
  · intro url pairs parsed reachable carriable lists room
    obtain ⟨sent, made, there, body, arranged⟩ :=
      request_of_reachable parsed reachable (pairs.map fieldOf) context.remainderScript
    have given : isFull (Fields.names (pairs.map fieldOf)) = false :=
      isFull_of_subset (by simp [List.subset_append_of_subset_left]) room
    obtain ⟨followed, events, follow⟩ := events_of_request rest context w
      (readFields_of_lists carriable lists given) made (isFull_of_subset (names_sent arranged) room)
    refine ⟨sent, followed, events, follow, there, fun name free => ?_⟩
    have framing : lower name ≠ "transfer-encoding" := by
      rintro settled
      simp [settled, managed] at free
    rw [arranged, values_framed body _ framing, values_replacing_listed]
  · intro refused
    obtain ⟨before, detail, first⟩ := exists_firstRefused refused
    exact ⟨before, detail, first, fun room =>
      execute_of_unread rest context w (readFields_of_firstRefused first room)⟩

theorem fields_arrive_beside_defaults :
    let step := fun list => builtin.execute ⟨"HTTP", ["POST", "http://u:p@[::1]/", list]⟩
      ⟨[], .empty⟩ .still
    (∃ sent followed,
      (step "|X-A=1||User-Agent=me|x-a=b=c|").2.events = .request sent :: followed ∧
      sent.fields.values "x-a" = ["1", "b=c"] ∧ sent.fields.values "user-agent" = ["me"] ∧
      sent.fields.values "authorization" = ["Basic dTpw"]) ∧
    step "a=1||plain|b c=2" =
      (.failed (.usage (.invalid .http "header \"plain\" is not key=value")), .still) := by
  intro step
  let url : Url := ⟨"http", "u", some "p", some (.v6 [0, 0, 0, 0, 0, 0, 0, 1]), none, false,
    .segments [[]], none, none⟩
  let pairs := [("X-A", "1"), ("User-Agent", "me"), ("x-a", "b=c")]
  have same (list : String) : step list = builtin.execute
      ⟨Verb.http.name, Method.post.word :: "http://u:p@[::1]/" :: list :: []⟩ ⟨[], .empty⟩ .still := rfl
  have parsed : Url.parse "http://u:p@[::1]/" = .ok url := by rfl
  have reachable : Reachable url := ⟨by decide, by decide +kernel⟩
  have carriable : ∀ p ∈ pairs, Carriable p.1 p.2 := by
    intro p hp
    simp only [pairs, List.mem_cons, List.not_mem_nil, or_false] at hp
    rcases hp with rfl | rfl | rfl
    all_goals exact ⟨by decide, forall_of_all (by decide), by decide, forall_of_all (by decide)⟩
  have lists : Lists "|X-A=1||User-Agent=me|x-a=b=c|" pairs :=
    ⟨pieces '|' "|X-A=1||User-Agent=me|x-a=b=c|".toList, by decide, by decide⟩
  constructor
  · have room : isFull (Fields.names (pairs.map fieldOf) ++ (ownFields .post url).names ++ managed) =
        false := isFull_of_length_lt (by decide +kernel)
    obtain ⟨sent, followed, events, -, -, values⟩ := (fields_arrive .post "http://u:p@[::1]/" _ []
      ⟨[], .empty⟩ .still).1 url pairs parsed reachable carriable lists room
    refine ⟨sent, followed, ?_, ?_, ?_, ?_⟩
    · rw [same, events]
      rfl
    · exact (values "x-a" (by decide)).trans (by decide +kernel)
    · exact (values "user-agent" (by decide)).trans (by decide +kernel)
    · exact (values "authorization" (by decide)).trans (by decide +kernel)
  · have bad : Refused "plain".toList ("header " ++ quote "plain" ++ " is not key=value") :=
      .unnamed (by decide) (by decide)
    have good : readField "a=1".toList = .ok ⟨"a", "1"⟩ := by rfl
    have expected : FirstRefused (pieces '|' "a=1||plain|b c=2".toList) ["a=1".toList, []]
        "header \"plain\" is not key=value" :=
      .later (fun _ refused => by cases good.symm.trans refused.read.2)
        (.later (fun _ refused => refused.read.1 rfl) (.here bad))
    obtain ⟨before, detail, first, stopped⟩ := (fields_arrive .post "http://u:p@[::1]/"
      "a=1||plain|b c=2" [] ⟨[], .empty⟩ .still).2 ⟨_, by decide, _, bad⟩
    obtain ⟨rfl, rfl⟩ := first.unique expected
    rw [same]
    exact stopped (isFull_of_length_lt (by decide +kernel))

theorem readFields_of_long {name value : String} (long : 65536 ≤ name.length)
    (token : ∀ c ∈ name.toList, isTokenChar c = true ∧ c ≠ '|') (noBar : '|' ∉ value.toList) :
    readFields (name ++ "=" ++ value) =
      .error (.invalid .http ("header name " ++ quote name ++ ": invalid HTTP header name")) := by
  have cut : '=' ∉ name.toList := fun mark => absurd (token '=' mark).1 (by decide)
  have bad : isToken (String.ofList name.toList) = false := by
    simp [isToken, Nat.not_lt.mpr long]
  have text : (name ++ "=" ++ value).toList = segmentOf (name, value) := by
    simp [segmentOf]
  have one : pieces '|' (name ++ "=" ++ value).toList = [segmentOf (name, value)] := by
    rw [text]
    exact pieces_of_not_mem (not_mem_segmentOf (fun inName => (token _ inName).2 rfl) noBar)
  have refused : Refused (segmentOf (name, value))
      ("header name " ++ quote name ++ ": invalid HTTP header name") := by
    have said : Refused (name.toList ++ '=' :: value.toList) _ := .name cut bad
    rwa [String.ofList_toList] at said
  have first : FirstRefused (pieces '|' (name ++ "=" ++ value).toList) []
      ("header name " ++ quote name ++ ": invalid HTTP header name") := by
    rw [one]
    exact .here refused
  exact readFields_of_firstRefused first (isFull_of_length_lt (by decide +kernel))

/-- So not every list of tokens is carried. -/
theorem long_name_is_refused :
    let name := String.ofList (List.replicate 65536 'a')
    (name ≠ "" ∧ (∀ c ∈ name.toList, isTokenChar c = true ∧ c ≠ '|') ∧ lower name ∉ managed) ∧
    Lists (name ++ "=" ++ "1") [(name, "1")] ∧
    builtin.execute ⟨"HTTP", ["GET", "http://[::1]/", name ++ "=" ++ "1"]⟩ ⟨[], .empty⟩ .still =
      (.failed (.usage (.invalid .http
        ("header name " ++ quote name ++ ": invalid HTTP header name"))), .still) := by
  intro name
  have long : name.length = 65536 := by rw [String.length_ofList, List.length_replicate]
  have token : ∀ c ∈ name.toList, isTokenChar c = true ∧ c ≠ '|' := by
    intro c hc
    rw [String.toList_ofList] at hc
    obtain rfl := List.eq_of_mem_replicate hc
    decide
  have free : lower name ∉ managed := by
    intro settled
    have short : ∀ m ∈ managed, m.length < 65536 := by decide
    have kept : (lower name).length = name.length := by simp [lower, String.length_toList]
    exact absurd (short _ settled) (by omega)
  clear_value name
  have filled : name ≠ "" := by
    rintro rfl
    simp at long
  refine ⟨⟨filled, token, free⟩, ⟨[segmentOf (name, "1")], by simp [joined, segmentOf], ?_⟩, ?_⟩
  · simp [segmentOf]
  · have unread : readFields (name ++ "=" ++ "1") = .error _ :=
      readFields_of_long (by omega) token (by decide)
    exact @execute_of_unread .get "http://[::1]/" _ [] ⟨[], .empty⟩ .still _ unread

end HopProbe.Verbs.Http
