import HopProbe.Proofs.Blob.Within
import HopProbe.Proofs.Url.Route

/-!
# The address of a blob

A container and a blob are the last two segments of the path, whatever else
their names hold than the characters that count nowhere in a URL, so that no
two pairs of names have one address. The query is the one asked for and the
signature. Where there is neither, that of the base stays, which only a
connection string can give it.
-/

set_option autoImplicit false

namespace HopProbe.Blob
open HopProbe.Text

/-- A name that is no dots, with nothing in it that a URL leaves out. -/
structure Ordinary (name : String) : Prop where
  filled : name ≠ ""
  noDot : name ≠ "."
  noDots : name ≠ ".."
  counts : '\t' ∉ name.toList ∧ '\r' ∉ name.toList ∧ '\n' ∉ name.toList

theorem Ordinary.counted {name : String} (h : Ordinary name) :
    Url.counted name.toList = name.toList := by
  apply List.filter_eq_self.mpr
  intro c hc
  have noTab : c ≠ '\t' := fun e => h.counts.1 (e ▸ hc)
  have noReturn : c ≠ '\r' := fun e => h.counts.2.1 (e ▸ hc)
  have noBreak : c ≠ '\n' := fun e => h.counts.2.2 (e ▸ hc)
  simp [Url.isIgnored, noTab, noReturn, noBreak]

theorem Ordinary.names {name : String} (h : Ordinary name) : Url.Names name.toList := by
  rw [Url.Names, h.counted]
  refine ⟨?_, ?_, ?_⟩
  · intro same
    exact h.filled (String.toList_inj.mp same)
  · intro same
    exact h.noDot (String.toList_inj.mp same)
  · intro same
    exact h.noDots (String.toList_inj.mp same)

theorem Ordinary.segment_ne_nil {name : String} (h : Ordinary name) (port : Nat) :
    Url.segmentOf port name.toList ≠ [] := by
  rw [Ne, Url.segmentOf_eq_iff (by simp)]
  exact h.names.1

theorem Ordinary.decode_segment {name : String} (h : Ordinary name) (port : Nat) :
    Url.Percent.decode (Url.segmentOf port name.toList) = Utf8.bytes name := by
  rw [Url.segmentOf, Url.Percent.decode_encode rfl, h.counted]
  rfl

theorem Ordinary.eq_of_segment {name other : String} (h : Ordinary name) (h' : Ordinary other)
    {port : Nat} (same : Url.segmentOf port name.toList = Url.segmentOf port other.toList) :
    name = other := by
  have counted := Url.Percent.encode_injective rfl same
  rw [h.counted, h'.counted] at counted
  exact String.toList_inj.mp counted

def frontOf (parts : List (List Char)) : List (List Char) :=
  if Url.withoutEmptyEnd parts = [[]] then [] else Url.withoutEmptyEnd parts

def pathTo (port : Nat) (parts : List (List Char)) (container blob : String) : List (List Char) :=
  frontOf parts ++ [Url.segmentOf port container.toList, Url.segmentOf port blob.toList]

def Endpoint.address (e : Endpoint) (port : Nat) (parts : List (List Char))
    (container blob : String) (query : Option String) : Url :=
  { e.base with
    route := .segments (pathTo port parts container blob)
    query := (e.queryFor query).or e.base.query }

theorem push_names (port : Nat) (parts : List (List Char)) {container blob : String}
    (first : Ordinary container) (second : Ordinary blob) :
    [container, blob].foldl (Url.pushSegment (.special port)) (Url.withoutEmptyEnd parts) =
      pathTo port parts container blob := by
  have more : frontOf parts ++ [Url.segmentOf port container.toList] ≠ [[]] := by
    intro e
    have ends := congrArg List.getLast? e
    simp [first.segment_ne_nil port] at ends
  rw [List.foldl_cons, Url.pushSegment_of_names port _ first.names, ← frontOf, List.foldl_cons,
    Url.pushSegment_of_names port _ second.names, if_neg more, List.foldl_nil, pathTo,
    List.append_assoc]
  rfl

theorem pieces_pathTo (port : Nat) (parts : List (List Char)) (container blob : String) :
    pieces '/' (Url.segmentsText (pathTo port parts container blob)) =
      pieces '/' (Url.segmentsText (frontOf parts)) ++
        [Url.segmentOf port container.toList, Url.segmentOf port blob.toList] := by
  have written : Url.segmentsText (pathTo port parts container blob) =
      Url.segmentsText (frontOf parts) ++ '/' :: (Url.segmentOf port container.toList ++
        '/' :: Url.segmentOf port blob.toList) := by
    simp [pathTo, Url.segmentsText]
  rw [written, pieces_concat, pieces_append (Url.segmentOf_plain port _),
    pieces_of_not_mem (Url.segmentOf_plain port _)]

theorem pathTo_injective {port : Nat} {parts : List (List Char)}
    {container blob container' blob' : String} (first : Ordinary container)
    (second : Ordinary blob) (first' : Ordinary container') (second' : Ordinary blob')
    (same : Url.segmentsText (pathTo port parts container blob) =
      Url.segmentsText (pathTo port parts container' blob')) :
    container = container' ∧ blob = blob' := by
  have cut := congrArg (pieces '/') same
  rw [pieces_pathTo, pieces_pathTo] at cut
  have ends := List.append_cancel_left cut
  simp only [List.cons.injEq, and_true] at ends
  exact ⟨first.eq_of_segment first' ends.1, second.eq_of_segment second' ends.2⟩

/-- A service URL keeps its query for the signature alone. -/
theorem query_of_serviceUrl {text : String} {e : Endpoint} (h : Endpoint.parse text = .ok e)
    (service : Endpoint.isServiceUrl text = true) : e.base.query = none := by
  unfold Endpoint.parse at h
  rw [if_pos service] at h
  obtain ⟨u, -, made⟩ := Verbs.bind_eq_ok h
  cases made
  rfl

theorem allows_base {text : String} {e : Endpoint} (h : Endpoint.parse text = .ok e)
    {parts : List (List Char)} (route : e.base.route = .segments parts) : Url.Allows parts := by
  obtain ⟨s, u, read, -, same⟩ := base_of_parse h
  exact Url.allows_of_parse read (same.symm.trans route)

theorem queryFor_iff (e : Endpoint) (query : Option String) :
    (e.queryFor query).or e.base.query = e.queryFor query ↔
      e.base.query = none ∨ query.isSome = true ∨ e.signature.isSome = true := by
  cases query with
  | some q => simp [Endpoint.queryFor]
  | none =>
    cases given : e.signature with
    | some s => simp [Endpoint.queryFor, given]
    | none => simp [Endpoint.queryFor, given]

/-- The address of a blob keeps the scheme, the host and the port of its endpoint, its last two
segments are the names, and its query is the one asked for unless the base has its own. -/
theorem url_of_ordinary {text : String} {e : Endpoint} (parsed : Endpoint.parse text = .ok e)
    (web : e.base.scheme = "http" ∨ e.base.scheme = "https") :
    (∀ container blob, Ordinary container → Ordinary blob → ∀ query, ∃ u front first second,
      e.url [container, blob] query = .ok u ∧
      u.scheme = e.base.scheme ∧ u.host = e.base.host ∧ u.port = e.base.port ∧
      pieces '/' u.pathText.toList = front ++ [first, second] ∧
      Url.Percent.decode first = Utf8.bytes container ∧
      Url.Percent.decode second = Utf8.bytes blob ∧
      u.query = (e.queryFor query).or e.base.query ∧
      (u.query = e.queryFor query ↔
        e.base.query = none ∨ query.isSome = true ∨ e.signature.isSome = true)) ∧
    (Endpoint.isServiceUrl text = true → e.base.query = none) ∧
    ∀ container blob container' blob', Ordinary container → Ordinary blob →
      Ordinary container' → Ordinary blob' → ∀ query query' u u',
      e.url [container, blob] query = .ok u → e.url [container', blob'] query' = .ok u' →
      u.text = u'.text → container = container' ∧ blob = blob' := by
  obtain ⟨port, parts, special, route⟩ := segments_of_parse parsed web
  have addressed {container blob : String} (first : Ordinary container) (second : Ordinary blob)
      (query : Option String) :
      e.url [container, blob] query = .ok (e.address port parts container blob query) := by
    rw [url_of_segments route, special, push_names port parts first second]
    rfl
  refine ⟨?_, query_of_serviceUrl parsed, ?_⟩
  · intro container blob first second query
    have cut : pieces '/' (e.address port parts container blob query).pathText.toList =
        pieces '/' (Url.segmentsText (frontOf parts)) ++
          [Url.segmentOf port container.toList, Url.segmentOf port blob.toList] := by
      show pieces '/' (String.ofList (Url.segmentsText (pathTo port parts container blob))).toList = _
      rw [String.toList_ofList, pieces_pathTo]
    exact ⟨_, _, _, _, addressed first second query, rfl, rfl, rfl, cut,
      first.decode_segment port, second.decode_segment port, rfl, queryFor_iff e query⟩
  · intro container blob container' blob' first second first' second' query query' u u' made made'
      same
    have allowed {container blob : String} (first : Ordinary container) (second : Ordinary blob) :
        Url.Allows (pathTo port parts container blob) := by
      rw [← push_names port parts first second]
      exact Url.allows_push (allows_base parsed route) _
    rw [addressed first second] at made
    rw [addressed first' second'] at made'
    obtain rfl := Except.ok.inj made
    obtain rfl := Except.ok.inj made'
    have paths := Url.segmentsText_of_text (u := e.address port parts container blob query)
      (v := e.address port parts container' blob' query') rfl rfl rfl (allowed first second)
      (allowed first' second') same
    exact pathTo_injective first second first' second' paths

/-- The query in a connection string stays in every address that is given no other. -/
theorem url_of_ordinary_with_own_query :
    let e : Endpoint := ⟨{ loopback [""] with query := some "x=1" }, none⟩
    Endpoint.parse "BlobEndpoint=http://[::1]/?x=1" = .ok e ∧ e.queryFor none = none ∧
      ∃ u, e.url ["c", "b"] none = .ok u ∧ u.query = some "x=1" := by
  intro e
  have parsed : Endpoint.parse "BlobEndpoint=http://[::1]/?x=1" = .ok e := by rfl
  obtain ⟨addressed, -⟩ := url_of_ordinary parsed (Or.inl rfl)
  obtain ⟨u, _, _, _, made, -, -, -, -, -, -, query, -⟩ :=
    addressed "c" "b" ⟨by decide, by decide, by decide, by decide⟩
      ⟨by decide, by decide, by decide, by decide⟩ none
  exact ⟨parsed, rfl, u, made, query⟩

end HopProbe.Blob
