import HopProbe.Proofs.Url.Parsing
import HopProbe.Proofs.Url.Segments
import HopProbe.Proofs.Verbs.Change
import HopProbe.Proofs.Verbs.Remainder

/-!
# Where the requests for a blob go

A step first asks for the container and then, if it gets that far, only for the
address of the blob. This address is in the container, one segment deeper, for
every name but those that come to nothing or to dots: these lead to the
container itself, to an empty name in it, or to what the container is in. Where
a response sends a request to from there is its own affair.
-/

set_option autoImplicit false

namespace HopProbe.Blob
open HopProbe.Text

theorem base_of_parse {text : String} {e : Endpoint} (h : Endpoint.parse text = .ok e) :
    ∃ s u, Url.parse s = .ok u ∧ e.base.scheme = u.scheme ∧ e.base.route = u.route := by
  have parsed {s : String} {u : Url} (h : Endpoint.parseBase s = .ok u) : Url.parse s = .ok u := by
    unfold Endpoint.parseBase at h
    split at h
    · next read =>
      cases h
      exact read
    · cases h
  unfold Endpoint.parse at h
  split at h
  · obtain ⟨u, read, made⟩ := Verbs.bind_eq_ok h
    cases made
    exact ⟨text, u, parsed read, rfl, rfl⟩
  · obtain ⟨settings, -, h⟩ := Verbs.bind_eq_ok h
    simp only [Endpoint.ofSettings] at h
    split at h
    · cases h
    · split at h
      · cases h
      · obtain ⟨u, read, made⟩ := Verbs.bind_eq_ok h
        cases made
        exact ⟨_, u, parsed read, rfl, rfl⟩

theorem segments_of_parse {text : String} {e : Endpoint} (h : Endpoint.parse text = .ok e)
    (web : e.base.scheme = "http" ∨ e.base.scheme = "https") :
    ∃ port parts, e.base.kind = .special port ∧ e.base.route = .segments parts := by
  obtain ⟨port, special⟩ : ∃ port, e.base.kind = .special port := by
    rcases web with http | https
    · exact ⟨80, by rw [Url.kind, http]; rfl⟩
    · exact ⟨443, by rw [Url.kind, https]; rfl⟩
  obtain ⟨s, u, read, scheme, route⟩ := base_of_parse h
  have kind : u.kind = .special port := by rw [Url.kind, ← scheme]; exact special
  obtain ⟨parts, there⟩ := Url.segments_of_parse read kind
  exact ⟨port, parts, special, route.trans there⟩

def Endpoint.queryFor (e : Endpoint) (query : Option String) : Option String :=
  match query.toList ++ e.signature.toList with
  | [] => none
  | parts => some (Url.queryOf e.base.kind (Url.counted (String.intercalate "&" parts).toList))

theorem url_of_segments {e : Endpoint} {parts : List (List Char)}
    (h : e.base.route = .segments parts) (path : List String) (query : Option String) :
    e.url path query = .ok { e.base with
      route := .segments (path.foldl (Url.pushSegment e.base.kind) (Url.withoutEmptyEnd parts))
      query := (e.queryFor query).or e.base.query } := by
  simp only [Endpoint.url, Endpoint.queryFor, Url.push?, h]
  cases query.toList ++ e.signature.toList with
  | nil => rfl
  | cons part more => rfl

/-- A name of a container without dots, slashes and controls. -/
def PlainName (name : String) : Prop :=
  name ≠ "" ∧ ∀ c ∈ name.toList, c ≠ '.' ∧ c ≠ '/' ∧ Url.Percent.isControl c = false

theorem names_of_plain {name : String} (h : PlainName name) : Url.Names name.toList := by
  have all : Url.counted name.toList = name.toList := by
    refine List.filter_eq_self.mpr fun c hc => ?_
    have visible := (h.2 c hc).2.2
    by_cases ignored : c = '\t' ∨ c = '\n' ∨ c = '\r'
    · rcases ignored with rfl | rfl | rfl <;> contradiction
    · simpa [Url.isIgnored, and_assoc] using ignored
  have noDot : '.' ∉ name.toList := fun hm => (h.2 '.' hm).1 rfl
  rw [Url.Names, all]
  refine ⟨by simpa using h.1, ?_, ?_⟩
  · intro same
    simp [same] at noDot
  · intro same
    simp [same] at noDot

/-- The addresses of a container and of a blob are there, and the blob is one segment deeper
just if its name names something. -/
theorem blobUrl_within {text : String} {e : Endpoint} (h : Endpoint.parse text = .ok e)
    (web : e.base.scheme = "http" ∨ e.base.scheme = "https") {container : String}
    (plain : PlainName container) (blob : String) :
    ∃ home address, Container.containerUrl ⟨e, container⟩ = .ok home ∧
      Container.blobUrl ⟨e, container⟩ blob = .ok address ∧
      (Url.OneDeeper home.pathText.toList address.pathText.toList ↔ Url.Names blob.toList) := by
  obtain ⟨port, parts, special, route⟩ := segments_of_parse h web
  have atHome := url_of_segments route [container] (some "restype=container")
  have atBlob := url_of_segments route [container, blob] none
  refine ⟨_, _, atHome, atBlob, ?_⟩
  have named := names_of_plain plain
  have filled : Url.segmentOf port container.toList ≠ [] := by
    rw [Ne, Url.segmentOf_eq_iff (by simp)]
    exact named.1
  simp only [List.foldl_cons, List.foldl_nil, special, Url.pushSegment_of_names port _ named,
    Url.pathText, Url.Route.text, String.toList_ofList]
  exact Url.oneDeeper_pushSegment port filled blob

theorem Container.exchange_world (operation : String) (accepted : Nat → Bool)
    (method : Http.Method) (url : Except EndpointError Url) (fields : Http.Fields)
    (body : List UInt8) (w : World) :
    ((exchange operation accepted method url fields body).run.run w).2 = w ∨
      ∃ r u, r.method = method ∧ url = .ok u ∧ r.SentTo u ∧
        ((exchange operation accepted method url fields body).run.run w).2 =
          ((Http.send r).run.run w).2 := by
  unfold exchange
  rw [Effect.run_bind]
  cases url with
  | error e => exact Or.inl rfl
  | ok u =>
    rw [Effect.run_ofExcept_ok]
    dsimp only
    rw [Effect.run_bind]
    cases made : Http.prepare method u fields [] body with
    | error e => exact Or.inl rfl
    | ok r =>
      obtain ⟨-, -, named, -, -⟩ := Http.prepare_ok made
      refine Or.inr ⟨r, u, named, rfl, Http.sentTo_prepared made, ?_⟩
      rw [Effect.run_ofExcept_ok]
      dsimp only
      rw [Effect.run_bind]
      rcases (Http.send r).run.run w with ⟨stop | ⟨answered, response⟩, next⟩
      · rfl
      · dsimp only
        split <;> rfl

theorem Container.create_events (c : Container) (w : World) :
    ∃ (created : Option Http.Request) (followed : List Event), (c.create.run.run w).2.events =
      w.events ++ (created.toList.map .request ++ followed) ∧
      (∀ r ∈ created, r.method = .put ∧ ∃ home, c.containerUrl = .ok home ∧ r.SentTo home) ∧
      ∀ e ∈ followed, ∃ r, e = .followUp r := by
  have world : (c.create.run.run w).2 = ((exchange "create container"
      (fun s => s == 201 || s == 409) .put c.containerUrl [versionField] []).run.run w).2 := by
    unfold create
    rw [Effect.run_bind]
    generalize (exchange "create container" (fun s => s == 201 || s == 409) .put c.containerUrl
      [versionField] []).run.run w = ended
    rcases ended with ⟨_ | _, _⟩ <;> rfl
  rw [world]
  rcases exchange_world "create container" (fun s => s == 201 || s == 409) .put c.containerUrl
    [versionField] [] w with same | ⟨r, home, named, found, sent, same⟩
  · exact ⟨none, [], by simp [same], by simp, by simp⟩
  · obtain ⟨followed, events, kind⟩ := Http.send_events r w
    refine ⟨some r, followed, ?_, ?_, kind⟩
    · simp [same, events]
    · rintro _ ⟨⟩
      exact ⟨named, home, found, sent⟩

section
open Effect

variable (c : Container) (blob : String)

/-- A request for a blob of a container. -/
def Container.For (r : Http.Request) : Prop :=
  ∃ address, c.blobUrl blob = .ok address ∧ r.SentTo address

theorem Container.sending_exchange (operation : String) (accepted : Nat → Bool)
    (method : Http.Method) {fields : Http.Fields} (plain : "content-length" ∉ fields.names)
    (body : List UInt8) :
    Sending (c.For blob) (exchange operation accepted method (c.blobUrl blob) fields body) :=
  Verbs.Blob.within_exchange operation accepted method _ plain body fun _ sent =>
    Http.within_send (fun w => World.changesBy_exchange w sent.2.2) World.changesBy_pursue

theorem Container.sending_download : Sending (c.For blob) (c.download blob) :=
  within_bind (c.sending_exchange blob _ _ _ (by decide) _) fun _ => Http.within_received _ _

theorem Container.sending_delete : Sending (c.For blob) (c.delete blob) :=
  within_bind (c.sending_exchange blob _ _ _ (by decide) _) fun _ => within_pure _

theorem Container.sending_upload (content : List UInt8) :
    Sending (c.For blob) (c.upload blob content) :=
  within_bind (c.sending_exchange blob _ _ _ (by decide) _) fun _ => within_pure _

end

/-- Where a container is asked for and only then a blob, the first request is for the one and
all that follow are for the other. -/
theorem create_then (c : Container) (blob : String) {rest : Effect String}
    (h : Effect.Sending (c.For blob) rest) (w : World) :
    ∃ (created : Option Http.Request) (sent : List Event),
      ((c.create >>= fun _ => rest).run.run w).2.events =
        w.events ++ (created.toList.map .request ++ sent) ∧
      (∀ r ∈ created, r.method = .put ∧ ∃ home, c.containerUrl = .ok home ∧ r.SentTo home) ∧
      ∀ r, .request r ∈ sent → c.For blob r := by
  obtain ⟨created, followed, first, home, kind⟩ := c.create_events w
  have none (r : Http.Request) : .request r ∉ followed := by
    intro there
    obtain ⟨_, different⟩ := kind _ there
    cases different
  rw [Effect.run_bind]
  generalize c.create.run.run w = ended at first
  rcases ended with ⟨stop | done, next⟩
  · exact ⟨created, followed, first, home, fun r hr => absurd hr (none r)⟩
  · obtain ⟨sent, added, own⟩ := World.changesBy_events (h next)
    rw [first, List.append_assoc, List.append_assoc] at added
    refine ⟨created, followed ++ sent, added, home, fun r hr => ?_⟩
    rcases List.mem_append.mp hr with early | late
    · exact absurd early (none r)
    · exact own r late

theorem openContainer_of_parse {text : String} {e : Endpoint} (h : Endpoint.parse text = .ok e)
    (name : String) : openContainer text name = pure ⟨e, name⟩ := by
  unfold openContainer
  rw [h]
  rfl

theorem perform_events {action : Verbs.Blob.Action} {e : Endpoint}
    (h : Endpoint.parse action.endpoint = .ok e) (context : Context) (w : World) :
    ∃ (created : Option Http.Request) (sent : List Event),
      ((Verbs.Blob.perform action context).run.run w).2.events =
        w.events ++ (created.toList.map .request ++ sent) ∧
      (∀ r ∈ created, r.method = .put ∧
        ∃ home, Container.containerUrl ⟨e, action.container⟩ = .ok home ∧ r.SentTo home) ∧
      ∀ r, .request r ∈ sent → Container.For ⟨e, action.container⟩ action.blob r := by
  unfold Verbs.Blob.perform
  rw [openContainer_of_parse h, pure_bind]
  refine create_then ⟨e, action.container⟩ action.blob ?_ w
  cases action.operation with
  | get =>
    exact Effect.within_bind (Container.sending_download _ _) fun _ => Effect.within_pure _
  | put value =>
    refine Effect.within_bind (Container.sending_delete _ _) fun _ => ?_
    exact Effect.within_bind (Container.sending_upload _ _ _) fun _ => Effect.within_pure _

/-- The requests for a blob all go to one address, which is one segment deeper than that of the
container just if the name of the blob names something. Nothing else is sent for it unless a
response sends a request elsewhere. -/
theorem requests_within_iff {args : List String} {action : Verbs.Blob.Action} {e : Endpoint}
    (read : Verbs.Blob.read args = .ok action) (parsed : Endpoint.parse action.endpoint = .ok e)
    (web : e.base.scheme = "http" ∨ e.base.scheme = "https") (plain : PlainName action.container) :
    ∃ home address, Container.containerUrl ⟨e, action.container⟩ = .ok home ∧
      Container.blobUrl ⟨e, action.container⟩ action.blob = .ok address ∧
      (∀ (context : Context) (w : World), ∃ (created : Option Http.Request) (sent : List Event),
        ((Verbs.builtinHandler .blob).execute args context w).2.events =
          w.events ++ (created.toList.map .request ++ sent) ∧
        (∀ r ∈ created, r.method = .put ∧ r.SentTo home) ∧
        (∀ r, .request r ∈ sent → r.SentTo address) ∧
        (w.Direct → ∀ r, .followUp r ∉ sent)) ∧
      (Url.OneDeeper home.pathText.toList address.pathText.toList ↔
        Url.Names action.blob.toList) := by
  obtain ⟨home, address, atHome, atBlob, within⟩ := blobUrl_within parsed web plain action.blob
  refine ⟨home, address, atHome, atBlob, fun context w => ?_, within⟩
  obtain ⟨created, sent, events, first, rest⟩ := perform_events parsed context w
  have performed : ((Verbs.builtinHandler .blob).execute args context w).2 =
      ((Verbs.Blob.perform action context).run.run w).2 := by
    have done : Verbs.Blob.phases.read args = .ok action := read
    show (Verbs.Blob.probe.execute args context w).2 = _
    rw [Verbs.Blob.phases.execute_of_read_ok done]
    exact Effect.outcome_world _ _
  rw [← performed] at events
  refine ⟨created, sent, events, fun r hr => ?_, fun r hr => ?_, fun direct r followed => ?_⟩
  · obtain ⟨named, _, found, there⟩ := first r hr
    obtain rfl := Except.ok.inj (atHome.symm.trans found)
    exact ⟨named, there⟩
  · obtain ⟨_, found, there⟩ := rest r hr
    obtain rfl := Except.ok.inj (atBlob.symm.trans found)
    exact there
  · have keeps := Verbs.handler_keepsDirect .blob args context w
    exact World.not_followUp_of_keepsDirect keeps events direct r (List.mem_append_right _ followed)

def loopback (path : List String) : Url :=
  ⟨"http", "", none, some (.v6 [0, 0, 0, 0, 0, 0, 0, 1]), none, false,
    .segments (path.map String.toList), none, none⟩

theorem requests_within_of_two_dots :
    let home := (loopback ["acct", "logs"]).setQuery (some "restype=container")
    let address := loopback ["acct", "logs"]
    ¬ Url.OneDeeper home.pathText.toList address.pathText.toList ∧
      ∀ (context : Context) (w : World), ∃ (created : Option Http.Request) (sent : List Event),
        ((Verbs.builtinHandler .blob).execute ["PUT", "logs", "..", "http://[::1]/acct", "hello"]
          context w).2.events = w.events ++ (created.toList.map .request ++ sent) ∧
        (∀ r ∈ created, r.method = .put ∧ r.SentTo home) ∧
        (∀ r, .request r ∈ sent → r.SentTo address) ∧
        (w.Direct → ∀ r, .followUp r ∉ sent) := by
  have read : Verbs.Blob.read ["PUT", "logs", "..", "http://[::1]/acct", "hello"] =
      .ok ⟨.put "hello", "logs", "..", "http://[::1]/acct"⟩ := by rfl
  have parsed : Endpoint.parse "http://[::1]/acct" = .ok ⟨loopback ["acct"], none⟩ := by rfl
  have atHome : Container.containerUrl ⟨⟨loopback ["acct"], none⟩, "logs"⟩ =
      .ok ((loopback ["acct", "logs"]).setQuery (some "restype=container")) := by rfl
  have atBlob : Container.blobUrl ⟨⟨loopback ["acct"], none⟩, "logs"⟩ ".." =
      .ok (loopback ["acct", "logs"]) := by rfl
  obtain ⟨home, address, foundHome, foundBlob, requests, within⟩ :=
    requests_within_iff read parsed (Or.inl rfl) ⟨by decide, forall_of_all (by decide)⟩
  obtain rfl := Except.ok.inj (atHome.symm.trans foundHome)
  obtain rfl := Except.ok.inj (atBlob.symm.trans foundBlob)
  exact ⟨fun inside => absurd (within.mp inside) (by decide), requests⟩

end HopProbe.Blob
