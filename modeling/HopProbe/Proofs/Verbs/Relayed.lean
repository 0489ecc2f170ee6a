import HopProbe.Proofs.Blob.Failure
import HopProbe.Proofs.Blob.Within
import HopProbe.Proofs.Net.DnsName
import HopProbe.Proofs.Verbs.Rows
import HopProbe.Proofs.Verbs.Wording

/-!
# Texts that failures relay

Most failures are worded in one line: what they show of a line of a script is
one line, addresses have no control, and errors of the system have fixed texts.
Five kinds of text come into a failure as they are, and only they can hold a
line break.
-/

set_option autoImplicit false

namespace HopProbe.Verbs
open HopProbe.Text Effect

def Blob.operations : List String := ["create container", "download", "delete", "upload"]

def Sql.Reports (answer : SqlAnswer) (text : String) : Prop :=
  answer.result = .error text ∨ ∃ result, answer.result = .ok result ∧ .error text ∈ result.rows

/-- A failure of a command in a world, and a text that is shown in it as it is. -/
inductive Relays (w : World) (command : Script.Command) : String → String → Prop
  /-- What a blob service says when it refuses a call. -/
  | refusal {operation : String} {response : HopProbe.Http.Response} (verb : command.verb = "BLOB")
    (known : operation ∈ Blob.operations) (given : HopProbe.Blob.Given w response) :
    Relays w command ("blob store error: " ++ (operation ++ " returned " ++ response.statusText ++
      ": " ++ trim response.explanation)) (trim response.explanation)
  /-- What a store says of a key. -/
  | storeError {key text : String} (verb : command.verb = "REDIS")
    (named : command.args[1]? = some key) (given : (key, text) ∈ w.store.errors) :
    Relays w command ("key-value store error: " ++ KeyValue.errorText text) text
  /-- A version of the protocol of a store, as it is named in a URL. -/
  | protocolVersion {endpoint version : String} (verb : command.verb = "REDIS")
    (inside : endpoint ∈ command.args) (named : KeyValue.NamesProtocol endpoint version) :
    Relays w command ("key-value store error: " ++ KeyValue.unknownProtocol version) version
  /-- A label of a name, with what its escapes stand for. -/
  | label {name : String} {label : List Char} (verb : command.verb = "NSLOOKUP")
    (first : command.args.head? = some name)
    (read : DnsName.read name.toList = .error (.malformedLabel label)) :
    Relays w command ("DNS error: " ++ NsLookup.protocolFault (.malformedLabel label))
      (String.ofList label)
  /-- What the engine of a database says of a query. -/
  | engine {query connection text : String} {more : List String} {answer : SqlAnswer}
    (verb : command.verb = "SQL") (args : command.args = query :: connection :: more)
    (given : answer ∈ w.answers)
    (asked : answer.path = Sql.databasePath connection ∧ answer.query = query)
    (reported : Sql.Reports answer text) :
    Relays w command ("SQL error: " ++ text) text

def relaying : List String := ["BLOB", "REDIS", "NSLOOKUP", "SQL"]

theorem Relays.verb_mem {w : World} {command : Script.Command} {detail text : String}
    (h : Relays w command detail text) : command.verb ∈ relaying := by
  cases h <;> simp [relaying, *]

/-- A failure is one line just if the text that it relays is one. -/
theorem Relays.oneLine_iff {w : World} {command : Script.Command} {detail text : String}
    (h : Relays w command detail text) : OneLine detail ↔ OneLine text := by
  cases h with
  | refusal verb known given =>
    rename_i operation response
    have word : OneLine operation := by
      have all : ∀ operation ∈ Blob.operations, OneLine operation := by decide
      exact all operation known
    exact HopProbe.Blob.brief_refusal word response
  | storeError verb named given =>
    exact (oneLine_front (by decide) _).trans (KeyValue.oneLine_errorText text)
  | protocolVersion verb inside named =>
    exact (oneLine_front (by decide) _).trans (oneLine_front (by decide) text)
  | label verb first read =>
    refine (oneLine_front (by decide) _).trans ?_
    exact (oneLine_front (by decide) _).trans (oneLine_front (by decide) _)
  | engine verb args given asked reported => exact oneLine_front (by decide) text

def Worded (w : World) (command : Script.Command) (detail : String) : Prop :=
  OneLine detail ∨ ∃ text, Relays w command detail text

theorem Worded.oneLine_iff {w : World} {command : Script.Command} {detail : String}
    (h : Worded w command detail) :
    OneLine detail ↔ ∀ text, Relays w command detail text → OneLine text := by
  constructor
  · exact fun brief text relayed => relayed.oneLine_iff.mp brief
  · intro all
    rcases h with brief | ⟨text, relayed⟩
    · exact brief
    · exact relayed.oneLine_iff.mpr (all text relayed)

/-- Verbs that relay no texts word their failures in one line. -/
theorem Worded.oneLine {w : World} {command : Script.Command} {detail : String}
    (h : Worded w command detail) (other : command.verb ∉ relaying) : OneLine detail := by
  rcases h with brief | ⟨text, relayed⟩
  · exact brief
  · exact absurd relayed.verb_mem other

abbrev Told (w : World) (command : Script.Command) (cause : Fault) : Prop :=
  Worded w command cause.message

theorem Http.clear_of_request {action : Http.Action} {remainder : String}
    {r : HopProbe.Http.Request} (made : Http.request action remainder = .ok r) : r.url.Clear := by
  unfold Http.request at made
  split at made
  · cases made
  · next url read =>
    have known := Url.clear_of_parse read
    split at made
    · exact HopProbe.Http.clear_prepared known made
    · exact HopProbe.Http.clear_prepared known made

theorem Http.errs_request (action : Http.Action) (remainder : String) :
    Errs (fun failure => (Fault.http failure).Brief) (Http.request action remainder) := by
  unfold Http.request
  split
  · exact errs_error HopProbe.Http.Failure.brief_malformed.http
  · next url read =>
    have known := Url.clear_of_parse read
    split
    · exact fun failure failed => (HopProbe.Http.errs_prepare known _ _ _ _ failure failed).http
    · exact fun failure failed => (HopProbe.Http.errs_prepare known _ _ _ _ failure failed).http

theorem Http.faults_perform (action : Http.Action) (context : Context) (w : World) :
    Faults Fault.Brief w (Http.perform action context) := by
  refine faults_ofExcept_bind (Http.errs_request action _) fun r made => ?_
  have clear := Http.clear_of_request made
  dsimp only
  split
  · refine faults_bind (by rintro cause next ⟨⟩) ?_
    rintro _ _ ⟨⟩
  · refine faults_bind (HopProbe.Http.faults_send clear w) ?_
    rintro ⟨answered, response⟩ next sent
    dsimp only
    split
    · exact HopProbe.Http.faults_received (HopProbe.Http.clear_of_send clear sent) _ next
    · exact faults_pure _

theorem Tcp.faults_perform {action : Tcp.Action} (h : OneLine action.host) (context : Context)
    (w : World) : Faults Fault.Brief w (Tcp.perform action context) := by
  refine faults_record_bind (faults_get_bind (faults_ofExcept_bind ?_ fun _ _ => faults_pure _))
  intro e failed
  have cause := World.errs_reaches _ _ action.host action.port e failed
  have front : OneLine "connect to " := by decide
  have back : OneLine " failed: " := by decide
  have colon : OneLine ":" := by decide
  have port : OneLine (toString action.port) := (printable_nat action.port).oneLine
  show OneLine ("connect to " ++ (action.host ++ ":" ++ toString action.port) ++ " failed: " ++
    e.message)
  simp only [oneLine_append, front, h, colon, port, back, and_self, true_and]
  exact cause

theorem File.faults_unlessMissing {α : Type} (path : String) (shown : α → String)
    {result : Except IoError α} (h : Errs IoError.Brief result) (w : World) :
    Faults Fault.Brief w (File.unlessMissing path shown result) := by
  unfold File.unlessMissing
  split
  · exact faults_pure _
  · next e =>
    split
    · exact faults_pure _
    · exact faults_fault (h e rfl).io

theorem File.faults_perform (action : File.Action) (context : Context) (w : World) :
    Faults Fault.Brief w (File.perform action context) := by
  have io {α : Type} {result : Except IoError α} (h : Errs IoError.Brief result) :
      Errs (fun e => (Fault.io e).Brief) result := fun e failed => (h e failed).io
  obtain ⟨operation, path⟩ := action
  cases operation with
  | list =>
    refine faults_record_bind (faults_get_bind ?_)
    exact File.faults_unlessMissing _ _ (FileSystem.errs_readDirectory _ _) _
  | read =>
    refine faults_record_bind (faults_get_bind ?_)
    exact File.faults_unlessMissing _ _ (FileSystem.errs_readFile _ _) _
  | write content =>
    refine faults_record_bind (faults_get_bind (faults_ofExcept_bind (io ?_) fun there _ => ?_))
    · unfold File.hasParent
      split
      · exact FileSystem.errs_contains _ _
      · exact errs_ok true
    · split
      · refine faults_ofExcept_bind (io (FileSystem.errs_writeFile _ _ _)) fun files _ => ?_
        exact faults_modify_bind (faults_pure _)
      · exact faults_pure _

theorem IpLookup.faults_perform {host : String} (h : OneLine host) (context : Context) (w : World) :
    Faults Fault.Brief w (IpLookup.perform host context) := by
  refine faults_record_bind (faults_get_bind (faults_ofExcept_bind ?_ fun _ _ => faults_pure _))
  intro e failed
  have cause := World.errs_addresses _ host e failed
  refine (oneLine_front (by decide) _).mpr ?_
  exact oneLine_append.mpr ⟨oneLine_append.mpr ⟨h, by decide⟩, cause⟩

theorem Info.faults_perform (action : Info.Action) (context : Context) (w : World) :
    Faults Fault.Brief w (Info.perform action context) := by
  have system {α : Type} (result : Except Int α) :
      Errs (fun number => (Info.systemFault number).Brief) result :=
    fun number _ => (IoError.brief_os number).io
  refine faults_record_bind (faults_get_bind ?_)
  cases action with
  | hostName => exact faults_ofExcept_bind (system _) fun _ _ => faults_pure _
  | network => exact faults_ofExcept_bind (system _) fun _ _ => faults_pure _
  | environment name => exact faults_pure _

theorem NsLookup.oneLine_noRecord {name : DnsName} (sent : DnsName.AllSent name.labels) :
    OneLine (NsLookup.noRecord name.text) := by
  have front : OneLine "no record found for Query \x7b name: Name(\"" := by decide
  have back : OneLine "\"), query_type: ANY, query_class: IN \x7d" := by decide
  exact oneLine_append.mpr ⟨oneLine_append.mpr ⟨front, (DnsName.printable_text sent).oneLine⟩, back⟩

theorem NsLookup.errs_checkSize (name : DnsName) : Errs OneLine (NsLookup.checkSize name) := by
  unfold NsLookup.checkSize
  dsimp only
  split
  · exact errs_ok ()
  · refine errs_error ((oneLine_front (by decide) _).mpr ?_)
    exact DnsName.known_number "name label data exceed 255: " (by decide) _

theorem NsLookup.errs_answer {name : DnsName} (sent : DnsName.AllSent name.labels) (w : World)
    (server : IpAddress) : Errs OneLine (NsLookup.answer w server name) := by
  have missing : OneLine (NsLookup.noRecord { name with isComplete := true }.text) :=
    NsLookup.oneLine_noRecord sent
  unfold NsLookup.answer
  dsimp only
  split
  · split
    · exact errs_ok _
    · exact errs_error missing
  · exact errs_error missing

section
variable {command : Script.Command} {w : World}

theorem NsLookup.faults_perform (verb : command.verb = "NSLOOKUP") {action : NsLookup.Action}
    (first : command.args.head? = some action.name) (h : OneLine action.name) (context : Context) :
    Faults (Told w command) w (NsLookup.perform action context) := by
  have brief {detail : String} (known : OneLine detail) : Told w command (.dns detail) :=
    Or.inl ((oneLine_front (by decide) detail).mpr known)
  have read := DnsName.gives_read h
  cases named : DnsName.read action.name.toList with
  | error fault =>
    rw [named] at read
    unfold NsLookup.perform
    rw [named]
    refine faults_ofExcept_bind (errs_error ?_) fun name made => by cases made
    rcases read with known | ⟨label, rfl⟩
    · exact brief ((oneLine_front (by decide) _).mpr known)
    · exact Or.inr ⟨_, .label verb first named⟩
  | ok name =>
    rw [named] at read
    unfold NsLookup.perform
    rw [named]
    refine faults_ofExcept_bind (errs_ok name) fun name' made => ?_
    obtain rfl := Except.ok.inj made
    split
    · refine faults_bind (faults_fault (brief (NsLookup.oneLine_noRecord read))) ?_
      rintro _ _ ⟨⟩
    · refine faults_ofExcept_bind (fun text failed => brief ?_) fun _ _ => ?_
      · exact NsLookup.errs_checkSize name text failed
      · refine faults_record_bind (faults_get_bind ?_)
        refine faults_ofExcept_bind (fun text failed => brief ?_) fun _ _ => faults_pure _
        exact NsLookup.errs_answer read _ _ text failed

theorem Redis.errs_permits (verb : command.verb = "REDIS") {key : String}
    (asked : command.args[1]? = some key) {next : World} (changes : World.Changes w next)
    (session : StoreSession) :
    Errs (fun text => Told w command (.keyValue text)) (KeyValue.permits next.store session key) := by
  have kept : next.store.errors = w.store.errors := World.changes_errors changes
  intro said failed
  rcases KeyValue.errs_permits next.store session key said failed with brief | ⟨text, given, rfl⟩
  · exact Or.inl (KeyValue.brief_keyValue brief)
  · exact Or.inr ⟨text, .storeError verb asked (kept ▸ given)⟩

theorem Redis.faults_perform (verb : command.verb = "REDIS") {action : Redis.Action}
    (key : command.args[1]? = some action.key) (endpoint : action.endpoint ∈ command.args)
    (context : Context) : Faults (Told w command) w (Redis.perform action context) := by
  refine faults_bind ?_ fun session next ran => ?_
  · refine (KeyValue.faults_start action.endpoint w).mono ?_
    rintro cause (brief | ⟨version, named, rfl⟩)
    · exact Or.inl brief
    · exact Or.inr ⟨version, .protocolVersion verb endpoint named⟩
  · have changes : World.Changes w _ := Redis.within_start action.endpoint w
    rw [ran] at changes
    have permits := Redis.errs_permits verb key changes session
    have waits (conduct : Conduct) (later : World) :
        Faults (Told w command) later (KeyValue.await conduct) :=
      (KeyValue.faults_await conduct later).mono fun _ => Or.inl
    cases action.operation with
    | get =>
      refine faults_bind ?_ fun _ _ _ => faults_pure _
      refine faults_record_bind (faults_get_bind (faults_bind (waits _ _) fun _ _ _ => ?_))
      exact faults_ofExcept_bind permits fun _ _ => faults_pure _
    | set value =>
      refine faults_bind ?_ fun _ _ _ => faults_pure _
      refine faults_record_bind (faults_get_bind ?_)
      dsimp only
      have ends (conduct : Conduct) (later : World) : Faults (Told w command) later (do
          KeyValue.await conduct
          ofExcept Fault.keyValue (KeyValue.permits next.store session action.key)) :=
        faults_bind (waits conduct later) fun _ _ _ => faults_ofExcept permits
      split
      · exact faults_bind (by rintro cause next ⟨⟩) fun _ later _ => ends _ later
      · exact ends _ _

theorem Sql.mem_of_takeAnswer {path query : String} {answers rest : List SqlAnswer}
    {answer : SqlAnswer} (h : Sql.takeAnswer path query answers = some (answer, rest)) :
    answer ∈ answers ∧ answer.path = path ∧ answer.query = query := by
  induction answers generalizing rest with
  | nil => cases h
  | cons a as ih =>
    rw [Sql.takeAnswer] at h
    split at h
    · next asked =>
      cases h
      exact ⟨by simp, asked⟩
    · obtain ⟨⟨found, left⟩, later, same⟩ := Option.map_eq_some_iff.mp h
      cases same
      obtain ⟨inside, asked⟩ := ih later
      exact ⟨by simp [inside], asked⟩

theorem Sql.answer_of_found {path query : String} {result : SqlResult}
    (h : Sql.found path query w = .ok result) :
    ∃ answer ∈ w.answers, (answer.path = path ∧ answer.query = query) ∧ answer.result = .ok result := by
  unfold Sql.found at h
  split at h
  · cases h
  · next answer rest taken =>
    obtain ⟨inside, asked⟩ := Sql.mem_of_takeAnswer taken
    split at h
    · cases h
    · next given =>
      split at h
      · cases h
      · cases h
        exact ⟨answer, inside, asked, given⟩

theorem Sql.oneLine_databasePath {connection : String} (h : OneLine connection) :
    OneLine (Sql.databasePath connection) := by
  have part {front path : List Char} (stripped : stripStart front connection.toList = some path) :
      OneLine (String.ofList path) := by
    intro hc
    rw [String.toList_ofList] at hc
    exact h ((sublist_of_stripStart stripped).mem hc)
  unfold Sql.databasePath
  split
  · next stripped => exact part stripped
  · split
    · next stripped => exact part stripped
    · exact h

theorem Sql.reported_of_broken {n : Nat} {rows : List (Except String (List SqlValue))} {text : String}
    (h : Sql.Broken n rows text) : OneLine text ∨ .error text ∈ rows := by
  induction h with
  | reported text rest => exact Or.inr (by simp)
  | @short row h rest =>
    exact Or.inl ((oneLine_front (by decide) _).mpr (printable_nat row.length).oneLine)
  | later full more ih => exact ih.imp_right fun inside => by simp [inside]

section
variable (verb : command.verb = "SQL") {action : Sql.Action} {more : List String}
  (args : command.args = action.query :: action.connection :: more) (h : OneLine action.connection)
include verb args h

theorem Sql.errs_found : Errs (fun text => Told w command (.sql text))
    (Sql.found (Sql.databasePath action.connection) action.query w) := by
  have brief {text : String} (known : OneLine text) : Told w command (.sql text) :=
    Or.inl ((oneLine_front (by decide) text).mpr known)
  unfold Sql.found
  split
  · refine errs_error (brief ((oneLine_front ?_ _).mpr (Sql.oneLine_databasePath h)))
    decide
  · next answer rest taken =>
    obtain ⟨inside, asked⟩ := Sql.mem_of_takeAnswer taken
    split
    · next text reported =>
      exact errs_error (Or.inr ⟨text, .engine verb args inside asked (Or.inl reported)⟩)
    · split
      · exact errs_error (brief (by decide))
      · exact errs_ok _

theorem Sql.errs_answered :
    Errs (fun text => Told w command (.sql text)) (Sql.answered action w) := by
  refine errs_bind (Sql.errs_found verb args h) fun result given =>
    errs_bind ?_ fun rows _ => errs_ok _
  intro text failed
  rcases Sql.full_or_broken result.columns.length result.rows with ⟨rows, full⟩ | ⟨said, broken⟩
  · rw [Sql.readRows_of_full full] at failed
    cases failed
  · rw [Sql.readRows_of_broken broken] at failed
    cases failed
    rcases Sql.reported_of_broken broken with known | inside
    · exact Or.inl ((oneLine_front (by decide) _).mpr known)
    · obtain ⟨answer, there, asked, whole⟩ := Sql.answer_of_found given
      exact Or.inr ⟨_, .engine verb args there asked (Or.inr ⟨result, whole, inside⟩)⟩

theorem Sql.faults_perform (context : Context) :
    Faults (Told w command) w (Sql.perform action context) := by
  intro cause next stopped
  have ended := Sql.run_perform action context w
  rw [stopped] at ended
  cases answered : Sql.answered action w with
  | ok text =>
    rw [answered] at ended
    cases ended
  | error text =>
    rw [answered] at ended
    cases ended
    exact Sql.errs_answered verb args h text answered

end

theorem Blob.clear_of_opened {endpoint container : String} {opened : HopProbe.Blob.Container}
    {next : World}
    (h : (HopProbe.Blob.openContainer endpoint container).run.run w = (.ok opened, next)) :
    opened.endpoint.base.Clear ∧ next = w := by
  cases parsed : HopProbe.Blob.Endpoint.parse endpoint with
  | error e =>
    rw [HopProbe.Blob.openContainer, parsed] at h
    cases h
  | ok e =>
    rw [HopProbe.Blob.openContainer_of_parse parsed] at h
    cases h
    exact ⟨HopProbe.Blob.Endpoint.clear_parse parsed, rfl⟩

section
variable {container : HopProbe.Blob.Container} {operation : String} {accepted : Nat → Bool}
  {method : HopProbe.Http.Method} {path : List String} {query : Option String}
  {fields : HopProbe.Http.Fields} {body : List UInt8} {later : World}

/-- A call to a service whose peers are among those of a world fails with one line, or it relays what
one of them says. -/
theorem Blob.told_exchange (verb : command.verb = "BLOB") (clear : container.endpoint.base.Clear)
    (fewer : later.peers ⊆ w.peers) (known : operation ∈ Blob.operations) :
    Faults (Told w command) later (HopProbe.Blob.Container.exchange operation accepted method
      (container.endpoint.url path query) fields body) := by
  refine (HopProbe.Blob.faults_exchange (HopProbe.Blob.Endpoint.errs_url clear path query)
    (fun u made => HopProbe.Blob.Endpoint.clear_url clear path query made) operation accepted method
    fields body later).mono ?_
  rintro cause (brief | ⟨response, given, rfl⟩)
  · exact Or.inl brief
  · exact Or.inr ⟨_, .refusal verb known (given.mono fewer)⟩

theorem Blob.fewer_of_exchange (plain : "content-length" ∉ fields.names)
    (fewer : later.peers ⊆ w.peers) {answer : HopProbe.Http.Request × HopProbe.Http.Response}
    {next : World}
    (ran : (HopProbe.Blob.Container.exchange operation accepted method
      (container.endpoint.url path query) fields body).run.run later = (.ok answer, next)) :
    next.peers ⊆ w.peers := by
  have sends (r : HopProbe.Http.Request) : Sending (fun _ => True) (HopProbe.Http.send r) :=
    HopProbe.Http.within_send (fun w => World.changesBy_exchange w trivial) World.changesBy_pursue
  have changes := Blob.within_exchange operation accepted method (container.endpoint.url path query)
    plain body (fun r _ => sends r) later
  rw [ran] at changes
  exact List.Subset.trans (World.changes_peers (World.changes_of_changesBy changes)) fewer

end

theorem Blob.faults_perform (verb : command.verb = "BLOB") (action : Blob.Action)
    (context : Context) : Faults (Told w command) w (Blob.perform action context) := by
  refine faults_bind (faults_ofExcept_bind (fun e failed => Or.inl (HopProbe.Blob.brief_blob
    (HopProbe.Blob.Endpoint.errs_parse _ e failed))) fun _ _ => faults_pure _) ?_
  intro container next opened
  obtain ⟨clear, rfl⟩ := Blob.clear_of_opened opened
  refine faults_bind ?_ fun _ created ran => ?_
  · exact faults_bind (Blob.told_exchange verb clear (List.Subset.refl _) (by decide)) fun _ _ _ =>
      faults_pure _
  obtain ⟨_, _, exchanged, ended⟩ := of_run_bind_eq_ok ran
  cases ended
  have fewer := Blob.fewer_of_exchange (by decide) (List.Subset.refl _) exchanged
  cases action.operation with
  | get =>
    refine faults_bind ?_ fun _ _ _ => faults_pure _
    refine faults_bind (Blob.told_exchange verb clear fewer (by decide)) fun answer last sent => ?_
    have asked : answer.1.url.Clear := HopProbe.Blob.clear_of_exchanged
      (fun u made => HopProbe.Blob.Endpoint.clear_url clear _ _ made) sent
    exact (HopProbe.Http.faults_received asked _ last).mono fun _ => Or.inl
  | put value =>
    refine faults_bind ?_ fun _ deleted ran => ?_
    · exact faults_bind (Blob.told_exchange verb clear fewer (by decide)) fun _ _ _ => faults_pure _
    · obtain ⟨_, _, exchanged, ended⟩ := of_run_bind_eq_ok ran
      cases ended
      have fewer := Blob.fewer_of_exchange (by decide) fewer exchanged
      refine faults_bind ?_ fun _ _ _ => faults_pure _
      exact faults_bind (Blob.told_exchange verb clear fewer (by decide)) fun _ _ _ => faults_pure _

end

end HopProbe.Verbs
