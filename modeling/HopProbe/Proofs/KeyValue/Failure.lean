import HopProbe.KeyValue.Session
import HopProbe.Proofs.Url.Clear
import HopProbe.Proofs.World.Failure

/-!
# What a session with a store fails with

Two texts come into such a failure as they are: a version of the protocol that
an address names in its query, and the error that a store has for a key. All
else is worded in one line.
-/

set_option autoImplicit false

namespace HopProbe.KeyValue
open HopProbe.Text Effect

theorem oneLine_parseError (e : Url.ParseError) : OneLine e.message := by cases e <;> decide

theorem EndpointError.oneLine_message (e : EndpointError) : OneLine e.message := by
  cases e with
  | unreadable endpoint cause =>
    exact oneLine_append.mpr ⟨oneLine_append.mpr ⟨oneLine_append.mpr ⟨by decide,
      (printable_quote endpoint).oneLine⟩, by decide⟩, oneLine_parseError cause⟩
  | empty | userNotAllowed | passwordNotAllowed => decide

def unknownProtocol (version : String) : String :=
  "Invalid protocol version - InvalidClientConfig: " ++ version

/-- An endpoint whose address names a version of the protocol. -/
def NamesProtocol (endpoint version : String) : Prop :=
  ∃ text url value, urlText endpoint = .ok text ∧ Url.parse text = .ok url ∧
    queryValue? url "protocol" = some value ∧ version = String.ofList value

theorem errs_knownProtocol (u : Url) :
    Errs (fun text => ∃ value, queryValue? u "protocol" = some value ∧
      text = unknownProtocol (String.ofList value)) (knownProtocol u) := by
  unfold knownProtocol
  split
  case h_6 version _ _ _ _ named =>
    obtain ⟨value, found, rfl⟩ := Option.map_eq_some_iff.mp named
    exact errs_error ⟨value, found, rfl⟩
  all_goals exact errs_ok ()

theorem errs_databaseNumber (digits : List Char) : Errs OneLine (databaseNumber digits) := by
  unfold databaseNumber
  split
  · exact errs_ok _
  · exact errs_error (by decide)

theorem errs_database (path : String) : Errs OneLine (database path) := by
  unfold database
  split
  · exact errs_ok 0
  · exact errs_databaseNumber _

theorem errs_decoded {part : String} (h : OneLine part) (text : String) :
    Errs OneLine (decoded part text) := by
  unfold decoded
  split
  · exact errs_ok _
  · exact errs_error (oneLine_append.mpr ⟨oneLine_append.mpr ⟨h, by decide⟩, by decide⟩)

theorem errs_user (u : Url) : Errs OneLine (user u) := by
  unfold user
  split
  · exact errs_ok none
  · exact errs_map (errs_decoded (by decide) _) _

theorem errs_password (u : Url) : Errs OneLine (password u) := by
  unfold password
  split
  · exact errs_map (errs_decoded (by decide) _) _
  · exact errs_ok none

theorem errs_knownFragment (u : Url) : Errs OneLine (knownFragment u) := by
  unfold knownFragment
  split
  · exact errs_error (by decide)
  · exact errs_ok ()

section
variable {u : Url} {P : String → Prop} (known : Errs P (knownProtocol u))
  (brief : ∀ text, OneLine text → P text)
include known brief

theorem errs_ofNetworkUrl : Errs P (ofNetworkUrl u) := by
  have settled {α : Type} {r : Except String α} (h : Errs OneLine r) : Errs P r :=
    fun e failed => brief e (h e failed)
  have missing : P (configurationError "Missing hostname") := brief _ (by decide)
  unfold ofNetworkUrl
  dsimp only
  split
  · next host _ =>
    split
    · exact errs_error missing
    · refine errs_bind (errs_ok _) fun host _ => ?_
      refine errs_bind (settled (errs_knownFragment u)) fun _ _ => ?_
      refine errs_bind (settled (errs_database _)) fun _ _ => ?_
      refine errs_bind (settled (errs_user u)) fun _ _ => ?_
      refine errs_bind (settled (errs_password u)) fun _ _ => ?_
      exact errs_bind known fun _ _ => errs_ok _
  · exact errs_error missing

theorem errs_ofSocketUrl : Errs P (ofSocketUrl u) := by
  unfold ofSocketUrl
  dsimp only
  split
  · split
    · refine errs_bind (errs_ok _) fun path _ => ?_
      refine errs_bind (fun e failed => brief e (errs_databaseNumber _ e failed)) fun _ _ => ?_
      exact errs_bind known fun _ _ => errs_ok _
    · refine errs_bind (errs_ok _) fun path _ => ?_
      refine errs_bind (errs_ok _) fun _ _ => ?_
      exact errs_bind known fun _ _ => errs_ok _
  · exact errs_error (brief _ (by decide))

end

def Said (endpoint text : String) : Prop :=
  OneLine text ∨ ∃ version, NamesProtocol endpoint version ∧ text = unknownProtocol version

theorem errs_targetOf (endpoint : String) : Errs (Said endpoint) (targetOf endpoint) := by
  unfold targetOf
  split
  · next text written =>
    unfold readUrl
    split
    · next url read =>
      have known : Errs (Said endpoint) (knownProtocol url) := by
        rintro said failed
        obtain ⟨value, found, rfl⟩ := errs_knownProtocol url said failed
        exact Or.inr ⟨_, ⟨text, url, value, written, read, found, rfl⟩, rfl⟩
      split
      · exact errs_ofNetworkUrl known fun _ => Or.inl
      · split
        · exact errs_ofSocketUrl known fun _ => Or.inl
        · exact errs_error (Or.inl (by decide))
    · exact errs_error (Or.inl (by decide))
  · next e _ => exact errs_error (Or.inl e.oneLine_message)

theorem errorName_oneLine {code name : String} (h : errorName? code = some name) :
    OneLine code ∧ OneLine name := by
  unfold errorName? at h
  split at h
  all_goals cases h; try exact ⟨oneLine_ofList (by decide), oneLine_ofList (by decide)⟩

theorem oneLine_codedErrorText (code : String) (detail : Option String) :
    OneLine (codedErrorText code detail) ↔ OneLine code ∧ ∀ d ∈ detail, OneLine d := by
  have mark : OneLine "An error was signalled by the server - " := by decide
  have shorter : OneLine "An error was signalled by the server- " := by decide
  have colon : OneLine ": " := by decide
  have unknown : OneLine "Unknown extension error encountered" := by decide
  unfold codedErrorText
  cases named : errorName? code with
  | some name =>
    obtain ⟨first, second⟩ := errorName_oneLine named
    cases detail <;> simp [first, second, mark, shorter, colon]
  | none => cases detail <;> simp [colon, unknown]

theorem oneLine_errorText (text : String) : OneLine (errorText text) ↔ OneLine text := by
  unfold errorText
  split
  · next code detail cut =>
    rw [oneLine_codedErrorText]
    simp [OneLine, (cutFirst_eq_some cut).1]
  · rw [oneLine_codedErrorText]
    simp

theorem oneLine_admission (store : Store) (session : StoreSession) :
    Errs OneLine (admission store session) := by
  unfold admission
  split
  · split
    · exact errs_ok ()
    · exact errs_error (by decide)
  · exact errs_error (by decide)

theorem brief_socketError (files : FileSystem) (path : List UInt8) :
    (socketError files path).Brief := by
  unfold socketError
  split
  · decide
  · split
    · decide
    · split
      · exact IoError.brief_os 111
      · next e failed => exact files.errs_stat path e failed

theorem brief_keyValue {detail : String} (h : OneLine detail) : (Fault.keyValue detail).Brief :=
  oneLine_append.mpr ⟨by decide, h⟩

theorem faults_said {α : Type} {w : World} {r : Except IoError α} (h : Errs IoError.Brief r) :
    Faults Fault.Brief w (ofExcept said r) :=
  faults_ofExcept fun e failed => brief_keyValue (h e failed)

theorem faults_connect (place : Place) (w : World) : Faults Fault.Brief w (connect place) := by
  cases place with
  | network host port =>
    exact faults_record_bind (faults_get_bind (faults_said (World.errs_meetsStore _ host port)))
  | encrypted host port unchecked =>
    refine faults_record_bind (faults_get_bind ?_)
    refine faults_bind (faults_said (World.errs_addresses _ host)) fun _ next _ => ?_
    split
    · exact faults_fault (brief_keyValue (by decide))
    · exact faults_said (World.errs_meetsStoreEncrypted _ host port)
  | socket path => exact faults_get_bind (faults_fault (brief_keyValue (brief_socketError _ _)))

theorem faults_await (conduct : Conduct) (w : World) : Faults Fault.Brief w (await conduct) := by
  cases conduct with
  | answers => exact faults_pure _
  | loses applied loss =>
    cases loss with
    | silence => rintro cause next ⟨⟩
    | ending => exact faults_fault (brief_keyValue (by decide))
    | breakage number => exact faults_fault (brief_keyValue (IoError.brief_os number))

/-- A session is opened, or it is said in one line why not, unless a version of the protocol is
named. -/
theorem faults_start (endpoint : String) (w : World) :
    Faults (fun cause => cause.Brief ∨ ∃ version, NamesProtocol endpoint version ∧
      cause = .keyValue (unknownProtocol version)) w (start endpoint) := by
  refine faults_ofExcept_bind ?_ fun target _ => ?_
  · rintro text failed
    rcases errs_targetOf endpoint text failed with brief | ⟨version, named, rfl⟩
    · exact Or.inl (brief_keyValue brief)
    · exact Or.inr ⟨version, named, rfl⟩
  · refine faults_bind ((faults_connect _ w).mono fun _ => Or.inl) fun _ next _ => ?_
    refine faults_get_bind (faults_bind ((faults_await _ next).mono fun _ => Or.inl) fun _ _ _ => ?_)
    refine faults_ofExcept_bind ?_ fun _ _ => faults_pure _
    exact fun e failed => Or.inl (brief_keyValue (oneLine_admission _ _ e failed))

theorem errs_permits (store : Store) (session : StoreSession) (key : String) :
    Errs (fun said => OneLine said ∨ ∃ text, (key, text) ∈ store.errors ∧ said = errorText text)
      (permits store session key) := by
  unfold permits
  split
  · next found =>
    refine errs_error (Or.inr ⟨_, ?_, rfl⟩)
    have same := List.find?_some found
    have inside := List.mem_of_find?_eq_some found
    simp only [beq_iff_eq] at same
    exact same ▸ inside
  · split
    · exact errs_error (Or.inl (by decide))
    · exact errs_ok ()

end HopProbe.KeyValue
