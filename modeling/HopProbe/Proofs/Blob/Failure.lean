import HopProbe.Blob.Service
import HopProbe.Proofs.Http.Failure
import HopProbe.Proofs.KeyValue.Failure
import HopProbe.Proofs.Verbs.Remainder

/-!
# What a blob service is refused with

An operation fails in one line, unless a response refuses it: then the body of
the response is shown, without white space at its two ends.
-/

set_option autoImplicit false

namespace HopProbe.Blob
open HopProbe.Text HopProbe.Http Effect

def Given (w : World) (response : Response) : Prop :=
  ∃ peer ∈ w.peers, ∃ r, peer.accepts r = true ∧ peer.reply r = .response response

theorem Given.mono {w next : World} {response : Response} (h : Given next response)
    (fewer : next.peers ⊆ w.peers) : Given w response := by
  obtain ⟨peer, there, answers⟩ := h
  exact ⟨peer, fewer there, answers⟩

theorem given_of_ask {w : World} {r : Request} {response : Response}
    (h : (w.ask r).1 = .response response) : Given w response := by
  obtain ⟨peer, there, accepts, answers⟩ := World.reply_of_ask h
  exact ⟨peer, there, r, accepts, answers⟩

/-- A response that stays is the first one or comes from where that sent its request. -/
theorem given_of_settle {first : Url} {hops : Nat} {r answered : Request} {reply : Reply}
    {response : Response} {w next : World}
    (h : (settle first hops r reply).run.run w = (.ok (answered, response), next)) :
    reply = .response response ∨ Given w response := by
  induction hops generalizing r reply w with
  | zero =>
    cases reply with
    | closed | silent => cases h
    | response other =>
      rw [settle] at h
      split at h
      · cases h
        exact Or.inl rfl
      · cases h
      · cases h
  | succ hops ih =>
    cases reply with
    | closed | silent => cases h
    | response other =>
      rw [settle] at h
      split at h
      · cases h
        exact Or.inl rfl
      · cases h
      · next place _ =>
        dsimp only at h
        split at h
        · rcases ih h with given | given
          · exact Or.inr (given_of_ask (w := w.record _) given)
          · exact Or.inr (given.mono (World.ask_peers (w.record _) _))
        · cases h

theorem given_of_send {w next : World} {r answered : Request} {response : Response}
    (h : (send r).run.run w = (.ok (answered, response), next)) : Given w response := by
  rw [run_send] at h
  rcases given_of_settle h with given | given
  · exact given_of_ask (w := w.record _) given
  · exact given.mono (World.ask_peers (w.record _) _)

theorem oneLine_reason (status : Nat) : OneLine (reason status) := by
  unfold reason
  split <;> exact oneLine_ofList (by decide)

theorem oneLine_statusText (response : Response) : OneLine response.statusText := by
  rw [Response.statusText, oneLine_append, oneLine_append]
  exact ⟨⟨(printable_nat response.status).oneLine, by decide⟩, oneLine_reason response.status⟩

/-- A refusal is shown in one line just if its explanation is one. -/
theorem brief_refusal {operation : String} (h : OneLine operation) (response : Response) :
    (Container.refusal operation response).Brief ↔ OneLine (trim response.explanation) := by
  have front : OneLine "blob store error: " := by decide
  have returned : OneLine " returned " := by decide
  have colon : OneLine ": " := by decide
  have status := oneLine_statusText response
  show OneLine ("blob store error: " ++ (operation ++ " returned " ++ response.statusText ++ ": " ++
    trim response.explanation)) ↔ _
  simp only [oneLine_append, front, h, returned, status, colon, true_and]

theorem brief_blob {detail : String} (h : OneLine detail) : (Fault.blob detail).Brief :=
  oneLine_append.mpr ⟨by decide, h⟩

def EndpointError.Brief (e : EndpointError) : Prop := OneLine e.message

theorem brief_unreadable (text : String) (cause : Url.ParseError) :
    EndpointError.Brief (.unreadable text cause) :=
  oneLine_append.mpr ⟨oneLine_append.mpr ⟨oneLine_append.mpr ⟨by decide,
    (printable_quote text).oneLine⟩, by decide⟩, KeyValue.oneLine_parseError cause⟩

namespace Endpoint

theorem errs_parseBase (text : String) : Errs EndpointError.Brief (parseBase text) := by
  unfold parseBase
  split
  · exact errs_ok _
  · exact errs_error (brief_unreadable text _)

theorem clear_parseBase {text : String} {url : Url} (h : parseBase text = .ok url) : url.Clear := by
  unfold parseBase at h
  split at h
  · next read =>
    cases h
    exact Url.clear_of_parse read
  · cases h

theorem errs_ofSettings (settings : List (String × String)) :
    Errs EndpointError.Brief (ofSettings settings) := by
  unfold ofSettings
  dsimp only
  split
  · exact errs_error (show OneLine _ by decide)
  · split
    · exact errs_error (show OneLine _ by decide)
    · exact errs_bind (errs_parseBase _) fun _ _ => errs_ok _

theorem errs_setting (segment : List Char) : Errs EndpointError.Brief (setting segment) := by
  unfold setting
  split
  · exact errs_ok _
  · exact errs_error (oneLine_append.mpr ⟨by decide, (printable_quote _).oneLine⟩)

theorem errs_parse (text : String) : Errs EndpointError.Brief (parse text) := by
  unfold parse
  split
  · exact errs_bind (errs_parseBase text) fun _ _ => errs_ok _
  · refine errs_bind (errs_mapM fun segment _ => errs_setting segment) fun settings _ => ?_
    exact errs_ofSettings settings

theorem clear_parse {text : String} {e : Endpoint} (h : parse text = .ok e) : e.base.Clear := by
  unfold parse at h
  split at h
  · obtain ⟨url, read, h⟩ := Verbs.bind_eq_ok h
    cases h
    exact (clear_parseBase read).setQuery none
  · obtain ⟨settings, -, h⟩ := Verbs.bind_eq_ok h
    unfold ofSettings at h
    dsimp only at h
    split at h
    · cases h
    · split at h
      · cases h
      · obtain ⟨url, read, h⟩ := Verbs.bind_eq_ok h
        cases h
        exact clear_parseBase read

variable {e : Endpoint} (clear : e.base.Clear) (path : List String) (query : Option String)
include clear

theorem errs_url : Errs EndpointError.Brief (e.url path query) := by
  unfold url
  split
  · refine errs_error ?_
    have base := clear.printable_text.oneLine
    exact oneLine_append.mpr ⟨oneLine_append.mpr ⟨by decide, base⟩, by decide⟩
  · split
    · exact errs_ok _
    · exact errs_ok _

theorem clear_url {u : Url} (made : e.url path query = .ok u) : u.Clear := by
  unfold url at made
  split at made
  · cases made
  · next pushed =>
    split at made
    · cases made
      exact clear.push pushed
    · cases made
      exact (clear.push pushed).setQuery _

end Endpoint

/-- What an operation fails with: one line, or the refusal of a response. -/
def Refused (w : World) (operation : String) (cause : Fault) : Prop :=
  cause.Brief ∨ ∃ response, Given w response ∧ cause = Container.refusal operation response

theorem faults_exchange {url : Except EndpointError Url} (errs : Errs EndpointError.Brief url)
    (clear : ∀ u, url = .ok u → u.Clear) (operation : String) (accepted : Nat → Bool)
    (method : Method) (fields : Fields) (body : List UInt8) (w : World) :
    Faults (Refused w operation) w
      (Container.exchange operation accepted method url fields body) := by
  refine faults_ofExcept_bind (fun e failed => Or.inl (brief_blob (errs e failed))) fun u made => ?_
  have known := clear u made
  refine faults_ofExcept_bind
    (fun e failed => Or.inl (errs_prepare known _ _ _ _ e failed).http) fun r prepared => ?_
  refine faults_bind ((faults_send (clear_prepared known prepared) w).mono fun _ => Or.inl) ?_
  rintro ⟨answered, response⟩ next sent
  dsimp only
  split
  · exact faults_pure _
  · exact faults_fault (Or.inr ⟨response, given_of_send sent, rfl⟩)

theorem clear_of_exchanged {url : Except EndpointError Url} (clear : ∀ u, url = .ok u → u.Clear)
    {operation : String} {accepted : Nat → Bool} {method : Method} {fields : Fields}
    {body : List UInt8} {w next : World} {r : Request} {response : Response}
    (ran : (Container.exchange operation accepted method url fields body).run.run w =
      (.ok (r, response), next)) : r.url.Clear := by
  obtain ⟨u, _, found, rest⟩ := of_run_bind_eq_ok ran
  obtain ⟨made, rfl⟩ := of_run_ofExcept_eq_ok found
  obtain ⟨request, _, readied, last⟩ := of_run_bind_eq_ok rest
  obtain ⟨prepared, rfl⟩ := of_run_ofExcept_eq_ok readied
  obtain ⟨⟨answered, arrived⟩, _, sent, ends⟩ := of_run_bind_eq_ok last
  dsimp only at ends
  split at ends
  · cases ends
    exact clear_of_send (clear_prepared (clear u made) prepared) sent
  · cases ends

end HopProbe.Blob
