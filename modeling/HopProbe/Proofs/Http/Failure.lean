import HopProbe.Proofs.Http.Prepared
import HopProbe.Proofs.Http.Sending
import HopProbe.Proofs.Url.Clear
import HopProbe.Proofs.World.Failure

/-!
# Failures of requests

A failure of a request shows the address that it was made to. An address has no
control in it, so that the failure is worded in one line.
-/

set_option autoImplicit false

namespace HopProbe.Http
open HopProbe.Text Effect

abbrev Failure.Brief (failure : Failure) : Prop := OneLine failure.message

theorem Failure.Brief.http {failure : Failure} (h : failure.Brief) : (Fault.http failure).Brief :=
  oneLine_append.mpr ⟨by decide, h⟩

theorem Failure.brief_malformed : Brief .malformed := by decide

theorem oneLine_around {front back : String} (opens : OneLine front) (closes : OneLine back)
    {url : Url} (h : url.Clear) : OneLine (front ++ url.text ++ back) :=
  oneLine_append.mpr ⟨oneLine_append.mpr ⟨opens, h.printable_text.oneLine⟩, closes⟩

section
variable {url : Url}

theorem Failure.brief_unusable (h : url.Clear) : Brief (.unusable url.text) :=
  oneLine_around (by decide) (by decide) h

theorem Failure.brief_noResponse (h : url.Clear) : Brief (.noResponse url.text) :=
  oneLine_around (by decide) (by decide) h

theorem Failure.brief_astray (h : url.Clear) : Brief (.astray url.text) :=
  oneLine_around (by decide) (by decide) h

theorem Failure.brief_brokenBody (h : url.Clear) : Brief (.brokenBody url.text) :=
  oneLine_around (by decide) (by decide) h

theorem errs_prepare (h : url.Clear) (method : Method) (fields defaults : Fields)
    (body : List UInt8) : Errs Failure.Brief (prepare method url fields defaults body) := by
  simp only [prepare]
  split
  · cases credentials? url with
    | none =>
      dsimp only
      split
      · exact errs_ok _
      · exact errs_error (Failure.brief_unusable h)
    | some login =>
      dsimp only
      split
      · exact errs_ok _
      · exact errs_error (Failure.brief_unusable h.withoutCredentials)
  · exact errs_error (Failure.brief_unusable h)

theorem clear_prepared (h : url.Clear) {method : Method} {fields defaults : Fields}
    {body : List UInt8} {sent : Request} (made : prepare method url fields defaults body = .ok sent) :
    sent.url.Clear := by
  simp only [prepare] at made
  cases login : credentials? url with
  | none =>
    rw [login] at made
    split_ifs at made
    cases made
    exact h
  | some found =>
    rw [login] at made
    split_ifs at made
    cases made
    exact h.withoutCredentials

end

theorem faults_settle {first : Url} (meant : first.Clear) (hops : Nat) {r : Request}
    (h : r.url.Clear) (reply : Reply) (w : World) :
    Faults Fault.Brief w (settle first hops r reply) := by
  have silent (w : World) :
      Faults Fault.Brief w (throw .unanswered : Effect (Request × Response)) := by
    rintro cause next ⟨⟩
  induction hops generalizing r reply w with
  | zero =>
    cases reply with
    | closed => exact faults_fault (Failure.brief_noResponse meant).http
    | silent => exact silent w
    | response response =>
      rw [settle]
      split
      · exact faults_pure _
      · exact faults_fault (Failure.brief_unusable meant).http
      · exact faults_fault (Failure.brief_astray h).http
  | succ hops ih =>
    cases reply with
    | closed => exact faults_fault (Failure.brief_noResponse meant).http
    | silent => exact silent w
    | response response =>
      rw [settle]
      split
      · exact faults_pure _
      · exact faults_fault (Failure.brief_unusable meant).http
      · next next placed =>
        obtain ⟨text, -, parsed⟩ := Option.map_eq_some_iff.mp placed
        have clear : next.Clear := Url.clear_of_parse parsed
        dsimp only
        split
        · refine faults_get_bind (faults_bind (by rintro cause next ⟨⟩) fun _ after _ => ?_)
          exact ih (r := onward r response.status next) clear _ after
        · exact faults_fault (Failure.brief_unusable clear).http

theorem faults_send {r : Request} (h : r.url.Clear) (w : World) : Faults Fault.Brief w (send r) :=
  faults_settle h maxHops h _ _

/-- Wherever responses send a request, its address has no control. -/
theorem Pursued.clear {w w' : World} {r last : Request} {followed : List Request}
    (h : Pursued w r followed last w') (clear : r.url.Clear) : last.url.Clear := by
  induction h with
  | stays => exact clear
  | moves response sent more ih =>
    obtain ⟨text, -, parsed⟩ := Option.map_eq_some_iff.mp sent
    exact ih (Url.clear_of_parse parsed)

theorem clear_of_send {r answered : Request} {response : Response} {w next : World}
    (clear : r.url.Clear) (ran : (send r).run.run w = (.ok (answered, response), next)) :
    answered.url.Clear := by
  obtain ⟨followed, ⟨last, pursued, ends⟩, -⟩ := settled_send r w
  rw [ran] at ends
  rw [(ends answered response rfl).1]
  exact pursued.clear clear

theorem faults_received {α : Type} {r : Request} (h : r.url.Clear) (content : Option α) (w : World) :
    Faults Fault.Brief w (received r content) := by
  cases content with
  | some a => exact faults_pure a
  | none => exact faults_fault (Failure.brief_brokenBody h.withoutFragment).http

end HopProbe.Http
