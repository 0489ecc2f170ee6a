import HopProbe.Proofs.Relay.Delivery
import HopProbe.Proofs.Script.Lines
import Mathlib.Tactic.Set

/-!
# Which lines are handed over as they are

The lines behind a POST are joined into one text, which the peer splits again.
It finds the same lines just if the text has no byte order mark at its front
and does not read as a string literal of JSON: either of the two costs the
text at least one character that is no line break.
-/

set_option autoImplicit false

namespace HopProbe
open HopProbe.Text

namespace Script

theorem toList_join (ls : List String) : (join ls).toList = joined ['\n'] (ls.map String.toList) := by
  rw [joined_eq_intercalate, join, String.toList_intercalate]
  rfl

def visible (cs : List Char) : Nat := (cs.filter (! isLineBreak ·)).length

theorem visible_cons (c : Char) (cs : List Char) :
    visible (c :: cs) = (if isLineBreak c then 0 else 1) + visible cs := by
  by_cases h : isLineBreak c
  · simp [visible, h]
  · simp [visible, h, Nat.add_comm]

theorem visible_le (cs : List Char) : visible cs ≤ cs.length := List.length_filter_le _ _

theorem visible_of_sublist {cs ds : List Char} (h : cs.Sublist ds) : visible cs ≤ visible ds :=
  (h.filter _).length_le

/-- No character of a literal is a line break, and the text it denotes is shorter. -/
theorem visible_of_decode {cs text : List Char} (h : JsonString.decode? cs = some text) :
    visible text < visible cs := by
  unfold JsonString.decode? at h
  split at h
  · rename_i rest
    obtain ⟨longer, printed⟩ := body_spans h
    have all : visible rest = rest.length := by
      rw [visible, List.filter_eq_self.mpr]
      intro c hc
      have := printed c hc
      have noReturn : c ≠ '\r' := by
        rintro rfl
        contradiction
      have noNewline : c ≠ '\n' := by
        rintro rfl
        contradiction
      simp [isLineBreak, noReturn, noNewline]
    have short := visible_le text
    rw [visible_cons, all]
    omega
  · contradiction

theorem visible_unwrapped_le (text : List Char) : visible (unwrapped text) ≤ visible text := by
  unfold unwrapped
  cases h : JsonString.decode? (trimmed text) with
  | none => exact Nat.le_refl _
  | some inner =>
    have shorter := visible_of_decode h
    have outer := visible_of_sublist (trimmed_sublist text)
    rw [Option.getD_some]
    omega

theorem decode_of_visible_unwrapped {text : List Char}
    (h : visible text ≤ visible (unwrapped text)) : JsonString.decode? (trimmed text) = none := by
  cases hd : JsonString.decode? (trimmed text) with
  | none => rfl
  | some inner =>
    have shorter := visible_of_decode hd
    have outer := visible_of_sublist (trimmed_sublist text)
    rw [unwrapped, hd, Option.getD_some] at h
    omega

/-- What keeps a text from being taken for another. -/
def Literal (text : List Char) : Prop :=
  text.head? ≠ some '\uFEFF' ∧ JsonString.decode? (trimmed text) = none

theorem splitLines_joined_iff {ls : List (List Char)} (h : ∀ line ∈ ls, IsLine line) :
    splitLines (Service.unmarked (joined ['\n'] ls)) = ls ↔ Literal (joined ['\n'] ls) := by
  set text := joined ['\n'] ls with ht
  have whole : visible text = ls.flatten.length := by
    rw [visible, ← flatten_nonEmptyLines, ht, nonEmptyLines_joined h]
  constructor
  · intro same
    -- Equal lines show equally many characters, and both a mark and a literal lose one.
    have kept : visible (unwrapped (Service.unmarked text)) = visible text := by
      rw [whole, visible, ← flatten_nonEmptyLines]
      exact congrArg (List.length ∘ List.flatten) same
    have bound := visible_unwrapped_le (Service.unmarked text)
    have unmarked : text.head? ≠ some '\uFEFF' := by
      intro mark
      obtain ⟨rest, hr⟩ := List.head?_eq_some_iff.mp mark
      have shorter : visible text = 1 + visible (Service.unmarked text) := by
        rw [hr, visible_cons]
        rfl
      omega
    rw [Service.unmarked_of_head unmarked] at kept
    exact ⟨unmarked, decode_of_visible_unwrapped (Nat.le_of_eq kept.symm)⟩
  · rintro ⟨unmarked, plain⟩
    rw [Service.unmarked_of_head unmarked, splitLines, unwrapped, plain, Option.getD_none, ht,
      nonEmptyLines_joined h]

theorem lines_of_carries {received : Service.Request} {sent : Http.Request} {url : String}
    {rest : List String} (h : received.Carries sent)
    (posted : Verbs.Http.request ⟨.post, url, []⟩ (join rest) = .ok sent) :
    lines (Service.script received sent.body) =
      (splitLines (Service.unmarked (joined ['\n'] (rest.map String.toList)))).map String.ofList := by
  rw [h.script posted, lines, String.toList_ofList, toList_join]

theorem lines_of_carries_iff {received : Service.Request} {sent : Http.Request} {url : String}
    {rest : List String} (h : received.Carries sent)
    (posted : Verbs.Http.request ⟨.post, url, []⟩ (join rest) = .ok sent)
    (keeps : ∀ line ∈ rest, IsLine line.toList) :
    lines (Service.script received sent.body) = rest ↔ Literal (join rest).toList := by
  have characters : ∀ line ∈ rest.map String.toList, IsLine line := by
    intro line hl
    obtain ⟨s, hs, rfl⟩ := List.mem_map.mp hl
    exact keeps s hs
  have back : (rest.map String.toList).map String.ofList = rest := by simp
  rw [toList_join, ← splitLines_joined_iff characters, lines_of_carries h posted]
  constructor
  · intro same
    have there := congrArg (List.map String.toList) same
    simpa using there
  · intro same
    rw [same, back]

end Script

/-- The peer of a POST finds the lines behind it just if their text begins
with no byte order mark and is no string literal of JSON. -/
theorem Interpreter.forwarded_lines_iff (limit : Span) (body : String) (front rest : List String)
    (line url : String) (inbound : Inbound) (w : World) (sent : Http.Request)
    (followed : List Event) (received : Service.Request)
    (script : Script.lines body = front ++ line :: rest)
    (post : Script.Command.parse line = some ⟨"HTTP", ["POST", url]⟩)
    (logged : ((⟨Verbs.builtin, limit⟩ : Interpreter World).executeLine line
      ⟨rest, inbound⟩ w).2.events = w.events ++ .request sent :: followed)
    (arrived : received.Carries sent) :
    let text := (Script.join rest).toList
    sent.body = Utf8.bytes (Script.join rest) ∧
    sent.fields.values "content-type" = ["text/plain; charset=utf-8"] ∧
    (∀ maxBody, sent.body.length ≤ maxBody → Service.readBody maxBody received = .ok sent.body) ∧
    (Script.lines (Service.script received sent.body) = rest ↔
      text.head? ≠ some '\uFEFF' ∧ Script.JsonString.decode? (trimmed text) = none) := by
  intro text
  have posted := Verbs.Http.request_of_logged post logged
  obtain ⟨-, bytes, login, known, fields⟩ := Verbs.Http.request_post posted
  have types : sent.fields.values "content-type" = ["text/plain; charset=utf-8"] := by
    rw [fields]
    rcases known with rfl | ⟨user, password, rfl⟩ <;> rfl
  have keeps : ∀ l ∈ rest, Script.IsLine l.toList := by
    intro l hl
    have member : l ∈ Script.lines body := by simp [script, hl]
    exact Script.isLine_of_mem_lines member
  refine ⟨bytes, types, fun maxBody fits => arrived.readBody fits, ?_⟩
  exact Script.lines_of_carries_iff arrived posted keeps

theorem Interpreter.forwarded_lines_of_quoted_line :
    let body := "HTTP POST http://[::1]/api/commands\n\"INFO HOSTNAME\""
    let line := "HTTP POST http://[::1]/api/commands"
    let rest := ["\"INFO HOSTNAME\""]
    let sent : Http.Request := ⟨.post, ⟨"http", "", none, some (.v6 [0, 0, 0, 0, 0, 0, 0, 1]), none,
      false, .segments ["api".toList, "commands".toList], none, none⟩,
      [Verbs.Http.userAgent, Verbs.Http.scriptType], Utf8.bytes "\"INFO HOSTNAME\""⟩
    let received : Service.Request := ⟨"POST", "/api/commands",
      [⟨"Content-Type", Utf8.bytes "text/plain; charset=utf-8"⟩],
      [Utf8.bytes "\"INFO HOST", Utf8.bytes "NAME\""], none, none⟩
    Script.lines body = line :: rest ∧
    Script.Command.parse line = some ⟨"HTTP", ["POST", "http://[::1]/api/commands"]⟩ ∧
    ((⟨Verbs.builtin, .ofSeconds 100⟩ : Interpreter World).executeLine line
      ⟨rest, .empty⟩ .still).2.events = World.still.events ++ [.request sent] ∧
    received.Carries sent ∧
    Service.readBody 1000 received = .ok sent.body ∧
    Script.lines (Service.script received sent.body) ≠ rest := by
  intro body line rest sent received
  have script : Script.lines body = [] ++ line :: rest := by decide
  have post : Script.Command.parse line =
      some ⟨"HTTP", ["POST", "http://[::1]/api/commands"]⟩ := by decide
  have logged : ((⟨Verbs.builtin, .ofSeconds 100⟩ : Interpreter World).executeLine line
      ⟨rest, .empty⟩ .still).2.events = World.still.events ++ [.request sent] := by
    have made : Verbs.Http.request ⟨.post, "http://[::1]/api/commands", []⟩
        (⟨rest, .empty⟩ : Context).remainderScript = .ok sent := by decide
    have executed := Verbs.Http.execute_post made .still
    have unanswered : (World.still.exchange sent).1 = .closed := by rfl
    rw [Http.run_send, unanswered] at executed
    simp only [Interpreter.executeLine, post, executed]
    exact World.exchange_events .still sent
  have arrived : received.Carries sent := ⟨by decide, by decide, by decide, by decide, by decide⟩
  obtain ⟨-, -, read, same⟩ := forwarded_lines_iff (.ofSeconds 100) body [] rest line _ .empty
    .still sent [] received script post logged arrived
  refine ⟨script, post, logged, arrived, read 1000 (by decide), fun h => ?_⟩
  have plain := (same.mp h).2
  exact absurd plain (by decide)

end HopProbe
