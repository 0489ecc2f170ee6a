import HopProbe.Proofs.Run.Block
import HopProbe.Proofs.Run.Composition
import HopProbe.Proofs.Script.Scan
import HopProbe.Proofs.Verbs.Misuse
import HopProbe.Proofs.Verbs.Relayed

/-!
# Failures in a transcript

A failed step prints its failure behind `ERROR: ` between its two markers. The
failure takes one row, unless it relays a text in which a line ends: what a
blob service answers when it refuses, what a store or an engine says, a version
of a protocol that a URL names, or a label whose escapes stand for a line break.
-/

set_option autoImplicit false

namespace HopProbe
open HopProbe.Text

theorem Span.oneLine_text (t : Span) : OneLine t.text := by
  have decimal (whole places fraction : Nat) : Printable (Span.decimal whole places fraction) := by
    have digits : Printable (Span.padded places fraction) :=
      printable_append.mpr ⟨printable_replicate (by decide) _, printable_decimal fraction⟩
    have shown : Printable (Span.trimZeros (Span.padded places fraction)) :=
      digits.sublist (dropEndWhile_sublist _ _)
    unfold Span.decimal
    dsimp only
    split
    · simp
    · exact printable_append.mpr ⟨printable_decimal whole, printable_cons.mpr ⟨by decide, shown⟩⟩
  refine Printable.oneLine ?_
  rw [Span.text, String.toList_ofList]
  split_ifs <;> refine printable_append.mpr ⟨?_, by decide⟩
  · exact decimal _ _ _
  · exact decimal _ _ _
  · exact decimal _ _ _
  · exact printable_decimal _

theorem Script.oneLine_args {line : String} {command : Script.Command}
    (parsed : Script.Command.parse line = some command) (h : OneLine line) :
    ∀ arg ∈ command.args, OneLine arg := by
  have words : ∀ word ∈ Script.tokenize line, OneLine word := by
    intro word there hc
    obtain ⟨token, inside, rfl⟩ := List.mem_map.mp there
    rw [String.toList_ofList] at hc
    exact h (Script.mem_of_mem_token inside hc (by decide))
  unfold Script.Command.parse at parsed
  split at parsed
  · cases parsed
  · next verb args cut =>
    cases parsed
    intro arg there
    exact words arg (by simp [cut, there])

namespace Verbs

section
variable {command : Script.Command} {w : World} {α : Type}

theorem worded_probe {p : Probe} (phases : p.Phases α)
    (misuse : Errs UsageError.Brief (phases.read command.args)) (context : Context)
    (faults : ∀ action, phases.read command.args = .ok action →
      Effect.Faults (Told w command) w (phases.perform action context))
    (sound : ∀ action, Effect.NoMisuse (phases.perform action context)) {error : StepError}
    (failed : (p.execute command.args context w).1 = .failed error) :
    Worded w command error.message := by
  cases read : phases.read command.args with
  | error e =>
    rw [phases.execute_of_read_error read] at failed
    cases failed
    exact Or.inl (misuse e read)
  | ok action =>
    rw [phases.execute_of_read_ok read] at failed
    obtain ⟨cause, rfl, told⟩ := Effect.outcome_failed (faults action read) (sound action) failed
    exact told

theorem mem_of_argument {verb : Verb} {args : List String} {position : Nat} {name arg : String}
    (h : argument verb args position name = .ok arg) : arg ∈ args :=
  List.mem_of_getElem? (getElem?_of_argument h)

theorem Tcp.host_of_read {args : List String} {action : Tcp.Action} (h : Tcp.read args = .ok action) :
    action.host ∈ args := by
  obtain ⟨host, first, h⟩ := bind_eq_ok h
  obtain ⟨word, -, h⟩ := bind_eq_ok h
  obtain ⟨port, -, h⟩ := bind_eq_ok h
  cases h
  exact mem_of_argument first

theorem NsLookup.name_of_read {args : List String} {action : NsLookup.Action}
    (h : NsLookup.read args = .ok action) : args.head? = some action.name := by
  obtain ⟨name, first, h⟩ := bind_eq_ok h
  rw [List.head?_eq_getElem?, getElem?_of_argument first]
  split at h
  · obtain ⟨server, -, h⟩ := bind_eq_ok h
    cases h
    rfl
  · cases h
    rfl

theorem Redis.target_of_read {args : List String} {action : Redis.Action}
    (h : Redis.read args = .ok action) :
    args[1]? = some action.key ∧ action.endpoint ∈ args := by
  obtain ⟨word, -, h⟩ := bind_eq_ok h
  obtain ⟨key, second, h⟩ := bind_eq_ok h
  have named := getElem?_of_argument second
  unfold Redis.readOperation at h
  split_ifs at h
  · cases given : argument .redis args 2 "endpoint" with
    | error e =>
      rw [given] at h
      cases h
    | ok endpoint =>
      rw [given] at h
      cases h
      exact ⟨named, mem_of_argument given⟩
  · obtain ⟨value, -, h⟩ := bind_eq_ok h
    obtain ⟨endpoint, given, h⟩ := bind_eq_ok h
    cases h
    exact ⟨named, mem_of_argument given⟩

/-- Each verb words its failures in one line or relays a text. -/
theorem worded_builtin {v : Verb} (verb : command.verb = v.name)
    (flat : ∀ arg ∈ command.args, OneLine arg) (context : Context) {error : StepError}
    (failed : ((builtinHandler v).execute command.args context w).1 = .failed error) :
    Worded w command error.message := by
  have brief {e : Effect String} (h : Effect.Faults Fault.Brief w e) :
      Effect.Faults (Told w command) w e := h.mono fun _ => Or.inl
  cases v with
  | http =>
    refine worded_probe Http.phases (Http.errs_read _) context (fun action _ => ?_)
      (fun action => Http.noMisuse_perform action context) failed
    exact brief (Http.faults_perform action context w)
  | tcp =>
    refine worded_probe Tcp.phases (Tcp.errs_read _) context (fun action read => ?_)
      (fun action => Tcp.noMisuse_perform action context) failed
    exact brief (Tcp.faults_perform (flat _ (Tcp.host_of_read read)) context w)
  | blob =>
    refine worded_probe Blob.phases (Blob.errs_read _) context (fun action _ => ?_)
      (fun action => Blob.noMisuse_perform action context) failed
    exact Blob.faults_perform verb action context
  | file =>
    refine worded_probe File.phases (File.errs_read _) context (fun action _ => ?_)
      (fun action => File.noMisuse_perform action context) failed
    exact brief (File.faults_perform action context w)
  | redis =>
    refine worded_probe Redis.phases (Redis.errs_read _) context (fun action read => ?_)
      (fun action => Redis.noMisuse_perform action context) failed
    obtain ⟨key, endpoint⟩ := Redis.target_of_read read
    exact Redis.faults_perform verb key endpoint context
  | sql =>
    refine worded_probe Sql.phases (Sql.errs_read _) context (fun action read => ?_)
      (fun action => Sql.noMisuse_perform action context) failed
    obtain ⟨more, args⟩ := Sql.read_eq_ok_iff.mp read
    exact Sql.faults_perform verb args (flat _ (by simp [args])) context
  | iplookup =>
    refine worded_probe IpLookup.phases (errs_argument _ _ _ (by decide)) context
      (fun host read => ?_) (fun action => IpLookup.noMisuse_perform action context) failed
    exact brief (IpLookup.faults_perform (flat host (mem_of_argument read)) context w)
  | nslookup =>
    refine worded_probe NsLookup.phases (NsLookup.errs_read _) context (fun action read => ?_)
      (fun action => NsLookup.noMisuse_perform action context) failed
    have first := NsLookup.name_of_read read
    exact NsLookup.faults_perform verb first (flat _ (List.mem_of_head? first)) context
  | info =>
    refine worded_probe Info.phases (errs_ok _) context (fun action _ => ?_)
      (fun action => Info.noMisuse_perform action context) failed
    exact brief (Info.faults_perform action context w)
  | header =>
    exact worded_probe Inbound.headerPhases (errs_ok _) context (fun _ _ => Effect.faults_pure _)
      (fun _ => Effect.noMisuse_pure _) failed
  | connection =>
    exact worded_probe Inbound.connectionPhases (errs_ok _) context
      (fun _ _ => Effect.faults_pure _) (fun _ => Effect.noMisuse_pure _) failed

end

end Verbs

namespace Step

theorem printed_failure {s : Step} {detail : String} (failed : s.outcome = .failure detail) :
    s.printed = pieces '\n' ("ERROR: " ++ detail).toList := by
  have shown : s.outcome.shown = "ERROR: " ++ detail := by rw [failed, Outcome.shown]
  rw [printed, shown, if_neg (by simp)]

theorem length_rows_failure {s : Step} {detail : String} (failed : s.outcome = .failure detail)
    (elapsed : Elapsed) : (s.rows elapsed).length = 3 ↔ OneLine detail := by
  have front : OneLine "ERROR: " := by decide
  have count : (s.rows elapsed).length = s.printed.length + 2 := by simp [rows]
  have one := length_pieces_eq_one_iff '\n' ("ERROR: " ++ detail).toList
  rw [count, printed_failure failed, ← oneLine_front front, OneLine, ← one]
  omega

end Step

namespace Interpreter
open Verbs

/-- A step that fails does so by a handler, or because it got no answer in time. -/
theorem worded_executeLine (limit : Span) {line : String} (h : OneLine line) {context : Context}
    {w : World} {detail : String}
    (failed : ((⟨builtin, limit⟩ : Interpreter World).executeLine line context w).1 =
      .failure detail) :
    ∃ command, Script.Command.parse line = some command ∧ Worded w command detail := by
  cases parsed : Script.Command.parse line with
  | none =>
    rw [executeLine, parsed] at failed
    cases failed
  | some command =>
    refine ⟨command, rfl, ?_⟩
    cases named : Verb.ofName? command.verb with
    | none =>
      simp only [executeLine, parsed, Registry.execute, Registry.resolve, named] at failed
      cases failed
    | some v =>
      have verb := Verb.name_of_ofName? named
      rw [executeLine_builtin limit parsed verb.symm] at failed
      dsimp only at failed
      cases attempt : ((builtinHandler v).execute command.args context w).1 with
      | finished text =>
        rw [attempt] at failed
        cases failed
      | failed error =>
        rw [attempt] at failed
        cases failed
        exact worded_builtin verb.symm (Script.oneLine_args parsed h) context attempt
      | unanswered =>
        rw [attempt] at failed
        cases failed
        exact Or.inl ((oneLine_front (by decide) _).mpr limit.oneLine_text)

/-- A step that fails shows its failure in one row between the markers just if every text that
the failure relays is one line. -/
theorem failure_shown (limit : Span) (clock : Clock) (request : Inbound) (body : String)
    (world : World) {j : Nat} {s : Step} {detail : String}
    (there : ((⟨builtin, limit⟩ : Interpreter World).steps request (Script.lines body) world)[j]? =
      some s)
    (failed : s.outcome = .failure detail) :
    ∃ before command,
      ((⟨builtin, limit⟩ : Interpreter World).starts request (Script.lines body) world)[j]? =
        some before ∧
      Script.Command.parse s.line = some command ∧
      ((⟨builtin, limit⟩ : Interpreter World).runLines clock request (Script.lines body)
        world).transcript.blocks[j]? = some (s.block (clock j)) ∧
      (∀ rest, pieces '\n' ((s.block (clock j)).toList ++ rest) =
        s.rows (clock j) ++ pieces '\n' rest) ∧
      s.printed = pieces '\n' ("ERROR: " ++ detail).toList ∧
      ((s.rows (clock j)).length = 3 ↔ s.printed = [("ERROR: " ++ detail).toList]) ∧
      ((s.rows (clock j)).length = 3 ↔ ∀ text, Relays before command detail text → OneLine text) ∧
      (command.verb ∉ relaying → (s.rows (clock j)).length = 3) := by
  obtain ⟨before, began, inside, outcome⟩ := Interpreter.step_eq _ there
  have flat : OneLine s.line := Script.newline_not_mem
    (Script.isLine_of_mem_lines (List.mem_of_getElem? inside))
  obtain ⟨command, parsed, worded⟩ := worded_executeLine limit flat (outcome ▸ failed)
  have printed := Step.printed_failure failed
  have three := Step.length_rows_failure failed (clock j)
  refine ⟨before, command, began, parsed, Interpreter.runLines_block _ clock request _ world there,
    Step.pieces_block flat (clock j), printed, ?_, ?_, ?_⟩
  · have count : (s.rows (clock j)).length = s.printed.length + 2 := by simp [Step.rows]
    constructor
    · intro all
      rw [printed]
      exact pieces_of_not_mem ((oneLine_front (by decide) detail).mpr (three.mp all))
    · intro one
      rw [count, one]
      rfl
  · exact three.trans worded.oneLine_iff
  · exact fun other => three.mpr (worded.oneLine other)

theorem failure_shown_of_two_lines :
    let world : World := { World.still with peers :=
      [⟨fun _ => true, fun _ => .response ⟨403, [], Utf8.bytes "no\nway", true⟩, false⟩] }
    ∃ s detail, ((⟨builtin, .ofSeconds 10⟩ : Interpreter World).steps .empty
        (Script.lines "BLOB GET c b http://[::1]") world)[0]? = some s ∧
      s.outcome = .failure detail ∧ (s.rows 0).length ≠ 3 ∧ s.printed =
        ["ERROR: blob store error: create container returned 403 Forbidden: no".toList,
          "way".toList] := by
  intro world
  have there : ((⟨builtin, .ofSeconds 10⟩ : Interpreter World).steps .empty
      (Script.lines "BLOB GET c b http://[::1]") world)[0]? = some ⟨"BLOB GET c b http://[::1]",
        .failure "blob store error: create container returned 403 Forbidden: no\nway"⟩ := by
    decide +kernel
  obtain ⟨before, command, -, -, -, -, printed, three, -⟩ :=
    failure_shown (.ofSeconds 10) (fun _ => 0) .empty _ world there rfl
  refine ⟨_, _, there, rfl, fun all => ?_, printed⟩
  have one := congrArg List.length (printed.symm.trans (three.mp all))
  exact absurd one (by decide)

end Interpreter
end HopProbe
