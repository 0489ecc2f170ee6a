import HopProbe.Proofs.Run.Steps
import HopProbe.Proofs.World.Change
import HopProbe.Service.Router
import HopProbe.Verbs.Builtin

/-!
# A posted body is read before anything runs

The pieces of a body are counted as they come, and the count is refused as
soon as it passes the limit. What is found that way depends on the bytes alone
and not on how they were cut: too many of them, a stream that broke off, or
the body. Only a body is run.
-/

set_option autoImplicit false

namespace HopProbe.Service

/-- Counting piece by piece finds what one look at all pieces would. -/
theorem collect_eq (room : Nat) (broken : Option String) (taken chunks : List (List UInt8)) :
    collect room broken taken chunks =
      if room < chunks.flatten.length then .error .tooLong
      else match broken with
        | some detail => .error (.broken detail)
        | none => .ok (taken.reverse.flatten ++ chunks.flatten) := by
  induction chunks generalizing room taken with
  | nil => cases broken <;> simp [collect]
  | cons chunk rest ih =>
    rw [collect, List.flatten_cons, List.length_append]
    by_cases fits : chunk.length ≤ room
    · have later : room - chunk.length < rest.flatten.length ↔
          room < chunk.length + rest.flatten.length := by omega
      rw [if_pos fits, ih]
      simp only [later, List.reverse_cons, List.flatten_append, List.flatten_singleton,
        List.append_assoc]
    · have long : room < chunk.length + rest.flatten.length := by omega
      rw [if_neg fits, if_pos long]

theorem readBody_eq (limit : Nat) (r : Request) :
    readBody limit r =
      if limit < r.chunks.flatten.length then .error .tooLong
      else match r.broken with
        | some detail => .error (.broken detail)
        | none => .ok r.chunks.flatten :=
  collect_eq limit r.broken [] r.chunks

variable (s : Service) (clock : Clock) (r : Request) (w : World)

def Request.Posts (r : Request) : Prop := r.path = "/api/commands" ∧ r.method = "POST"

theorem respond_of_posts {r : Request} (h : r.Posts) :
    s.respond clock r w = s.runCommands clock r w := by
  obtain ⟨path, method⟩ := h
  have route : Route.ofPath? r.path = some .commands := by rw [path]; rfl
  simp only [respond, route, method, if_true]

theorem ofPath?_eq_commands {path : String} (h : Route.ofPath? path = some .commands) :
    path = "/api/commands" := by
  unfold Route.ofPath? at h
  split at h
  · rfl
  · cases h
  · cases h

theorem respond_of_not_posts {r : Request} (h : ¬ r.Posts) :
    ∃ response, ∀ interpreter,
      Service.respond { s with interpreter } clock r w = (response, w) := by
  cases route : Route.ofPath? r.path with
  | none => exact ⟨s.elsewhere r w, fun interpreter => by simp only [respond, route, elsewhere]⟩
  | some found =>
    cases found with
    | health => exact ⟨health r, fun interpreter => by simp only [respond, route]⟩
    | commands =>
      have other : r.method ≠ "POST" := fun method => h ⟨ofPath?_eq_commands route, method⟩
      exact ⟨.methodNotAllowed "POST", fun interpreter => by simp only [respond, route, if_neg other]⟩

theorem runCommands_of_tooLong (h : s.maxBody < r.chunks.flatten.length) :
    s.runCommands clock r w =
      (.plainText 413 "failed to read body: length limit exceeded", w) := by
  have read : readBody s.maxBody r = .error .tooLong := by rw [readBody_eq, if_pos h]
  simp only [runCommands, read]
  rfl

theorem runCommands_of_broken (h : r.chunks.flatten.length ≤ s.maxBody) {detail : String}
    (broken : r.broken = some detail) :
    s.runCommands clock r w = (.plainText 400 ("failed to read body: " ++ detail), w) := by
  have read : readBody s.maxBody r = .error (.broken detail) := by
    rw [readBody_eq, if_neg (Nat.not_lt.mpr h), broken]
  simp only [runCommands, read]
  rfl

theorem runCommands_of_read (h : r.chunks.flatten.length ≤ s.maxBody) (whole : r.broken = none) :
    let lines := Script.lines (script r r.chunks.flatten)
    s.runCommands clock r w =
      (.plainText 200 (s.interpreter.answer clock r.inbound lines w),
        (s.interpreter.runLines clock r.inbound lines w).world) := by
  have read : readBody s.maxBody r = .ok r.chunks.flatten := by
    rw [readBody_eq, if_neg (Nat.not_lt.mpr h), whole]
  simp only [runCommands, read, Interpreter.run_eq]

theorem runCommands_cut (chunks : List (List UInt8)) (h : chunks.flatten = r.chunks.flatten) :
    s.runCommands clock { r with chunks } w = s.runCommands clock r w := by
  have read : readBody s.maxBody { r with chunks } = readBody s.maxBody r := by
    rw [readBody_eq, readBody_eq, h]
  simp only [runCommands, read]
  rfl

theorem respond_cut (chunks : List (List UInt8)) (h : chunks.flatten = r.chunks.flatten) :
    s.respond clock { r with chunks } w = s.respond clock r w := by
  have path : Request.path { r with chunks } = r.path := rfl
  unfold respond
  rw [path]
  cases Route.ofPath? r.path with
  | none => rfl
  | some found =>
    cases found with
    | health => rfl
    | commands =>
      dsimp only
      rw [runCommands_cut s clock r w chunks h]

/-- Where no body is read, nothing runs: the answer is the same with any interpreter. -/
theorem respond_unread (h : ¬ r.Posts ∨ s.maxBody < r.chunks.flatten.length ∨ r.broken.isSome) :
    ∃ response, ∀ interpreter,
      Service.respond { s with interpreter } clock r w = (response, w) := by
  by_cases posts : r.Posts
  · by_cases long : s.maxBody < r.chunks.flatten.length
    · refine ⟨.plainText 413 "failed to read body: length limit exceeded", fun interpreter => ?_⟩
      have refused := runCommands_of_tooLong { s with interpreter } clock r w long
      exact (respond_of_posts _ clock w posts).trans refused
    · have fits : r.chunks.flatten.length ≤ s.maxBody := Nat.not_lt.mp long
      have broke : r.broken.isSome := (h.resolve_left (not_not_intro posts)).resolve_left long
      obtain ⟨detail, broken⟩ := Option.isSome_iff_exists.mp broke
      refine ⟨.plainText 400 ("failed to read body: " ++ detail), fun interpreter => ?_⟩
      have refused := runCommands_of_broken { s with interpreter } clock r w fits broken
      exact (respond_of_posts _ clock w posts).trans refused
  · exact respond_of_not_posts s clock w posts

theorem status_of_posts {r : Request} (posts : r.Posts) :
    (s.respond clock r w).1.status =
      if s.maxBody < r.chunks.flatten.length then 413 else if r.broken.isSome then 400 else 200 := by
  rw [respond_of_posts s clock w posts]
  by_cases long : s.maxBody < r.chunks.flatten.length
  · rw [runCommands_of_tooLong s clock r w long, if_pos long]
    rfl
  · have fits : r.chunks.flatten.length ≤ s.maxBody := Nat.not_lt.mp long
    rw [if_neg long]
    cases broken : r.broken with
    | some detail =>
      rw [runCommands_of_broken s clock r w fits broken]
      rfl
    | none =>
      rw [runCommands_of_read s clock r w fits broken]
      rfl

/-- A posted body that is longer than the limit is answered by 413, else one
that broke off by 400, else the transcript of its script is the answer. Only
this last answer runs anything: all others leave the world as it is and would
be the same with any interpreter. -/
theorem respond_by_delivered_bytes (s : Service) (clock : Clock) (r : Request) (w : World) :
    let delivered := r.chunks.flatten
    let answer := s.respond clock r w
    (r.Posts →
      (answer.1.status = 413 ↔ s.maxBody < delivered.length) ∧
      (delivered.length ≤ s.maxBody → (answer.1.status = 400 ↔ r.broken.isSome)) ∧
      (delivered.length ≤ s.maxBody → r.broken = none →
        let lines := Script.lines (String.ofList (decodeBody r.contentType? delivered))
        let run := s.interpreter.runLines clock r.inbound lines w
        answer =
          (.plainText 200 (if lines = [] then "-" else run.transcript.render), run.world))) ∧
    (∀ chunks, chunks.flatten = delivered → s.respond clock { r with chunks } w = answer) ∧
    (¬ r.Posts ∨ answer.1.status = 413 ∨ answer.1.status = 400 → answer.2 = w ∧
      ∀ interpreter, Service.respond { s with interpreter } clock r w = answer) := by
  intro delivered answer
  refine ⟨?_, respond_cut s clock r w, ?_⟩
  · intro posts
    have status := status_of_posts s clock w posts
    refine ⟨?_, ?_, ?_⟩
    · rw [status]
      split
      · rename_i long
        exact iff_of_true rfl long
      · rename_i short
        refine iff_of_false ?_ short
        split <;> decide
    · intro fits
      rw [status, if_neg (Nat.not_lt.mpr fits)]
      split
      · rename_i broke
        exact iff_of_true rfl broke
      · rename_i whole
        exact iff_of_false (by decide) whole
    · intro fits whole
      exact (respond_of_posts s clock w posts).trans (runCommands_of_read s clock r w fits whole)
  · intro unread
    have refused : ¬ r.Posts ∨ s.maxBody < delivered.length ∨ r.broken.isSome := by
      by_cases posts : r.Posts
      · right
        by_contra read
        rw [not_or] at read
        have status := status_of_posts s clock w posts
        rw [if_neg read.1, if_neg read.2] at status
        rw [status] at unread
        exact absurd posts (unread.resolve_right (by decide))
      · exact Or.inl posts
    obtain ⟨response, all⟩ := respond_unread s clock r w refused
    have own : answer = (response, w) := all s.interpreter
    rw [own]
    exact ⟨rfl, all⟩

/-- A body of just the limit in two pieces, one that breaks off there, and one that goes on. -/
theorem respond_at_the_limit :
    let s : Service := ⟨⟨Verbs.builtin, .ofSeconds 100⟩, 6, none⟩
    let post := fun chunks broken =>
      s.respond (fun _ => 7) ⟨"POST", "/api/commands", [], chunks, broken, none⟩ .still
    let front := Text.Utf8.bytes "FI"
    let back := Text.Utf8.bytes "LE x"
    (post [front, back] none).1 = .plainText 200
      "-> Start: FILE x\nERROR: FILE: missing argument <path>\n<- End: FILE x 0.07ms\n" ∧
    ((post [front ++ back] (some "reset")).1.status = 400 ∧
      (post [front ++ back] (some "reset")).2 = .still) ∧
    (post [front, back, [10]] (some "reset")).1.status = 413 ∧
      (post [front, back, [10]] (some "reset")).2 = .still := by
  intro s post front back
  have answers (chunks : List (List UInt8)) (broken : Option String) :=
    respond_by_delivered_bytes s (fun _ => 7)
      ⟨"POST", "/api/commands", [], chunks, broken, none⟩ .still
  have posts (chunks : List (List UInt8)) (broken : Option String) :
      Request.Posts ⟨"POST", "/api/commands", [], chunks, broken, none⟩ := by
    have path : String.ofList (Target.ofText "/api/commands").path = "/api/commands" := by
      decide +kernel
    exact ⟨path, rfl⟩
  have broke : (post [front ++ back] (some "reset")).1.status = 400 :=
    (((answers _ _).1 (posts _ _)).2.1 (by decide)).mpr rfl
  have long : (post [front, back, [10]] (some "reset")).1.status = 413 :=
    ((answers _ _).1 (posts _ _)).1.mpr (by decide)
  refine ⟨?_, ⟨broke, ((answers _ _).2.2 (.inr (.inr broke))).1⟩, long,
    ((answers _ _).2.2 (.inr (.inl long))).1⟩
  have ran := ((answers [front, back] none).1 (posts _ _)).2.2 (by decide) rfl
  show (s.respond _ _ _).1 = _
  rw [ran]
  exact congrArg (Response.plainText 200) (by decide +kernel)

end HopProbe.Service
