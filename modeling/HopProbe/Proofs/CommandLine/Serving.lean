import HopProbe.CommandLine.Program
import HopProbe.Proofs.CommandLine.Flags
import HopProbe.Proofs.Settings.Written
import HopProbe.Proofs.World.Paths

/-!
# The settings of the service

The service runs with what is loaded, but for the address and the port that
its options name, and only if that is fit for it.
-/

set_option autoImplicit false

namespace HopProbe.Program
open HopProbe.Text HopProbe.CommandLine HopProbe.Toml

/-- The service starts with some settings. -/
structure Serves (s : Settings) (w : World) (outcome : Ending × World) : Prop where
  fit : s.Fit
  listens : w.canListen s.bind = true
  same : outcome = (.serving (s.bind ++ ":" ++ toString s.port) (s.service w.files), w)

theorem perform_serve_iff {clock : Clock} {input : List UInt8} {s : Settings} {w : World}
    {host : Option String} {port : Option Nat} {outcome : Ending × World} :
    perform clock input s w (.serve host port) = .ok outcome ↔
      Serves (s.withListener host port) w outcome := by
  simp only [perform, listenerSettings]
  cases defect : (s.withListener host port).defect? with
  | some d =>
    refine iff_of_false nofun fun serves => ?_
    rw [(Settings.defect?_eq_none_iff _).mpr serves.fit] at defect
    cases defect
  | none =>
    have fit := (Settings.defect?_eq_none_iff _).mp defect
    simp only [serve, bind, Except.bind]
    cases listens : w.canListen (s.withListener host port).bind with
    | false =>
      refine iff_of_false nofun fun serves => ?_
      rw [serves.listens] at listens
      cases listens
    | true =>
      constructor
      · intro same
        exact ⟨fit, listens, (Except.ok.inj same).symm⟩
      · intro serves
        rw [serves.same]
        rfl

/-- Nothing else starts a service. -/
theorem serve_of_perform {clock : Clock} {input : List UInt8} {s : Settings} {w w' : World}
    {command : Command} {address : String} {service : Service}
    (h : perform clock input s w command = .ok (.serving address service, w')) :
    ∃ host port, command = .serve host port := by
  cases command with
  | serve host port => exact ⟨host, port, rfl⟩
  | run path =>
    simp only [perform, bind, Except.bind] at h
    split at h
    · cases h
    · cases h
  | verbs => cases h

theorem run_eq_serving_iff {clock : Clock} {words : List String} {input : List UInt8} {w w' : World}
    {address : String} {service : Service} :
    run clock words input w = (.serving address service, w') ↔
      ∃ config host port s, Invocation.parse words = .ok ⟨config, .serve host port⟩ ∧
        Settings.resolve w.files w.environment config = .ok s ∧
        Serves (s.withListener host port) w (.serving address service, w') := by
  rw [run]
  cases parsed : Invocation.parse words with
  | error stop =>
    refine iff_of_false (fun same => ?_) fun ⟨_, _, _, _, found, _⟩ => nomatch found
    cases stop <;> cases same
  | ok invocation =>
    obtain ⟨config, command⟩ := invocation
    cases loaded : Settings.resolve w.files w.environment config with
    | error e =>
      simp only [execute, loaded, Except.mapError, bind, Except.bind]
      refine iff_of_false nofun ?_
      rintro ⟨_, _, _, _, found, other, _⟩
      cases found
      rw [loaded] at other
      cases other
    | ok s =>
      have performed : execute clock input w ⟨config, command⟩ = perform clock input s w command := by
        rw [execute, loaded]
        rfl
      simp only [performed]
      constructor
      · intro same
        cases done : perform clock input s w command with
        | error why =>
          rw [done] at same
          cases same
        | ok outcome =>
          obtain ⟨ending, world⟩ := outcome
          rw [done] at same
          cases same
          obtain ⟨host, port, rfl⟩ := serve_of_perform done
          exact ⟨config, host, port, s, rfl, loaded, perform_serve_iff.mp done⟩
      · rintro ⟨config, host, port, s', found, loaded', serves⟩
        cases found
        rw [loaded] at loaded'
        cases loaded'
        rw [perform_serve_iff.mpr serves]

/-- The file that is named, or else the one in the usual place, is the one that is loaded. -/
theorem resolve_of_readFile {files : FileSystem} {path content : List UInt8}
    (there : files.readFile path = .ok content) {environment : Environment} {named : Option String}
    (meant : (named.map Utf8.bytes).or (Settings.usualPath? environment) = some path) :
    Settings.resolve files environment named = Settings.load files path := by
  cases named with
  | some named =>
    cases meant
    rw [Settings.resolve, if_pos (Settings.contains_of_readFile there)]
  | none =>
    replace meant : Settings.usualPath? environment = some path := meant
    rw [Settings.resolve, meant]

/-- Whatever is given can be written, and however it is written, it is loaded, with the defaults
where nothing is given, if that is fit for a service. The service uses it, but for what its
options say, and never starts with what is not fit. -/
theorem loaded_and_served {g : Settings.Given} (bounded : g.Bounded) :
    (∃ text, g.Written text) ∧
    (∀ files path text, files.readFile path = .ok (Utf8.encode text) → g.Written text →
      (∀ s, Settings.load files path = .ok s ↔ g.Agrees s ∧ s.Fit) ∧
      ∀ flags words, Asked flags words → ∀ clock input w w' address service, w.files = files →
        ((flags.findSome? Flag.config?).map Utf8.bytes).or (Settings.usualPath? w.environment) =
          some path →
          (run clock ("serve" :: words) input w = (.serving address service, w') ↔
            ∃ s, g.Agrees s ∧ s.Fit ∧ Serves
              { s with
                bind := (flags.findSome? Flag.bind?).getD s.bind
                port := (flags.findSome? Flag.port?).getD s.port }
              w (.serving address service, w'))) ∧
    ∀ clock words input w w' address service,
      run clock words input w = (.serving address service, w') →
        ∃ config host port s, Invocation.parse words = .ok ⟨config, .serve host port⟩ ∧
          Settings.resolve w.files w.environment config = .ok s ∧
          Serves { s with bind := host.getD s.bind, port := port.getD s.port }
            w (.serving address service, w') := by
  refine ⟨Settings.Given.exists_written bounded, fun files path text there written => ?_, ?_⟩
  · have loaded (s : Settings) : Settings.load files path = .ok s ↔ g.Agrees s ∧ s.Fit := by
      rw [Settings.load_eq_ok_iff there, written.ofText?_eq_some_iff bounded]
    refine ⟨loaded, fun flags words asked clock input w w' address service same meant => ?_⟩
    subst same
    rw [run_eq_serving_iff, parse_serve asked]
    constructor
    · rintro ⟨config, host, port, s, found, resolved, serves⟩
      cases found
      rw [resolve_of_readFile there meant, loaded] at resolved
      exact ⟨s, resolved.1, resolved.2, serves⟩
    · rintro ⟨s, agrees, fit, serves⟩
      refine ⟨_, _, _, s, rfl, ?_, serves⟩
      rw [resolve_of_readFile there meant, loaded]
      exact ⟨agrees, fit⟩
  · intro clock words input w w' address service served
    exact run_eq_serving_iff.mp served

theorem canListen_default (w : World) : w.canListen Settings.default.bind = true := by
  have host : World.withoutBrackets "0.0.0.0" = "0.0.0.0" := by decide +kernel
  have plain : "0.0.0.0".toList.contains '\x00' = false := by decide +kernel
  have parsed : IpAddress.parse? "0.0.0.0" = some (.v4 0 0 0 0) := by decide +kernel
  have addresses : w.addresses "0.0.0.0" = .ok [⟨.v4 0 0 0 0, 0⟩] := by
    rw [World.addresses, plain, if_neg Bool.false_ne_true, HostAddress.parse?, parsed]
    rfl
  rw [Settings.default, World.canListen, host, addresses]
  rfl

theorem readFile_f (content : List UInt8) :
    (FileSystem.bare.offer [Utf8.bytes "f"] (.file content)).readFile (Utf8.bytes "f") =
      .ok content :=
  FileSystem.readFile_alone (by decide +kernel) (by decide +kernel) (by decide +kernel)
    (by decide +kernel) (by decide +kernel) content

theorem loaded_and_served_of_hex_port :
    let clock : Clock := fun _ => 0
    let text := "port=0x1F_91 #\n[more]\nbind=1".toList
    let world : World := { World.still with
      files := FileSystem.bare.offer [Utf8.bytes "f"] (.file (Utf8.encode text)) }
    Settings.load world.files (Utf8.bytes "f") = .ok { Settings.default with port := 8081 } ∧
      ∃ service, run clock ["serve", "--config=f", "-p", "81"] [] world =
        (.serving "0.0.0.0:81" service, world) := by
  intro clock text world
  let g := Settings.Given.ofPort 8081
  have there : world.files.readFile (Utf8.bytes "f") = .ok (Utf8.encode text) := readFile_f _
  have spelt : text = "port".toList ++ '=' :: (['0', 'x', '1', 'F', '_', '9', '1'] ++ ' ' :: '#' ::
      '\n' :: '[' :: ("more".toList ++ ']' :: '\n' :: ("bind".toList ++ '=' :: (['1'] ++ [])))) := by
    decide +kernel
  have unmarked : withoutMark text = text := by rw [spelt]; decide +kernel
  have port : Number ['0', 'x', '1', 'F', '_', '9', '1'] 8081 :=
    .hex (.cons rfl (.apart rfl (.cons rfl (.last rfl))))
  have one : Number ['1'] 1 := .plain (.digit rfl)
  have key {name : String} (filled : name.toList ≠ []) (bare : name.toList.all isBareChar = true)
      (rest : List Char) : Dotted (name.toList ++ rest) ⟨[], name⟩ rest :=
    .last (.ofString filled bare rest)
  have doc : Lines text [some (.assign ⟨[], "port"⟩ (.integer 8081)), some (.table ⟨[], "more"⟩),
      some (.assign ⟨[], "bind"⟩ (.integer 1))] := by
    rw [spelt]
    exact .line (.none _)
      (.assign (.mk (key (by decide +kernel) (by decide +kernel) _) (.none _) (.none _)
        (.number port (by decide) _)))
      (.comment (.more (by decide) (.none _)) (.ends (.feed _)))
      (.line (.none _) (.table (.none _) (key (by decide +kernel) (by decide +kernel) _) (.none _))
        (.ends (.none _) (.feed _))
      (.line (.none _)
        (.assign (.mk (key (by decide +kernel) (by decide +kernel) _) (.none _) (.none _)
          (.number one (by decide) _)))
        (.last (.none _)) .none))
  have foreign : Foreign Settings.keys [] [.table ⟨[], "more"⟩, .assign ⟨[], "bind"⟩ (.integer 1)] :=
    ⟨by decide +kernel, by decide +kernel, trivial⟩
  have mixed : Mixed Settings.keys [some (.assign ⟨[], "port"⟩ (.integer 8081)),
      some (.table ⟨[], "more"⟩), some (.assign ⟨[], "bind"⟩ (.integer 1))] g.entries
      [.table ⟨[], "more"⟩, .assign ⟨[], "bind"⟩ (.integer 1)] :=
    .known (by decide +kernel) (readable 8081) (.rest foreign)
  have written : g.Written text := ⟨_, _, _, _, unmarked.symm ▸ doc, mixed, .refl _, rfl⟩
  have small : 8081 < twoTo 16 := by decide
  have agrees : g.Agrees { Settings.default with port := 8081 } := Settings.Given.ofPort_agrees small
  have fit := Settings.default_fit.withPort
  have named : (Flag.config "f").Words ["--config=f"] := by
    have same : "--config=f" = String.ofList ('-' :: '-' :: "config".toList ++ '=' :: "f".toList) := by
      decide +kernel
    rw [same]
    exact .long
  have numbered : (Flag.port 81).Words ["-p", "81"] := by
    have same : "-p" = String.ofList ['-', 'p'] := by decide +kernel
    rw [same]
    exact .shortApart rfl (by decide +kernel)
  have path : (Flag.config "f").Valid := by
    show "f" ≠ ""
    decide
  have number : (Flag.port 81).Valid := by
    show 81 < twoTo 16
    decide
  have asked : Asked [.config "f", .port 81] ["--config=f", "-p", "81"] :=
    ⟨.cons named (.cons numbered .nil),
      List.forall_mem_cons.mpr ⟨path, List.forall_mem_singleton.mpr number⟩, by decide⟩
  obtain ⟨-, written_iff, -⟩ := loaded_and_served (Settings.Given.ofPort_bounded small)
  obtain ⟨loaded, served⟩ := written_iff world.files (Utf8.bytes "f") text there written
  refine ⟨(loaded _).mpr ⟨agrees, fit 8081⟩,
    ({ Settings.default with port := 81 } : Settings).service world.files, ?_⟩
  have serves : Serves { Settings.default with port := 81 } world
      (.serving "0.0.0.0:81" (({ Settings.default with port := 81 } : Settings).service world.files),
        world) :=
    ⟨fit 81, canListen_default world, by rfl⟩
  exact (served _ _ asked clock [] world world _ _ rfl rfl).mpr ⟨_, agrees, fit 8081, serves⟩

/-- What else a document says can keep all of it from being loaded: no key may have more names than
a reader goes through. -/
theorem load_of_long_key :
    let path := List.replicate 80 "a"
    let text := (path.flatMap fun name => name.toList ++ ['.']) ++ "a=1\nport=9".toList
    let files := FileSystem.bare.offer [Utf8.bytes "f"] (.file (Utf8.encode text))
    let g := Settings.Given.ofPort 9
    let other : Statement := .assign ⟨path, "a"⟩ (.integer 1)
    files.readFile (Utf8.bytes "f") = .ok (Utf8.encode text) ∧
      Lines text [some other, some (.assign ⟨[], "port"⟩ (.integer 9))] ∧
      Mixed Settings.keys [some other, some (.assign ⟨[], "port"⟩ (.integer 9))] g.entries [other] ∧
      g.Bounded ∧ g.Agrees { Settings.default with port := 9 } ∧
      ({ Settings.default with port := 9 } : Settings).Fit ∧
      Settings.load files (Utf8.bytes "f") = .error (.malformed "f") := by
  intro path text files g other
  have bare : ∀ n ∈ "a" :: path, n.toList ≠ [] ∧ n.toList.all isBareChar = true := by
    decide +kernel
  have one : Number ['1'] 1 := .plain (.digit rfl)
  have nine : Number ['9'] 9 := .plain (.digit rfl)
  have spelt : text = (path.flatMap fun name => name.toList ++ ['.']) ++ ("a".toList ++ '=' ::
      (['1'] ++ '\n' :: ("port".toList ++ '=' :: (['9'] ++ [])))) := by
    decide +kernel
  have doc : Lines text [some other, some (.assign ⟨[], "port"⟩ (.integer 9))] := by
    rw [spelt]
    exact .line (.none _)
      (.assign (.mk (.ofStrings bare _) (.none _) (.none _) (.number one (by decide) _)))
      (.ends (.none _) (.feed _))
      (.line (.none _)
        (.assign (.mk (.last (.ofString (by decide +kernel) (by decide +kernel) _)) (.none _) (.none _)
          (.number nine (by decide) _)))
        (.last (.none _)) .none)
  have mixed : Mixed Settings.keys [some other, some (.assign ⟨[], "port"⟩ (.integer 9))] g.entries
      [other] := by
    have none : Foreign Settings.keys [] [] := trivial
    exact .foreign (by decide +kernel) _ (.known (by decide +kernel) (readable 9) (.rest none))
  have small : 9 < twoTo 16 := by decide
  have unmarked : withoutMark text = text := by decide +kernel
  have refused : Settings.ofText? text = none := by
    rw [Settings.ofText?, Table.ofText?, unmarked, doc.read]
    rfl
  exact ⟨readFile_f _, doc, mixed, Settings.Given.ofPort_bounded small,
    Settings.Given.ofPort_agrees small, Settings.default_fit.withPort 9,
    Settings.load_malformed (readFile_f _) refused⟩

end HopProbe.Program
