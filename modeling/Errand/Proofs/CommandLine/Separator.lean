import Errand.Proofs.CommandLine.Modes
import Errand.Proofs.CommandLine.Carrying
import Errand.Proofs.CommandLine.Written

/-! # The separator between options and a command

A `--` after written options begins the command, which keeps the `--` when the arguments are read
(`parse_separator`) and loses it when the command is run, once. What follows is not looked at, so it
may be any words, also ones that look like options or like the separator.

The main statement is `words_handed_over`: the program launches the words behind the separator once,
and the options before it decide how. Without words there is no command, and that is complained
about before anything else happens. -/

namespace Errand.CommandLine

/-! ### Reading the arguments -/

theorem parse_append (xs : List WrittenOption) (rest : List String) :
    Options.parse (xs.flatMap WrittenOption.arguments ++ rest) =
      (do Options.read (WrittenOption.options xs []) [] (← Token.ofArguments rest)) := by
  unfold Options.parse
  rw [WrittenOption.ofArguments_append]
  cases Token.ofArguments rest with
  | error e => rfl
  | ok tokens =>
    change Options.read {} [] (xs.flatMap WrittenOption.tokens ++ tokens) = _
    rw [WrittenOption.read_append, WrittenOption.foldl_apply]
    rfl

theorem parse_arguments (xs : List WrittenOption) :
    Options.parse (xs.flatMap WrittenOption.arguments) =
      .ok (.options (WrittenOption.options xs [])) := by
  have h := parse_append xs []
  rw [List.append_nil] at h
  rw [h]
  rfl

/-- Whatever follows the separator is the command, together with the separator. -/
theorem parse_separator (xs : List WrittenOption) (words : List String) :
    Options.parse (xs.flatMap WrittenOption.arguments ++ "--" :: words) =
      .ok (.options (WrittenOption.options xs ("--" :: words))) := by
  have ht : Token.ofArguments ("--" :: words) =
      .ok (("--", .separator) :: words.map fun w => (w, .word)) := rfl
  have hw : (words.map fun w => (w, Token.word)).map (·.1) = words := by
    rw [List.map_map]
    exact List.map_id words
  rw [parse_append, ht]
  change Options.read.finish { WrittenOption.options xs [] with
    command := "--" :: (words.map fun w => (w, Token.word)).map (·.1) } [] = _
  rw [hw]
  rfl

/-! ### Jobs and complaints -/

section Jobs
variable {settings : Settings} {least : Nat}

theorem leastWeight_eq (h : Log.threshold? settings.logLevel = some least) (verbose : Bool) :
    leastWeight verbose settings =
      .ok (if verbose || settings.debug then Log.Level.debug.weight else least) := by
  unfold leastWeight
  rw [h]
  split_ifs <;> rfl

/-- Options and a command make a job if the log level is one. -/
theorem exists_jobOf (h : Log.threshold? settings.logLevel = some least)
    (surroundings : List (String × String)) (o : Options) (command : List String) :
    ∃ j, jobOf settings surroundings o command = .ok j ∧ j.command = command ∧
      j.background = o.background ∧
      j.leastWeight = (if o.verbose || settings.debug then Log.Level.debug.weight else least) ∧
      Runner.configure (.ok settings) surroundings (configuration o) = .ok j.runner := by
  obtain ⟨r, hr, -⟩ := exists_configure settings surroundings o
  unfold jobOf
  rw [leastWeight_eq h, hr]
  exact ⟨_, rfl, rfl, rfl, rfl, rfl⟩

theorem plan_of_job {surroundings : List (String × String)} {arguments : List String}
    {o : Options} {j : Job} (hp : Options.parse arguments = .ok (.options o))
    (hc : commandOf o ≠ []) (hj : jobOf settings surroundings o (commandOf o) = .ok j) :
    plan (.ok settings) surroundings arguments = .ok (.job j) := by
  unfold plan
  rw [hp]
  dsimp only
  split
  · rename_i hn
    exact absurd hn hc
  · change (do return Plan.job (← jobOf settings surroundings o (commandOf o))) = _
    rw [hj]
    rfl

end Jobs

/-- Without a command the settings are not looked at. -/
theorem plan_of_noCommand (load : Except Fault Settings) (surroundings : List (String × String))
    {arguments : List String} {o : Options} (hp : Options.parse arguments = .ok (.options o))
    (hc : commandOf o = []) :
    plan load surroundings arguments = .ok (.complaint .noCommand) := by
  unfold plan
  rw [hp]
  dsimp only
  rw [hc]

theorem program_of_plan {load : Except Fault Settings} {surroundings : List (String × String)}
    {arguments : List String} {p : Plan} (h : plan load surroundings arguments = .ok p) :
    program load surroundings arguments = p.course (Help.columns surroundings) := by
  unfold program
  rw [h]
  rfl

/-- A complaint ends the program with code 2, and nothing but its text is left behind. -/
theorem perform_complaint {σ : Type} (w : World σ) (columns : Int) (e : UsageError) (s : Scene σ) :
    ((Plan.complaint e).course columns).perform w s =
      (.ok (.refused 2),
        { s with shown := .written "" (Help.complaint columns e) :: s.shown }) := rfl

/-! ### The main statement -/

/-- **The words behind the separator are the command.** The job of written options, a `--` and some
words is to run exactly these words, and the program does so, once: the last timeout, all exit
values in order, the way to run the command and how much is logged are those of the options. Options
without a command, with or without a `--`, are wrong, and nothing is launched or recorded. -/
theorem words_handed_over (settings : Settings) {least : Nat}
    (hl : Log.threshold? settings.logLevel = some least) (surroundings : List (String × String))
    (xs : List WrittenOption) {words : List String} (hw : words ≠ []) :
    let arguments := xs.flatMap WrittenOption.arguments
    let o := WrittenOption.options xs ("--" :: words)
    Options.parse (arguments ++ "--" :: words) = .ok (.options o) ∧
      (∃ j, jobOf settings surroundings o words = .ok j ∧
        program (.ok settings) surroundings (arguments ++ "--" :: words) = j.course ∧
        j.CarriesOut (program (.ok settings) surroundings (arguments ++ "--" :: words)) ∧
        j.command = words ∧
        Runner.configure (.ok settings) surroundings (configuration o) = .ok j.runner ∧
        j.background = xs.any (·.flag == .background) ∧
        j.leastWeight = if xs.any (·.flag == .verbose) || settings.debug then
          Log.Level.debug.weight else least) ∧
      ∀ bare ∈ [arguments, arguments ++ ["--"]], ∀ (load : Except Fault Settings) (σ : Type)
        (w : World σ) (s : Scene σ),
        let (exit, t) := (program load surroundings bare).perform w s
        exit = .ok (.refused 2) ∧ t.launches = s.launches ∧ t.metrics = s.metrics := by
  intro arguments o
  have hp : Options.parse (arguments ++ "--" :: words) = .ok (.options o) :=
    parse_separator xs words
  refine ⟨hp, ?_, ?_⟩
  · obtain ⟨j, hj, hc, hb, hv, hr⟩ := exists_jobOf hl surroundings o words
    have hplan : plan (.ok settings) surroundings (arguments ++ "--" :: words) = .ok (.job j) :=
      plan_of_job hp hw hj
    have hcourse := program_of_plan hplan
    refine ⟨j, hj, hcourse, ?_, hc, hr, hb, hv⟩
    rw [hcourse]
    exact j.carriesOut_course (by rwa [hc]) (directory_of_configure hr)
      (environment_of_configure hr)
  · intro bare hbare load σ w s
    have hplan : plan load surroundings bare = .ok (.complaint .noCommand) := by
      simp only [List.mem_cons, List.not_mem_nil, or_false] at hbare
      rcases hbare with rfl | rfl
      · exact plan_of_noCommand load surroundings (parse_arguments xs) rfl
      · exact plan_of_noCommand load surroundings (parse_separator xs []) rfl
    rw [program_of_plan hplan, perform_complaint]
    exact ⟨rfl, rfl, rfl⟩

/-- Words that are a separator and an option, after options in both forms. -/
theorem words_handed_over_of_options :
    let settings : Settings := ⟨"errand", "1.0.0", false, "INFO", 50, none, [0], true⟩
    let arguments := ["-t", "9", "--success-exit-value", "3", "-b", "--timeout", ".5"]
    let words := ["--", "-t", "no number"]
    Log.threshold? settings.logLevel = some 20 ∧ words ≠ [] ∧
      ∃ j : Job, program (.ok settings) [] (arguments ++ "--" :: words) = j.course ∧
        j.CarriesOut (program (.ok settings) [] (arguments ++ "--" :: words)) ∧
        j.command = words ∧ j.background = true ∧ j.leastWeight = 20 ∧
        j.runner.timeout = .float (Numeral.finite false 5 (-1)).toDouble ∧
        j.runner.successExitValues = [.int 3] := by
  intro settings arguments words
  let xs : List WrittenOption := [
    .timeout true ⟨"9", .finite false 9 0, by decide +kernel, by decide +kernel⟩,
    .successExitValue false ⟨"3", 3, by decide +kernel, by decide +kernel⟩,
    .background true,
    .timeout false ⟨".5", .finite false 5 (-1), by decide +kernel, by decide +kernel⟩]
  have hl : Log.threshold? settings.logLevel = some 20 := by decide +kernel
  have hw : words ≠ [] := List.cons_ne_nil _ _
  have hx : xs.flatMap WrittenOption.arguments = arguments := by decide +kernel
  obtain ⟨-, ⟨j, -, hp, ho, hc, hr, hb, hv⟩, -⟩ := words_handed_over settings hl [] xs hw
  rw [hx] at hp ho
  have hrunner := (Except.ok.inj hr).symm
  exact ⟨hl, hw, j, hp, ho, hc, hb, hv, congrArg Runner.timeout hrunner,
    congrArg Runner.successExitValues hrunner⟩

end Errand.CommandLine
