import Errand.Proofs.CommandLine.Separator

/-! # A command without the separator

The first word that is no value of an option begins the command, also without a `--` before it, and
whatever follows belongs to the command. But every argument before the first `--` is looked at by
itself first, those of the command included. It may be any word, any option, whole, shortened or
with a value, and anything that only looks like an option: what it is taken for is forgotten. One
that could be short for several options is refused, though. The long forms differ in their third
character, so these are the arguments that begin with `--=`, which could be all of them
(`exists_ofArgument`, `ofArgument_of_isAmbiguous`).

The main statement is `first_word_begins_command`: after written options, the program launches such
words once, unless one of them before the first `--` is ambiguous, which is complained about before
anything else happens. -/

namespace Errand

/-! ### Ambiguous arguments -/

namespace Token

/-- Whether an argument could be short for several options. -/
def isAmbiguous (argument : String) : Bool := ['-', '-', '='].isPrefixOf argument.toList

/-- The first ambiguous argument before the separator. -/
def firstAmbiguous? (arguments : List String) : Option String :=
  (arguments.takeWhile (· != "--")).find? isAmbiguous

theorem length_filter_le_one {α : Type} {p : α → Bool} {l : List α} (hl : l.Nodup)
    (hp : ∀ a ∈ l, ∀ b ∈ l, p a = true → p b = true → a = b) : (l.filter p).length ≤ 1 := by
  by_contra hn
  have hs : (l.filter p).Nodup := hl.filter p
  obtain ⟨a, b, rest, hab⟩ : ∃ a b rest, l.filter p = a :: b :: rest := by
    match h : l.filter p with
    | [] => simp [h] at hn
    | [a] => simp [h] at hn
    | a :: b :: rest => exact ⟨a, b, rest, rfl⟩
  have ha : a ∈ l.filter p := by simp [hab]
  have hb : b ∈ l.filter p := by simp [hab]
  rw [List.mem_filter] at ha hb
  rw [hab, hp a ha.1 b hb.1 ha.2 hb.2] at hs
  simp at hs

theorem eq_of_third_eq {f g : Flag} (h : f.long.toList[2]? = g.long.toList[2]?) : f = g := by
  cases f <;> cases g <;> first | rfl | exact absurd h (by decide +kernel)

/-- Two options whose long forms begin with the same three characters are one. -/
theorem eq_of_isPrefixOf_long {c : Char} {rest : List Char} {f g : Flag}
    (hf : ('-' :: '-' :: c :: rest).isPrefixOf f.long.toList = true)
    (hg : ('-' :: '-' :: c :: rest).isPrefixOf g.long.toList = true) : f = g := by
  have third {u : List Char} (h : ('-' :: '-' :: c :: rest).isPrefixOf u = true) :
      u[2]? = some c := by
    obtain ⟨t, rfl⟩ := List.isPrefixOf_iff_prefix.mp h
    rfl
  exact eq_of_third_eq ((third hf).trans (third hg).symm)

theorem splitEquals?_cons {c : Char} (h : c ≠ '=') (cs : List Char) :
    splitEquals? (c :: cs) = (splitEquals? cs).map fun s => (c :: s.1, s.2) := by
  have hc : (c != '=') = true := bne_iff_ne.mpr h
  unfold splitEquals?
  rw [List.dropWhile_cons, List.takeWhile_cons, if_pos hc, if_pos hc]
  cases cs.dropWhile (· != '=') <;> rfl

theorem length_filter_long_le_one (c : Char) (more : List Char) :
    (Flag.all.filter fun f => ('-' :: '-' :: c :: more).isPrefixOf f.long.toList).length ≤ 1 :=
  length_filter_le_one (by decide) fun _ _ _ _ hf hg => eq_of_isPrefixOf_long hf hg

/-- An argument that is not ambiguous could be short for one option at most. -/
theorem length_candidates_le_one {cs : List Char} (hs : cs ≠ ['-', '-'])
    (ha : ['-', '-', '='].isPrefixOf cs = false) : (candidates cs).length ≤ 1 := by
  unfold candidates
  split
  · rename_i rest
    cases rest with
    | nil => exact absurd rfl hs
    | cons c more =>
      have hc : c ≠ '=' := by
        rintro rfl
        simp [List.isPrefixOf] at ha
      have hsplit : splitEquals? ('-' :: '-' :: c :: more) =
          (splitEquals? more).map fun s => ('-' :: '-' :: c :: s.1, s.2) := by
        rw [splitEquals?_cons (by decide), splitEquals?_cons (by decide), splitEquals?_cons hc]
        cases splitEquals? more <;> rfl
      rw [hsplit]
      cases splitEquals? more with
      | none => simpa using length_filter_long_le_one c more
      | some s => simpa using length_filter_long_le_one c s.1
  · split <;> simp
  · simp

theorem exists_ofDashed (argument : String) {cs : List Char} (h : (candidates cs).length ≤ 1) :
    ∃ t, ofDashed argument cs = .ok t := by
  unfold ofDashed
  match hc : candidates cs with
  | [] => exact ⟨_, rfl⟩
  | [(f, isShort, value)] => exact ⟨_, rfl⟩
  | a :: b :: more => simp [hc] at h

/-- Every argument but the separator is something, if it is not ambiguous. -/
theorem exists_ofArgument {argument : String} (hs : argument ≠ "--")
    (ha : isAmbiguous argument = false) : ∃ t, ofArgument argument = .ok t := by
  have hl : (candidates argument.toList).length ≤ 1 := by
    refine length_candidates_le_one (fun h => hs ?_) ha
    rw [← String.ofList_toList (s := argument), h]
  have hd := exists_ofDashed argument hl
  unfold ofArgument
  dsimp only
  split
  · split
    · exact ⟨_, rfl⟩
    · split
      · split
        · exact ⟨_, rfl⟩
        · exact hd
      · exact hd
  · exact ⟨_, rfl⟩

/-- No option has an ambiguous form. -/
theorem ofForm?_of_isAmbiguous {argument : String} (h : isAmbiguous argument = true) :
    Flag.ofForm? argument = none := by
  have hf : ∀ f : Flag, f.short ≠ argument ∧ f.long ≠ argument := by
    intro f
    constructor <;> rintro rfl <;> revert h <;> cases f <;> decide +kernel
  unfold Flag.ofForm?
  rw [List.find?_eq_none.mpr fun f _ => by simpa using (hf f).1,
    List.find?_eq_none.mpr fun f _ => by simpa using (hf f).2]
  rfl

/-- An ambiguous argument could be any option. -/
theorem ofArgument_of_isAmbiguous {argument : String} (h : isAmbiguous argument = true) :
    ofArgument argument = .error (.ambiguous argument (Flag.all.map Flag.long)) := by
  have hform := ofForm?_of_isAmbiguous h
  obtain ⟨rest, hcs⟩ := List.isPrefixOf_iff_prefix.mp h
  unfold ofArgument
  dsimp only
  rw [← hcs, hform]
  rfl

/-! ### Ambiguous arguments in a row -/

theorem firstAmbiguous?_cons {a : String} (h : a ≠ "--") (rest : List String) :
    firstAmbiguous? (a :: rest) = if isAmbiguous a then some a else firstAmbiguous? rest := by
  unfold firstAmbiguous?
  rw [List.takeWhile_cons, if_pos (bne_iff_ne.mpr h), List.find?_cons]
  cases isAmbiguous a <;> rfl

/-- Arguments are told apart if none before the separator is ambiguous, and keep their texts. -/
theorem exists_ofArguments {arguments : List String} (h : firstAmbiguous? arguments = none) :
    ∃ tokens, ofArguments arguments = .ok tokens ∧ tokens.map (·.1) = arguments := by
  induction arguments with
  | nil => exact ⟨[], rfl, rfl⟩
  | cons a rest ih =>
    by_cases hs : a = "--"
    · subst hs
      exact ⟨("--", .separator) :: rest.map fun w => (w, .word), rfl, by simp [Function.comp_def]⟩
    · rw [firstAmbiguous?_cons hs] at h
      split at h
      · cases h
      · rename_i ha
        obtain ⟨t, ht⟩ := exists_ofArgument hs (Bool.not_eq_true _ ▸ ha)
        obtain ⟨tokens, hr, hm⟩ := ih h
        refine ⟨(a, t) :: tokens, ?_, by rw [List.map_cons, hm]⟩
        rw [WrittenOption.ofArguments_cons hs ht, hr]
        rfl

/-- The first ambiguous argument before the separator is refused. -/
theorem ofArguments_of_firstAmbiguous? {arguments : List String} {a : String}
    (h : firstAmbiguous? arguments = some a) :
    ofArguments arguments = .error (.ambiguous a (Flag.all.map Flag.long)) := by
  induction arguments with
  | nil => cases h
  | cons b rest ih =>
    by_cases hs : b = "--"
    · subst hs
      cases h
    · rw [firstAmbiguous?_cons hs] at h
      split at h
      · rename_i hb
        cases h
        rw [ofArguments, if_neg (by simpa using hs), ofArgument_of_isAmbiguous hb]
        rfl
      · rename_i hb
        obtain ⟨t, ht⟩ := exists_ofArgument hs (Bool.not_eq_true _ ▸ hb)
        rw [WrittenOption.ofArguments_cons hs ht, ih h]
        rfl

end Token

namespace CommandLine

/-! ### Reading the arguments -/

variable (xs : List WrittenOption) {word : String} {words : List String}

/-- The first word is the command, together with whatever follows it. -/
theorem parse_word (hw : word.toList.head? ≠ some '-')
    (ha : Token.firstAmbiguous? words = none) :
    Options.parse (xs.flatMap WrittenOption.arguments ++ word :: words) =
      .ok (.options (WrittenOption.options xs (word :: words))) := by
  obtain ⟨tokens, ht, hm⟩ := Token.exists_ofArguments ha
  rw [parse_append, WrittenOption.ofArguments_cons (ValueText.ne_separator_of_head_ne hw)
    (ValueText.ofArgument_of_head_ne hw), ht]
  change Options.read.finish { WrittenOption.options xs [] with
    command := word :: tokens.map (·.1) } [] = _
  rw [hm]
  rfl

/-- An ambiguous argument is refused behind a first word, too. -/
theorem parse_word_of_ambiguous (hw : word.toList.head? ≠ some '-') {a : String}
    (ha : Token.firstAmbiguous? words = some a) :
    Options.parse (xs.flatMap WrittenOption.arguments ++ word :: words) =
      .error (.ambiguous a (Flag.all.map Flag.long)) := by
  rw [parse_append, WrittenOption.ofArguments_cons (ValueText.ne_separator_of_head_ne hw)
    (ValueText.ofArgument_of_head_ne hw), Token.ofArguments_of_firstAmbiguous? ha]
  rfl

theorem commandOf_options (hw : word.toList.head? ≠ some '-') :
    commandOf (WrittenOption.options xs (word :: words)) = word :: words := by
  have hs := ValueText.ne_separator_of_head_ne hw
  unfold commandOf
  split
  · rename_i h
    exact absurd (List.cons.inj h).1 hs
  · rfl

/-- Wrong arguments are complained about before the settings are looked at. -/
theorem plan_of_error (load : Except Fault Settings) (surroundings : List (String × String))
    {arguments : List String} {e : UsageError} (h : Options.parse arguments = .error e) :
    plan load surroundings arguments = .ok (.complaint e) := by
  unfold plan
  rw [h]

/-! ### The main statement -/

/-- **The first word begins the command.** The job of written options and a word that does not begin
with a dash, whatever follows it, is to run that word with all that follows, and the program does
so, once, in the way that the options ask for. Only where an argument before the first `--` begins
with `--=` is there no job: the first such argument is complained about, and nothing is launched or
recorded. -/
theorem first_word_begins_command (settings : Settings) {least : Nat}
    (hl : Log.threshold? settings.logLevel = some least) (surroundings : List (String × String))
    (hw : word.toList.head? ≠ some '-') :
    let arguments := xs.flatMap WrittenOption.arguments ++ word :: words
    let o := WrittenOption.options xs (word :: words)
    (Token.firstAmbiguous? words = none →
      Options.parse arguments = .ok (.options o) ∧
      ∃ j, jobOf settings surroundings o (word :: words) = .ok j ∧
        program (.ok settings) surroundings arguments = j.course ∧
        j.CarriesOut (program (.ok settings) surroundings arguments) ∧
        j.command = word :: words ∧
        Runner.configure (.ok settings) surroundings (configuration o) = .ok j.runner ∧
        j.background = xs.any (·.flag == .background) ∧
        j.leastWeight = if xs.any (·.flag == .verbose) || settings.debug then
          Log.Level.debug.weight else least) ∧
    ∀ a, Token.firstAmbiguous? words = some a →
      ∀ (load : Except Fault Settings) (σ : Type) (w : World σ) (s : Scene σ),
        let complaint := Help.complaint (Help.columns surroundings)
          (.ambiguous a (Flag.all.map Flag.long))
        (program load surroundings arguments).perform w s =
          (.ok (.refused 2), { s with shown := .written "" complaint :: s.shown }) := by
  intro arguments o
  refine ⟨fun ha => ?_, fun a ha load σ w s => ?_⟩
  · have hp : Options.parse arguments = .ok (.options o) := parse_word xs hw ha
    have hc : commandOf o = word :: words := commandOf_options xs hw
    obtain ⟨j, hj, hjc, hb, hv, hr⟩ := exists_jobOf hl surroundings o (word :: words)
    have hplan : plan (.ok settings) surroundings arguments = .ok (.job j) :=
      plan_of_job hp (by rw [hc]; exact List.cons_ne_nil _ _) (by rw [hc]; exact hj)
    have hcourse := program_of_plan hplan
    refine ⟨hp, j, hj, hcourse, ?_, hjc, hr, hb, hv⟩
    rw [hcourse]
    exact j.carriesOut_course (by rw [hjc]; exact List.cons_ne_nil _ _) (directory_of_configure hr)
      (environment_of_configure hr)
  · have hplan := plan_of_error load surroundings (parse_word_of_ambiguous xs hw ha)
    rw [program_of_plan hplan, perform_complaint]

/-- Words that look like options behind the first one: whole, shortened, with a value, sharing a
dash, unknown, negative numbers, and ambiguous behind the separator. -/
theorem first_word_begins_command_of_options :
    let settings : Settings := ⟨"errand", "1.0.0", false, "INFO", 50, none, [0], true⟩
    let words := ["-t", "--tim=x", "-vbq", "-5", "-h", "--unknown", "--", "--=x"]
    let arguments := ["--timeout", ".5", "-b", "prog"] ++ words
    Log.threshold? settings.logLevel = some 20 ∧ "prog".toList.head? ≠ some '-' ∧
      Token.firstAmbiguous? words = none ∧
      ∃ j : Job, program (.ok settings) [] arguments = j.course ∧
        j.CarriesOut (program (.ok settings) [] arguments) ∧
        j.command = "prog" :: words ∧ j.background = true ∧ j.leastWeight = 20 ∧
        j.runner.timeout = .float (Numeral.finite false 5 (-1)).toDouble ∧
        j.runner.successExitValues = [.int 0] := by
  intro settings words arguments
  let xs : List WrittenOption :=
    [.timeout false ⟨".5", .finite false 5 (-1), by decide +kernel, by decide +kernel⟩,
      .background true]
  have hl : Log.threshold? settings.logLevel = some 20 := by decide +kernel
  have hw : "prog".toList.head? ≠ some '-' := by decide +kernel
  have ha : Token.firstAmbiguous? words = none := by decide +kernel
  have hx : xs.flatMap WrittenOption.arguments ++ "prog" :: words = arguments := by decide +kernel
  obtain ⟨-, j, -, hp, ho, hc, hr, hb, hv⟩ := (first_word_begins_command xs settings hl [] hw).1 ha
  rw [hx] at hp ho
  have hrunner := (Except.ok.inj hr).symm
  exact ⟨hl, hw, ha, j, hp, ho, hc, hb, hv, congrArg Runner.timeout hrunner,
    congrArg Runner.successExitValues hrunner⟩

/-- Behind a first word, an argument that begins with `--=` is refused: nothing is launched, and no
job has both for its command. Such words are not handed over without the separator. -/
theorem word_refused_of_equals_sign :
    let settings : Settings := ⟨"errand", "1.0.0", false, "INFO", 50, none, [0], true⟩
    let words := ["prog", "--=x"]
    Log.threshold? settings.logLevel = some 20 ∧ "prog".toList.head? ≠ some '-' ∧
      Options.parse words = .error (.ambiguous "--=x" (Flag.all.map Flag.long)) ∧
      plan (.ok settings) [] words = .ok (.complaint (.ambiguous "--=x" (Flag.all.map Flag.long))) ∧
      (∀ {σ : Type} (w : World σ) (s : Scene σ),
        ((program (.ok settings) [] words).perform w s).2.launches = s.launches) ∧
      ¬∃ j : Job, j.command = words ∧ program (.ok settings) [] words = j.course := by
  intro settings words
  have hl : Log.threshold? settings.logLevel = some 20 := by decide +kernel
  have hw : "prog".toList.head? ≠ some '-' := by decide +kernel
  have hp : Options.parse words = .error (.ambiguous "--=x" (Flag.all.map Flag.long)) :=
    parse_word_of_ambiguous [] hw (by decide +kernel)
  have hplan := plan_of_error (.ok settings) [] hp
  have hcourse := program_of_plan hplan
  refine ⟨hl, hw, hp, hplan, fun w s => ?_, ?_⟩
  · rw [hcourse, perform_complaint]
  rintro ⟨j, -, hj⟩
  -- the first thing that a job does is to name the program, and a complaint never does it
  rw [hcourse] at hj
  cases hj

end CommandLine
end Errand
