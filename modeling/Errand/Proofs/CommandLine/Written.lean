import Errand.CommandLine.Options
import Mathlib.Tactic.SplitIfs

/-! # Options as they are written

An option of the command line is written in its short or in its long form, and its value, if it has
one, is the argument after it: a text that is read as a number and does not begin with a dash. The
arguments of such options are told from one another wherever they stand before a `--`
(`ofArguments_append`), and reading them gives every option its effect, one after the other
(`read_append`). All together they ask for `WrittenOption.options`: the last timeout counts, the
exit values are gathered, and the other options are there or not (`foldl_apply`). -/

namespace Errand

/-! ### Forms -/

namespace Flag

/-- The short or the long form of an option. -/
def form (f : Flag) (isShort : Bool) : String := if isShort then f.short else f.long

theorem ofArgument_form (f : Flag) (isShort : Bool) :
    Token.ofArgument (f.form isShort) = .ok (.option f isShort none) := by
  cases f <;> cases isShort <;> rfl

theorem form_ne_separator (f : Flag) (isShort : Bool) : f.form isShort ≠ "--" := by
  cases f <;> cases isShort <;> decide +kernel

end Flag

/-- A text that is read as a value and does not begin like an option. -/
structure ValueText {α : Type} (read : String → Option α) where
  text : String
  value : α
  read_eq : read text = some value
  head_ne : text.toList.head? ≠ some '-'

namespace ValueText

theorem ofArgument_of_head_ne {s : String} (h : s.toList.head? ≠ some '-') :
    Token.ofArgument s = .ok .word := by
  unfold Token.ofArgument
  dsimp only
  split
  · rename_i hs
    rw [hs] at h
    exact absurd rfl h
  · rfl

theorem ne_separator_of_head_ne {s : String} (h : s.toList.head? ≠ some '-') : s ≠ "--" := by
  rintro rfl
  exact h (by decide +kernel)

end ValueText

/-! ### Written options -/

/-- An option as it is written. -/
inductive WrittenOption where
  | timeout (isShort : Bool) (v : ValueText Numeral.ofText?)
  | successExitValue (isShort : Bool) (v : ValueText readWhole?)
  | background (isShort : Bool)
  | verbose (isShort : Bool)

namespace WrittenOption

/-- The option that is written. -/
def flag : WrittenOption → Flag
  | timeout _ _ => .timeout
  | successExitValue _ _ => .successExitValue
  | background _ => .background
  | verbose _ => .verbose

/-- Whether an option is written in its short form. -/
def isShort : WrittenOption → Bool
  | timeout isShort _ | successExitValue isShort _ | background isShort | verbose isShort => isShort

/-- The text of the value of an option. -/
def text? : WrittenOption → Option String
  | timeout _ v => some v.text
  | successExitValue _ v => some v.text
  | background _ | verbose _ => none

/-- The arguments of an option. -/
def arguments (x : WrittenOption) : List String := x.flag.form x.isShort :: x.text?.toList

/-- What the arguments of an option are. -/
def tokens (x : WrittenOption) : List (String × Token) :=
  (x.flag.form x.isShort, .option x.flag x.isShort none) :: x.text?.toList.map (·, .word)

/-- The number of seconds of a written timeout. -/
def seconds? : WrittenOption → Option Float
  | timeout _ v => some v.value.toDouble
  | _ => none

/-- The written exit value. -/
def exitValue? : WrittenOption → Option Int
  | successExitValue _ v => some v.value
  | _ => none

/-- The options after a written one has acted. -/
def apply (o : Options) : WrittenOption → Options
  | timeout _ v => { o with timeout := .float v.value.toDouble }
  | successExitValue _ v =>
    { o with successExitValues := some (o.successExitValues.getD [] ++ [.int v.value]) }
  | background _ => { o with background := true }
  | verbose _ => { o with verbose := true }

/-- What written options and a command ask for together. -/
def options (xs : List WrittenOption) (command : List String) : Options where
  command := command
  timeout := ((xs.filterMap seconds?).getLast?.map Value.float).getD .null
  successExitValues :=
    if xs.filterMap exitValue? = [] then none else some ((xs.filterMap exitValue?).map .int)
  background := xs.any (·.flag == .background)
  verbose := xs.any (·.flag == .verbose)

/-! ### Telling arguments apart -/

theorem head_ne_of_mem_text? {x : WrittenOption} {s : String} (h : s ∈ x.text?) :
    s.toList.head? ≠ some '-' := by
  cases x with
  | timeout _ v => exact Option.some.inj h ▸ v.head_ne
  | successExitValue _ v => exact Option.some.inj h ▸ v.head_ne
  | background _ => cases h
  | verbose _ => cases h

theorem ofArguments_cons {a : String} {t : Token} (ha : a ≠ "--") (ht : Token.ofArgument a = .ok t)
    (rest : List String) :
    Token.ofArguments (a :: rest) = (Token.ofArguments rest).map ((a, t) :: ·) := by
  rw [Token.ofArguments, if_neg (by simpa using ha), ht]
  cases Token.ofArguments rest <;> rfl

theorem ofArguments_arguments_append (x : WrittenOption) (rest : List String) :
    Token.ofArguments (x.arguments ++ rest) =
      (Token.ofArguments rest).map (x.tokens ++ ·) := by
  have hf := ofArguments_cons (x.flag.form_ne_separator x.isShort)
    (x.flag.ofArgument_form x.isShort)
  unfold arguments tokens
  cases ht : x.text? with
  | none => exact hf rest
  | some s =>
    have hn := head_ne_of_mem_text? ht
    have hs := ofArguments_cons (ValueText.ne_separator_of_head_ne hn)
      (ValueText.ofArgument_of_head_ne hn) rest
    change Token.ofArguments (x.flag.form x.isShort :: s :: rest) = _
    rw [hf, hs]
    cases Token.ofArguments rest <;> rfl

/-- Written options are told apart whatever follows them. -/
theorem ofArguments_append (xs : List WrittenOption) (rest : List String) :
    Token.ofArguments (xs.flatMap arguments ++ rest) =
      (Token.ofArguments rest).map (xs.flatMap tokens ++ ·) := by
  induction xs with
  | nil =>
    change Token.ofArguments rest = (Token.ofArguments rest).map id
    cases Token.ofArguments rest <;> rfl
  | cons x xs ih =>
    rw [List.flatMap_cons, List.append_assoc, ofArguments_arguments_append, ih]
    cases Token.ofArguments rest with
    | error e => rfl
    | ok ts => simp [Except.map]

/-! ### Reading -/

theorem readValue_timeout (v : ValueText Numeral.ofText?) :
    Options.readValue .timeout v.text = .ok (.float v.value.toDouble) := by
  have hs := ValueText.ne_separator_of_head_ne v.head_ne
  unfold Options.readValue
  rw [if_neg (by simpa using hs)]
  dsimp only
  rw [v.read_eq]

theorem readValue_successExitValue (v : ValueText readWhole?) :
    Options.readValue .successExitValue v.text = .ok (.int v.value) := by
  have hs := ValueText.ne_separator_of_head_ne v.head_ne
  unfold Options.readValue
  rw [if_neg (by simpa using hs)]
  dsimp only
  rw [v.read_eq]

theorem act_eq (o : Options) (x : WrittenOption) : o.act (x.flag, x.text?) = .ok (apply o x) := by
  cases x with
  | timeout _ v =>
    change (do return { o with timeout := ← Options.readValue .timeout v.text } :
      Except UsageError Options) = _
    rw [readValue_timeout]
    rfl
  | successExitValue _ v =>
    change (do
      let n ← Options.readValue .successExitValue v.text
      return { o with successExitValues := some (o.successExitValues.getD [] ++ [n]) } :
      Except UsageError Options) = _
    rw [readValue_successExitValue]
    rfl
  | background _ => rfl
  | verbose _ => rfl

theorem flag_ne_help (x : WrittenOption) : x.flag ≠ .help := by
  cases x <;> simp [flag]

theorem actAll_eq (o : Options) (x : WrittenOption) :
    o.actAll [(x.flag, x.text?)] = .ok (some (apply o x)) := by
  have hone {a : Options.Action} (h : a.1 ≠ .help) : o.actAll [a] = (o.act a).map some := by
    obtain ⟨f, v⟩ := a
    cases f with
    | help => exact absurd rfl h
    | _ =>
      unfold Options.actAll
      cases o.act _ <;> rfl
  rw [hone x.flag_ne_help, act_eq]
  rfl

theorem needsValue_eq (x : WrittenOption) :
    Options.needsValue [(x.flag, none)] x.flag = x.text?.isSome := by
  cases x <;> rfl

/-- An option that was told apart is read with the value after it, if it takes one. -/
theorem read_tokens_append (o : Options) (unknown : List String) (x : WrittenOption)
    (rest : List (String × Token)) :
    Options.read o unknown (x.tokens ++ rest) = Options.read (apply o x) unknown rest := by
  have ha := actAll_eq o x
  rw [tokens, List.cons_append, Options.read]
  dsimp only [Options.actionsOf, bind, Except.bind]
  rw [needsValue_eq]
  cases ht : x.text? with
  | none =>
    rw [ht] at ha
    rw [Option.isSome_none, if_neg Bool.false_ne_true, ha]
    rfl
  | some s =>
    rw [ht] at ha
    rw [Option.isSome_some, if_pos rfl]
    dsimp only [Option.toList, List.map, Options.giveValue, List.dropLast, List.nil_append,
      List.cons_append]
    rw [ha]

theorem read_append (o : Options) (unknown : List String) (xs : List WrittenOption)
    (rest : List (String × Token)) :
    Options.read o unknown (xs.flatMap tokens ++ rest) =
      Options.read (xs.foldl apply o) unknown rest := by
  induction xs generalizing o with
  | nil => rfl
  | cons x xs ih =>
    rw [List.flatMap_cons, List.append_assoc, read_tokens_append, ih, List.foldl_cons]

/-! ### What written options ask for -/

section Effects
variable (o : Options) (xs : List WrittenOption)

theorem command_foldl_apply : (xs.foldl apply o).command = o.command := by
  induction xs generalizing o with
  | nil => rfl
  | cons x xs ih =>
    rw [List.foldl_cons, ih]
    cases x <;> rfl

/-- The last timeout counts. -/
theorem timeout_foldl_apply :
    (xs.foldl apply o).timeout =
      ((xs.filterMap seconds?).getLast?.map Value.float).getD o.timeout := by
  induction xs generalizing o with
  | nil => rfl
  | cons x xs ih =>
    have hx : (apply o x).timeout = (x.seconds?.map Value.float).getD o.timeout := by
      cases x <;> rfl
    rw [List.foldl_cons, ih, hx]
    cases h : x.seconds? with
    | none => rw [List.filterMap_cons_none h]; rfl
    | some y =>
      rw [List.filterMap_cons_some h, List.getLast?_cons]
      cases (xs.filterMap seconds?).getLast? <;> rfl

/-- The exit values are gathered. -/
theorem successExitValues_foldl_apply :
    (xs.foldl apply o).successExitValues =
      if xs.filterMap exitValue? = [] then o.successExitValues
      else some (o.successExitValues.getD [] ++ (xs.filterMap exitValue?).map .int) := by
  induction xs generalizing o with
  | nil => rfl
  | cons x xs ih =>
    rw [List.foldl_cons, ih]
    cases h : x.exitValue? with
    | none =>
      have hx : (apply o x).successExitValues = o.successExitValues := by
        cases x <;> first | rfl | cases h
      rw [List.filterMap_cons_none h, hx]
    | some n =>
      have hx : (apply o x).successExitValues =
          some (o.successExitValues.getD [] ++ [.int n]) := by
        cases x with
        | successExitValue _ _ => cases h; rfl
        | timeout _ _ | background _ | verbose _ => cases h
      rw [List.filterMap_cons_some h, hx, if_neg (List.cons_ne_nil _ _)]
      split_ifs with hn
      · rw [hn]; rfl
      · simp

theorem background_foldl_apply :
    (xs.foldl apply o).background = (o.background || xs.any (·.flag == .background)) := by
  induction xs generalizing o with
  | nil => exact (Bool.or_false _).symm
  | cons x xs ih =>
    have hx : (apply o x).background = (o.background || x.flag == .background) := by
      cases x <;> simp [apply, flag]
    rw [List.foldl_cons, ih, hx, List.any_cons, Bool.or_assoc]

theorem verbose_foldl_apply :
    (xs.foldl apply o).verbose = (o.verbose || xs.any (·.flag == .verbose)) := by
  induction xs generalizing o with
  | nil => exact (Bool.or_false _).symm
  | cons x xs ih =>
    have hx : (apply o x).verbose = (o.verbose || x.flag == .verbose) := by
      cases x <;> simp [apply, flag]
    rw [List.foldl_cons, ih, hx, List.any_cons, Bool.or_assoc]

end Effects

/-- Written options that act on nothing leave what they ask for. -/
theorem foldl_apply (xs : List WrittenOption) : xs.foldl apply {} = options xs [] := by
  have hext {a b : Options} (hc : a.command = b.command) (ht : a.timeout = b.timeout)
      (he : a.successExitValues = b.successExitValues) (hb : a.background = b.background)
      (hv : a.verbose = b.verbose) : a = b := by
    cases a
    cases b
    congr
  apply hext
  · exact command_foldl_apply _ xs
  · exact timeout_foldl_apply _ xs
  · rw [successExitValues_foldl_apply]
    rfl
  · exact background_foldl_apply _ xs
  · exact verbose_foldl_apply _ xs

end WrittenOption
end Errand
