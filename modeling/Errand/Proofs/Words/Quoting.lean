import Errand.Proofs.Execution.Aftermath
import Errand.Proofs.Words.Recognition

/-! # A command line that is written is read as it was

`quote` writes a word in the grammar of command lines: a word of plain characters as these
(`flatMap_plain`), any other between single quotes, with each single quote of it between double
quotes of its own (`exists_encoded`). `join` writes words with a gap of one space between any two,
so that the grammar spells them (`exists_spells_join`) and they are read again (`split_join`).

The log line at the beginning of an execution ends in the words as `join` writes them. The main
statement is `logged_line_runs_again`: what stands there is a command again, with the same words,
and running it is the same execution. -/

namespace Errand.Words

variable {c : Char}

/-- Plain characters mean nothing else. -/
theorem wellFormed_of_isPlain (h : isPlain c = true) : (Piece.plain c).WellFormed := by
  have hs : isSeparator c = false := by
    cases hc : isSeparator c with
    | false => rfl
    | true =>
      simp only [isSeparator, Bool.or_eq_true, beq_iff_eq] at hc
      rcases hc with ((rfl | rfl) | rfl) | rfl <;> exact absurd h (by decide)
  refine ⟨hs, ?_, ?_, ?_⟩ <;>
    · rintro rfl
      exact absurd h (by decide)

/-- Characters that stand for themselves. -/
theorem flatMap_plain (cs : List Char) :
    (cs.map Piece.plain).flatMap Piece.written = cs ∧
      (cs.map Piece.plain).flatMap Piece.value = cs := by
  rw [List.flatMap_map, List.flatMap_map]
  exact ⟨List.flatMap_singleton' cs, List.flatMap_singleton' cs⟩

/-- Between single quotes stands a run without them, and after it pieces for the rest. -/
theorem exists_encoded (cs : List Char) :
    ∃ run pieces, '\'' ∉ run ∧ (∀ p ∈ pieces, p.WellFormed) ∧
      (Piece.single run :: pieces).flatMap Piece.written = '\'' :: encodeChars cs ++ ['\''] ∧
      (Piece.single run :: pieces).flatMap Piece.value = cs := by
  induction cs with
  | nil => exact ⟨[], [], by simp, by simp, rfl, rfl⟩
  | cons c cs ih =>
    obtain ⟨run, pieces, hr, hp, hw, hv⟩ := ih
    by_cases hc : c = '\''
    · subst hc
      refine ⟨[], .double [.plain '\''] :: .single run :: pieces, by simp, ?_, ?_, ?_⟩
      · simp only [List.forall_mem_cons]
        exact ⟨by simp [Piece.WellFormed, Item.WellFormed], hr, hp⟩
      · rw [List.flatMap_cons, List.flatMap_cons, hw]
        simp [encodeChars, Piece.written, Item.written]
      · rw [List.flatMap_cons, List.flatMap_cons, hv]
        rfl
    · refine ⟨c :: run, pieces, ?_, hp, ?_, ?_⟩
      · simp [hr, Ne.symm hc]
      · simpa [encodeChars, hc, Piece.written] using hw
      · simpa [Piece.value] using hv

/-- What is written for a word is a word of the grammar, with that value. -/
theorem exists_word_quote (w : String) :
    ∃ pieces, IsWord pieces ∧ pieces.flatMap Piece.written = (quote w).toList ∧
      wordValue pieces = w := by
  unfold quote wordValue
  dsimp only
  split
  · rename_i h
    obtain ⟨hne, hp⟩ := (Bool.and_eq_true _ _).mp h
    obtain ⟨hw, hv⟩ := flatMap_plain w.toList
    refine ⟨w.toList.map .plain, ⟨?_, ?_⟩, hw, ?_⟩
    · simpa using hne
    · intro p hm
      obtain ⟨c, hc, rfl⟩ := List.mem_map.mp hm
      exact wellFormed_of_isPlain (List.all_eq_true.mp hp c hc)
    · rw [hv, String.ofList_toList]
  · obtain ⟨run, pieces, hr, hp, hw, hv⟩ := exists_encoded w.toList
    refine ⟨.single run :: pieces, ⟨by simp, List.forall_mem_cons.mpr ⟨hr, hp⟩⟩, ?_, ?_⟩
    · rw [hw, String.toList_ofList]
    · rw [hv, String.ofList_toList]

theorem exists_spells_join (ws : List String) :
    ∃ spelled, Spells (join ws).toList spelled ∧ spelled.map wordValue = ws := by
  induction ws with
  | nil => exact ⟨[], .gap isGap_nil, rfl⟩
  | cons w ws ih =>
    obtain ⟨pieces, hp, hq, hv⟩ := exists_word_quote w
    cases ws with
    | nil =>
      refine ⟨[pieces], ?_, by rw [List.map_singleton, hv]⟩
      have hj : (join [w]).toList = pieces.flatMap Piece.written := hq.symm
      rw [hj]
      exact spells_word hp
    | cons v ws =>
      obtain ⟨spelled, hs, hm⟩ := ih
      have hj : (join (w :: v :: ws)).toList =
          [] ++ pieces.flatMap Piece.written ++ ([' '] ++ (join (v :: ws)).toList) := by
        rw [hq, List.nil_append, ← List.append_assoc]
        simp [join, String.intercalate_cons_cons]
      refine ⟨pieces :: spelled, ?_, by rw [List.map_cons, hv, hm]⟩
      rw [hj]
      refine .word isGap_nil hp (hs.gap_append (isGap_singleton rfl)) ?_
      rintro c ⟨⟩
      rfl

/-- Words are read as they were before they were written. -/
theorem split_join (ws : List String) : split (join ws) = .ok ws := by
  obtain ⟨spelled, hs, hm⟩ := exists_spells_join ws
  rw [split_of_spells hs, hm]

end Errand.Words

namespace Errand

/-! ### What is logged of an execution -/

theorem Runner.words_join {args : List String} (h : args ≠ []) :
    words (.text (Words.join args)) = .ok args :=
  words_text_of_ok (Words.split_join args) h

namespace Course

variable {σ : Type} (w : World σ) (r : Runner) (args : List String) (s : Scene σ)

theorem logs_runWords :
    s.logs ++ [⟨.info, "Executing: " ++ Words.join args, .executor, false⟩] <+:
      ((r.runWords args).perform w s).2.logs := by
  rw [Runner.runWords_eq, perform_begin, ← Scene.logs_logged]
  exact logs_perform w _ (s.opened r args "Executing: ")

theorem logs_runWordsCooperatively :
    s.logs ++ [⟨.info, "Executing (async): " ++ Words.join args, .executor, false⟩] <+:
      ((r.runWordsCooperatively args).perform w s).2.logs := by
  rw [Runner.runWordsCooperatively_eq, perform_begin, ← Scene.logs_logged]
  exact logs_perform w _ (s.opened r args "Executing (async): ")

end Course

/-- **The logged command line can be run again.** Either way of waiting first logs its words as one
line. That line is a command with the same words, and to run it is the same execution: it logs the
same line and launches the same words. -/
theorem logged_line_runs_again {σ : Type} (w : World σ) (s : Scene σ) (r : Runner)
    {args : List String} (h : args ≠ []) :
    let line := Words.join args
    let command : Value := .list (args.map .text)
    Runner.words (.text line) = .ok args ∧
    (∀ again, again = command ∨ again = .text line →
      r.run again = r.run command ∧
      s.logs ++ [⟨.info, "Executing: " ++ line, .executor, false⟩] <+:
        ((r.run again).perform w s).2.logs ∧
      (∀ env, r.environment = .ok env →
        ((r.run again).perform w s).2.launches =
          ⟨⟨args, r.directory, env⟩, some r.timeout, []⟩ :: s.launches) ∧
      ∀ handled, r.runCooperatively again handled = r.runCooperatively command handled ∧
        s.logs ++ [⟨.info, "Executing (async): " ++ line, .executor, false⟩] <+:
          ((r.runCooperatively again handled).perform w s).2.logs) := by
  intro line command
  have hc : Runner.words command = .ok args := Runner.words_texts h
  have hl : Runner.words (.text line) = .ok args := Runner.words_join h
  refine ⟨hl, fun again ha => ?_⟩
  have hw : Runner.words again = .ok args := by
    rcases ha with rfl | rfl
    · exact hc
    · exact hl
  refine ⟨by rw [r.run_eq hw, r.run_eq hc], ?_, fun env he => ?_, fun handled => ⟨?_, ?_⟩⟩
  · rw [r.run_eq hw]
    exact Course.logs_runWords w r args s
  · rw [r.run_eq hw, Course.launches_runWords, he]
    rfl
  · rw [r.runCooperatively_eq hw, r.runCooperatively_eq hc]
  · rw [r.runCooperatively_eq hw]
    exact (Course.logs_runWordsCooperatively w r args s).trans (Course.logs_perform_bind w _ _ s)

/-- Words with quotes, a backslash and a line break in them, and one without characters. -/
theorem logged_line_runs_again_of_quotes :
    let r : Runner := { successExitValues := [.int 0] }
    let script : Script := ⟨0.5, .exits 0 (.text "") .nothing⟩
    let args := ["echo", "", "it's", "a\nb", "\\ü\""]
    let line := "echo '' 'it'\"'\"'s' 'a\nb' '\\ü\"'"
    args ≠ [] ∧ Words.join args = line ∧ Runner.words (.text line) = .ok args ∧
      [⟨.info, "Executing: " ++ line, .executor, false⟩] <+:
        ((r.run (.text line)).perform script.world { world := () }).2.logs ∧
      ((r.run (.text line)).perform script.world { world := () }).2.launches =
        [⟨⟨args, none, none⟩, some .null, []⟩] := by
  intro r script args line
  have hne : args ≠ [] := List.cons_ne_nil _ _
  have hl : Words.join args = line := by decide +kernel
  obtain ⟨hs, hagain⟩ := logged_line_runs_again script.world { world := () } r hne
  obtain ⟨-, hlogs, hlaunch, -⟩ := hagain _ (.inr rfl)
  rw [hl] at hs hlogs hlaunch
  exact ⟨hne, hl, hs, hlogs, hlaunch none rfl⟩

end Errand
