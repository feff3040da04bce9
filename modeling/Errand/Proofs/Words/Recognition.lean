import Errand.Execution.Runner
import Errand.Proofs.Words.Reading
import Mathlib.Tactic.SplitIfs

/-! # The grammar is all that is read

What a reader has read of a line is a part that words may follow (`Spaced`), and behind it pieces of
one word; and the last piece may not be at its end yet (`Begun`). `Passed` says this of each mode.
It holds before the first character and is kept by every one (`Passed.push`), so it holds at the end
of any line, where the mode tells whether the line is words with gaps or breaks off.

Together with what the reader makes of such lines, that decides what the words of a command are that
is a text (`words_text_cases`). The main statement is `words_of_text`: the grammar is all that is
read, and a text outside it is refused for what is wrong with it. -/

namespace Errand.Words

/-- The line is the words, each with a gap behind it that is not empty, so that another word may
follow. A separator at the end of a line is not enough for that: it may belong to a word. -/
inductive Spaced : List Char → List (List Piece) → Prop where
  | gap {cs : List Char} : IsGap cs → Spaced cs []
  | word {before gap : List Char} {pieces : List Piece} {words : List (List Piece)} :
      Spaced before words → IsWord pieces → IsGap gap → gap ≠ [] →
      Spaced (before ++ pieces.flatMap Piece.written ++ gap) (words ++ [pieces])

/-- What was read of a piece that is not at its end, and its value so far. -/
inductive Begun : Mode → List Char → List Char → Prop where
  | single {cs : List Char} : '\'' ∉ cs → Begun .inSingle ('\'' :: cs) cs
  | double {items : List Item} : (∀ i ∈ items, i.WellFormed) →
      Begun .inDouble ('"' :: items.flatMap Item.written) (items.flatMap Item.value)
  | escaped : Begun .escaped ['\\'] []
  | escapedInDouble {items : List Item} : (∀ i ∈ items, i.WellFormed) →
      Begun .escapedInDouble ('"' :: items.flatMap Item.written ++ ['\\'])
        (items.flatMap Item.value)

/-- The line as the reader has read it: its words are the values of the words in the line, and its
characters the value of the word at the end. -/
inductive Passed : List Char → Reader → Prop where
  | between {line : List Char} {words : List (List Piece)} :
      Spaced line words → Passed line ⟨.between, [], (words.map wordValue).reverse⟩
  | inWord {before : List Char} {words : List (List Piece)} {pieces : List Piece} :
      Spaced before words → IsWord pieces →
      Passed (before ++ pieces.flatMap Piece.written)
        ⟨.inWord, (pieces.flatMap Piece.value).reverse, (words.map wordValue).reverse⟩
  | inPiece {before written value : List Char} {words : List (List Piece)} {pieces : List Piece}
      {mode : Mode} :
      Spaced before words → (∀ p ∈ pieces, p.WellFormed) → Begun mode written value →
      Passed (before ++ pieces.flatMap Piece.written ++ written)
        ⟨mode, (pieces.flatMap Piece.value ++ value).reverse, (words.map wordValue).reverse⟩

variable {line before rest : List Char} {words rests : List (List Piece)} {pieces : List Piece}
  {c : Char}

/-! ### Lines that words may follow -/

theorem isGap_nil : IsGap [] := fun _ h => nomatch h

theorem IsGap.append {cs ds : List Char} (hc : IsGap cs) (hd : IsGap ds) : IsGap (cs ++ ds) :=
  List.forall_mem_append.mpr ⟨hc, hd⟩

theorem isGap_singleton (hc : isSeparator c = true) : IsGap [c] := by
  intro d hd
  rw [List.mem_singleton.mp hd]
  exact hc

theorem Spells.gap_append {cs : List Char} (hg : IsGap cs) (h : Spells rest rests) :
    Spells (cs ++ rest) rests := by
  cases h with
  | gap hr => exact .gap (hg.append hr)
  | word hr hw hs hh =>
    rw [← List.append_assoc, ← List.append_assoc]
    exact .word (hg.append hr) hw hs hh

/-- A word alone, without gaps. -/
theorem spells_word (hw : IsWord pieces) : Spells (pieces.flatMap Piece.written) [pieces] := by
  have h := Spells.word isGap_nil hw (.gap isGap_nil) (fun c hc => nomatch hc)
  rwa [List.append_nil] at h

/-- Words may follow, with or without a gap before the first of them. -/
theorem Spaced.append (h : Spaced before words) (hr : Spells rest rests) :
    Spells (before ++ rest) (words ++ rests) := by
  induction h generalizing rest rests with
  | gap hg => exact hr.gap_append hg
  | @word before gap pieces words _ hw hg hne ih =>
    have hh : ∀ c ∈ (gap ++ rest).head?, isSeparator c = true := by
      cases gap with
      | nil => cases hne rfl
      | cons d gap =>
        rintro c ⟨⟩
        exact hg d (.head _)
    have hs := ih (.word isGap_nil hw (hr.gap_append hg) hh)
    rw [List.nil_append] at hs
    rwa [List.append_assoc, List.append_assoc, List.append_assoc words, List.singleton_append]

theorem Spaced.spells (h : Spaced before words) : Spells before words := by
  have hs := h.append (.gap isGap_nil)
  rwa [List.append_nil, List.append_nil] at hs

theorem Spaced.separator (h : Spaced before words) (hc : isSeparator c = true) :
    Spaced (before ++ [c]) words := by
  cases h with
  | gap hg => exact .gap (hg.append (isGap_singleton hc))
  | word hb hw hg hne =>
    rw [List.append_assoc]
    exact .word hb hw (hg.append (isGap_singleton hc)) (by simp)

/-- With pieces of one more word, if there are any, the line is words with gaps. -/
theorem Spaced.exists_spells (h : Spaced before words) (hp : ∀ p ∈ pieces, p.WellFormed) :
    ∃ all, Spells (before ++ pieces.flatMap Piece.written) all := by
  cases pieces with
  | nil =>
    refine ⟨words, ?_⟩
    rw [List.flatMap_nil, List.append_nil]
    exact h.spells
  | cons p ps => exact ⟨_, h.append (spells_word ⟨by simp, hp⟩)⟩

/-! ### One character -/

/-- A piece is at its end. -/
theorem Passed.piece (hs : Spaced before words) (hp : ∀ p ∈ pieces, p.WellFormed) {p : Piece}
    (h : p.WellFormed) :
    Passed (before ++ pieces.flatMap Piece.written ++ p.written)
      ⟨.inWord, (pieces.flatMap Piece.value ++ p.value).reverse,
        (words.map wordValue).reverse⟩ := by
  have hw : IsWord (pieces ++ [p]) :=
    ⟨by simp, List.forall_mem_append.mpr ⟨hp, List.forall_mem_singleton.mpr h⟩⟩
  simpa using Passed.inWord hs hw

/-- A bare reader begins a piece, or reads one of one character. -/
theorem Passed.unquoted (hs : Spaced before words) (hp : ∀ p ∈ pieces, p.WellFormed) (mode : Mode)
    (hc : isSeparator c = false) :
    Passed (before ++ pieces.flatMap Piece.written ++ [c])
      (Reader.unquoted
        ⟨mode, (pieces.flatMap Piece.value).reverse, (words.map wordValue).reverse⟩ c) := by
  unfold Reader.unquoted
  split_ifs with hq hd hb
  · subst hq
    simpa [Reader.enter] using Passed.inPiece hs hp (.single List.not_mem_nil)
  · subst hd
    simpa [Reader.enter] using Passed.inPiece hs hp (.double (List.forall_mem_nil _))
  · subst hb
    simpa [Reader.enter] using Passed.inPiece hs hp .escaped
  · simpa [Reader.take, Piece.written, Piece.value] using
      Passed.piece hs hp (p := .plain c) ⟨hc, hq, hd, hb⟩

/-- One more character of a piece that is not at its end. -/
theorem Passed.push_begun {written value : List Char} {mode : Mode} (hs : Spaced before words)
    (hp : ∀ p ∈ pieces, p.WellFormed) (hb : Begun mode written value) (c : Char) :
    Passed (before ++ pieces.flatMap Piece.written ++ written ++ [c])
      (Reader.push ⟨mode, (pieces.flatMap Piece.value ++ value).reverse,
        (words.map wordValue).reverse⟩ c) := by
  cases hb with
  | single hcs =>
    by_cases hq : c = '\''
    · subst hq
      simpa [Reader.push, Reader.enter, Piece.written, Piece.value] using
        Passed.piece hs hp (p := .single value) hcs
    · have hcs' : '\'' ∉ value ++ [c] := by simp [hcs, Ne.symm hq]
      simpa [Reader.push, Reader.take, hq] using Passed.inPiece hs hp (.single hcs')
  | @double items hi =>
    by_cases hq : c = '"'
    · subst hq
      simpa [Reader.push, Reader.enter, Piece.written, Piece.value] using
        Passed.piece hs hp (p := .double items) hi
    · by_cases hb : c = '\\'
      · subst hb
        simpa [Reader.push, Reader.enter] using Passed.inPiece hs hp (.escapedInDouble hi)
      · have hi' : ∀ i ∈ items ++ [.plain c], i.WellFormed :=
          List.forall_mem_append.mpr ⟨hi, List.forall_mem_singleton.mpr ⟨hq, hb⟩⟩
        simpa [Reader.push, Reader.take, Item.written, Item.value, hq, hb] using
          Passed.inPiece hs hp (.double hi')
  | escaped =>
    simpa [Reader.push, Reader.take, Piece.written, Piece.value] using
      Passed.piece hs hp (p := .escaped c) trivial
  | @escapedInDouble items hi =>
    have hi' : ∀ i ∈ items ++ [.escaped c], i.WellFormed :=
      List.forall_mem_append.mpr ⟨hi, List.forall_mem_singleton.mpr trivial⟩
    by_cases hc : c = '"' ∨ c = '\\' <;>
      simpa [Reader.push, Reader.take, Item.written, Item.value, hc] using
        Passed.inPiece hs hp (.double hi')

theorem Passed.push {r : Reader} (h : Passed line r) (c : Char) :
    Passed (line ++ [c]) (r.push c) := by
  cases h with
  | between hs =>
    cases hc : isSeparator c with
    | true =>
      rw [Reader.push_separator_between hc]
      exact .between (hs.separator hc)
    | false =>
      rw [Reader.push_bare (.inl rfl) hc]
      simpa using Passed.unquoted hs (List.forall_mem_nil _) .between hc
  | @inWord before words pieces hs hw =>
    cases hc : isSeparator c with
    | true =>
      rw [Reader.push_separator_inWord hc]
      simpa [wordValue] using Passed.between (hs.word hw (isGap_singleton hc) (by simp))
    | false =>
      rw [Reader.push_bare (.inr rfl) hc]
      exact Passed.unquoted hs hw.2 .inWord hc
  | inPiece hs hp hb => exact Passed.push_begun hs hp hb c

/-! ### A whole line -/

theorem Passed.foldl {r : Reader} (h : Passed before r) (line : List Char) :
    Passed (before ++ line) (line.foldl Reader.push r) := by
  induction line generalizing before r with
  | nil =>
    rw [List.append_nil]
    exact h
  | cons c line ih =>
    have hn := ih (h.push c)
    rwa [List.append_assoc] at hn

theorem passed_line (line : List Char) : Passed line (line.foldl Reader.push {}) :=
  Passed.foldl (.between (.gap isGap_nil)) line

/-- A line is words with gaps, or it breaks off in one of two ways, and the reader tells which. -/
theorem Passed.finish {r : Reader} (h : Passed line r) :
    (∃ words, Spells line words ∧ r.finish = .ok (words.map wordValue)) ∨
      (Unclosed line ∧ r.finish = .error .unclosedQuote) ∨
      (Dangling line ∧ r.finish = .error .nothingEscaped) := by
  cases h with
  | @between _ words hs => exact .inl ⟨words, hs.spells, by simp [Reader.finish]⟩
  | @inWord _ words pieces hs hw =>
    exact .inl ⟨words ++ [pieces], hs.append (spells_word hw),
      by simp [Reader.finish, Reader.close, wordValue]⟩
  | inPiece hs hp hb =>
    obtain ⟨all, ha⟩ := hs.exists_spells hp
    refine .inr ?_
    cases hb with
    | single hcs => exact .inl ⟨⟨_, _, _, ha, .single hcs, rfl⟩, rfl⟩
    | double hi => exact .inl ⟨⟨_, _, _, ha, .double hi, rfl⟩, rfl⟩
    | escaped => exact .inr ⟨⟨_, _, _, ha, .bare, rfl⟩, rfl⟩
    | escapedInDouble hi => exact .inr ⟨⟨_, _, _, ha, .double hi, rfl⟩, rfl⟩

/-! ### What is read, and what is refused -/

theorem split_of_spells {s : String} (h : Spells s.toList words) :
    split s = .ok (words.map wordValue) :=
  Reader.finish_spells h

theorem split_of_unclosed {s : String} (h : Unclosed s.toList) :
    split s = .error .unclosedQuote := by
  obtain ⟨before, words, rest, hs, hr, hl⟩ := h
  unfold split
  rw [hl, List.foldl_append]
  exact Reader.finish_openQuote hr (Reader.bare_of_spells hs)

theorem split_of_dangling {s : String} (h : Dangling s.toList) :
    split s = .error .nothingEscaped := by
  obtain ⟨before, words, rest, hs, hr, hl⟩ := h
  unfold split
  rw [hl, List.foldl_append]
  exact Reader.finish_openEscape hr (Reader.bare_of_spells hs)

theorem spells_nil_iff : Spells line [] ↔ IsGap line :=
  ⟨fun h => by cases h; assumption, .gap⟩

end Errand.Words

namespace Errand.Runner

open Words

/-! ### Commands that are texts -/

variable {s : String} {spelled : List (List Piece)}

/-- The command is refused: its value is wrong, and a text says why. -/
def Refuses (command : Value) (text : String) : Prop :=
  ∃ f, words command = .error f ∧ f.kind = .value ∧ f.message = text

theorem words_text (s : String) :
    words (.text s) = (do
      let ws ← split s
      if ws.isEmpty then throw .emptyCommand else pure ws) := rfl

theorem words_text_of_error {f : Fault} (h : split s = .error f) : words (.text s) = .error f := by
  rw [words_text, h]
  rfl

theorem words_text_of_ok {ws : List String} (h : split s = .ok ws) (hne : ws ≠ []) :
    words (.text s) = .ok ws := by
  rw [words_text, h]
  cases ws with
  | nil => cases hne rfl
  | cons w ws => rfl

theorem words_text_of_spells (h : Spells s.toList spelled) (hne : spelled ≠ []) :
    words (.text s) = .ok (spelled.map wordValue) :=
  words_text_of_ok (split_of_spells h) (mt List.map_eq_nil_iff.mp hne)

theorem words_text_of_gap (h : IsGap s.toList) : words (.text s) = .error .emptyCommand := by
  rw [words_text, split_of_spells (.gap h)]
  rfl

/-- What a text is decides what its words are, and it is one of four things. -/
theorem words_text_cases (s : String) :
    (∃ spelled, Spells s.toList spelled ∧ spelled ≠ [] ∧
        words (.text s) = .ok (spelled.map wordValue)) ∨
      (IsGap s.toList ∧ words (.text s) = .error .emptyCommand) ∨
      (Unclosed s.toList ∧ words (.text s) = .error .unclosedQuote) ∨
      (Dangling s.toList ∧ words (.text s) = .error .nothingEscaped) := by
  rcases (passed_line s.toList).finish with ⟨spelled, h, -⟩ | ⟨h, hf⟩ | ⟨h, hf⟩
  · by_cases hne : spelled = []
    · have hg : IsGap s.toList := spells_nil_iff.mp (hne ▸ h)
      exact .inr (.inl ⟨hg, words_text_of_gap hg⟩)
    · exact .inl ⟨spelled, h, hne, words_text_of_spells h hne⟩
  · exact .inr (.inr (.inl ⟨h, words_text_of_error hf⟩))
  · exact .inr (.inr (.inr ⟨h, words_text_of_error hf⟩))

theorem words_text_eq_ok_iff {ws : List String} :
    words (.text s) = .ok ws ↔
      ∃ spelled, Spells s.toList spelled ∧ spelled ≠ [] ∧ ws = spelled.map wordValue := by
  constructor
  · intro h
    rcases words_text_cases s with ⟨spelled, hs, hne, hw⟩ | ⟨-, hw⟩ | ⟨-, hw⟩ | ⟨-, hw⟩ <;>
      rw [hw] at h <;> cases h
    exact ⟨spelled, hs, hne, rfl⟩
  · rintro ⟨spelled, hs, hne, rfl⟩
    exact words_text_of_spells hs hne

theorem refuses_text_iff {text : String} :
    Refuses (.text s) text ↔
      (IsGap s.toList ∧ text = "Command must not be empty") ∨
      (Unclosed s.toList ∧ text = "No closing quotation") ∨
      (Dangling s.toList ∧ text = "No escaped character") := by
  constructor
  · rintro ⟨f, hf, -, rfl⟩
    rcases words_text_cases s with ⟨_, -, -, hw⟩ | ⟨h, hw⟩ | ⟨h, hw⟩ | ⟨h, hw⟩ <;>
      rw [hw] at hf <;> cases hf
    · exact .inl ⟨h, rfl⟩
    · exact .inr (.inl ⟨h, rfl⟩)
    · exact .inr (.inr ⟨h, rfl⟩)
  · rintro (⟨h, rfl⟩ | ⟨h, rfl⟩ | ⟨h, rfl⟩)
    · exact ⟨_, words_text_of_gap h, rfl, rfl⟩
    · exact ⟨_, words_text_of_error (split_of_unclosed h), rfl, rfl⟩
    · exact ⟨_, words_text_of_error (split_of_dangling h), rfl, rfl⟩

/-- **A text is a command if it is one or more words with gaps, and its words are the values of
these.** Any other text is refused, and what is wrong with it tells why: it is a gap, it breaks off
inside quotes, or it breaks off right after a backslash. -/
theorem words_of_text (s : String) :
    (∀ ws, words (.text s) = .ok ws ↔
      ∃ spelled, Spells s.toList spelled ∧ spelled ≠ [] ∧ ws = spelled.map wordValue) ∧
    (Refuses (.text s) "Command must not be empty" ↔ IsGap s.toList) ∧
    (Refuses (.text s) "No closing quotation" ↔ Unclosed s.toList) ∧
    (Refuses (.text s) "No escaped character" ↔ Dangling s.toList) ∧
    ((∃ ws, words (.text s) = .ok ws) ∨ Refuses (.text s) "Command must not be empty" ∨
      Refuses (.text s) "No closing quotation" ∨ Refuses (.text s) "No escaped character") := by
  have hgap : Refuses (.text s) "Command must not be empty" ↔ IsGap s.toList := by
    simp [refuses_text_iff]
  have hopen : Refuses (.text s) "No closing quotation" ↔ Unclosed s.toList := by
    simp [refuses_text_iff]
  have hescape : Refuses (.text s) "No escaped character" ↔ Dangling s.toList := by
    simp [refuses_text_iff]
  refine ⟨fun ws => words_text_eq_ok_iff, hgap, hopen, hescape, ?_⟩
  rcases words_text_cases s with ⟨_, -, -, hw⟩ | ⟨h, -⟩ | ⟨h, -⟩ | ⟨h, -⟩
  · exact .inl ⟨_, hw⟩
  · exact .inr (.inl (hgap.mpr h))
  · exact .inr (.inr (.inl (hopen.mpr h)))
  · exact .inr (.inr (.inr (hescape.mpr h)))

end Errand.Runner
