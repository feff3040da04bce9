import Errand.Words.Grammar

/-! # Reading what the grammar spells

A reader that stands outside quotes and is not after a backslash is *bare*: it stands between words
or in one. A piece takes a bare reader into a word, with the value of the piece at the end of it
(`read_piece`), a gap leaves a reader between words alone (`read_gap`), and a separator ends the
word. So a line that is words with gaps is read as the values of the words (`finish_spells`), and
one that breaks off is refused (`finish_openQuote`, `finish_openEscape`).

The words of a reader stand with the last one first, as do the characters of its word: each lemma
says what a text does to any reader of the right mode, whatever it has read before. -/

namespace Errand.Words.Reader

variable {mode : Mode} {word : List Char} {words : List String}

/-- Outside quotes, and not after a backslash. -/
def Bare (mode : Mode) : Prop := mode = .between ∨ mode = .inWord

theorem push_bare (hm : Bare mode) {c : Char} (hc : isSeparator c = false) :
    push ⟨mode, word, words⟩ c = unquoted ⟨mode, word, words⟩ c := by
  rcases hm with rfl | rfl <;> simp [push, hc]

/-- Three characters mean something to a bare reader, and none of them separates words. -/
theorem push_quote (hm : Bare mode) :
    push ⟨mode, word, words⟩ '\'' = ⟨.inSingle, word, words⟩ :=
  push_bare hm rfl

theorem push_doubleQuote (hm : Bare mode) :
    push ⟨mode, word, words⟩ '"' = ⟨.inDouble, word, words⟩ :=
  push_bare hm rfl

theorem push_backslash (hm : Bare mode) :
    push ⟨mode, word, words⟩ '\\' = ⟨.escaped, word, words⟩ :=
  push_bare hm rfl

theorem push_separator_between {c : Char} (hc : isSeparator c = true) :
    push ⟨.between, word, words⟩ c = ⟨.between, word, words⟩ :=
  if_pos hc

theorem push_separator_inWord {c : Char} (hc : isSeparator c = true) :
    push ⟨.inWord, word, words⟩ c = ⟨.between, [], .ofList word.reverse :: words⟩ :=
  if_pos hc

/-! ### Inside quotes -/

theorem read_single {cs : List Char} (h : '\'' ∉ cs) :
    cs.foldl push ⟨.inSingle, word, words⟩ = ⟨.inSingle, cs.reverse ++ word, words⟩ := by
  induction cs generalizing word with
  | nil => rfl
  | cons c cs ih =>
    obtain ⟨hc, hcs⟩ := not_or.mp (mt List.mem_cons.mpr h)
    have hp : push ⟨.inSingle, word, words⟩ c = ⟨.inSingle, c :: word, words⟩ :=
      if_neg (Ne.symm hc)
    rw [List.foldl_cons, hp, ih hcs, List.reverse_cons, List.append_assoc]
    rfl

theorem read_item {i : Item} (hi : i.WellFormed) :
    i.written.foldl push ⟨.inDouble, word, words⟩ =
      ⟨.inDouble, i.value.reverse ++ word, words⟩ := by
  cases i with
  | plain c =>
    change push ⟨.inDouble, word, words⟩ c = _
    simp [push, take, Item.value, hi.1, hi.2]
  | escaped c =>
    change push ⟨.escapedInDouble, word, words⟩ c = _
    by_cases hc : c = '"' ∨ c = '\\' <;> simp [push, take, Item.value, hc]

theorem read_items {items : List Item} (h : ∀ i ∈ items, i.WellFormed) :
    (items.flatMap Item.written).foldl push ⟨.inDouble, word, words⟩ =
      ⟨.inDouble, (items.flatMap Item.value).reverse ++ word, words⟩ := by
  induction items generalizing word with
  | nil => rfl
  | cons i items ih =>
    obtain ⟨hi, hitems⟩ := List.forall_mem_cons.mp h
    rw [List.flatMap_cons, List.foldl_append, read_item hi, ih hitems, List.flatMap_cons,
      List.reverse_append, List.append_assoc]

/-! ### Words and gaps -/

/-- A piece belongs to the word of a bare reader, or begins it. -/
theorem read_piece (hm : Bare mode) {p : Piece} (hp : p.WellFormed) :
    p.written.foldl push ⟨mode, word, words⟩ = ⟨.inWord, p.value.reverse ++ word, words⟩ := by
  cases p with
  | plain c =>
    obtain ⟨hs, hq, hd, hb⟩ := hp
    change push ⟨mode, word, words⟩ c = _
    rw [push_bare hm hs]
    simp [unquoted, take, Piece.value, hq, hd, hb]
  | escaped c =>
    change push (push ⟨mode, word, words⟩ '\\') c = _
    rw [push_backslash hm]
    rfl
  | single cs =>
    change (cs ++ ['\'']).foldl push (push ⟨mode, word, words⟩ '\'') = _
    rw [push_quote hm, List.foldl_append, read_single hp]
    rfl
  | double items =>
    change (items.flatMap Item.written ++ ['"']).foldl push (push ⟨mode, word, words⟩ '"') = _
    rw [push_doubleQuote hm, List.foldl_append, read_items hp]
    rfl

theorem read_pieces {pieces : List Piece} (h : ∀ p ∈ pieces, p.WellFormed) :
    (pieces.flatMap Piece.written).foldl push ⟨.inWord, word, words⟩ =
      ⟨.inWord, (pieces.flatMap Piece.value).reverse ++ word, words⟩ := by
  induction pieces generalizing word with
  | nil => rfl
  | cons p pieces ih =>
    obtain ⟨hp, hpieces⟩ := List.forall_mem_cons.mp h
    rw [List.flatMap_cons, List.foldl_append, read_piece (.inr rfl) hp, ih hpieces,
      List.flatMap_cons, List.reverse_append, List.append_assoc]

/-- A word is not empty, so that its first piece takes the reader into it. -/
theorem read_word {pieces : List Piece} (h : IsWord pieces) :
    (pieces.flatMap Piece.written).foldl push ⟨.between, [], words⟩ =
      ⟨.inWord, (pieces.flatMap Piece.value).reverse, words⟩ := by
  obtain ⟨hne, hw⟩ := h
  cases pieces with
  | nil => cases hne rfl
  | cons p pieces =>
    obtain ⟨hp, hpieces⟩ := List.forall_mem_cons.mp hw
    rw [List.flatMap_cons, List.foldl_append, read_piece (.inl rfl) hp, read_pieces hpieces,
      List.flatMap_cons, List.reverse_append, List.append_nil]

theorem read_gap {cs : List Char} (h : IsGap cs) :
    cs.foldl push ⟨.between, word, words⟩ = ⟨.between, word, words⟩ := by
  induction cs with
  | nil => rfl
  | cons c cs ih =>
    obtain ⟨hc, hcs⟩ := List.forall_mem_cons.mp h
    rw [List.foldl_cons, push_separator_between hc, ih hcs]

/-- A word ends where a separator follows, and at the end of the line. -/
theorem finish_close {rest : List Char} (h : ∀ c ∈ rest.head?, isSeparator c = true) :
    (rest.foldl push ⟨.inWord, word, words⟩).finish =
      (rest.foldl push ⟨.between, [], .ofList word.reverse :: words⟩).finish := by
  cases rest with
  | nil => rfl
  | cons c rest =>
    have hc : isSeparator c = true := h c rfl
    rw [List.foldl_cons, List.foldl_cons, push_separator_inWord hc, push_separator_between hc]

/-! ### Lines -/

theorem finish_spells {line : List Char} {spelled : List (List Piece)} (h : Spells line spelled) :
    (line.foldl push ⟨.between, [], words⟩).finish =
      .ok (words.reverse ++ spelled.map wordValue) := by
  induction h generalizing words with
  | gap hg =>
    rw [read_gap hg, List.map_nil, List.append_nil]
    rfl
  | @word cs rest pieces spelled hg hw _ hrest ih =>
    rw [List.append_assoc, List.foldl_append, read_gap hg, List.foldl_append, read_word hw,
      finish_close hrest, ih, List.reverse_reverse, List.reverse_cons, List.append_assoc]
    rfl

theorem bare_of_finish_eq_ok {r : Reader} {ws : List String} (h : r.finish = .ok ws) :
    Bare r.mode := by
  unfold finish at h
  split at h
  · exact .inl ‹_›
  · exact .inr ‹_›
  all_goals cases h

/-- Where the words of a line end, more may follow: the reader is bare. -/
theorem bare_of_spells {line : List Char} {spelled : List (List Piece)}
    (h : Spells line spelled) : Bare (line.foldl push {}).mode :=
  bare_of_finish_eq_ok (finish_spells h)

theorem finish_openQuote {rest : List Char} (h : OpenQuote rest) (hm : Bare mode) :
    (rest.foldl push ⟨mode, word, words⟩).finish = .error .unclosedQuote := by
  cases h with
  | single hcs =>
    rw [List.foldl_cons, push_quote hm, read_single hcs]
    rfl
  | double hitems =>
    rw [List.foldl_cons, push_doubleQuote hm, read_items hitems]
    rfl

theorem finish_openEscape {rest : List Char} (h : OpenEscape rest) (hm : Bare mode) :
    (rest.foldl push ⟨mode, word, words⟩).finish = .error .nothingEscaped := by
  cases h with
  | bare =>
    rw [List.foldl_cons, push_backslash hm]
    rfl
  | double hitems =>
    rw [List.cons_append, List.foldl_cons, push_doubleQuote hm, List.foldl_append,
      read_items hitems]
    rfl

end Errand.Words.Reader
