import Errand.Proofs.Text.Utf8

/-! # Texts that are cut off

Bytes that were captured up to some moment are the first bytes of what there was to come. If that is
a text, the last of them may be inside a character.

* The reader has then made nothing of this character yet: it stands inside one, and the pieces so
  far are the characters before (`exists_foldl_push_inside`). It follows from two facts about its
  steps: pieces stay, and a step back to between characters completes one (`exists_foldl_push`).
* So what is shown of the first `k` bytes of a text is its longest beginning that is written in `k`
  bytes, and one replacement character if the byte at `k` belongs to a character that begins before
  (`showsCut_decodeLossy`). -/

namespace Errand.Text.Utf8

/-! ### A beginning of a character -/

/-- A step that leads back to between characters completes a piece. -/
def Completes (x : List Piece × State) : Prop := x.2 = .between → x.1 ≠ []

theorem Completes.cons (p : Piece) (ps : List Piece) (st : State) : Completes (p :: ps, st) :=
  fun _ => List.cons_ne_nil p ps

theorem Completes.inside {ps : List Piece} {run : Bytes} {bits missing : Nat} {low high : UInt8} :
    Completes (ps, .inside run bits missing low high) := nofun

theorem Completes.ite {c : Prop} [Decidable c] {x y : List Piece × State} (hx : Completes x)
    (hy : Completes y) : Completes (if c then x else y) := by
  split
  · exact hx
  · exact hy

theorem completes_lead (b : UInt8) : Completes (lead b) := by
  have hbad := Completes.cons (.bad [b] .badStart) [] .between
  unfold lead
  exact .ite (.cons _ _ _) (.ite hbad (.ite .inside (.ite .inside (.ite .inside (.ite .inside
    (.ite .inside (.ite .inside (.ite .inside hbad))))))))

theorem completes_step (st : State) (b : UInt8) : Completes (step st b) := by
  cases st with
  | between => exact completes_lead b
  | inside run bits missing low high => exact .ite (.ite (.cons _ _ _) .inside) (.cons _ _ _)

/-- What was read stays, and bytes after which the reader stands between characters add to it. -/
theorem exists_foldl_push (bs : Bytes) (done : List Piece) (st : State) :
    ∃ new st', bs.foldl Reader.push ⟨done, st⟩ = ⟨new ++ done, st'⟩ ∧
      (bs ≠ [] → st' = .between → new ≠ []) := by
  induction bs generalizing done st with
  | nil => exact ⟨[], st, rfl, fun h => (h rfl).elim⟩
  | cons b bs ih =>
    obtain ⟨ps, mid, hstep⟩ : ∃ ps mid, step st b = (ps, mid) := ⟨_, _, rfl⟩
    obtain ⟨new, st', hf, hn⟩ := ih (ps.reverse ++ done) mid
    refine ⟨new ++ ps.reverse, st', ?_, fun _ hst => ?_⟩
    · rw [List.foldl_cons, push_of_step hstep, hf, List.append_assoc]
    · cases bs with
      | nil =>
        -- this byte was the last one, and it led back to between characters
        have hmid : mid = .between := (Reader.mk.inj hf).2.trans hst
        have hps : ps ≠ [] := by
          have hc := completes_step st b
          rw [hstep] at hc
          exact hc hmid
        simp [hps]
      | cons b' bs => exact List.append_ne_nil_of_left_ne_nil (hn (List.cons_ne_nil _ _) hst) _

section Beginning
variable {c : Char} {xs ys : Bytes} (h : xs ++ ys = String.utf8EncodeChar c) (hx : xs ≠ [])
  (hy : ys ≠ [])
include h hx hy

/-- **Of a character that is not complete nothing is made yet.** -/
theorem exists_foldl_push_inside (done : List Piece) :
    ∃ run bits missing low high,
      xs.foldl Reader.push ⟨done, .between⟩ = ⟨done, .inside run bits missing low high⟩ := by
  obtain ⟨new, st, hxs, hn⟩ := exists_foldl_push xs done .between
  obtain ⟨new', st', hys, hn'⟩ := exists_foldl_push ys (new ++ done) st
  have hc := foldl_push_utf8EncodeChar c done
  rw [← h, List.foldl_append, hxs, hys] at hc
  obtain ⟨hd, hst'⟩ := Reader.mk.inj hc
  -- the whole character is one piece, and the rest of its bytes completes it
  have hlen := congrArg List.length hd
  have hpos : 0 < new'.length := List.length_pos_iff.mpr (hn' hy hst')
  simp only [List.length_append, List.length_cons] at hlen
  have hnew : new = [] := List.length_eq_zero_iff.mp (by omega)
  rw [hnew, List.nil_append] at hxs
  cases st with
  | between => exact (hn hx rfl hnew).elim
  | inside run bits missing low high => exact ⟨run, bits, missing, low, high, hxs⟩

/-- It is shown as one replacement character. -/
theorem decodeLossy_of_append_eq : decodeLossy xs = "\ufffd" := by
  obtain ⟨run, bits, missing, low, high, hr⟩ := exists_foldl_push_inside h hx hy []
  have hp : pieces xs = [.bad run.reverse .cutShort] := by
    unfold pieces
    rw [hr]
    rfl
  unfold decodeLossy
  rw [hp]
  rfl

end Beginning

/-! ### Where a cut falls -/

/-- The number of bytes in which characters are written. -/
def width (cs : List Char) : Nat := (cs.flatMap String.utf8EncodeChar).length

theorem width_append (cs ds : List Char) : width (cs ++ ds) = width cs + width ds := by
  unfold width
  rw [List.flatMap_append, List.length_append]

theorem width_cons (c : Char) (cs : List Char) : width (c :: cs) = c.utf8Size + width cs := by
  unfold width
  rw [List.flatMap_cons, List.length_append, String.length_utf8EncodeChar]

theorem width_concat (cs : List Char) (c : Char) : width (cs ++ [c]) = width cs + c.utf8Size := by
  rw [width_append, width_cons]
  rfl

theorem width_le_of_prefix {cs ds : List Char} (h : cs <+: ds) : width cs ≤ width ds := by
  obtain ⟨es, rfl⟩ := h
  rw [width_append]
  exact Nat.le_add_right _ _

theorem length_encode (s : String) : (encode s).length = width s.toList := rfl

/-- The longest beginning of a text that is written in so many bytes. -/
structure LongestFit (s : String) (k : Nat) (p : String) : Prop where
  isPrefix : p.toList <+: s.toList
  length_le : (encode p).length ≤ k
  longest : ∀ q : String, q.toList <+: s.toList → (encode q).length ≤ k → q.toList <+: p.toList

/-- The byte at this place of a text belongs to the character that follows these ones. -/
structure BelongsTo (s : String) (k : Nat) (before : List Char) (c : Char) : Prop where
  isPrefix : before ++ [c] <+: s.toList
  le : width before ≤ k
  lt : k < width before + c.utf8Size

/-- A cut after so many bytes of a text is inside a character: the next byte belongs to one that
begins before the cut. -/
def IsInside (s : String) (k : Nat) : Prop :=
  ∃ before c, BelongsTo s k before c ∧ width before < k

/-- What is shown of the first bytes of a text: the longest beginning that is written in them, and
one replacement character if the cut is inside a character. -/
def ShowsCut (s : String) (k : Nat) (shown : String) : Prop :=
  ∃ p, LongestFit s k p ∧ (IsInside s k → shown = p ++ "\ufffd") ∧ (¬ IsInside s k → shown = p)

variable {s : String} {k : Nat}

theorem BelongsTo.lt_width {before : List Char} {c : Char} (h : BelongsTo s k before c) :
    k < width s.toList := by
  have hw := width_le_of_prefix h.isPrefix
  have hlt := h.lt
  rw [width_concat] at hw
  omega

theorem BelongsTo.not_prefix {before before' : List Char} {c c' : Char}
    (h : BelongsTo s k before c) (h' : BelongsTo s k before' c') : ¬ before ++ [c] <+: before' := by
  intro hp
  have hw := width_le_of_prefix hp
  have hlt := h.lt
  have hle := h'.le
  rw [width_concat] at hw
  omega

/-- A byte belongs to one character. -/
theorem BelongsTo.before_eq {before before' : List Char} {c c' : Char}
    (h : BelongsTo s k before c) (h' : BelongsTo s k before' c') : before = before' := by
  have hcases := List.prefix_or_prefix_of_prefix h.isPrefix h'.isPrefix
  rw [List.prefix_concat_iff, List.prefix_concat_iff] at hcases
  rcases hcases with (heq | hp) | (heq | hp)
  · exact (List.append_inj' heq rfl).1
  · exact (h.not_prefix h' hp).elim
  · exact (List.append_inj' heq rfl).1.symm
  · exact (h'.not_prefix h hp).elim

theorem BelongsTo.isInside_iff {before : List Char} {c : Char} (h : BelongsTo s k before c) :
    IsInside s k ↔ width before < k := by
  constructor
  · rintro ⟨before', c', h', hlt⟩
    rw [h.before_eq h']
    exact hlt
  · exact fun hlt => ⟨before, c, h, hlt⟩

/-- A text can be cut so that what is before the cut fits, and not one character more. -/
theorem exists_append_fit (cs : List Char) (k : Nat) :
    ∃ before rest, cs = before ++ rest ∧ width before ≤ k ∧
      ∀ c ∈ rest.head?, k < width before + c.utf8Size := by
  induction cs generalizing k with
  | nil => exact ⟨[], [], rfl, Nat.zero_le k, nofun⟩
  | cons c cs ih =>
    by_cases hc : c.utf8Size ≤ k
    · obtain ⟨before, rest, rfl, hle, hrest⟩ := ih (k - c.utf8Size)
      refine ⟨c :: before, rest, rfl, ?_, fun d hd => ?_⟩
      · rw [width_cons]
        omega
      · have hlt := hrest d hd
        rw [width_cons]
        omega
    · refine ⟨[], c :: cs, rfl, Nat.zero_le k, fun d hd => ?_⟩
      cases hd
      have hw : width [] = 0 := rfl
      omega

theorem longestFit_of_append {before rest : List Char} (hs : s.toList = before ++ rest)
    (hle : width before ≤ k) (hrest : ∀ c ∈ rest.head?, k < width before + c.utf8Size) :
    LongestFit s k (.ofList before) := by
  have hb : (String.ofList before).toList = before := String.toList_ofList
  refine ⟨?_, ?_, fun q hq hqk => ?_⟩
  · rw [hb, hs]
    exact List.prefix_append before rest
  · rw [length_encode, hb]
    exact hle
  · rw [length_encode] at hqk
    rw [hs] at hq
    rw [hb]
    rcases List.prefix_or_prefix_of_prefix hq (List.prefix_append before rest) with h | ⟨t, ht⟩
    · exact h
    · -- a longer beginning has the first character of the rest in it
      rw [← ht, List.prefix_append_right_inj] at hq
      cases t with
      | nil =>
        have heq : before = q.toList := by rw [← ht, List.append_nil]
        exact heq ▸ List.prefix_rfl
      | cons c t =>
        obtain ⟨u, rfl⟩ := hq
        have hlt := hrest c rfl
        rw [← ht, width_append, width_cons] at hqk
        omega

/-! ### The main statement -/

theorem take_encode {before rest : List Char} (hs : s.toList = before ++ rest)
    (hle : width before ≤ k) :
    (encode s).take k =
      encode (.ofList before) ++ (rest.flatMap String.utf8EncodeChar).take (k - width before) := by
  have he : encode s = encode (.ofList before) ++ rest.flatMap String.utf8EncodeChar := by
    unfold encode
    rw [hs, List.flatMap_append, String.toList_ofList]
  have hl : (encode (.ofList before)).length = width before := by
    rw [length_encode, String.toList_ofList]
  rw [he, List.take_append, List.take_of_length_le (by omega), hl]

/-- **What is shown of the first bytes of a text.** -/
theorem showsCut_decodeLossy (s : String) (k : Nat) :
    ShowsCut s k (decodeLossy ((encode s).take k)) := by
  obtain ⟨before, rest, hs, hle, hrest⟩ := exists_append_fit s.toList k
  refine ⟨.ofList before, longestFit_of_append hs hle hrest, ?_⟩
  rw [take_encode hs hle, decodeLossy_encode_append]
  cases rest with
  | nil =>
    have hn : ¬ IsInside s k := by
      rintro ⟨b, c, hb, -⟩
      have hlt := hb.lt_width
      rw [hs, List.append_nil] at hlt
      omega
    refine ⟨fun hi => (hn hi).elim, fun _ => ?_⟩
    rw [List.flatMap_nil, List.take_nil]
    exact String.append_empty
  | cons c cs =>
    have hlt : k < width before + c.utf8Size := hrest c rfl
    have hc : (String.utf8EncodeChar c).length = c.utf8Size := String.length_utf8EncodeChar c
    have hb : BelongsTo s k before c := ⟨⟨cs, by rw [hs, List.append_assoc]; rfl⟩, hle, hlt⟩
    rw [hb.isInside_iff, List.flatMap_cons, List.take_append_of_le_length (by omega)]
    refine ⟨fun hi => ?_, fun hi => ?_⟩
    · -- some bytes of the character are there, and some are missing
      rw [decodeLossy_of_append_eq (List.take_append_drop (k - width before) _)]
      · exact List.ne_nil_of_length_pos (by rw [List.length_take]; omega)
      · exact List.ne_nil_of_length_pos (by rw [List.length_drop]; omega)
    · have hz : k - width before = 0 := by omega
      rw [hz, List.take_zero]
      exact String.append_empty

end Errand.Text.Utf8
