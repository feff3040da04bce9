/-! # Entries by label

A list of entries, each under its label, in the order in which the labels were first used.
`Labelled.adjust` changes the entry of a label and makes one for a label that is new. -/

namespace Errand

/-- Entries by label, in the order of first use. -/
abbrev Labelled (α : Type) := List (String × α)

namespace Labelled

variable {α : Type}

/-- Changes the entry of a label, which is `fresh` before for a label that is new. -/
def adjust (key : String) (fresh : α) (f : α → α) : Labelled α → Labelled α
  | [] => [(key, f fresh)]
  | (k, a) :: rest => if k = key then (k, f a) :: rest else (k, a) :: adjust key fresh f rest

/-- Makes an entry for a label, if it has none. -/
def touch (key : String) (fresh : α) (entries : Labelled α) : Labelled α :=
  adjust key fresh id entries

/-- The entry of the label that was changed. -/
theorem lookup_adjust_self (key : String) (fresh : α) (f : α → α) (entries : Labelled α) :
    (adjust key fresh f entries).lookup key = some (f ((entries.lookup key).getD fresh)) := by
  induction entries with
  | nil => simp [adjust]
  | cons e rest ih =>
    obtain ⟨k, a⟩ := e
    by_cases h : k = key
    · simp [adjust, h]
    · have hb : (key == k) = false := beq_false_of_ne (Ne.symm h)
      simp [adjust, h, List.lookup_cons, hb, ih]

/-- The entries of the other labels stay. -/
theorem lookup_adjust_of_ne {key other : String} (h : other ≠ key) (fresh : α) (f : α → α)
    (entries : Labelled α) : (adjust key fresh f entries).lookup other = entries.lookup other := by
  have hb : (other == key) = false := beq_false_of_ne h
  induction entries with
  | nil => simp [adjust, List.lookup_cons, hb]
  | cons e rest ih =>
    obtain ⟨k, a⟩ := e
    by_cases hk : k = key
    · subst hk; simp [adjust, List.lookup_cons, hb]
    · simp [adjust, hk, List.lookup_cons, ih]

/-- The entry of any label, where a label without one has a fresh entry. -/
theorem getD_adjust (key other : String) (fresh : α) (f : α → α) (entries : Labelled α) :
    ((adjust key fresh f entries).lookup other).getD fresh =
      if other = key then f ((entries.lookup key).getD fresh)
      else (entries.lookup other).getD fresh := by
  split
  · rename_i h
    rw [h, lookup_adjust_self, Option.getD_some]
  · rename_i h
    rw [lookup_adjust_of_ne h]

/-- What stands under the other labels stays. -/
theorem mem_adjust_of_ne {key : String} {e : String × α} (h : e.1 ≠ key) (fresh : α) (f : α → α)
    (entries : Labelled α) : e ∈ adjust key fresh f entries ↔ e ∈ entries := by
  have hkey (a : α) : e ≠ (key, a) := fun he => h (congrArg Prod.fst he)
  induction entries with
  | nil => simp [adjust, hkey]
  | cons d rest ih =>
    obtain ⟨k, a⟩ := d
    by_cases hk : k = key
    · subst hk; simp [adjust, hkey]
    · simp [adjust, hk, ih]

/-- The labels stay where they are, and a new one comes last. -/
theorem map_fst_adjust (key : String) (fresh : α) (f : α → α) (entries : Labelled α) :
    (adjust key fresh f entries).map (·.1) =
      if key ∈ entries.map (·.1) then entries.map (·.1) else entries.map (·.1) ++ [key] := by
  induction entries with
  | nil => rfl
  | cons e rest ih =>
    obtain ⟨k, a⟩ := e
    by_cases h : k = key
    · subst h; simp [adjust]
    · rw [adjust, if_neg h, List.map_cons, ih]
      simp only [List.map_cons, List.mem_cons, Ne.symm h, false_or]
      split <;> rfl

theorem nodup_adjust {entries : Labelled α} (h : (entries.map (·.1)).Nodup) (key : String)
    (fresh : α) (f : α → α) : ((adjust key fresh f entries).map (·.1)).Nodup := by
  rw [map_fst_adjust]
  split
  · exact h
  · rename_i hk
    refine List.nodup_append.mpr ⟨h, by simp, fun a ha b hb => ?_⟩
    rw [List.mem_singleton.mp hb]
    exact fun he => hk (he ▸ ha)

/-- Under labels that differ stands what is found there. -/
theorem mem_iff_lookup {entries : Labelled α} (h : (entries.map (·.1)).Nodup) {key : String}
    {a : α} : (key, a) ∈ entries ↔ entries.lookup key = some a := by
  induction entries with
  | nil => simp
  | cons e rest ih =>
    obtain ⟨k, b⟩ := e
    rw [List.map_cons, List.nodup_cons] at h
    have hrest := ih h.2
    by_cases hk : k = key
    · subst hk
      have hn : (k, a) ∉ rest := fun hm => h.1 (List.mem_map.mpr ⟨(k, a), hm, rfl⟩)
      simp [hn, eq_comm]
    · have hb : (key == k) = false := beq_false_of_ne (Ne.symm hk)
      simp [List.lookup_cons, hb, Ne.symm hk, hrest]

/-- Counting once more under one label adds one to the sum. -/
theorem sum_adjust (key : String) (entries : Labelled Nat) :
    ((adjust key 0 (· + 1) entries).map (·.2)).foldr (· + ·) 0 =
      (entries.map (·.2)).foldr (· + ·) 0 + 1 := by
  induction entries with
  | nil => rfl
  | cons e rest ih =>
    obtain ⟨k, n⟩ := e
    by_cases h : k = key
    · simp [adjust, h]; omega
    · simp [adjust, h] at ih ⊢; omega

end Labelled

end Errand
