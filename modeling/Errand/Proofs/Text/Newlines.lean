import Errand.Text.Newlines
import Mathlib.Tactic.SplitIfs

/-! # Texts with one kind of line end

What follows a character of a text with unified line ends depends on the text only through whether
that character was a carriage return (`unified`). No carriage return is left, and a text without one
is left as it is; so the texts that are left as they are have none (`unifyNewlines_eq_self_iff`). -/

namespace Errand.Text

/-- The rest of a text with unified line ends, after a carriage return or after anything else. -/
def unified (afterReturn : Bool) : List Char → List Char
  | [] => []
  | c :: cs =>
    if c = '\r' then '\n' :: unified true cs
    else if afterReturn = true ∧ c = '\n' then unified false cs
    else c :: unified false cs

theorem unifyStep_return (afterReturn : Bool) (out : List Char) :
    unifyStep (afterReturn, out) '\r' = (true, '\n' :: out) := by
  cases afterReturn <;> rfl

theorem unifyStep_pair (out : List Char) : unifyStep (true, out) '\n' = (false, out) := rfl

theorem unifyStep_of_ne {afterReturn : Bool} {out : List Char} {c : Char} (h : c ≠ '\r')
    (h' : ¬ (afterReturn = true ∧ c = '\n')) :
    unifyStep (afterReturn, out) c = (false, c :: out) := by
  unfold unifyStep
  split
  · exact (h rfl).elim
  · next heq => exact (h' ⟨(Prod.mk.inj heq).1, rfl⟩).elim
  · next heq _ _ => rw [(Prod.mk.inj heq).2]

theorem foldl_unifyStep (cs : List Char) (afterReturn : Bool) (out : List Char) :
    (cs.foldl unifyStep (afterReturn, out)).2.reverse = out.reverse ++ unified afterReturn cs := by
  induction cs generalizing afterReturn out with
  | nil => exact (List.append_nil _).symm
  | cons c cs ih =>
    rw [List.foldl_cons, unified]
    split_ifs with hc hpair
    · rw [hc, unifyStep_return, ih, List.reverse_cons, List.append_assoc]
      rfl
    · rw [hpair.1, hpair.2, unifyStep_pair, ih]
    · rw [unifyStep_of_ne hc hpair, ih, List.reverse_cons, List.append_assoc]
      rfl

theorem toList_unifyNewlines (s : String) : (unifyNewlines s).toList = unified false s.toList := by
  unfold unifyNewlines
  rw [String.toList_ofList, foldl_unifyStep]
  rfl

theorem return_not_mem_unified (afterReturn : Bool) (cs : List Char) :
    '\r' ∉ unified afterReturn cs := by
  induction cs generalizing afterReturn with
  | nil => exact List.not_mem_nil
  | cons c cs ih =>
    rw [unified]
    split_ifs with hc hpair
    · exact List.not_mem_cons_of_ne_of_not_mem (by decide) (ih true)
    · exact ih false
    · exact List.not_mem_cons_of_ne_of_not_mem (Ne.symm hc) (ih false)

theorem unified_of_return_not_mem {cs : List Char} (h : '\r' ∉ cs) : unified false cs = cs := by
  induction cs with
  | nil => rfl
  | cons c cs ih =>
    have hc : c ≠ '\r' := (List.ne_of_not_mem_cons h).symm
    rw [unified, if_neg hc, if_neg (fun hp => nomatch hp.1), ih (List.not_mem_of_not_mem_cons h)]

/-- **No carriage return is left.** -/
theorem return_not_mem_unifyNewlines (s : String) : '\r' ∉ (unifyNewlines s).toList := by
  rw [toList_unifyNewlines]
  exact return_not_mem_unified false s.toList

theorem unifyNewlines_eq_self_iff {s : String} : unifyNewlines s = s ↔ '\r' ∉ s.toList := by
  constructor
  · intro h
    rw [← h]
    exact return_not_mem_unifyNewlines s
  · intro h
    rw [← String.toList_inj, toList_unifyNewlines, unified_of_return_not_mem h]

end Errand.Text
