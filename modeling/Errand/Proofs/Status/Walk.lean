import Errand.Status.Walk

/-! # Walks are short

A value names a state if it equals that state: the state itself does, and so does the text of its
name. The moves between two values are the four of `diagram`, whatever the values are made of
(`canMove_eq_ok_true_iff`), and the ways to ask about moves read one table (`Agree`).

A move leads to a state of smaller rank (`rank_lt_of_canMove`), and a try that is refused keeps the
state. So what is left of a walk can have no more moves than the rank of its state
(`length_movesFrom_le`): a walk has two at most, and none once it is at an end. -/

namespace Errand

namespace Status

/-! ### Names of states -/

theorem ofName?_eq_some_iff {t : String} {s : Status} : ofName? t = some s ↔ t = s.name := by
  constructor
  · intro h
    have hn : (s.name == t) = true := List.find?_some (p := fun u : Status => u.name == t) h
    exact (beq_iff_eq.mp hn).symm
  · rintro rfl
    exact ofName?_name s

theorem status?_eq_some_iff {v : Value} {s : Status} :
    v.status? = some s ↔ v.same (.status s) = true := by
  cases v with
  | text t =>
    have ht : (Value.text t).same (.status s) = (t == s.name) := rfl
    rw [ht, beq_iff_eq]
    exact ofName?_eq_some_iff
  | status u =>
    have hu : (Value.status u).same (.status s) = (u == s) := rfl
    have hn : (Value.status u).status? = some u := ofName?_name u
    rw [hu, hn, beq_iff_eq, Option.some.injEq]
  | null | bool _ | int _ | float _ | bytes _ | list _ | dict _ => exact iff_of_false nofun nofun

theorem hashable_of_status? {v : Value} {s : Status} (h : v.status? = some s) :
    v.hashable = true := by
  cases v with
  | list _ | dict _ => cases h
  | null | bool _ | int _ | float _ | text _ | bytes _ | status _ => rfl

/-- To be found in a table of states is to equal a member of it. -/
theorem any_status?_eq_memberOf (v : Value) (ss : List Status) :
    (ss.any fun s => v.status? == some s) = v.memberOf (ss.map .status) := by
  unfold Value.memberOf
  rw [List.any_map]
  congr 1
  funext s
  have h : (v.status? == some s) = true ↔ v.same (.status s) = true := by
    rw [beq_iff_eq]
    exact status?_eq_some_iff
  exact Bool.eq_iff_iff.mpr h

/-! ### One table -/

/-- The moves of an execution. -/
def diagram : List (Status × Status) :=
  [(pending, running), (pending, failed), (running, succeeded), (running, failed)]

theorem mem_successors_iff (s t : Status) : t ∈ s.successors ↔ (s, t) ∈ diagram := by
  cases s <;> cases t <;> decide

theorem successors_eq_nil_iff (s : Status) : s.successors = [] ↔ s.isTerminal = true := by
  cases s <;> decide

section Table
variable {a b : Value}

theorem successorsOf_of_hashable (ha : a.hashable = true) :
    successorsOf a = .ok ((a.status?.map successors).getD []) := if_pos ha

theorem canMove_of_hashable (ha : a.hashable = true) (hb : b.hashable = true) :
    canMove a b = .ok (((a.status?.map successors).getD []).any fun s => b.status? == some s) := by
  unfold canMove
  rw [successorsOf_of_hashable ha]
  exact if_pos hb

/-- Values that cannot be looked up are refused. -/
theorem hashable_of_canMove {answer : Bool} (h : canMove a b = .ok answer) :
    a.hashable = true ∧ b.hashable = true := by
  unfold canMove successorsOf at h
  cases ha : a.hashable with
  | false => rw [ha] at h; cases h
  | true =>
    refine ⟨rfl, ?_⟩
    cases hb : b.hashable with
    | false => rw [ha, hb] at h; cases h
    | true => rfl

/-- **The moves between values** are those of the diagram between the states that they name. -/
theorem canMove_eq_ok_true_iff :
    canMove a b = .ok true ↔
      ∃ m ∈ diagram, a.same (.status m.1) = true ∧ b.same (.status m.2) = true := by
  constructor
  · intro h
    obtain ⟨ha, hb⟩ := hashable_of_canMove h
    rw [canMove_of_hashable ha hb, Except.ok.injEq, List.any_eq_true] at h
    obtain ⟨t, ht, hbt⟩ := h
    cases hs : a.status? with
    | none => rw [hs] at ht; cases ht
    | some s =>
      rw [hs] at ht
      exact ⟨(s, t), (mem_successors_iff s t).mp ht, status?_eq_some_iff.mp hs,
        status?_eq_some_iff.mp (beq_iff_eq.mp hbt)⟩
  · rintro ⟨⟨s, t⟩, hm, hs, ht⟩
    have hs := status?_eq_some_iff.mpr hs
    have ht := status?_eq_some_iff.mpr ht
    rw [canMove_of_hashable (hashable_of_status? hs) (hashable_of_status? ht), hs, Except.ok.injEq,
      List.any_eq_true]
    exact ⟨t, (mem_successors_iff s t).mpr hm, beq_iff_eq.mpr ht⟩

theorem move_eq_ok_iff {c : Value} : move a b = .ok c ↔ canMove a b = .ok true ∧ c = b := by
  unfold move checkMove
  cases h : canMove a b with
  | error f => exact ⟨nofun, fun h => nomatch h.1⟩
  | ok answer =>
    cases answer with
    | false => exact ⟨nofun, fun h => nomatch h.1⟩
    | true => exact ⟨fun h => ⟨rfl, (Except.ok.inj h).symm⟩, fun h => congrArg _ h.2.symm⟩

/-- The four ways to ask about two values agree: which states follow the first one, whether the
second one is among them, whether a move is refused, and whether the first one is an end. -/
structure Agree (a b : Value) (targets : List Status) : Prop where
  successorsOf_eq : successorsOf a = .ok targets
  canMove_eq : canMove a b = .ok (b.memberOf (targets.map .status))
  checkMove_eq : checkMove a b =
    if b.memberOf (targets.map .status) then .ok () else .error (.badTransition a b)
  isTerminalValue_eq : ∃ answer, isTerminalValue a = .ok answer ∧
    (answer = true ↔ (∃ s, a.same (.status s) = true) ∧ targets = [])

/-- Of values that can be looked up all four are answered from one table. -/
theorem exists_agree (ha : a.hashable = true) (hb : b.hashable = true) :
    ∃ targets, Agree a b targets := by
  have hc := canMove_of_hashable ha hb
  rw [any_status?_eq_memberOf] at hc
  refine ⟨_, successorsOf_of_hashable ha, hc, ?_, _, if_pos ha, ?_⟩
  · unfold checkMove
    rw [hc]
    cases b.memberOf _ <;> rfl
  · cases hs : a.status? with
    | none =>
      refine iff_of_false nofun ?_
      rintro ⟨⟨s, h⟩, -⟩
      rw [← status?_eq_some_iff, hs] at h
      cases h
    | some s =>
      have hn : ∃ s, a.same (.status s) = true := ⟨s, status?_eq_some_iff.mp hs⟩
      exact (successors_eq_nil_iff s).symm.trans (and_iff_right hn).symm

end Table

/-! ### Ranks -/

/-- How many moves there can be from a value on. -/
def rank (v : Value) : Nat :=
  match v.status? with
  | some pending => 2
  | some running => 1
  | _ => 0

theorem rank_le_two (v : Value) : rank v ≤ 2 := by
  unfold rank
  split <;> decide

/-- **A move lowers the rank.** -/
theorem rank_lt_of_canMove {a b : Value} (h : canMove a b = .ok true) : rank b < rank a := by
  obtain ⟨⟨s, t⟩, hm, hs, ht⟩ := canMove_eq_ok_true_iff.mp h
  unfold rank
  rw [status?_eq_some_iff.mpr hs, status?_eq_some_iff.mpr ht]
  simp only [diagram, List.mem_cons, List.not_mem_nil, or_false, Prod.mk.injEq] at hm
  rcases hm with ⟨rfl, rfl⟩ | ⟨rfl, rfl⟩ | ⟨rfl, rfl⟩ | ⟨rfl, rfl⟩ <;> decide

theorem rank_eq_zero_of_isTerminalValue {v : Value} (h : isTerminalValue v = .ok true) :
    rank v = 0 := by
  unfold isTerminalValue at h
  unfold rank
  split at h
  · rw [Except.ok.injEq] at h
    cases hs : v.status? with
    | none => rfl
    | some s =>
      rw [hs] at h
      cases s with
      | pending | running => cases h
      | succeeded | failed => rfl
  · cases h

end Status

/-! ### Tries of a walk -/

open Status

/-- The try to move from one value to another. -/
def tried (current next : Value) : Try :=
  match Status.move current next with
  | .ok state => ⟨state, none⟩
  | .error f => ⟨current, some f⟩

theorem walk_cons (current next : Value) (rest : List Value) :
    walk current (next :: rest) =
      tried current next :: walk (tried current next).state rest := by
  rw [walk]
  unfold tried
  cases Status.move current next <;> rfl

/-- The state in which tries leave a walk. -/
def stateAfter (current : Value) (tries : List Try) : Value :=
  tries.foldl (fun _ t => t.state) current

/-- The moves among the tries of a walk, each with the state that it left. -/
def movesFrom (current : Value) : List Try → List (Value × Value)
  | [] => []
  | t :: ts =>
    match t.fault with
    | none => (current, t.state) :: movesFrom t.state ts
    | some _ => movesFrom t.state ts

theorem walk_append (current : Value) (path rest : List Value) :
    walk current (path ++ rest) =
      walk current path ++ walk (stateAfter current (walk current path)) rest := by
  induction path generalizing current with
  | nil => rfl
  | cons next path ih =>
    rw [List.cons_append, walk_cons, walk_cons, List.cons_append, ih]
    rfl

theorem tried_of_canMove {current next : Value} (h : canMove current next = .ok true) :
    tried current next = ⟨next, none⟩ := by
  unfold tried
  rw [move_eq_ok_iff.mpr ⟨h, rfl⟩]

/-- A try that is no move keeps the state. -/
theorem exists_tried_of_refused {current next : Value} (h : canMove current next ≠ .ok true) :
    ∃ f, tried current next = ⟨current, some f⟩ := by
  unfold tried
  cases hm : Status.move current next with
  | error f => exact ⟨f, rfl⟩
  | ok state => exact (h (move_eq_ok_iff.mp hm).1).elim

/-! ### Whole walks -/

theorem canMove_of_mem_movesFrom (current : Value) (path : List Value) :
    ∀ m ∈ movesFrom current (walk current path), canMove m.1 m.2 = .ok true := by
  induction path generalizing current with
  | nil => nofun
  | cons next path ih =>
    intro m hm
    rw [walk_cons] at hm
    by_cases h : canMove current next = .ok true
    · rw [tried_of_canMove h] at hm
      rcases List.mem_cons.mp hm with rfl | hm
      · exact h
      · exact ih next m hm
    · obtain ⟨f, hf⟩ := exists_tried_of_refused h
      rw [hf] at hm
      exact ih current m hm

/-- **A walk has no more moves than the rank of its first value.** -/
theorem length_movesFrom_le (current : Value) (path : List Value) :
    (movesFrom current (walk current path)).length ≤ rank current := by
  induction path generalizing current with
  | nil => exact Nat.zero_le _
  | cons next path ih =>
    rw [walk_cons]
    by_cases h : canMove current next = .ok true
    · have hr := rank_lt_of_canMove h
      have hn := ih next
      rw [tried_of_canMove h]
      calc (movesFrom next (walk next path)).length + 1 ≤ rank next + 1 := by omega
        _ ≤ rank current := hr
    · obtain ⟨f, hf⟩ := exists_tried_of_refused h
      rw [hf]
      exact ih current

/-- From a value of rank 0 on every try is refused. -/
theorem refused_of_rank_eq_zero {current : Value} (h : rank current = 0) (path : List Value) :
    ∀ t ∈ walk current path, t.fault.isSome = true ∧ t.state = current := by
  induction path with
  | nil => nofun
  | cons next path ih =>
    have hn : canMove current next ≠ .ok true := fun hc => by
      have hr := rank_lt_of_canMove hc
      omega
    obtain ⟨f, hf⟩ := exists_tried_of_refused hn
    intro t ht
    rw [walk_cons, hf] at ht
    rcases List.mem_cons.mp ht with rfl | ht
    · exact ⟨rfl, rfl⟩
    · exact ih t ht

/-! ### The main statement -/

/-- What holds of the tries of a walk: each one is the try to move on from where the earlier ones
left the walk; the moves are those of the diagram, two at most; and after an end there are none. -/
structure KeepsToDiagram (first : Value) (path : List Value) : Prop where
  tries_eq : ∀ before next after, path = before ++ next :: after →
    (walk first path)[before.length]? =
      some (tried (stateAfter first (walk first before)) next)
  diagram_of_mem : ∀ m ∈ movesFrom first (walk first path),
    ∃ e ∈ diagram, m.1.same (.status e.1) = true ∧ m.2.same (.status e.2) = true
  length_moves_le : (movesFrom first (walk first path)).length ≤ 2
  refused_after_end : ∀ before after, path = before ++ after →
    isTerminalValue (stateAfter first (walk first before)) = .ok true →
      ∀ t ∈ (walk first path).drop before.length,
        t.fault.isSome = true ∧ t.state = stateAfter first (walk first before)

/-- **Walks are short, and their moves are those of the diagram.** A walk through any values keeps
to the diagram; a move between two values is allowed exactly if it is in the diagram; and of any two
values that can be looked up the four ways to ask about moves agree. -/
theorem walk_keeps_to_diagram (first : Value) (path : List Value) :
    KeepsToDiagram first path ∧
      (∀ a b : Value, canMove a b = .ok true ↔
        ∃ e ∈ diagram, a.same (.status e.1) = true ∧ b.same (.status e.2) = true) ∧
      ∀ a b : Value, a.hashable = true → b.hashable = true → ∃ targets, Agree a b targets := by
  refine ⟨⟨?_, ?_, ?_, ?_⟩, fun a b => canMove_eq_ok_true_iff, fun a b ha hb => exists_agree ha hb⟩
  · rintro before next after rfl
    rw [walk_append, walk_cons, ← length_walk first before,
      List.getElem?_append_right (Nat.le_refl _), Nat.sub_self]
    rfl
  · intro m hm
    exact canMove_eq_ok_true_iff.mp (canMove_of_mem_movesFrom first path m hm)
  · exact Nat.le_trans (length_movesFrom_le first path) (rank_le_two first)
  · rintro before after rfl hend t ht
    rw [walk_append, ← length_walk first before, List.drop_left] at ht
    exact refused_of_rank_eq_zero (rank_eq_zero_of_isTerminalValue hend) after t ht

/-- A walk with a value that cannot be looked up, a name, a number and a state in it. It is at an
end after five tries, and the sixth is refused. -/
theorem walk_keeps_to_diagram_of_mixed :
    let first : Value := .text "PENDING"
    let before : List Value :=
      [.list [.int 1], .text "SUCCEEDED", .text "RUNNING", .int 3, .status .failed]
    let after : List Value := [.status .succeeded]
    movesFrom first (walk first (before ++ after)) =
        [(.text "PENDING", .text "RUNNING"), (.text "RUNNING", .status .failed)] ∧
      isTerminalValue (stateAfter first (walk first before)) = .ok true ∧
      (∀ t ∈ (walk first (before ++ after)).drop before.length,
        t.fault.isSome = true ∧ t.state = stateAfter first (walk first before)) ∧
      (Value.text "RUNNING").hashable = true ∧ (Value.status .failed).hashable = true ∧
      ∃ targets, Agree (.text "RUNNING") (.status .failed) targets := by
  intro first before after
  obtain ⟨hwalk, -, hagree⟩ := walk_keeps_to_diagram first (before ++ after)
  have hend : isTerminalValue (stateAfter first (walk first before)) = .ok true := rfl
  exact ⟨rfl, hend, hwalk.refused_after_end before after rfl hend, rfl, rfl, hagree _ _ rfl rfl⟩

end Errand
