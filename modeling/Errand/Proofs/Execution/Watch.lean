import Errand.Execution.Child
import Errand.Proofs.Execution.Command
import Errand.Proofs.Execution.Conclusion

/-! # No process is left behind

A cooperative execution that has come to its end has one of six *stories* to tell of its process:
what it did to it and what it heard of it (`Story`). After its story it may tell its handler, if it
was not broken off (`Tale`). Each part of an execution leads on to a tale whatever the answers are
(`ends_watched`, `ends_runCooperatively`), and an execution on its way can always be brought to an
end (`Course.Ends.exists_end`), so its marks so far are a first part of a tale.

What the marks say stays true of the process, which is over for good once it has ended
(`Watch.Sound`). The main statement is `child_attended`. -/

namespace Errand

/-! ### Stories -/

/-- What a cooperative execution did to its process and heard of it, and what it came to. -/
inductive Story : List Mark → Except Fault Unit → Prop
  /-- The command was refused or could not be launched. -/
  | unlaunched (x : Except Fault Unit) : Story [] x
  | exited (n : Int) (out err : Bytes) :
      Story [.launched, .waited (.exited n (some out) (some err))] (.ok ())
  | late : Story [.launched, .waited .timedOut, .killed, .reaped .exited] (.ok ())
  | lateBroken :
      Story [.launched, .waited .timedOut, .killed, .reaped .cancelled] (.error .cancelled)
  | cancelled (answer : ReapAnswer) :
      Story [.launched, .waited (.cancelled none), .killed, .reaped answer] (.error .cancelled)
  /-- The execution was cancelled when the process was known to have ended. -/
  | known (n : Int) : Story [.launched, .waited (.cancelled (some n))] (.error .cancelled)

/-- A story, and what the handler is told after it if it ends well. -/
structure Tale (x : Except Fault Unit) (l : List Mark) : Prop where
  exists_story : ∃ s calls, Story s x ∧ l = s ++ calls.map Mark.told ∧ (calls = [] ∨ x = .ok ())

namespace Tale

variable {x : Except Fault Unit} {l : List Mark}

theorem countP_told (calls : List Callback) : (calls.map Mark.told).countP Mark.isKilled = 0 := by
  rw [List.countP_map]
  exact List.countP_eq_zero.mpr fun c _ => Bool.false_ne_true

theorem countP_killed_le (h : Tale x l) : l.countP Mark.isKilled ≤ 1 := by
  obtain ⟨s, calls, hs, rfl, -⟩ := h
  rw [List.countP_append, countP_told]
  cases hs with
  | unlaunched | exited | known => exact Nat.zero_le 1
  | late | lateBroken | cancelled => exact Nat.le_refl 1

/-- What is no call is part of the story. -/
theorem mem_story {s : List Mark} {calls : List Callback} {m : Mark}
    (h : m ∈ s ++ calls.map Mark.told) (hm : m.isTold = false) : m ∈ s := by
  rcases List.mem_append.mp h with h | h
  · exact h
  · obtain ⟨c, -, rfl⟩ := List.mem_map.mp h
    cases hm

/-- Launching comes first. -/
theorem eq_nil_of_launched {l' : List Mark} (h : Tale x (l ++ .launched :: l')) : l = [] := by
  obtain ⟨s, calls, hs, he, -⟩ := h
  cases l with
  | nil => rfl
  | cons m l =>
    have hm : .launched ∈ (s ++ calls.map Mark.told).tail := by
      rw [← he]
      exact List.mem_append_right _ List.mem_cons_self
    cases hs with
    | unlaunched => exact absurd (mem_story (List.mem_of_mem_tail hm) rfl) List.not_mem_nil
    | _ => exact absurd (mem_story hm rfl) (by simp)

/-- Who is cancelled while waiting tells nobody and is broken off. -/
theorem of_cancelled {n : Option Int} (h : Tale x l) (hn : .waited (.cancelled n) ∈ l) :
    x = .error .cancelled ∧ (∀ c, .told c ∉ l) ∧ (n.isSome = true → .killed ∉ l) := by
  obtain ⟨s, calls, hs, rfl, hx⟩ := h
  have hm := mem_story hn rfl
  cases hs with
  | cancelled answer =>
    obtain rfl : calls = [] := hx.resolve_right nofun
    obtain rfl : n = none := by simpa using hm
    exact ⟨rfl, by simp, nofun⟩
  | known k =>
    obtain rfl : calls = [] := hx.resolve_right nofun
    exact ⟨rfl, by simp, by simp⟩
  | _ => exact absurd hm (by simp)

/-- How an execution that launched a process ends: it has killed the process or was told of its end,
and after a kill it was told of the end, or cancelled once more. -/
theorem of_launched (h : Tale x l) (hl : .launched ∈ l) :
    (x = .ok () ∨ x = .error .cancelled) ∧
      ((.killed ∉ l ∧ ∃ answer n, .waited answer ∈ l ∧ ∀ c : Child, c.Fits answer → c = .exited n) ∨
        .killed ∈ l ∧ (.reaped .cancelled ∈ l ∨ [.killed, .reaped .exited] <:+: l)) := by
  obtain ⟨s, calls, hs, rfl, hx⟩ := h
  cases hs with
  | unlaunched => exact absurd (mem_story hl rfl) List.not_mem_nil
  | exited n out err =>
    refine ⟨.inl rfl, .inl ⟨fun hk => absurd (mem_story hk rfl) (by simp), ?_⟩⟩
    exact ⟨.exited n (some out) (some err), n, by simp, fun c hc => hc⟩
  | late => exact ⟨.inl rfl, .inr ⟨by simp, .inr ⟨[_, _], _, rfl⟩⟩⟩
  | lateBroken => exact ⟨.inr rfl, .inr ⟨by simp, .inl (by simp)⟩⟩
  | cancelled answer =>
    refine ⟨.inr rfl, .inr ⟨by simp, ?_⟩⟩
    cases answer with
    | exited => exact .inr ⟨[_, _], _, rfl⟩
    | cancelled => exact .inl (by simp)
  | known n =>
    refine ⟨.inr rfl, .inl ⟨fun hk => absurd (mem_story hk rfl) (by simp), ?_⟩⟩
    exact ⟨.cancelled (some n), n, by simp, fun c hc => hc⟩

end Tale

/-! ### Questions apart -/

/-- Whether a question is neither about the process nor to the handler. -/
def Query.isApart : Query → Bool
  | start _ | output _ | kill | reap | call _ => false
  | _ => true

theorem Query.mark?_eq_none {q : Query} (h : q.isApart = true) (a : q.Answer) :
    Exchange.mark? ⟨q, a⟩ = none := by
  cases q with
  | start | output | kill | reap | call => cases h
  | _ => rfl

theorem Exchange.fits_of_isApart {q : Query} (h : q.isApart = true) (a : q.Answer)
    (c : Option Child) : Exchange.Fits c ⟨q, a⟩ := by
  intro m hm
  rw [Query.mark?_eq_none h a] at hm
  cases hm

theorem Exchange.fits_of_mark? {e : Exchange} {m : Mark} {c : Option Child} (h : e.mark? = some m)
    (hm : m.Fits c) : e.Fits c := by
  intro m' hm'
  obtain rfl : m = m' := Option.some.inj (h.symm.trans hm')
  exact hm

/-! ### From courses to tales -/

namespace Course

variable {α β : Type}

/-- However the questions of a course are answered, its marks after some others are such as they
should be at its end. -/
def Ends (Q : Except Fault α → List Mark → Prop) : Course α → List Mark → Prop
  | .done a, l => Q (.ok a) l
  | .broken f, l => Q (.error f) l
  | .ask q next, l => ∀ a c, Exchange.Fits c ⟨q, a⟩ →
      (next a).Ends Q (l ++ (Exchange.mark? ⟨q, a⟩).toList)

/-- Every question has an answer that is true of some process. -/
theorem exists_fits (q : Query) : ∃ (a : q.Answer) (c : Option Child), Exchange.Fits c ⟨q, a⟩ := by
  cases q with
  | log | update | move | write => exact ⟨(), none, Exchange.fits_of_isApart rfl _ _⟩
  | clock => exact ⟨(0.0 : Float), none, Exchange.fits_of_isApart rfl _ _⟩
  | run => exact ⟨RunAnswer.timedOut .nothing .nothing, none, Exchange.fits_of_isApart rfl _ _⟩
  | handler => exact ⟨({} : Handler), none, Exchange.fits_of_isApart rfl _ _⟩
  | start => exact ⟨.ok 0, none, Exchange.fits_of_mark? rfl trivial⟩
  | output => exact ⟨.timedOut, some .running, Exchange.fits_of_mark? rfl ⟨_, rfl, trivial⟩⟩
  | kill => exact ⟨.ok (), none, Exchange.fits_of_mark? rfl trivial⟩
  | call => exact ⟨(), none, Exchange.fits_of_mark? rfl trivial⟩
  | reap => exact ⟨.cancelled, none, Exchange.fits_of_mark? rfl trivial⟩

/-- What is on its way can be brought to an end. -/
theorem Ends.exists_end {Q : Except Fault α → List Mark → Prop} {c : Course α} {l : List Mark}
    (h : c.Ends Q l) : ∃ x l', l <+: l' ∧ Q x l' := by
  induction c generalizing l with
  | done a => exact ⟨_, l, List.prefix_rfl, h⟩
  | broken f => exact ⟨_, l, List.prefix_rfl, h⟩
  | ask q next ih =>
    obtain ⟨a, c, ha⟩ := exists_fits q
    obtain ⟨x, l', hl, hx⟩ := ih a (h a c ha)
    exact ⟨x, l', (List.prefix_append _ _).trans hl, hx⟩

variable {P : Except Fault α → List Mark → Prop} {Q : Except Fault β → List Mark → Prop}
  {l : List Mark}

theorem ends_bind {c : Course α} {k : α → Course β} (h : c.Ends P l)
    (hk : ∀ a l, P (.ok a) l → (k a).Ends Q l) (hf : ∀ f l, P (.error f) l → Q (.error f) l) :
    (c.bind k).Ends Q l := by
  induction c generalizing l with
  | done a => exact hk a l h
  | broken f => exact hf f l h
  | ask q next ih => exact fun a c ha => ih a (h a c ha)

theorem ends_query {q : Query} {k : q.Answer → Course β}
    (hk : ∀ a c, Exchange.Fits c ⟨q, a⟩ → (k a).Ends Q (l ++ (Exchange.mark? ⟨q, a⟩).toList)) :
    ((query q).bind k).Ends Q l :=
  hk

theorem ends_apart {q : Query} (hq : q.isApart = true) {k : q.Answer → Course β}
    (hk : ∀ a, (k a).Ends Q l) : ((query q).bind k).Ends Q l :=
  ends_query fun a c _ => by
    rw [Query.mark?_eq_none hq a, Option.toList_none, List.append_nil]
    exact hk a

theorem ends_record {r : Runner} {x : Metrics.Record} {k : Unit → Course β}
    (hk : (k ()).Ends Q l) : ((r.record x).bind k).Ends Q l := by
  unfold Runner.record
  split_ifs
  · cases x with
    | started => exact ends_apart rfl fun _ => hk
    | succeeded d => exact ends_apart rfl fun _ => ends_apart rfl fun _ => hk
    | failed reason d =>
      exact ends_apart rfl fun _ => ends_apart rfl fun _ => hk
  · exact hk

/-! ### The parts of an execution -/

section Parts
variable (r : Runner) (args : List String) (started : Float)

theorem ends_opening {heading : String} {k : Unit → Course β} (hk : (k ()).Ends Q l) :
    ((r.opening args heading).bind k).Ends Q l := by
  unfold Runner.opening
  rw [bind_assoc]
  refine ends_apart rfl fun _ => ?_
  rw [bind_assoc]
  exact ends_apart rfl fun _ => ends_record hk

theorem ends_conclude {Q : Except Fault Outcome → List Mark → Prop} (c : Conclusion)
    (hQ : ∀ o, Q (.ok o) l) : (r.conclude args started (.ok c)).Ends Q l := by
  unfold Runner.conclude Conclusion.course
  refine ends_apart rfl fun now => ?_
  refine ends_apart rfl fun _ => ?_
  refine ends_apart rfl fun _ => ?_
  exact ends_record (hQ _)

theorem ends_passOn {Q : Except Fault Outcome → List Mark → Prop} (pid : Nat)
    (hQ : Q (.error .cancelled) l) : (r.passOn args started pid).Ends Q l := by
  unfold Runner.passOn
  refine ends_apart rfl fun _ => ?_
  split_ifs
  · exact ends_apart rfl fun now => ends_record hQ
  · exact hQ

/-- A kill is waited for, unless the party is cancelled once more. -/
theorem ends_killAndReap {next : Course β} (hn : next.Ends Q (l ++ [.killed, .reaped .exited]))
    (hc : Q (.error .cancelled) (l ++ [.killed, .reaped .cancelled])) :
    (Runner.killAndReap next).Ends Q l := by
  refine ends_query fun kill c hk => ?_
  cases kill with
  | error f => exact (hk _ rfl).elim
  | ok _ =>
    refine ends_query fun answer _ _ => ?_
    rw [List.append_assoc]
    cases answer with
    | exited => exact hn
    | cancelled => exact hc

/-- What an execution without its result comes to. -/
def Ended (x : Except Fault Outcome) (l : List Mark) : Prop := Story l (x.map fun _ => ())

theorem ends_watched (pid : Nat) {answer : OutputAnswer} (ha : ∃ c : Child, c.Fits answer) :
    (r.watched args started pid answer).Ends Ended [.launched, .waited answer] := by
  cases answer with
  | exited n out err =>
    obtain ⟨c, hc⟩ := ha
    cases out with
    | none => exact hc.elim
    | some out =>
      cases err with
      | none => exact hc.elim
      | some err => exact ends_conclude r args started _ fun _ => Story.exited n out err
  | timedOut =>
    unfold Runner.watched
    exact ends_killAndReap (ends_conclude r args started _ fun _ => Story.late) Story.lateBroken
  | cancelled n =>
    cases n with
    | none =>
      unfold Runner.watched
      exact ends_killAndReap (ends_passOn r args started pid (Story.cancelled .exited))
        (Story.cancelled .cancelled)
    | some n =>
      unfold Runner.watched
      exact ends_passOn r args started pid (Story.known n)
  | raised f =>
    obtain ⟨c, hc⟩ := ha
    exact hc.elim

theorem ends_unlaunched (x : Except Fault Conclusion) :
    (r.conclude args started x).Ends Ended [] := by
  cases x with
  | error f => exact Story.unlaunched _
  | ok c => exact ends_conclude r args started c fun _ => Story.unlaunched _

theorem ends_runWordsCooperatively : (r.runWordsCooperatively args).Ends Ended [] := by
  rw [Runner.runWordsCooperatively_eq]
  refine ends_apart rfl fun started => ends_opening r args ?_
  unfold Runner.inEnvironment
  cases r.environment with
  | error f => exact ends_unlaunched r args started _
  | ok env =>
    refine ends_query fun answer _ _ => ?_
    cases answer with
    | error f => exact ends_unlaunched r args started _
    | ok pid =>
      refine ends_query fun answer _ ha => ?_
      obtain ⟨c, -, hc⟩ := ha _ rfl
      exact ends_watched r args started pid ⟨c, hc⟩

theorem ends_notify {Q : Except Fault Unit → List Mark → Prop} (o : Outcome)
    (hQ : ∀ calls : List Callback, Q (.ok ()) (l ++ calls.map Mark.told)) :
    (Runner.notify o).Ends Q l := by
  refine ends_query fun _ _ _ _ _ _ => ?_
  rw [List.append_assoc]
  exact hQ [_, _]

theorem ends_runCooperatively (command : Value) (handled : Bool) :
    (r.runCooperatively command handled).Ends (fun x l => Tale (x.map fun _ => ()) l) [] := by
  cases hw : Runner.words command with
  | error f =>
    rw [r.runCooperatively_of_error hw]
    exact ⟨[], [], .unlaunched _, rfl, .inl rfl⟩
  | ok args =>
    rw [r.runCooperatively_eq hw]
    refine ends_bind (ends_runWordsCooperatively r args) (fun o l ho => ?_) fun f l hf =>
      ⟨l, [], hf, (List.append_nil l).symm, .inl rfl⟩
    cases handled with
    | true =>
      refine ends_bind (P := fun x l' => Tale x l') (ends_notify o fun calls => ?_) ?_ ?_
      · exact ⟨l, calls, ho, rfl, .inr rfl⟩
      · exact fun _ _ h => h
      · exact fun _ _ h => h
    | false => exact ⟨l, [], ho, (List.append_nil l).symm, .inl rfl⟩

end Parts

end Course

theorem Task.ends_course (r : Runner) (command : Value) (handled : Bool) :
    (Task.course ⟨r, command, .cooperative handled⟩).Ends Tale [] :=
  Course.ends_bind (Course.ends_runCooperatively r command handled) (fun _ _ h => h) fun _ _ h => h

/-! ### Watches -/

theorem Child.Fits.exit {answer : OutputAnswer} (h : Child.running.Fits answer) (n : Int) :
    (Child.exited n).Fits answer := by
  cases answer with
  | timedOut => trivial
  | cancelled m =>
    cases m with
    | none => trivial
    | some m => cases h
  | exited m out err => cases out <;> cases err <;> cases h
  | raised => cases h

/-- What was true of a running process stays true when it ends. -/
theorem Mark.Fits.exit {m : Mark} (h : m.Fits (some .running)) (n : Int) :
    m.Fits (some (.exited n)) := by
  cases m with
  | waited answer =>
    obtain ⟨_, ⟨⟩, hc⟩ := h
    exact ⟨_, rfl, hc.exit n⟩
  | reaped answer =>
    cases answer with
    | exited => exact ⟨n, rfl⟩
    | cancelled => trivial
  | spared f => exact h.elim
  | launched | killed | told => trivial

namespace Watch

variable {t : Task} {w v : Watch}

/-- What an execution will ask leads on to a tale, what it did says the truth about its process, and
there is no process that it did not launch. -/
structure Sound (w : Watch) : Prop where
  ends : w.party.rest.Ends Tale w.marks
  fits : ∀ m ∈ w.marks, m.Fits w.child
  launched : w.child.isSome = true → .launched ∈ w.marks

theorem marks_turn (p : Party) (c c' : Option Child) {q : Query} (next : q.Answer → Course Unit)
    (a : q.Answer) :
    marks ⟨p.hear q next a, c'⟩ = marks ⟨p, c⟩ ++ (Exchange.mark? ⟨q, a⟩).toList := by
  unfold marks Party.hear
  rw [List.filterMap_append]
  cases h : Exchange.mark? ⟨q, a⟩ with
  | none => rw [List.filterMap_cons_none h]; rfl
  | some m => rw [List.filterMap_cons_some h]; rfl

/-- Only launching changes the process of an execution. -/
theorem child_eq_self {e : Exchange} (h : e.mark? ≠ some .launched) (c : Option Child) :
    e.child c = c := by
  unfold Exchange.child
  split
  · exact absurd rfl h
  · rfl

theorem Sound.step (h : v.Sound) (hs : Step v w) : w.Sound := by
  cases hs with
  | exit n => exact ⟨h.ends, fun m hm => (h.fits m hm).exit n, fun _ => h.launched rfl⟩
  | @turn p c q next a hq ha =>
    have hends : (next a).Ends Tale (marks ⟨p, c⟩ ++ (Exchange.mark? ⟨q, a⟩).toList) := by
      have he := h.ends
      rw [show (Watch.mk p c).party.rest = .ask q next from hq] at he
      exact he a c ha
    refine ⟨by rw [marks_turn p c]; exact hends, ?_, ?_⟩ <;> rw [marks_turn p c]
    · intro m hm
      by_cases hl : Exchange.mark? ⟨q, a⟩ = some .launched
      · -- what was marked before a launch might be false of the new process, but there is nothing
        rw [hl] at hends hm
        obtain ⟨x, _, ⟨l, rfl⟩, hx⟩ := hends.exists_end
        rw [List.append_assoc] at hx
        rw [hx.eq_nil_of_launched] at hm
        obtain rfl : m = .launched := List.mem_singleton.mp hm
        trivial
      · rw [child_eq_self hl]
        rcases List.mem_append.mp hm with hm | hm
        · exact h.fits m hm
        · exact ha m (Option.mem_toList.mp hm)
    · intro hc
      by_cases hl : Exchange.mark? ⟨q, a⟩ = some .launched
      · rw [hl]
        exact List.mem_append_right _ List.mem_cons_self
      · rw [child_eq_self hl] at hc
        exact List.mem_append_left _ (h.launched hc)

theorem Reachable.sound {r : Runner} {command : Value} {handled : Bool}
    (h : Reachable ⟨r, command, .cooperative handled⟩ w) : w.Sound := by
  induction h with
  | start =>
    exact ⟨Task.ends_course r command handled, fun m hm => absurd hm List.not_mem_nil,
      fun h => Bool.noConfusion h⟩
  | step _ hs ih => exact ih.step hs

/-- The execution asks one question. -/
theorem Reachable.turn {p : Party} {c : Option Child} {q : Query} {next : q.Answer → Course Unit}
    (h : Reachable t ⟨p, c⟩) (hq : p.rest = .ask q next) (a : q.Answer)
    (ha : Exchange.Fits c ⟨q, a⟩) :
    Reachable t ⟨p.hear q next a, Exchange.child c ⟨q, a⟩⟩ :=
  h.step (.turn a hq ha)

theorem Sound.exists_tale (h : w.Sound) : ∃ x l, w.marks <+: l ∧ Tale x l := h.ends.exists_end

/-- The marks of an execution that is over are a tale of what it came to. -/
theorem Sound.exists_result (h : w.Sound) (ho : w.party.isOver = true) :
    ∃ x, w.party.rest = Course.ofExcept x ∧ Tale x w.marks := by
  have he := h.ends
  unfold Party.isOver at ho
  cases hr : w.party.rest with
  | done a => rw [hr] at he; exact ⟨.ok a, rfl, he⟩
  | broken f => rw [hr] at he; exact ⟨.error f, rfl, he⟩
  | ask q next => rw [hr] at ho; cases ho

theorem Sound.isOver_of_waited (h : w.Sound) {answer : OutputAnswer} {n : Int}
    (ha : .waited answer ∈ w.marks) (hn : ∀ c : Child, c.Fits answer → c = .exited n)
    {child : Child} (hc : w.child = some child) : child.isOver = true := by
  obtain ⟨c, hwc, hf⟩ := h.fits _ ha
  obtain rfl : child = c := Option.some.inj (hc.symm.trans hwc)
  rw [hn child hf]
  rfl

theorem Sound.isOver_of_reaped (h : w.Sound) (hr : .reaped .exited ∈ w.marks) {child : Child}
    (hc : w.child = some child) : child.isOver = true := by
  obtain ⟨n, hn⟩ := h.fits _ hr
  obtain rfl : child = .exited n := Option.some.inj (hc.symm.trans hn)
  rfl

end Watch

/-- **No process is left behind.** Whenever the process of a cooperative execution ends, and
wherever timeouts and cancellations come: it is killed at most once, and not if it was known to have
ended when the execution was cancelled. A cancellation of the wait for the output is passed on, and
the handler is told nothing. When the execution is over, it has come to a result or was cancelled,
and its process has ended or was killed; unless it was cancelled after the kill, the process has
ended, and the kill was followed by a wait for that. -/
theorem child_attended (r : Runner) (command : Value) (handled : Bool) {w : Watch}
    (h : Watch.Reachable ⟨r, command, .cooperative handled⟩ w) :
    w.marks.countP Mark.isKilled ≤ 1 ∧
      (∀ n, .waited (.cancelled (some n)) ∈ w.marks → .killed ∉ w.marks) ∧
      (∀ n, .waited (.cancelled n) ∈ w.marks → (∀ c, .told c ∉ w.marks) ∧
        (w.party.isOver = true → w.party.rest = .broken .cancelled)) ∧
      ∀ child, w.child = some child → w.party.isOver = true →
        (w.party.rest = .done () ∨ w.party.rest = .broken .cancelled) ∧
          (child.isOver = true ∨ .killed ∈ w.marks) ∧
          (.reaped .cancelled ∉ w.marks → child.isOver = true ∧
            (.killed ∈ w.marks → [.killed, .reaped .exited] <:+: w.marks)) := by
  have hs := h.sound
  obtain ⟨x, l, hl, hx⟩ := hs.exists_tale
  refine ⟨Nat.le_trans hl.sublist.countP_le hx.countP_killed_le, fun n hn hk => ?_,
    fun n hn => ⟨fun c hc => ?_, fun ho => ?_⟩, fun child hc ho => ?_⟩
  · exact (hx.of_cancelled (hl.subset hn)).2.2 rfl (hl.subset hk)
  · exact (hx.of_cancelled (hl.subset hn)).2.1 c (hl.subset hc)
  · obtain ⟨x, hr, ht⟩ := hs.exists_result ho
    rw [hr, (ht.of_cancelled hn).1]
    rfl
  · obtain ⟨x, hr, ht⟩ := hs.exists_result ho
    obtain ⟨hend, hstory⟩ := ht.of_launched (hs.launched (by rw [hc]; rfl))
    refine ⟨?_, ?_⟩
    · rw [hr]
      rcases hend with rfl | rfl
      · exact .inl rfl
      · exact .inr rfl
    · rcases hstory with ⟨hk, answer, n, ha, hn⟩ | ⟨hk, ha | ha⟩
      · have hover := hs.isOver_of_waited ha hn hc
        exact ⟨.inl hover, fun _ => ⟨hover, fun hk' => absurd hk' hk⟩⟩
      · exact ⟨.inr hk, fun hn => absurd ha hn⟩
      · have hover := hs.isOver_of_reaped (ha.subset (by simp)) hc
        exact ⟨.inr hk, fun _ => ⟨hover, fun _ => ha⟩⟩

/-- An execution is cancelled while its process runs, and once more while it waits for the end of
the process that it killed. -/
theorem child_attended_of_cancelled_twice :
    let r : Runner := { successExitValues := [.int 0], metricsEnabled := false }
    let t : Task := ⟨r, .list [.text "sleep", .text "9"], .cooperative true⟩
    ∃ w, Watch.Reachable t w ∧ w.child = some .running ∧ w.party.isOver = true ∧
      w.marks.countP Mark.isKilled ≤ 1 ∧ (∀ c, .told c ∉ w.marks) ∧
      w.party.rest = .broken .cancelled ∧ (Child.running.isOver = true ∨ .killed ∈ w.marks) := by
  intro r t
  have h0 : Watch.Reachable t { party := Party.fresh t } := .start
  have h1 := h0.turn rfl (0.5 : Float) (Exchange.fits_of_isApart rfl _ _)
  have h2 := h1.turn rfl () (Exchange.fits_of_isApart rfl _ _)
  have h3 := h2.turn rfl () (Exchange.fits_of_isApart rfl _ _)
  have h4 := h3.turn rfl (.ok 7 : Except Fault Nat) (Exchange.fits_of_mark? rfl trivial)
  have h5 := h4.turn rfl (.cancelled none : OutputAnswer)
    (Exchange.fits_of_mark? rfl ⟨_, rfl, trivial⟩)
  have h6 := h5.turn rfl (.ok () : Except Fault Unit) (Exchange.fits_of_mark? rfl trivial)
  have h7 := h6.turn rfl ReapAnswer.cancelled (Exchange.fits_of_mark? rfl trivial)
  obtain ⟨hkill, -, hcancelled, hend⟩ := child_attended r _ true h7
  have hw : .waited (.cancelled none) ∈
      ([.launched, .waited (.cancelled none), .killed, .reaped .cancelled] : List Mark) := by simp
  obtain ⟨htold, hrest⟩ := hcancelled none hw
  obtain ⟨-, hover, -⟩ := hend .running rfl rfl
  exact ⟨_, h7, rfl, rfl, hkill, htold, hrest rfl, hover⟩

end Errand
