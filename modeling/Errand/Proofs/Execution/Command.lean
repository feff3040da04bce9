import Errand.Execution.Runner

/-! # From a command to its words

Each way to run a command begins with its words. A command without words is refused, and nothing
was asked by then; for any other command the ways are courses of its words (`run_eq`,
`runCooperatively_eq`). The party in the background takes the words that it is given for a command
of its own, which has the same words (`words_texts`). -/

namespace Errand

namespace Runner

variable {command : Value} {args : List String} {f : Fault}

theorem ne_nil_of_words (h : words command = .ok args) : args ≠ [] := by
  rintro rfl
  unfold words at h
  split at h
  · rename_i s _
    cases hs : Words.split s with
    | error f => rw [hs] at h; cases h
    | ok ws =>
      rw [hs] at h
      cases ws <;> cases h
  · split at h
    · rename_i parts _
      cases parts <;> cases h
    · cases h

/-- The words of a command, taken for a command, have themselves as words. -/
theorem words_texts (h : args ≠ []) : words (.list (args.map .text)) = .ok args := by
  have hd : (args.map Value.text).map Value.display = args := by
    rw [List.map_map]
    exact List.map_id args
  unfold words
  change (do
    let ws ← Except.ok ((args.map Value.text).map Value.display)
    if ws.isEmpty then throw Fault.emptyCommand else pure ws : Except Fault (List String)) = _
  rw [hd]
  cases args with
  | nil => cases h rfl
  | cons a as => rfl

/-! ### Refused and accepted commands -/

theorem withWords_of_ok {α : Type} (h : words command = .ok args) (next : List String → Course α) :
    withWords command next = next args := by
  unfold withWords
  rw [h]
  rfl

theorem withWords_of_error {α : Type} (h : words command = .error f)
    (next : List String → Course α) : withWords command next = .broken f := by
  unfold withWords
  rw [h]
  rfl

variable (r : Runner)

theorem run_eq (h : words command = .ok args) : r.run command = r.runWords args :=
  withWords_of_ok h _

theorem run_of_error (h : words command = .error f) : r.run command = .broken f :=
  withWords_of_error h _

theorem runCooperatively_of_error (h : words command = .error f) (handled : Bool) :
    r.runCooperatively command handled = .broken f :=
  withWords_of_error h _

theorem runCooperatively_eq (h : words command = .ok args) (handled : Bool) :
    r.runCooperatively command handled =
      (r.runWordsCooperatively args).bind fun o =>
        (if handled then notify o else .done ()).bind fun _ => .done o := by
  unfold runCooperatively
  rw [withWords_of_ok h]
  cases handled <;> rfl

theorem runInBackground_eq (h : words command = .ok args) :
    r.runInBackground command = .ok (threadName args, r.runAndNotify args) := by
  unfold runInBackground
  rw [h]
  rfl

theorem runInBackground_of_error (h : words command = .error f) :
    r.runInBackground command = .error f := by
  unfold runInBackground
  rw [h]
  rfl

end Runner

end Errand
