import Errand.Proofs.Execution.Decoding
import Errand.Proofs.Text.Cut
import Errand.Proofs.Text.Newlines

/-! # What an outcome shows of the output

A process writes bytes, and an outcome shows texts. Of a process that wrote two texts and exited by
itself a cooperative execution shows these texts. A blocking one shows them with unified line ends,
so the two differ as soon as there is a carriage return (`captured_text`, `carriage_return_lost`).

Of a process that took too long a blocking execution shows what was captured by then. If that is the
beginning of a text, it is shown up to the last character that is complete, and the bytes of one
that is not are shown as one replacement character (`partial_output_shown`). -/

namespace Errand

open Text.Utf8 Text

/-! ### Processes that exit by themselves -/

theorem Host.textOf_encode (s : String) :
    textOf (encode s) = .ok (.text (unifyNewlines s)) := by
  unfold textOf
  rw [decode?_encode]

theorem Host.ended_encode (n : Int) (a b : String) :
    ended n (encode a) (encode b) =
      .exited n (.text (unifyNewlines a)) (.text (unifyNewlines b)) := by
  unfold ended
  rw [textOf_encode, textOf_encode]

section Exits
variable {σ : Type} {w : World σ} {r : Runner} {args : List String}
  {env : Option (List (Value × Value))} {n : Int} {a b : String} {s : Scene σ}

theorem Course.exists_stdout_runWordsCooperatively (he : r.environment = .ok env)
    (hx : w.Exits (r.request args env) r.timeout s.world n (encode a) (encode b)) :
    ∃ o t, (r.runWordsCooperatively args).perform w s = (.ok o, t) ∧
      o.stdout = a ∧ o.stderr = b := by
  obtain ⟨t, -, ht⟩ := exists_settled_runWordsCooperatively he hx
  rw [ht, decodeLossy_encode, decodeLossy_encode]
  exact ⟨_, _, rfl, rfl, rfl⟩

theorem Course.exists_stdout_runWords (he : r.environment = .ok env)
    (hx : w.Exits (r.request args env) r.timeout s.world n (encode a) (encode b)) :
    ∃ o t, (r.runWords args).perform w s = (.ok o, t) ∧
      o.stdout = unifyNewlines a ∧ o.stderr = unifyNewlines b := by
  obtain ⟨t, -, ht⟩ := exists_settled_runWords he hx
  rw [ht, Host.ended_encode]
  exact ⟨_, _, rfl, rfl, rfl⟩

/-- **The texts that a process wrote, as the two ways of waiting show them.** A cooperative
execution shows them as they are, and a blocking one with unified line ends. Each of them is the
same for both exactly if it has no carriage return. -/
theorem captured_text {command : Value} (hw : Runner.words command = .ok args)
    (he : r.environment = .ok env)
    (hx : w.Exits (r.request args env) r.timeout s.world n (encode a) (encode b))
    (handled : Bool) :
    ∃ o t p u, (r.run command).perform w s = (.ok o, t) ∧
      (r.runCooperatively command handled).perform w s = (.ok p, u) ∧
      p.stdout = a ∧ p.stderr = b ∧
      o.stdout = unifyNewlines a ∧ o.stderr = unifyNewlines b ∧
      (o.stdout = p.stdout ↔ '\r' ∉ a.toList) ∧ (o.stderr = p.stderr ↔ '\r' ∉ b.toList) := by
  obtain ⟨o, t, ho, hout, herr⟩ := Course.exists_stdout_runWords he hx
  obtain ⟨p, u, hp, hpout, hperr⟩ := Course.exists_stdout_runWordsCooperatively he hx
  rw [← r.run_eq hw] at ho
  refine ⟨o, t, p, _, ho, Course.perform_runCooperatively_of_ok w r args hw handled hp, hpout,
    hperr, hout, herr, ?_, ?_⟩
  · rw [hout, hpout]
    exact unifyNewlines_eq_self_iff
  · rw [herr, hperr]
    exact unifyNewlines_eq_self_iff

end Exits

/-- A process that wrote letters outside of ASCII on two lines, and a pair of line ends. -/
theorem captured_text_of_lines :
    let r : Runner := { successExitValues := [.int 0], timeout := .int 5 }
    let command : Value := .text "greet -n"
    let w := World.ofExit 3 (encode "Grüße\naus Łódź") (encode "\r\n")
    Runner.words command = .ok ["greet", "-n"] ∧ r.environment = .ok none ∧
      w.Exits (r.request ["greet", "-n"] none) r.timeout () 3 (encode "Grüße\naus Łódź")
        (encode "\r\n") ∧
      ∃ o t p u, (r.run command).perform w { world := () } = (.ok o, t) ∧
        (r.runCooperatively command true).perform w { world := () } = (.ok p, u) ∧
        o.stdout = p.stdout ∧ o.stderr ≠ p.stderr := by
  intro r command w
  have hx := World.exits_ofExit 3 (encode "Grüße\naus Łódź") (encode "\r\n")
    (r.request ["greet", "-n"] none) r.timeout
  refine ⟨rfl, rfl, hx, ?_⟩
  obtain ⟨o, t, p, u, ho, hp, -, -, -, -, hout, herr⟩ := captured_text (s := { world := () })
    (show Runner.words command = .ok ["greet", "-n"] from rfl) rfl hx true
  exact ⟨o, t, p, u, ho, hp, hout.mpr (by decide), fun h => herr.mp h (by decide)⟩

/-- **A carriage return is lost.** Of the two line ends that a process wrote a blocking execution
shows one, and a cooperative one shows both. -/
theorem carriage_return_lost :
    let r : Runner := { successExitValues := [.int 0] }
    let command : Value := .list [.text "printf", .text "a\\r\\n"]
    let s : Scene Unit := { world := () }
    let w := World.ofExit 0 (encode "a\r\n") (encode "")
    Runner.words command = .ok ["printf", "a\\r\\n"] ∧
      w.Exits (r.request ["printf", "a\\r\\n"] none) r.timeout () 0 (encode "a\r\n") (encode "") ∧
      ∃ o t p u, (r.run command).perform w s = (.ok o, t) ∧
        (r.runCooperatively command false).perform w s = (.ok p, u) ∧
        o.stdout = "a\n" ∧ p.stdout = "a\r\n" ∧ o.stdout ≠ p.stdout := by
  refine ⟨rfl, World.exits_ofExit _ _ _ _ _, _, _, _, _, rfl, rfl, ?_, ?_, ?_⟩ <;> decide +kernel

/-! ### Processes that take too long -/

section Cuts
variable {σ : Type} {w : World σ} {r : Runner} {args : List String}
  {env : Option (List (Value × Value))} {out err : Capture} {s : Scene σ}

/-- A blocking execution shows the text of what was captured when time was up. -/
theorem Course.exists_stdout_of_timedOut (he : r.environment = .ok env)
    (ha : (w.run (r.request args env) r.timeout s.world).answer = .timedOut out err) :
    ∃ o t, (r.runWords args).perform w s = (.ok o, t) ∧ o.timedOut = true ∧
      o.stdout = out.toText ∧ o.stderr = err.toText := by
  rw [perform_runWords_of_ok w r args he]
  dsimp only
  rw [ha]
  exact ⟨_, _, rfl, rfl, rfl, rfl⟩

/-- The text of captured bytes that are the beginning of a text. -/
theorem showsCut_toText {c : Capture} {a : String} {k : Nat}
    (h : c.toBytes = (encode a).take k) : ShowsCut a k c.toText := by
  rw [← decodeLossy_toBytes, h]
  exact showsCut_decodeLossy a k

end Cuts

/-- **What is shown of output that is cut off.** The text of captured bytes that begin with a text
begins with that text, whatever follows. Of the first `k` bytes of a text it is the longest
beginning that is written in them, and one replacement character exactly if the cut is inside a
character; of all its bytes it is the text. So it is for both outputs of a process that took too
long, wherever they were cut. -/
theorem partial_output_shown :
    (∀ (a : String) (bs : Bytes),
      (Capture.bytes (encode a ++ bs)).toText = a ++ (Capture.bytes bs).toText) ∧
    (∀ (a : String) (k : Nat), ShowsCut a k (Capture.bytes ((encode a).take k)).toText) ∧
    (∀ a : String, (Capture.bytes ((encode a).take (encode a).length)).toText = a) ∧
    ∀ {σ : Type} (w : World σ) (s : Scene σ) (r : Runner) (command : Value) (args : List String)
      (env : Option (List (Value × Value))) (out err : Capture) (a b : String) (j k : Nat),
      Runner.words command = .ok args → r.environment = .ok env →
      (w.run (r.request args env) r.timeout s.world).answer = .timedOut out err →
      out.toBytes = (encode a).take j → err.toBytes = (encode b).take k →
      ∃ o t, (r.run command).perform w s = (.ok o, t) ∧ o.timedOut = true ∧
        ShowsCut a j o.stdout ∧ ShowsCut b k o.stderr := by
  refine ⟨decodeLossy_encode_append, showsCut_decodeLossy, fun a => ?_, ?_⟩
  · rw [List.take_length]
    exact decodeLossy_encode a
  · intro σ w s r command args env out err a b j k hw he ha hj hk
    obtain ⟨o, t, ho, ht, hout, herr⟩ := Course.exists_stdout_of_timedOut he ha
    rw [r.run_eq hw]
    refine ⟨o, t, ho, ht, ?_, ?_⟩
    · rw [hout]
      exact showsCut_toText hj
    · rw [herr]
      exact showsCut_toText hk

/-- A process that took too long after one letter and the first two of the three bytes of a sign,
and that wrote no errors. -/
theorem partial_output_shown_of_sign :
    let r : Runner := { successExitValues := [.int 0], timeout := .float 0.5 }
    let script : Script := ⟨0.5, .timesOut (.bytes [0x61, 0xe2, 0x82]) .nothing⟩
    let command : Value := .text "price --all"
    Runner.words command = .ok ["price", "--all"] ∧ r.environment = .ok none ∧
      (script.world.run (r.request ["price", "--all"] none) r.timeout ()).answer =
        .timedOut (.bytes [0x61, 0xe2, 0x82]) .nothing ∧
      (Capture.bytes [0x61, 0xe2, 0x82]).toBytes = (encode "a€ and more").take 3 ∧
      Capture.nothing.toBytes = (encode "").take 0 ∧
      ∃ o t, (r.run command).perform script.world { world := () } = (.ok o, t) ∧
        o.timedOut = true ∧ ShowsCut "a€ and more" 3 o.stdout ∧ ShowsCut "" 0 o.stderr := by
  intro r script command
  have hj : (Capture.bytes [0x61, 0xe2, 0x82]).toBytes = (encode "a€ and more").take 3 := by
    decide +kernel
  exact ⟨rfl, rfl, rfl, hj, rfl, partial_output_shown.2.2.2 script.world { world := () } r command
    _ none _ _ _ _ 3 0 rfl rfl rfl hj rfl⟩

end Errand
