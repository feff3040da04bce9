import Errand.Host.Launching
import Errand.Proofs.Text.Utf8

/-! # What a host launches

A name starts the first program that one of its paths leads to (`search_eq_ok_iff`), and a process
gets the environment that was meant for it (`variables_of_launch`). What a launch may come to is
said once, in `answers_launch`: of the faults only one about a value of the environment is no launch
fault. -/

namespace Errand.Host

/-! ### The program of a name -/

section Search
variable {start : String → Except Refusal Image} {image : Image}

/-- What is started is what the first path starts that starts anything. -/
theorem firstImage_eq_ok_iff (paths : List String) (serious : Option Refusal) (last : Refusal) :
    firstImage start serious last paths = .ok image ↔
      paths.findSome? (fun path => (start path).toOption) = some image := by
  induction paths generalizing serious last with
  | nil => simp [firstImage]
  | cons path paths ih =>
    rw [firstImage, List.findSome?_cons]
    cases h : start path with
    | ok found => simp [Except.toOption]
    | error r =>
      change (if _ then _ else _) = Except.ok image ↔ _
      split
      · exact ih serious r
      · exact ih _ r

variable (files : Files) (directory : Location) (searchPath : Option String)
  (environment : List (String × String)) (arguments : List String)

/-- **What a name starts.** It is the program that the first of its paths leads to, unless words and
environment are more than a program can get. -/
theorem search_eq_ok_iff :
    search files directory searchPath environment arguments = .ok image ↔
      isTooMuch (arguments ++ environment.map fun e => e.1 ++ "=" ++ e.2) = false ∧
        (candidatePaths searchPath (arguments.headD "")).findSome? (fun path =>
          (imageAt files directory chainLimit path arguments).toOption) = some image := by
  unfold search
  dsimp only
  rw [firstImage_eq_ok_iff]
  cases isTooMuch (arguments ++ environment.map fun e => e.1 ++ "=" ++ e.2) with
  | true =>
    refine iff_of_false (fun h => ?_) (fun h => Bool.noConfusion h.1)
    obtain ⟨path, -, hpath⟩ := List.exists_of_findSome?_eq_some h
    cases hi : imageAt files directory chainLimit path arguments with
    | ok found => simp [hi, Except.toOption] at hpath
    | error r => cases r <;> simp [hi, Except.toOption] at hpath
  | false =>
    rw [eq_self_iff_true, true_and]
    refine Eq.congr (congrArg (List.findSome? · _) (funext fun path => ?_)) rfl
    cases imageAt files directory chainLimit path arguments with
    | ok found => rfl
    | error r => cases r <;> rfl

end Search

/-! ### Launches -/

section Launching
variable {files : Files} {directory : Location} {own : List (String × String)} {request : Request}
  {f : Fault}

/-- Whether a fault is what launching answers with when a command cannot be started, or is about a
value that an environment cannot hold. -/
def Refuses (f : Fault) : Prop := f.isLaunchFault = true ∨ ∃ v, f = .notPath v

theorem refuses_octets? {v : Value} (h : octets? v = .error f) : Refuses f := by
  unfold octets? at h
  split at h
  · cases h
  · split at h
    · cases h
    · exact .inr ⟨v, (Except.error.inj h).symm⟩

theorem refuses_bind {α β : Type} {x : Except Fault α} {g : α → Except Fault β}
    (h : x >>= g = .error f) (hx : x = .error f → Refuses f)
    (hg : ∀ a, g a = .error f → Refuses f) : Refuses f := by
  cases x with
  | error f' => exact hx (congrArg Except.error (Except.error.inj h))
  | ok a => exact hg a h

theorem refuses_binding? {e : Value × Value} (h : binding? e = .error f) : Refuses f := by
  refine refuses_bind h refuses_octets? fun name hn => ?_
  split at hn
  · cases hn
    exact .inl rfl
  · exact refuses_bind hn refuses_octets? nofun

theorem refuses_searchPath? {es : List (Value × Value)} (h : searchPath? es = .error f) :
    Refuses f := by
  unfold searchPath? at h
  dsimp only at h
  split at h
  · cases h
    exact .inl rfl
  · exact refuses_bind h refuses_octets? nofun
  · exact refuses_bind h refuses_octets? nofun
  · cases h

theorem refuses_mapM_binding? {es : List (Value × Value)} (h : es.mapM binding? = .error f) :
    Refuses f := by
  induction es with
  | nil => cases h
  | cons e es ih =>
    rw [List.mapM_cons] at h
    exact refuses_bind h refuses_binding? fun b hb => refuses_bind hb ih nofun

theorem refuses_environmentOf {name : String} (h : environmentOf own name request = .error f) :
    Refuses f := by
  unfold environmentOf at h
  split at h
  · cases h
  · refine refuses_bind h refuses_mapM_binding? fun named hn => ?_
    split at hn
    · cases hn
    · exact refuses_bind hn refuses_searchPath? nofun

/-- What a launch comes to. What is started has the environment of the request, and is what the
words start in its directory; of the faults only one about a value of the environment is no launch
fault. -/
def Answers (files : Files) (own : List (String × String)) (request : Request) :
    Except Fault Start → Prop
  | .ok start => ∃ searchPath,
      environmentOf own (request.args.headD "") request = .ok (start.environment, searchPath) ∧
        search files start.directory searchPath start.environment
          (request.args.map Text.Octets.ofText) = .ok start.image
  | .error f => Refuses f

theorem answers_launch (files : Files) (directory : Location) (own : List (String × String))
    (request : Request) : Answers files own request (launch files directory own request) := by
  unfold launch
  cases he : environmentOf own (request.args.headD "") request with
  | error f => exact refuses_environmentOf he
  | ok e =>
    dsimp only [bind, Except.bind, pure, Except.pure]
    split
    · exact .inl rfl
    · cases request.directory with
      | none =>
        dsimp only
        split
        · rename_i image hs
          exact ⟨e.2, he, hs⟩
        · exact .inl rfl
      | some path =>
        dsimp only
        split
        · rename_i place hp
          split
          · rename_i image hs
            exact ⟨e.2, he, hs⟩
          · exact .inl rfl
        · exact .inl rfl

/-! ### The environment of a process -/

theorem toText_ofText (s : String) : Text.Octets.toText (Text.Octets.ofText s) = s := by
  unfold Text.Octets.toText
  rw [Text.Octets.bytesOf_ofText, Text.Utf8.decodeLossy_encode]

/-- The variables of an environment as texts. -/
def Start.variables (start : Start) : List (String × String) :=
  start.environment.map fun e => (Text.Octets.toText e.1, Text.Octets.toText e.2)

theorem exists_of_bind {α β : Type} {x : Except Fault α} {g : α → Except Fault β} {b : β}
    (h : x >>= g = .ok b) : ∃ a, x = .ok a ∧ g a = .ok b := by
  cases x with
  | error f => cases h
  | ok a => exact ⟨a, rfl, h⟩

theorem eq_of_binding? {a b : String} {e : String × String}
    (h : binding? (.text a, .text b) = .ok e) :
    e = (Text.Octets.ofText a, Text.Octets.ofText b) := by
  change (if _ then _ else _ : Except Fault _) = .ok e at h
  split at h
  · cases h
  · exact (Except.ok.inj h).symm

theorem eq_of_mapM_binding? {vars named : List (String × String)}
    (h : (vars.map fun e => (Value.text e.1, Value.text e.2)).mapM binding? = .ok named) :
    named = vars.map fun e => (Text.Octets.ofText e.1, Text.Octets.ofText e.2) := by
  induction vars generalizing named with
  | nil => exact (Except.ok.inj h).symm
  | cons e vars ih =>
    rw [List.map_cons, List.mapM_cons] at h
    obtain ⟨b, hb, h⟩ := exists_of_bind h
    obtain ⟨bs, hbs, h⟩ := exists_of_bind h
    rw [List.map_cons, ← eq_of_binding? hb, ← ih hbs]
    exact (Except.ok.inj h).symm

/-- **What a process gets of an environment.** It gets the variables of this program, or the ones of
the request, as they are. -/
theorem variables_of_launch {start : Start}
    (h : launch files directory own request = .ok start) :
    (request.environment = none → start.variables = own) ∧
      ∀ vars : List (String × String),
        request.environment = some (vars.map fun e => (.text e.1, .text e.2)) →
          start.variables = vars := by
  have hread (vars : List (String × String)) :
      (vars.map fun e => (Text.Octets.ofText e.1, Text.Octets.ofText e.2)).map
        (fun e => (Text.Octets.toText e.1, Text.Octets.toText e.2)) = vars := by
    rw [List.map_map]
    exact List.map_id'' (fun e => by simp [toText_ofText]) vars
  obtain ⟨path, he, -⟩ : Answers files own request (.ok start) :=
    h ▸ answers_launch files directory own request
  unfold environmentOf at he
  refine ⟨fun hr => ?_, fun vars hr => ?_⟩
  · rw [hr] at he
    have henv := congrArg Prod.fst (Except.ok.inj he)
    exact (congrArg _ henv.symm).trans (hread own)
  · rw [hr] at he
    obtain ⟨named, hnamed, he⟩ := exists_of_bind he
    have henv : named = start.environment := by
      dsimp only at he
      split at he
      · exact congrArg Prod.fst (Except.ok.inj he)
      · obtain ⟨_, _, he⟩ := exists_of_bind he
        exact congrArg Prod.fst (Except.ok.inj he)
    unfold Start.variables
    rw [← henv, eq_of_mapM_binding? hnamed]
    exact hread vars

end Launching

end Errand.Host
