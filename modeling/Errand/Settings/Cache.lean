import Errand.Settings.Library

/-! # Settings that are kept

A program builds its settings when they are first asked for and keeps them; the sources may change
after that, and are looked at again only when the settings were cleared. Each time settings are
built they get a number of their own. Faults are told and not kept. It does not matter here what the
sources give: `load` is any way to build settings from them. -/

namespace Errand.Settings

/-- Settings that were built, with a number that no others have. -/
structure Numbered where
  number : Nat
  settings : Settings

/-- The settings that were built last, if they are kept, and how many were built so far. -/
structure Cache where
  kept : Option Numbered := none
  built : Nat := 0

/-- The settings: those that are kept, or new ones, which are kept from now on. -/
def Cache.get (load : Sources → Except Fault Settings) (c : Cache) (sources : Sources) :
    Except Fault Numbered × Cache :=
  match c.kept with
  | some n => (.ok n, c)
  | none =>
    match load sources with
    | .ok s => (.ok ⟨c.built, s⟩, ⟨some ⟨c.built, s⟩, c.built + 1⟩)
    | .error f => (.error f, c)

/-- Forgets the settings that are kept. -/
def Cache.clear (c : Cache) : Cache := { c with kept := none }

/-- Something that happens to a program and its settings. -/
inductive Event where
  /-- The variable of the environment gets a value, or loses the one it has. -/
  | changed (name : String) (value : Option String)
  | cleared
  | asked

/-- The sources of a program and the settings it keeps. -/
structure Kept where
  sources : Sources := {}
  cache : Cache := {}

/-- The sources after a variable of the environment has changed. -/
def Sources.change (s : Sources) (name : String) (value : Option String) : Sources :=
  { s with
    environment := (s.environment.filter fun e => e.1 != name) ++ (value.map (name, ·)).toList }

/-- What an event leads to: an answer if the settings were asked for, and what is kept. -/
def Kept.meet (load : Sources → Except Fault Settings) (k : Kept) :
    Event → Option (Except Fault Numbered) × Kept
  | .changed name value => (none, { k with sources := k.sources.change name value })
  | .cleared => (none, { k with cache := k.cache.clear })
  | .asked =>
    let (answer, cache) := k.cache.get load k.sources
    (some answer, { k with cache })

/-- What is kept after a history. -/
def Kept.after (load : Sources → Except Fault Settings) (k : Kept) (events : List Event) : Kept :=
  events.foldl (fun k e => (k.meet load e).2) k

end Errand.Settings
