import GuestDisks.Configuration
import GuestDisks.Request.Build

/-!
# Assignments

A configuration under construction. Every slot starts out deleted. The first step that names a
slot claims it; what the slot holds is settled then, and a later step that names it is reported as
a duplicate and changes nothing.
-/

namespace GuestDisks

/-- A configuration under construction, with what was found on the way. -/
structure Assignment where
  config : Configuration
  /-- The slots that a step has named. -/
  claimed : List Slot
  report : Report

/-- A step of the construction. -/
inductive Assignment.Step
  /-- Gives a slot the device asked for. -/
  | add (r : Request)
  /-- Leaves what is attached at a slot as it is. -/
  | leaveUnchanged (s : Slot)
  /-- Claims a slot whose input is unusable. -/
  | reject (s : Slot) (p : Problem)
  | reportError (place : String) (p : Problem)
  | reportWarning (place : String) (n : Notice)

namespace Assignment

/-- Nothing is assigned yet, and every slot is deleted. -/
def empty : Assignment := ⟨.empty, [], []⟩

/-- Adds findings about a place. -/
def note (a : Assignment) (place : String) (fs : List Finding) : Assignment :=
  { a with report := a.report ++ .ofFindings place fs }

/-- Claims a slot and then goes on, or reports a duplicate. -/
def claim (a : Assignment) (s : Slot) (next : Assignment → Assignment × Bool) :
    Assignment × Bool :=
  if s ∈ a.claimed then (a.note s.name [.error (.duplicateSlot s.name)], false)
  else next { a with claimed := s :: a.claimed }

/-- Gives a slot the device asked for; whether the slot now holds it. -/
def add (a : Assignment) (r : Request) : Assignment × Bool :=
  a.claim r.slot fun a =>
    let built := r.build
    let a := a.note r.slot.name built.findings
    match built.value with
    | some v => ({ a with config := a.config.set r.slot v }, true)
    | none => (a, false)

/-- Leaves what is attached at a slot as it is; whether the slot was free for that. -/
def leaveUnchanged (a : Assignment) (s : Slot) : Assignment × Bool :=
  a.claim s fun a => ({ a with config := a.config.set s .unchanged }, true)

/-- Claims a slot whose input is unusable. -/
def reject (a : Assignment) (s : Slot) (p : Problem) : Assignment :=
  (a.claim s fun a => (a.note s.name [.error p], false)).1

/-- Reports a problem with input that belongs to no slot. -/
def reportError (a : Assignment) (place : String) (p : Problem) : Assignment :=
  a.note place [.error p]

/-- Reports a notice; no slot is claimed by it. -/
def reportWarning (a : Assignment) (place : String) (n : Notice) : Assignment :=
  a.note place [.warning n]

/-- Carries out a step; whether it put something into a slot. -/
def step (a : Assignment) : Step → Assignment × Bool
  | .add r => a.add r
  | .leaveUnchanged s => a.leaveUnchanged s
  | .reject s p => (a.reject s p, false)
  | .reportError place p => (a.reportError place p, false)
  | .reportWarning place n => (a.reportWarning place n, false)

/-- Carries out steps one after another. -/
def run (a : Assignment) (steps : List Step) : Assignment :=
  steps.foldl (fun a s => (a.step s).1) a

end Assignment

end GuestDisks
