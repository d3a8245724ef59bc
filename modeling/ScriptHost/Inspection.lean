/-
Looking at a machine from outside.

After each step of a session its machine is looked at: what is in the window, what is
still referred to, what has been given back, and what was put on record since the last
time.
-/
import ScriptHost.Journal

namespace ScriptHost

/-- What can be seen of a machine. -/
structure Overview where
  /-- How many raw handles were given back. -/
  released : Nat
  freed : Bool
  /-- How many raw handles nobody had given back when the machine was freed. -/
  leaked : Nat
  slots : List Shown
  /-- How many instances are still referred to. -/
  instances : Nat
  aborted : Option Shown

/-- A machine that can be looked at. -/
class Inspectable (W : Type) where
  overview : W → Overview
  /-- The record so far, after which it starts anew. -/
  takeJournal : W → List Entry × W

end ScriptHost
