/-
What comes of the steps of a session, as documents.
-/
import ScriptHost.DirectSession
import ScriptHost.Document.Journal
import ScriptHost.Session

namespace ScriptHost

open Document (field tagged)

instance : Documented HandleKind where
  document
    | .value => document "Value"
    | .call arity => tagged "Call" arity

instance : Documented HandleInfo where
  document i :=
    .record
      [field "released" i.isReleased, field "has_reference" !i.isReleased,
        field "debug" i.summary, field "kind" i.kind]

instance : Documented SessionReply where
  document
    | .nothing | .freed .. => .null
    | .result r => document r
    | .handle info => document info.summary
    | .natural n => document n
    | .type t => document t
    | .reading r => document r
    | .window reply => document reply
    | .flag b => document b
    | .info i => document i
    | .text s => document s

/-- What can be seen of the slots, `aborts` telling whether the abort is shown too. -/
def Overview.windowFields (o : Overview) (aborts : Bool) : Fields :=
  [field "slots" o.slots, field "instances" o.instances] ++
    if aborts then [field "aborted" (o.aborted.map (tagged "value"))] else []

/-- What can be seen of a machine that was freed. -/
def Overview.freedFields (o : Overview) : Fields :=
  [field "freed" o.freed, field "leaked" o.leaked]

/-- What can be seen of a virtual machine. -/
def SessionState.document (s : SessionState) (aborts : Bool) : Document :=
  .record
    ([field "objects" s.objects, field "handles" s.handles, field "methods" s.methods,
      field "released" s.overview.released, field "log" s.log] ++
      (if s.console.isEmpty then [] else [field "console" s.console]) ++
      if s.disposed then s.overview.freedFields else s.overview.windowFields aborts)

/-- The fields beside the outcome of a step. -/
def SessionAnswer.stateFields (a : SessionAnswer) (aborts : Bool) : Fields :=
  match a.state, a.outcome with
  | some s, _ => [("state", s.document aborts)]
  | none, .ok (.freed overview log) =>
    [field "released" overview.released, field "log" log] ++ overview.freedFields
  | none, _ => []

/-- What comes of a step. -/
def SessionAnswer.document (a : SessionAnswer) (aborts : Bool) : Document :=
  .record (outcomeFields a.outcome ++ a.stateFields aborts)

instance : Documented DirectReply where
  document
    | .nothing => .null
    | .outcome outcome => document outcome
    | .result r => document r
    | .newHandle outcome => document outcome
    | .pinned place => document place
    | .window reply => document reply

/-- What can be seen of a machine that is used directly. -/
def Overview.directDocument (o : Overview) : Document :=
  .record (field "released" o.released :: o.freedFields ++
    if o.freed then [] else o.windowFields true)

end ScriptHost
