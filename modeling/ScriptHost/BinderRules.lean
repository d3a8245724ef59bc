/-
Binders written down as rules.

A rule says which requests it answers, field by field, a field left open answering any,
and what it answers with.  The first rule that fits a request is the one used, and a
request no rule fits is refused.
-/
import ScriptHost.Configuration

namespace ScriptHost

/-- Whether a field of a rule fits that of a request. -/
def fits {α : Type} [DecidableEq α] (wanted : Option α) (actual : α) : Bool :=
  match wanted with
  | some a => a = actual
  | none => true

/-- A rule for methods. -/
structure MethodRule where
  module : Option String
  className : Option String
  isStatic : Option Bool
  signature : Option String
  program : List CallAction
  panics : Bool

/-- A rule for classes. -/
structure ClassRule where
  module : Option String
  className : Option String
  answer : RawClass
  panics : Bool

/-- What a binder panics with. -/
def binderPanic : Panic :=
  .message "binder"

/-- The binder that follows rules for methods. -/
def methodBinder (rules : List MethodRule) : MethodBinder :=
  fun module className isStatic signature =>
    match rules.find? fun r =>
      fits r.module module && fits r.className className && fits r.isStatic isStatic &&
        fits r.signature signature with
    | none => pure none
    | some r => if r.panics then throw binderPanic else pure (some r.program)

/-- The binder that follows rules for classes. -/
def classBinder (rules : List ClassRule) : ClassBinder :=
  fun module className =>
    match rules.find? fun r => fits r.module module && fits r.className className with
    | none => pure none
    | some r => if r.panics then throw binderPanic else pure (some r.answer)

end ScriptHost
