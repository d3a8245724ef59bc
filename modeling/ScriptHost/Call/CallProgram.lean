/-
Hand-written members, as data.

A hand-written method or allocator is a list of `CallAction`s, each one operation of
`CallContext`.  Running it puts the answer of every action on record, and ends early
if an action panics.
-/
import ScriptHost.Call.CallContext
import ScriptHost.Call.Keyring
import ScriptHost.Host

namespace ScriptHost

/-- One operation of a hand-written member. -/
inductive CallAction where
  | slotCount
  | slotType (slot : Nat)
  | get (slot : Nat) (type : ReadType)
  | set (slot : Nat) (payload : Payload ValueTerm)
  | setReturn (payload : Payload ValueTerm)
  | setValue (slot : Nat) (value : ValueTerm)
  /-- Answers with the sum of the first two arguments, one that is no number counting as
  zero. -/
  | sum
  | foreign (slot : Nat)
  /-- Adds to the plain integer behind an instance. -/
  | withInt (slot : Nat) (amount : Int64)
  /-- Appends to the plain text behind an instance. -/
  | withText (slot : Nat) (suffix : String)
  /-- Looks at the plain integer behind one instance while working on another. -/
  | withNested (slot inner : Nat)
  | releaseForeign (slot : Nat)
  | abort (message : String)
  | isAborted
  | summary
  | dropHandle (name : String)
  | panic (cause : Panic)

/-- What a hand-written member works on: its call, and the handles it can reach by name. -/
structure CallState (F W : Type) where
  context : CallContext F W
  keyring : Keyring

namespace CallAction

variable {F W : Type} [Slots W]

/-- The context after a write that may have been refused, with the outcome. -/
def written (s : CallState F W) : Except HostError (CallContext F W) → CallReply × CallState F W
  | .ok context => (.done (.ok ()), { s with context := context })
  | .error e => (.done (.error e), s)

/-- The object behind a reference, as a reply. -/
def objectReply (objects : ObjectStore) (id : Option ObjectId) : CallReply :=
  .object (id.bind objects.get?)

/-- Carries out one action that does not panic. -/
def run (s : CallState F W) : CallAction → Except Panic (CallReply × CallState F W)
  | .slotCount => pure (.counts s.context.slotCount s.context.argCount, s)
  | .slotType slot => pure (.slotType (s.context.slotType slot), s)
  | .get slot type => pure (.reading (readAs s.context.window slot type), s)
  | .set slot payload =>
    let payload := payload.map s.keyring.value
    pure (written s (s.context.setWith slot (writePayload · slot payload)))
  | .setReturn payload =>
    let payload := payload.map s.keyring.value
    pure (written s (s.context.setWith 0 (writePayload · 0 payload)))
  | .setValue slot value => pure (written s (s.context.setValue slot (s.keyring.value value)))
  | .sum =>
    let argument (slot : Nat) := (s.context.get Number slot).toOption.getD .zero
    pure (written s (s.context.setReturn (argument 1 + argument 2)))
  | .foreign slot => pure (objectReply s.context.objects (s.context.foreign? slot), s)
  | .withInt slot amount =>
    let (answer, context) := s.context.withForeign slot fun (i : Int64) objects =>
      (i + amount, i + amount, objects)
    pure (.int answer, { s with context := context })
  | .withText slot suffix =>
    let (answer, context) := s.context.withForeign slot fun (text : String) objects =>
      (text ++ suffix, text ++ suffix, objects)
    pure (.text answer, { s with context := context })
  | .withNested slot inner =>
    let (answer, context) := s.context.withForeign slot fun (i : Int64) objects =>
      let (nested, context) :=
        { s.context with objects := objects }.withForeign inner fun (j : Int64) objects =>
          (j, j, objects)
      ((i, nested), i, context.objects)
    pure (.nested answer, { s with context := context })
  | .releaseForeign slot =>
    let (id, context) := s.context.releaseForeign slot
    let token := id.bind fun _ => s.context.token? slot
    pure (.released token (id.bind s.context.objects.get?), { s with context := context })
  | .abort message => pure (.nothing, { s with context := s.context.abort message })
  | .isAborted => pure (.flag s.context.aborted, s)
  | .summary => pure (.summary s.context.summary, s)
  | .dropHandle name =>
    let (found, keyring) := s.keyring.drop name
    let own := keyring.dropped.filter (·.owner = s.context.handles.owner)
    let handles := own.foldl (fun handles h => handles.queueRelease h.id) s.context.handles
    pure (.flag found,
      { context := { s.context with handles := handles }
        keyring :=
          { keyring with dropped := keyring.dropped.filter (·.owner ≠ handles.owner) } })
  | .panic cause => throw cause

end CallAction

/-- Carries out actions in order, putting each answer on record. -/
def runActions {F W : Type} [Slots W] [Chronicle W] :
    List CallAction → Run (CallState F W) Unit
  | [] => pure ()
  | action :: actions => do
    match action.run (← get) with
    | .error p => throw p
    | .ok (reply, s) =>
      let window := Chronicle.note s.context.window (.raw reply)
      set { s with context := { s.context with window := window } }
      runActions actions

end ScriptHost
