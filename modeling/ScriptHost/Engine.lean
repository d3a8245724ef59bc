/-
An engine as a machine.

`Engine C` is an engine as it comes: unchecked slots, entry points that answer with
raw codes, null where something could not be made.  `Engine.backend` makes a machine of
it: the window is the guarded one, texts are refused if they hold a NUL, a null becomes
an error and a code becomes an outcome.
-/
import ScriptHost.Backend
import ScriptHost.Engine.Callbacks
import ScriptHost.Engine.Guarded

namespace ScriptHost

/-- The heap settings of an engine. -/
structure HeapSettings where
  initialSize : Nat
  minSize : Nat
  growthPercent : Int32

namespace HeapSettings

/-- The settings with those of a configuration in their place. -/
def withConfiguration (s : HeapSettings) (config : Configuration) : HeapSettings where
  initialSize := config.initialHeapSize.getD s.initialSize
  minSize := config.minHeapSize.getD s.minSize
  growthPercent := (config.heapGrowthPercent.map Guarded.word).getD s.growthPercent

end HeapSettings

/-- The outcome of a run by its raw code; a code nobody knows is a runtime error. -/
def outcomeOfCode (code : Int32) : InterpretResult :=
  (InterpretResult.ofCode? code.toInt).getD .runtimeError

/-- An engine. -/
class Engine (C : Type) extends Chronicle C where
  api : EngineApi (StateM C)
  /-- The engine's own heap settings. -/
  presets : HeapSettings
  /-- Brings the engine up: whether that worked. -/
  create : HeapSettings → C → Bool × C
  interpret : {H : Type} → [Host H] → (module source : String) → Contained H C Int32
  makeCallHandle : C → (signature : String) → Option RawHandle × C
  call : {H : Type} → [Host H] → (method : RawHandle) → Contained H C Int32
  releaseHandle : C → RawHandle → C
  collectGarbage : {H : Type} → [Host H] → Contained H C Unit
  free : {H : Type} → [Host H] → Contained H C Unit

namespace Engine

variable {C : Type} [Engine C]

/-- Compiles and runs a source text as a module. -/
def interpretText {H : Type} [Host H] (module source : String) :
    Run (World H C) (Except HostError InterpretResult) := do
  match refuseNul module, refuseNul source with
  | .error e, _ => return .error e
  | .ok (), .error e => return .error e
  | .ok (), .ok () => return .ok (outcomeOfCode (← Contained.lift (interpret module source)))

/-- A handle for calling methods by a signature. -/
def callHandleFor (c : C) (signature : String) : Except HostError RawHandle × C :=
  if signature = "" then (.error (.invalidSignature signature), c)
  else
    match refuseNul signature with
    | .error e => (.error e, c)
    | .ok () =>
      match makeCallHandle c signature with
      | (some handle, c) => (.ok handle, c)
      | (none, c) => (.error (.callHandleFailed signature), c)

/-- The engine as a machine. -/
@[reducible] def backend : Backend C where
  toSlots := @guardedSlots C api
  start config c :=
    match create (HeapSettings.withConfiguration (presets C) config) c with
    | (true, c) => (.ok (), c)
    | (false, c) => (.error .failedToCreateVm, c)
  interpret := interpretText
  makeCallHandle c signature := pure (callHandleFor c signature)
  call method := do return outcomeOfCode (← Contained.lift (Engine.call method))
  releaseHandle := releaseHandle
  collectGarbage := Contained.lift collectGarbage
  free := Contained.lift free

end Engine

end ScriptHost
