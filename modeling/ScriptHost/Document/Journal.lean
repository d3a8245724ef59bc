/-
What was put on record, as documents.
-/
import ScriptHost.Document
import ScriptHost.Inspection
import ScriptHost.RecordingHost

namespace ScriptHost

open Document (field tagged ofBytes ofText ofString)

/-- Objects of the sample types show their fields by name, plain ones just their value. -/
instance : Documented HostObject where
  document o :=
    let named (fields : Fields) := Document.record (field "type" o.typeName :: fields)
    match o.typeName, o.fields with
    | "i64", [value] | "bool", [value] | "alloc::string::String", [value] => document value
    | "Calculator", [.int offset] => named [field "offset" offset.toInt]
    | "File", [closed, .text contents] => named [field "closed" closed, field "contents" contents]
    | "Vector", [x, y] => named [field "x" x, field "y" y]
    | _, [count, .text text] => named [field "count" count, field "text" text]
    | _, fields => named [field "fields" fields]

instance : Documented WindowReply where
  document
    | .nothing => .null
    | .flag b => document b
    | .natural n => document n
    | .number x => document x
    | .bytes b => ofBytes b
    | .text s => ofText s
    | .type t => document t
    | .token t => document t
    | .handle h => document h
    | .reading r => document r
    | .value v => document v
    | .done outcome => document outcome
    | .abortMessage aborted message => document (aborted, message)
    | .result r => document r
    | .target id => document id
    | .code code => document code.toInt

instance : Documented CallReply where
  document
    | .nothing => .null
    | .counts slots args => document (slots, args)
    | .flag b => document b
    | .summary s => document s
    | .slotType outcome => document outcome
    | .reading outcome => document outcome
    | .done outcome => document outcome
    | .object o | .released _ o => document o
    | .int i => document i
    | .text s => document s
    | .nested values =>
      document (values.map fun (outer, inner) =>
        Document.record [field "outer" outer, field "inner" inner])

/-- A value as it is shown. -/
def Shown.document : Shown → Document
  | .null => .null
  | .bool b => ScriptHost.document b
  | .number x => ScriptHost.document x
  | .string b => ofString b
  | .list elements => .record [("list", .list (elements.map Shown.document))]
  | .deep => tagged "list" "deep"
  | .instanceOf token name => .record [field "foreign" token, field "class" name]
  | .numbered n name => .record [field "instance" n, field "class" name]
  | .classNamed name => tagged "class" name
  | .callHandle signature => tagged "call" signature
  | .unknownTag tag => tagged "odd" tag
  | .stringOfLength noBytes length => tagged "odd_str" (noBytes, length)

instance : Documented Shown := ⟨Shown.document⟩

instance : Documented HostCall where
  document call :=
    .record <| field "host" call.kind.name ::
      match call with
      | .bindMethod module className isStatic signature =>
        [field "module" module, field "class" className, field "static" isStatic,
          field "signature" signature]
      | .bindClass module className => [field "module" module, field "class" className]
      | .invoke id | .allocate id => [field "id" id]
      | .finalize token => [field "token" token]
      | .write text => [field "text" text]
      | .report event => event.toFields

/-- The functions of a hand-written class. -/
def classMethodsSummary (finalize : Bool) : String :=
  s!"ForeignClassMethods \x7b finalize: {finalize}, .. \x7d"

instance : Documented Entry where
  document
    | .declared v => tagged "declared" v
    | .value v => tagged "value" v
    | .caught v => tagged "caught" v
    | .slots vs => tagged "slots" vs
    | .slot reply => tagged "slot" reply
    | .raw reply => tagged "raw" reply
    | .classMethods finalize => tagged "class_methods" (classMethodsSummary finalize)
    | .finalized name object freed =>
      .record [field "finalized" name, field "object" object, field "freed" freed]
    | .onWrite label text => .record [field "on_write" label, field "text" text]
    | .onError label event => .record (field "on_error" label :: event.toFields)
    | .newVm initialHeap minHeap growthPercent =>
      tagged "new_vm" [(initialHeap : Int), (minHeap : Int), growthPercent]
    | .tooManySlots count => tagged "too_many_slots" count
    | .bound count => tagged "bound" count
    | .boundClass allocate finalize =>
      .record [field "allocate" allocate, field "finalize" finalize]
    | .aborted v => tagged "aborted" v
    | .finalizer present => tagged "finalizer" present
    | .hostCall call => document call
    | .remark text => document text

end ScriptHost
