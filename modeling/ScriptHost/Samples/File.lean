/-
A file kept in memory as a foreign class: it can be written to until it is closed.
-/
import ScriptHost.Binder.ForeignClass

namespace ScriptHost.Samples

structure File where
  closed : Bool
  contents : String

instance : HostType File where
  typeName := "File"
  fields f := [.flag f.closed, .text f.contents]
  ofFields?
    | [.flag closed, .text contents] => some ⟨closed, contents⟩
    | _ => none
  ofFields_fields _ := rfl

/-- A file starts open, with the path as its contents if one is given. -/
def fileClass : ForeignClass File where
  name := "File"
  constructors :=
    [ ⟨[.of String "path"], do return ⟨false, ← Args.take String⟩⟩,
      ⟨[], pure ⟨false, ""⟩⟩ ]
  methods :=
    [ ⟨"Write", none, [.of String "buffer"], .onReceiver do
        let buffer ← Args.take String
        let file : File ← get
        if file.closed then
          respond (.error "Cannot write to a closed file." : Except String Unit)
        else
          set { file with contents := file.contents ++ buffer }
          respond ()⟩,
      ⟨"close", none, [], .onReceiver do
        modify fun file : File => { file with closed := true }
        respond ()⟩,
      ⟨"is_closed", none, [], .onReceiver do respond (← get).closed⟩,
      ⟨"contents", none, [], .onReceiver do respond (← get).contents⟩ ]

end ScriptHost.Samples
