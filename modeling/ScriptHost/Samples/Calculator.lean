/-
A calculator as a foreign class: arithmetic with an offset kept between calls.
-/
import ScriptHost.Binder.ForeignClass

namespace ScriptHost.Samples

structure Calculator where
  offset : Int32

instance : HostType Calculator where
  typeName := "Calculator"
  fields c := [.int c.offset.toInt64]
  ofFields?
    | [.int offset] => some ⟨offset.toInt32⟩
    | _ => none
  ofFields_fields c := by simp

/-- Offsets start at zero unless given; additions of integers include the offset and wrap. -/
def calculatorClass : ForeignClass Calculator where
  name := "Calculator"
  constructors :=
    [ ⟨[], pure ⟨0⟩⟩,
      ⟨[.of Int32 "offset"], do return ⟨← Args.take Int32⟩⟩ ]
  methods :=
    [ ⟨"add_ints", none, [.of Int32 "a", .of Int32 "b"], .onReceiver do
        let a ← Args.take Int32
        let b ← Args.take Int32
        respond (a + b + (← get).offset)⟩,
      ⟨"AddFloats", none, [.of Number "a", .of Number "b"], .onReceiver do
        let a ← Args.take Number
        let b ← Args.take Number
        respond (a + b)⟩,
      ⟨"divide", none, [.of Number "a", .of Number "b"], .onReceiver do
        let a ← Args.take Number
        let b ← Args.take Number
        respond (if b.ieeeEq .zero then .error "Division by zero." else .ok (a / b) :
          Except String Number)⟩,
      ⟨"sum_all", some "total", [.of Int64 "a", .of Int64 "b", .of Int64 "c"], .onReceiver do
        let a ← Args.take Int64
        let b ← Args.take Int64
        let c ← Args.take Int64
        respond (a + b + c)⟩,
      ⟨"reset", none, [], .onReceiver do
        set (⟨0⟩ : Calculator)
        respond ()⟩,
      ⟨"version", none, [], .onClass (respond "1.0")⟩,
      ⟨"describe", none, [.of HostValue "value"], .onClass do
        respond (← Args.take HostValue).kindName⟩ ]

end ScriptHost.Samples
