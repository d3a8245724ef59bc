/-
A vector in the plane as a foreign class.
-/
import ScriptHost.Binder.ForeignClass

namespace ScriptHost.Samples

structure Vector where
  x : Number
  y : Number

instance : HostType Vector where
  typeName := "Vector"
  fields v := [.number v.x, .number v.y]
  ofFields?
    | [.number x, .number y] => some ⟨x, y⟩
    | _ => none
  ofFields_fields _ := rfl

/-- A vector is made from its coordinates, or from a flag that says whether `x` is one. -/
def vectorClass : ForeignClass Vector where
  name := "Vector"
  constructors :=
    [ ⟨[.of Number "x", .of Number "y"], do
        let x ← Args.take Number
        let y ← Args.take Number
        return ⟨x, y⟩⟩,
      ⟨[.of Bool "flag"], do
        let flag ← Args.take Bool
        return ⟨.ofInt (if flag then 1 else 0), .zero⟩⟩ ]
  methods :=
    [ ⟨"length", none, [], .onReceiver do
        let v : Vector ← get
        respond (v.x * v.x + v.y * v.y).sqrt⟩,
      ⟨"scale", none, [.of Number "factor"], .onReceiver do
        let factor ← Args.take Number
        modify fun v : Vector => ⟨v.x * factor, v.y * factor⟩
        respond ()⟩,
      ⟨"offset", none, [.of Int32 "dx", .of Int32 "dy"], .onReceiver do
        let dx ← Args.take Int32
        let dy ← Args.take Int32
        modify fun v : Vector => ⟨v.x + .ofInt32 dx, v.y + .ofInt32 dy⟩
        respond (← get).x⟩,
      ⟨"label", none, [.of String "prefix"], .onReceiver do
        let opening ← Args.take String
        let v : Vector ← get
        respond s!"{opening}({v.x.toText}, {v.y.toText})"⟩,
      ⟨"kind", none, [.of HostValue "value"], .onClass do
        respond (← Args.take HostValue).kindName⟩ ]

end ScriptHost.Samples
