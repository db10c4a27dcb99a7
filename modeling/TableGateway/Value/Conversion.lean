import TableGateway.Value.Basic

/-!
# Conversions to values

The types whose elements can be bound to a condition or stored in a row as they are. Unsigned
64-bit numbers are missing, since not all of them are integer values.
-/

namespace TableGateway

/-- Types with a reading as a value. -/
class ToValue (α : Type) where
  toValue : α → Value

namespace ToValue

instance : ToValue Value := ⟨id⟩

instance : ToValue Bool := ⟨.bool⟩

instance : ToValue Int64 := ⟨.int⟩

instance : ToValue Int32 := ⟨fun i => .int i.toInt64⟩

instance : ToValue Int16 := ⟨fun i => .int i.toInt64⟩

instance : ToValue Int8 := ⟨fun i => .int i.toInt64⟩

instance : ToValue UInt32 := ⟨fun n => .int (.ofNat n.toNat)⟩

instance : ToValue UInt16 := ⟨fun n => .int (.ofNat n.toNat)⟩

instance : ToValue UInt8 := ⟨fun n => .int (.ofNat n.toNat)⟩

instance : ToValue Float := ⟨.float⟩

/-- Widening a floating-point number loses nothing. -/
instance : ToValue Float32 := ⟨fun x => .float x.toFloat⟩

instance : ToValue String := ⟨.text⟩

instance : ToValue DateTime := ⟨.dateTime⟩

/-- A day stands for its first moment. -/
instance : ToValue Date := ⟨fun d => .dateTime ⟨d, .midnight⟩⟩

/-- A moment stands for what the clocks show where it is seen. -/
instance : ToValue ZonedDateTime := ⟨fun z => .dateTime (.ofZoned z)⟩

instance {α : Type} [ToValue α] : ToValue (Option α) :=
  ⟨fun
    | some a => toValue a
    | none => .null⟩

instance {α : Type} [ToValue α] : ToValue (List α) := ⟨fun items => .list (items.map toValue)⟩

end ToValue

end TableGateway
