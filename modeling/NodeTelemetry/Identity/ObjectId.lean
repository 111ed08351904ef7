import NodeTelemetry.Text.Hex

/-!
# Object ids

An object id is twelve bytes, shown as 24 lower-case digits in base 16. A text
is one when it consists of 24 such digits in either case.
-/

namespace NodeTelemetry

/-- Twelve bytes that name something. -/
structure ObjectId where
  bytes : List UInt8
  length_eq : bytes.length = 12
  deriving DecidableEq, Repr

namespace ObjectId

def text (o : ObjectId) : String := Text.hex o.bytes

def ofBytes? (bs : List UInt8) : Option ObjectId :=
  if h : bs.length = 12 then some ⟨bs, h⟩ else none

/-- The id that a text of 24 digits stands for. -/
def ofText? (s : String) : Option ObjectId := do ofBytes? (← Text.unhex? s)

@[simp] theorem ofBytes?_bytes (o : ObjectId) : ofBytes? o.bytes = some o := by
  simp [ofBytes?, o.length_eq]

/-- The digits of an id stand for that id. -/
@[simp] theorem ofText?_text (o : ObjectId) : ofText? o.text = some o := by
  simp [ofText?, text, Text.unhex?_hex]

end ObjectId

end NodeTelemetry
