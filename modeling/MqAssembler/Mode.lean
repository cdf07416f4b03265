/-! # Addressing modes

An operand is either the value itself or the address of it. The mode is one bit of an instruction
word. -/

namespace MqAssembler

/-- How an operand is meant. -/
inductive Mode where
  /-- The operand is the value. -/
  | immediate
  /-- The operand is the address of the value. -/
  | pointer
deriving DecidableEq, Repr, Inhabited

namespace Mode

/-- The mode bit of a word. -/
def bit : Mode → Nat
  | immediate => 0
  | pointer => 1

/-- The mode of a stored number. Only `1` means a pointer. -/
def ofNumber (n : Nat) : Mode :=
  if n = 1 then pointer else immediate

/-- Whether the operand is an address. -/
def isPointer : Mode → Bool
  | immediate => false
  | pointer => true

/-- The mode of a memory flag. -/
def ofFlag (flag : Bool) : Mode :=
  if flag then pointer else immediate

/-- The name a listing uses. -/
def name : Mode → String
  | immediate => "immediate"
  | pointer => "pointer"

/-- The mode with a given name. -/
def ofName? (s : String) : Option Mode :=
  if s = "immediate" then some immediate
  else if s = "pointer" then some pointer
  else none

@[simp] theorem ofNumber_bit (mode : Mode) : ofNumber mode.bit = mode := by
  cases mode <;> rfl

theorem bit_le_one (mode : Mode) : mode.bit ≤ 1 := by
  cases mode <;> decide

@[simp] theorem ofName?_name (mode : Mode) : ofName? mode.name = some mode := by
  cases mode <;> decide

end Mode

end MqAssembler
