import MqAssembler.Instruction
import MqAssembler.Scope.Basic

/-! # Patching operands

Once a label has an address, the placeholder operands of a scope are replaced by it. -/

namespace MqAssembler

/-- The instruction with operand `new` where it had operand `old`. -/
def Instruction.patch (old new : UInt16) (i : Instruction) : Instruction :=
  if i.value = old then { i with value := new } else i

/-- Patches the direct children that are items; nested scopes are left alone. -/
def Scope.replace (s : Scope Instruction) (old new : UInt16) : Scope Instruction :=
  { s with
    body := s.body.map fun
      | .item i => .item (i.patch old new)
      | node => node }

end MqAssembler
