/-!
# Hexadecimal digits
-/

namespace ConversationBus.Hex

/-- The value of a hexadecimal digit, in either case. -/
def value? (c : Char) : Option (Fin 16) :=
  let code := c.toNat
  if h : 0x30 ≤ code ∧ code ≤ 0x39 then some ⟨code - 0x30, by omega⟩
  else if h : 0x61 ≤ code ∧ code ≤ 0x66 then some ⟨code - 0x61 + 10, by omega⟩
  else if h : 0x41 ≤ code ∧ code ≤ 0x46 then some ⟨code - 0x41 + 10, by omega⟩
  else none

/-- The hexadecimal digit for a value, in lower case. -/
def digit (value : Fin 16) : Char :=
  Nat.digitChar value

@[simp] theorem value?_digit (value : Fin 16) : value? (digit value) = some value := by
  revert value; decide

end ConversationBus.Hex
