/-!
# Totals

The sum of a list of numbers.
-/

namespace ProtocolGateway

/-- The sum of a list of numbers. -/
def total : List Nat → Nat
  | [] => 0
  | n :: rest => n + total rest

theorem total_append (a b : List Nat) : total (a ++ b) = total a + total b := by
  induction a with
  | nil => rw [List.nil_append, total, Nat.zero_add]
  | cons n rest ih => rw [List.cons_append, total, total, ih, Nat.add_assoc]

end ProtocolGateway
