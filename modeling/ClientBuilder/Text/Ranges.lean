namespace ClientBuilder.Text

def inRanges (table : List (Nat × Nat)) (code : Nat) : Bool :=
  table.any fun r => r.1 ≤ code && code ≤ r.2

theorem inRanges_iff (table : List (Nat × Nat)) (code : Nat) :
    inRanges table code = true ↔ ∃ r ∈ table, r.1 ≤ code ∧ code ≤ r.2 := by
  simp [inRanges]

end ClientBuilder.Text
