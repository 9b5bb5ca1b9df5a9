/-!
# Batches

A list cut into batches, in order.  No batch is empty, and none but the last holds fewer items than
asked for.
-/

namespace LogTemplate

/-- The batches of a list.  A batch holds one item at least. -/
def batches {α : Type} (size : Nat) : List α → List (List α)
  | [] => []
  | item :: rest => (item :: rest.take (size - 1)) :: batches size (rest.drop (size - 1))
termination_by items => items.length
decreasing_by simp only [List.length_drop, List.length_cons]; omega

@[simp] theorem batches_nil {α : Type} (size : Nat) : batches size ([] : List α) = [] := by
  rw [batches]

/-- Nothing is lost or moved. -/
theorem flatten_batches {α : Type} (size : Nat) (items : List α) :
    (batches size items).flatten = items := by
  fun_induction batches size items with
  | case1 => rfl
  | case2 item rest ih => simp [ih]

theorem ne_nil_of_mem_batches {α : Type} {size : Nat} {items batch : List α}
    (h : batch ∈ batches size items) : batch ≠ [] := by
  fun_induction batches size items with
  | case1 => simp at h
  | case2 item rest ih =>
    rcases List.mem_cons.1 h with e | h
    · simp [e]
    · exact ih h

theorem length_le_of_mem_batches {α : Type} {size : Nat} {items batch : List α}
    (positive : 0 < size) (h : batch ∈ batches size items) : batch.length ≤ size := by
  fun_induction batches size items with
  | case1 => simp at h
  | case2 item rest ih =>
    rcases List.mem_cons.1 h with e | h
    · simp only [e, List.length_cons, List.length_take]; omega
    · exact ih h

end LogTemplate
