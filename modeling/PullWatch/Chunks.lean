/-!
# Cutting a list into chunks

Work on long lists is done in chunks of a fixed size, the last of which may be shorter.

## Main definitions

* `chunks size xs`: the chunks of a list, in order.

## Main results

* `flatten_chunks`: the chunks in order make up the list.
* `foldlM_chunks`: work chunk by chunk is work on the list.
-/

namespace PullWatch

/-- The chunks of a list, in order; a size of zero counts as one. -/
def chunks {α : Type} (size : Nat) : List α → List (List α)
  | [] => []
  | x :: xs => (x :: xs.take (size - 1)) :: chunks size (xs.drop (size - 1))
termination_by xs => xs.length
decreasing_by
  simp only [List.length_drop, List.length_cons]
  omega

/-- The chunks in order make up the list. -/
theorem flatten_chunks {α : Type} (size : Nat) (xs : List α) : (chunks size xs).flatten = xs := by
  fun_induction chunks size xs with
  | case1 => rfl
  | case2 x xs ih => simp [ih]

/-- Folding chunk by chunk is folding the list. -/
theorem foldlM_chunks {m : Type → Type} [Monad m] [LawfulMonad m] {α β : Type}
    (f : β → α → m β) (size : Nat) (xs : List α) (b : β) :
    (chunks size xs).foldlM (fun b chunk => chunk.foldlM f b) b = xs.foldlM f b := by
  fun_induction chunks size xs generalizing b with
  | case1 => rfl
  | case2 x xs ih =>
    conv =>
      rhs
      rw [← List.take_append_drop (size - 1) xs, ← List.cons_append, List.foldlM_append]
    simp [ih]

end PullWatch
