/-!
# Computations that may fail

What a row of computations gives is given by each of them.
-/

namespace ExceptionStubs

variable {α β ε : Type}

theorem bind_eq_ok {x : Except ε α} {f : α → Except ε β} {b : β} :
    x >>= f = .ok b ↔ ∃ a, x = .ok a ∧ f a = .ok b := by
  cases x with
  | error e => simp [bind, Except.bind]
  | ok a => simp [bind, Except.bind]

/-- Every result of a row of computations is the result of one of them. -/
theorem exists_of_mem_mapM {f : α → Except ε β} {xs : List α} {ys : List β} {y : β}
    (h : xs.mapM f = .ok ys) (mem : y ∈ ys) : ∃ x ∈ xs, f x = .ok y := by
  induction xs generalizing ys with
  | nil =>
    cases h
    cases mem
  | cons x xs ih =>
    rw [List.mapM_cons, bind_eq_ok] at h
    obtain ⟨first, hf, h⟩ := h
    obtain ⟨rest, hr, h⟩ := bind_eq_ok.1 h
    cases h
    rcases List.mem_cons.1 mem with rfl | mem
    · exact ⟨x, List.mem_cons_self, hf⟩
    · obtain ⟨x', hx, hy⟩ := ih hr mem
      exact ⟨x', List.mem_cons_of_mem _ hx, hy⟩

/-- If a function gives whatever each computation of a row gives, it gives what the row gives. -/
theorem eq_map_of_mapM {f : α → Except ε β} {g : α → β} (known : ∀ a b, f a = .ok b → b = g a)
    {xs : List α} {ys : List β} (h : xs.mapM f = .ok ys) : ys = xs.map g := by
  induction xs generalizing ys with
  | nil =>
    cases h
    rfl
  | cons x xs ih =>
    rw [List.mapM_cons] at h
    obtain ⟨first, hf, h⟩ := bind_eq_ok.1 h
    obtain ⟨rest, hr, h⟩ := bind_eq_ok.1 h
    cases h
    rw [known x first hf, ih hr, List.map_cons]

end ExceptionStubs
