/-!
# Interleavings

Two lists that are told as one, each in its own order. The typical case is a row of things of two
kinds, with a view for either kind.
-/

namespace ExceptionStubs

variable {α β : Type}

/-- The third list is made up of the elements of the first two, and keeps the order of each. -/
inductive Interleaved : List α → List α → List α → Prop
  | nil : Interleaved [] [] []
  | left (x : α) {xs ys zs : List α} : Interleaved xs ys zs → Interleaved (x :: xs) ys (x :: zs)
  | right (y : α) {xs ys zs : List α} : Interleaved xs ys zs → Interleaved xs (y :: ys) (y :: zs)

namespace Interleaved

theorem eq_of_nil {xs zs : List α} (h : Interleaved xs [] zs) : zs = xs := by
  induction xs generalizing zs with
  | nil => cases h; rfl
  | cons x xs ih =>
    cases h with
    | left _ rest => rw [ih rest]

theorem filterMap (f : α → Option β) {xs ys zs : List α} (h : Interleaved xs ys zs) :
    Interleaved (xs.filterMap f) (ys.filterMap f) (zs.filterMap f) := by
  induction h with
  | nil => exact .nil
  | left x _ ih =>
    cases shown : f x with
    | none => simpa [shown] using ih
    | some b => simpa [shown] using ih.left b
  | right y _ ih =>
    cases shown : f y with
    | none => simpa [shown] using ih
    | some b => simpa [shown] using ih.right b

end Interleaved

/-- A view of a row that shows everything that one of two other views shows, and nothing that both
show, interleaves the two. -/
theorem interleaved_filterMap {f g view : α → Option β} {xs : List α}
    (split : ∀ x ∈ xs, (f x = view x ∧ g x = none) ∨ (f x = none ∧ g x = view x)) :
    Interleaved (xs.filterMap f) (xs.filterMap g) (xs.filterMap view) := by
  induction xs with
  | nil => exact .nil
  | cons x xs ih =>
    have rest := ih fun y mem => split y (List.mem_cons_of_mem _ mem)
    obtain ⟨hf, hg⟩ | ⟨hf, hg⟩ := split x List.mem_cons_self
    · rw [List.filterMap_cons_none hg]
      cases shown : view x with
      | none => rwa [List.filterMap_cons_none (hf.trans shown), List.filterMap_cons_none shown]
      | some b =>
        rw [List.filterMap_cons_some (hf.trans shown), List.filterMap_cons_some shown]
        exact rest.left b
    · rw [List.filterMap_cons_none hf]
      cases shown : view x with
      | none => rwa [List.filterMap_cons_none (hg.trans shown), List.filterMap_cons_none shown]
      | some b =>
        rw [List.filterMap_cons_some (hg.trans shown), List.filterMap_cons_some shown]
        exact rest.right b

end ExceptionStubs
