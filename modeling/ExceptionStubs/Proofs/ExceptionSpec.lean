import ExceptionStubs.Proofs.Except
import ExceptionStubs.Proofs.JavaName
import ExceptionStubs.Proofs.OrderedMap
import ExceptionStubs.Run.Build
import Mathlib.Data.List.Induction
/-!
# Specs and their catalog

The specs of a marked interface have valid targets, and the catalog gives for a package and a name
the mode of the first spec that has them.
-/

namespace ExceptionStubs

namespace Build

variable {α : Type} (results : List (Except Malformed (List α)))

@[simp] theorem accepted_nil : accepted ([] : List (Except Malformed (List α))) = [] := rfl

@[simp] theorem rejected_nil : rejected ([] : List (Except Malformed (List α))) = [] := rfl

@[simp] theorem accepted_ok (xs : List α) :
    accepted (.ok xs :: results) = xs ++ accepted results := rfl

@[simp] theorem accepted_error (fault : Malformed) :
    accepted (.error fault :: results) = accepted results := rfl

@[simp] theorem rejected_ok (xs : List α) : rejected (.ok xs :: results) = rejected results := rfl

@[simp] theorem rejected_error (fault : Malformed) :
    rejected (.error fault :: results) = fault :: rejected results := rfl

theorem mem_accepted {results : List (Except Malformed (List α))} {x : α} :
    x ∈ accepted results ↔ ∃ xs, .ok xs ∈ results ∧ x ∈ xs := by
  rw [accepted, List.mem_flatMap]
  constructor
  · rintro ⟨fault | xs, mem, hx⟩
    · cases hx
    · exact ⟨xs, mem, hx⟩
  · rintro ⟨xs, mem, hx⟩
    exact ⟨.ok xs, mem, hx⟩

end Build

namespace ExceptionSpec

/-- A spec is only made of names that were checked. -/
theorem valid_of_mem_ofMarker {d : Declaration} {scope : Scope} {marker : TypeMarker}
    {specs : List ExceptionSpec} {s : ExceptionSpec} (h : ofMarker d scope marker = .ok specs)
    (mem : s ∈ specs) :
    JavaName.isIdentifier s.name = true ∧ JavaName.isPackageName s.package = true := by
  unfold ofMarker at h
  obtain ⟨package, -, h⟩ := bind_eq_ok.1 h
  obtain ⟨interface, -, h⟩ := bind_eq_ok.1 h
  split at h
  · cases h
  · obtain ⟨name, -, made⟩ := exists_of_mem_mapM h mem
    obtain ⟨identifier, -, made⟩ := bind_eq_ok.1 made
    cases made
    exact ⟨identifier.valid, package.valid⟩

/-- The specs that are accepted have targets that every sink accepts. -/
theorem check_of_mem_accepted {types : List Declaration} {s : ExceptionSpec}
    (mem : s ∈ Build.accepted (types.map Declaration.specs)) :
    Target.check s.package s.name = .ok () := by
  obtain ⟨specs, built, mem⟩ := Build.mem_accepted.1 mem
  obtain ⟨d, -, built⟩ := List.mem_map.1 built
  unfold Declaration.specs at built
  split at built
  · obtain ⟨⟨⟩, -, built⟩ := bind_eq_ok.1 built
    obtain ⟨scope, -, built⟩ := bind_eq_ok.1 built
    exact Target.check_eq_ok_iff.2 (valid_of_mem_ofMarker built mem)
  · cases built
    cases mem

end ExceptionSpec

namespace ExceptionCatalog

/-- The first spec of a package and a name decides. -/
theorem modeOf?_ofSpecs (specs : List ExceptionSpec) (package name : String) :
    (ofSpecs specs).modeOf? package name =
      (specs.find? fun s => (s.package, s.name) = (package, name)).map ExceptionSpec.mode := by
  induction specs using List.reverseRecOn with
  | nil => rfl
  | append_singleton specs s ih =>
    unfold modeOf? ofSpecs at ih ⊢
    rw [List.foldl_append, List.foldl_cons, List.foldl_nil, OrderedMap.get?_insertNew, ih,
      List.find?_append]
    cases specs.find? fun s => (s.package, s.name) = (package, name) with
    | some first => simp
    | none => by_cases h : s.package = package ∧ s.name = name <;> simp [h]

theorem modeOf?_of_first {specs : List ExceptionSpec} {i : Nat} {s : ExceptionSpec}
    (at_i : specs[i]? = some s)
    (new : ∀ t ∈ specs.take i, (t.package, t.name) ≠ (s.package, s.name)) :
    (ofSpecs specs).modeOf? s.package s.name = some s.mode := by
  obtain ⟨bound, value⟩ := List.getElem?_eq_some_iff.1 at_i
  have parts : specs.take i ++ s :: specs.drop (i + 1) = specs := by
    rw [← value, List.getElem_cons_drop, List.take_append_drop]
  have skipped :
      ((specs.take i).find? fun t => (t.package, t.name) = (s.package, s.name)) = none := by
    rw [List.find?_eq_none]
    intro t mem
    simpa using new t mem
  rw [modeOf?_ofSpecs, ← parts, List.find?_append, skipped]
  simp

end ExceptionCatalog

end ExceptionStubs
