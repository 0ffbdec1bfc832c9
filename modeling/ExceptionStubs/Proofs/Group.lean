import ExceptionStubs.Group
import ExceptionStubs.Proofs.JavaName
import Mathlib.Data.List.Induction
import Mathlib.Data.List.Nodup
/-!
# Grouping by owner

Adding a record changes the group of its owner and no other. So the groups of a list of records
divide it: their owners are distinct, the one that occurs first stands first, and each holds exactly
the records of its owner. Leaving the records of some owners out leaves out their groups and nothing
else. Groups with distinct owners are implemented by classes with distinct qualified names.
-/

namespace ExceptionStubs

section EraseDups

variable {α : Type} [DecidableEq α]

theorem eraseDups_concat (xs : List α) (x : α) :
    (xs ++ [x]).eraseDups = if x ∈ xs then xs.eraseDups else xs.eraseDups ++ [x] := by
  rw [List.eraseDups_append]
  by_cases h : x ∈ xs <;> simp [List.removeAll, h, List.eraseDups_cons]

theorem nodup_eraseDups (xs : List α) : xs.eraseDups.Nodup := by
  induction xs using List.reverseRecOn with
  | nil => exact List.nodup_nil
  | append_singleton xs x ih =>
    rw [eraseDups_concat]
    by_cases h : x ∈ xs
    · rw [if_pos h]
      exact ih
    · rw [if_neg h, List.nodup_append]
      refine ⟨ih, by simp, ?_⟩
      rintro y hy z hz rfl
      rw [List.mem_singleton.1 hz] at hy
      exact h (List.mem_eraseDups.1 hy)

end EraseDups

namespace Group

theorem keys_add (r : MethodRecord) (gs : List Group) :
    (add r gs).map key =
      if r.owner ∈ gs.map key then gs.map key else gs.map key ++ [r.owner] := by
  induction gs with
  | nil => simp [add, single, key]
  | cons g gs ih =>
    by_cases h : r.owner = g.key
    · simp [add, h]
    · simp only [add, h, dite_false, List.map_cons, ih, List.mem_cons, false_or]
      split <;> rfl

/-- Adding a record leaves the groups of the other owners alone, and puts the record behind those of
its owner or into a group of its own. -/
theorem mem_add {r : MethodRecord} {gs : List Group} {g : Group} (distinct : (gs.map key).Nodup)
    (h : g ∈ add r gs) :
    (g ∈ gs ∧ r.owner ≠ g.key) ∨
      (∃ old ∈ gs, g.key = old.key ∧ r.owner = g.key ∧ g.records = old.records ++ [r]) ∨
      (r.owner ∉ gs.map key ∧ g = single r) := by
  induction gs with
  | nil => exact .inr (.inr ⟨by simp, List.mem_singleton.1 h⟩)
  | cons old gs ih =>
    obtain ⟨fresh, distinct⟩ := List.nodup_cons.1 distinct
    by_cases same : r.owner = old.key
    · rw [add, dif_pos same] at h
      obtain rfl | other := List.mem_cons.1 h
      · exact .inr (.inl ⟨old, List.mem_cons_self, rfl, same, rfl⟩)
      · refine .inl ⟨List.mem_cons_of_mem old other, fun its => fresh ?_⟩
        rw [← same, its]
        exact List.mem_map_of_mem other
    · rw [add, dif_neg same] at h
      obtain rfl | later := List.mem_cons.1 h
      · exact .inl ⟨List.mem_cons_self, same⟩
      · obtain ⟨kept, its⟩ | ⟨its, mem, grown⟩ | ⟨new, alone⟩ := ih distinct later
        · exact .inl ⟨List.mem_cons_of_mem old kept, its⟩
        · exact .inr (.inl ⟨its, List.mem_cons_of_mem old mem, grown⟩)
        · exact .inr (.inr ⟨by simpa using ⟨same, by simpa using new⟩, alone⟩)

theorem flatMap_records_add (r : MethodRecord) (gs : List Group) :
    ((add r gs).flatMap records).Perm (gs.flatMap records ++ [r]) := by
  induction gs with
  | nil => exact .refl _
  | cons g gs ih =>
    by_cases h : r.owner = g.key
    · rw [add, dif_pos h, List.flatMap_cons, List.flatMap_cons, records_push, List.append_assoc,
        List.append_assoc]
      exact List.perm_append_comm.append_left _
    · rw [add, dif_neg h, List.flatMap_cons, List.flatMap_cons, List.append_assoc]
      exact ih.append_left _

/-- The groups divide the records by owner: there is one for every owner, in the order in which the
owners first occur, with exactly its records in their order, and every record is in one of them. -/
structure Divides (gs : List Group) (rs : List MethodRecord) : Prop where
  keys : gs.map key = (rs.map MethodRecord.owner).eraseDups
  members : ∀ g ∈ gs, g.records = rs.filter (·.owner = g.key)
  complete : (gs.flatMap records).Perm rs

theorem divides_nil : Divides [] [] := ⟨rfl, by simp, .refl []⟩

/-- Groups that divide some records divide one more when it is added. -/
theorem Divides.add {gs : List Group} {rs : List MethodRecord} (h : Divides gs rs)
    (r : MethodRecord) : Divides (add r gs) (rs ++ [r]) where
  keys := by
    rw [keys_add, h.keys, List.map_append, List.map_singleton, eraseDups_concat]
    simp only [List.mem_eraseDups]
  members := by
    intro g mem
    have distinct : (gs.map key).Nodup := h.keys ▸ nodup_eraseDups _
    rw [List.filter_append]
    obtain ⟨kept, other⟩ | ⟨old, kept, named, its, grown⟩ | ⟨new, rfl⟩ := mem_add distinct mem
    · simp [h.members g kept, other]
    · rw [grown, h.members old kept, named]
      simp [its, named]
    · have none_before : rs.filter (·.owner = r.owner) = [] := by
        rw [h.keys, List.mem_eraseDups] at new
        rw [List.filter_eq_nil_iff]
        intro q earlier same
        exact new (List.mem_map.2 ⟨q, earlier, of_decide_eq_true same⟩)
      have its : (single r).key = r.owner := rfl
      simp [its, none_before]
  complete := (flatMap_records_add r gs).trans (h.complete.append_right [r])

theorem ofRecords_concat (rs : List MethodRecord) (r : MethodRecord) :
    ofRecords (rs ++ [r]) = add r (ofRecords rs) := by
  simp [ofRecords]

theorem divides_ofRecords (rs : List MethodRecord) : Divides (ofRecords rs) rs := by
  induction rs using List.reverseRecOn with
  | nil => exact divides_nil
  | append_singleton rs r ih =>
    rw [ofRecords_concat]
    exact ih.add r

/-- No owner has two groups. -/
theorem nodup_keys_ofRecords (rs : List MethodRecord) : ((ofRecords rs).map key).Nodup := by
  rw [(divides_ofRecords rs).keys]
  exact nodup_eraseDups _

/-- Grouping is a stable division by owner: the owners of the groups are those of the records in the
order of their first occurrence, every group has exactly the records of its owner in their order and
so at least one, and no record is lost or doubled. -/
theorem groups_divide_records (rs : List MethodRecord) :
    (ofRecords rs).map key = (rs.map MethodRecord.owner).eraseDups ∧
    (∀ g ∈ ofRecords rs, g.records = rs.filter (·.owner = g.key) ∧ g.records ≠ []) ∧
    ((ofRecords rs).flatMap records).Perm rs := by
  have divided := divides_ofRecords rs
  refine ⟨divided.keys, fun g mem => ⟨divided.members g mem, ?_⟩, divided.complete⟩
  exact List.cons_ne_nil g.first g.rest

theorem filter_add (p : GroupKey → Bool) (r : MethodRecord) (gs : List Group) :
    (add r gs).filter (p ·.key) =
      if p r.owner then add r (gs.filter (p ·.key)) else gs.filter (p ·.key) := by
  induction gs with
  | nil =>
    by_cases hp : p r.owner = true <;> simp [add, single, key, hp]
  | cons g gs ih =>
    by_cases h : r.owner = g.key
    · by_cases hp : p g.key = true <;> simp [add, h, hp]
    · by_cases hp : p r.owner = true <;> by_cases hg : p g.key = true <;>
        simp [add, h, hp, hg, ih]

/-- The groups of the records of some owners are the groups of those owners. -/
theorem ofRecords_filter (p : GroupKey → Bool) (rs : List MethodRecord) :
    ofRecords (rs.filter (p ·.owner)) = (ofRecords rs).filter (p ·.key) := by
  induction rs using List.reverseRecOn with
  | nil => rfl
  | append_singleton rs r ih =>
    rw [List.filter_append, ofRecords_concat, filter_add, ← ih]
    by_cases hp : p r.owner = true
    · simp [hp, ofRecords_concat]
    · simp [hp]

/-- Two lists with the same records of every owner, in the same order for each, have the same groups
up to their order. -/
theorem ofRecords_perm {rs rs' : List MethodRecord}
    (same : ∀ k : GroupKey, rs.filter (·.owner = k) = rs'.filter (·.owner = k)) :
    (ofRecords rs).Perm (ofRecords rs') := by
  have nodup (rs : List MethodRecord) : (ofRecords rs).Nodup :=
    List.Nodup.of_map key (nodup_keys_ofRecords rs)
  rw [List.perm_ext_iff_of_nodup (nodup rs) (nodup rs')]
  intro g
  -- A group is found among the groups of the records of its own owner.
  have own (rs : List MethodRecord) :
      g ∈ ofRecords rs ↔ g ∈ ofRecords (rs.filter (·.owner = g.key)) := by
    rw [ofRecords_filter fun k => k = g.key]
    simp
  rw [own rs, own rs', same]

def target (g : Group) : String := JavaName.qualify g.package g.implementationName

theorem isIdentifier_implementationName (g : Group) :
    JavaName.isIdentifier g.implementationName = true :=
  JavaName.isIdentifier_append_impl g.key.interface.valid

theorem check_target (g : Group) : Target.check g.package g.implementationName = .ok () :=
  Target.check_eq_ok_iff.2 ⟨g.isIdentifier_implementationName, g.key.package.valid⟩

/-- Different interfaces are implemented by classes with different qualified names. -/
theorem target_inj {g h : Group} : g.target = h.target ↔ g.key = h.key := by
  have dots (g : Group) := JavaName.dot_notMem_of_isIdentifier g.isIdentifier_implementationName
  rw [target, target, JavaName.qualify_inj (dots g) (dots h)]
  constructor
  · rintro ⟨hp, hn⟩
    have hi : g.interface = h.interface := by
      simpa [implementationName, ← String.toList_inj, String.toList_append] using hn
    obtain ⟨⟨⟨p, _⟩, ⟨i, _⟩⟩, hg⟩ : ∃ k, g.key = k := ⟨_, rfl⟩
    obtain ⟨⟨⟨q, _⟩, ⟨j, _⟩⟩, hh⟩ : ∃ k, h.key = k := ⟨_, rfl⟩
    simp only [package, interface, hg, hh] at hp hi
    subst hp hi
    rw [hg, hh]
  · intro hk
    simp [package, implementationName, interface, hk]

/-- No two groups are implemented by the same class. -/
theorem nodup_targets_ofRecords (rs : List MethodRecord) : ((ofRecords rs).map target).Nodup := by
  have distinct := List.pairwise_map.1 (nodup_keys_ofRecords rs)
  exact List.pairwise_map.2 (distinct.imp fun ne same => ne (target_inj.1 same))

end Group

end ExceptionStubs
