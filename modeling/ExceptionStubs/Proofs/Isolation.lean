import ExceptionStubs.Proofs.MemorySink
/-!
# Isolation of interfaces

What a run writes for one interface depends on no other interface. Without the methods of an
interface the specs are the same, the other groups are the same and in the same order, and the
verdict on a group looks at the group and the specs alone; so only its own artifact or its own
conflict is missing.
-/

namespace ExceptionStubs

/-- The interface has this package and name. -/
def GroupKey.isNamed (package interface : String) (k : GroupKey) : Bool :=
  k.package.text = package ∧ k.interface.text = interface

theorem GroupKey.eq_of_isNamed {package interface : String} {k k' : GroupKey}
    (h : k.isNamed package interface = true) (h' : k'.isNamed package interface = true) :
    k = k' := by
  obtain ⟨⟨p, _⟩, ⟨i, _⟩⟩ := k
  obtain ⟨⟨p', _⟩, ⟨i', _⟩⟩ := k'
  simp only [isNamed, decide_eq_true_eq] at h h'
  obtain ⟨rfl, rfl⟩ := h
  obtain ⟨rfl, rfl⟩ := h'
  rfl

def Declaration.hasRecordOf (package interface : String) (d : Declaration) : Bool :=
  match d.records with
  | .ok records => records.any (·.owner.isNamed package interface)
  | .error _ => false

/-- The snapshot without the declarations that contribute records of an interface. -/
def Snapshot.without (snapshot : Snapshot) (package interface : String) : Snapshot :=
  ⟨snapshot.declarations.filter (!·.hasRecordOf package interface)⟩

namespace Declaration

variable {package interface : String} {d : Declaration}

theorem hasRecordOf_of_type (h : d.marker.kind = .type) :
    d.hasRecordOf package interface = false := by
  unfold hasRecordOf records
  cases hm : d.marker with
  | type marker => simp
  | method marker => simp [hm, Marker.kind] at h

/-- A method contributes one record. -/
theorem records_eq_ok {rs : List MethodRecord} (h : d.records = .ok rs) :
    rs = [] ∨ ∃ r, rs = [r] := by
  unfold records at h
  split at h
  · obtain ⟨⟨⟩, -, h⟩ := bind_eq_ok.1 h
    obtain ⟨scope, -, h⟩ := bind_eq_ok.1 h
    obtain ⟨r, -, h⟩ := bind_eq_ok.1 h
    cases h
    exact .inr ⟨r, rfl⟩
  · cases h
    exact .inl rfl

theorem hasRecordOf_of_ok {rs : List MethodRecord} (h : d.records = .ok rs) :
    d.hasRecordOf package interface = rs.any (·.owner.isNamed package interface) := by
  rw [hasRecordOf, h]

theorem hasRecordOf_of_error {fault : Malformed} (h : d.records = .error fault) :
    d.hasRecordOf package interface = false := by
  rw [hasRecordOf, h]

/-- Keeping the declarations by the owners of their records keeps the records by their owners. -/
theorem accepted_filter {keep : Declaration → Bool} {q : GroupKey → Bool}
    (agree : ∀ d r, d.records = .ok [r] → keep d = q r.owner) (methods : List Declaration) :
    Build.accepted ((methods.filter keep).map records) =
      (Build.accepted (methods.map records)).filter (q ·.owner) := by
  induction methods with
  | nil => rfl
  | cons d methods ih =>
    rw [List.filter_cons, List.map_cons]
    cases h : d.records with
    | error fault => cases keep d <;> simp [h, ih]
    | ok rs =>
      obtain rfl | ⟨r, rfl⟩ := records_eq_ok h
      · cases keep d <;> simp [h, ih]
      · rw [agree d r h]
        cases named : q r.owner <;> simp [h, named, ih]

/-- Without the declarations of an interface exactly its records are missing, and no fault. -/
theorem records_without (methods : List Declaration) :
    let kept := (methods.filter (!·.hasRecordOf package interface)).map records
    Build.accepted kept = (Build.accepted (methods.map records)).filter
        (!·.owner.isNamed package interface) ∧
      Build.rejected kept = Build.rejected (methods.map records) := by
  intro kept
  have agree (d : Declaration) (r : MethodRecord) (h : d.records = .ok [r]) :
      (!d.hasRecordOf package interface) = !r.owner.isNamed package interface := by
    simp [hasRecordOf_of_ok h]
  refine ⟨accepted_filter (q := fun k => !k.isNamed package interface) agree methods, ?_⟩
  induction methods with
  | nil => rfl
  | cons d methods ih =>
    cases h : d.records with
    | error fault => simp [kept, h, hasRecordOf_of_error h, ih]
    | ok rs => cases named : d.hasRecordOf package interface <;> simp [kept, h, named, ih]

end Declaration

/-- A list with at most one element of some kind is cut in two by it. -/
theorem exists_split {α : Type} {p : α → Bool} {xs : List α}
    (unique : xs.Pairwise fun x y => ¬(p x = true ∧ p y = true)) :
    ∃ before after, xs = before ++ (xs.find? p).toList ++ after ∧
      xs.filter (!p ·) = before ++ after := by
  induction xs with
  | nil => exact ⟨[], [], rfl, rfl⟩
  | cons x xs ih =>
    obtain ⟨others, rest⟩ := List.pairwise_cons.1 unique
    cases hx : p x with
    | true =>
      have kept : xs.filter (!p ·) = xs := by
        rw [List.filter_eq_self]
        intro y mem
        simpa [hx] using others y mem
      exact ⟨[], xs, by simp [hx], by simp [hx, kept]⟩
    | false =>
      obtain ⟨before, after, whole, kept⟩ := ih rest
      refine ⟨x :: before, after, ?_, by simp [hx, kept]⟩
      rw [List.find?_cons, hx, List.cons_append, List.cons_append, ← whole]

namespace Snapshot

variable (snapshot : Snapshot) (package interface : String)

theorem marked_type_without :
    (snapshot.without package interface).marked .type = snapshot.marked .type := by
  unfold marked without
  rw [List.filter_filter]
  apply List.filter_congr
  intro d _
  by_cases h : d.marker.kind = .type
  · simp [h, Declaration.hasRecordOf_of_type h]
  · simp [h]

theorem marked_method_without :
    (snapshot.without package interface).marked .method =
      (snapshot.marked .method).filter (!·.hasRecordOf package interface) := by
  unfold marked without
  rw [List.filter_filter, List.filter_filter]
  apply List.filter_congr
  intro d _
  rw [Bool.and_comm]

theorem specs_without : (snapshot.without package interface).specs = snapshot.specs := by
  rw [specs, marked_type_without, ← specs]

theorem malformed_without :
    (snapshot.without package interface).malformed = snapshot.malformed := by
  rw [malformed, marked_type_without, marked_method_without,
    (Declaration.records_without _).2, ← malformed]

theorem groups_without :
    (snapshot.without package interface).groups =
      snapshot.groups.filter (!·.key.isNamed package interface) := by
  rw [groups, records, marked_method_without, (Declaration.records_without _).1,
    Group.ofRecords_filter fun k => !k.isNamed package interface]
  rfl

def group? : Option Group := snapshot.groups.find? (·.key.isNamed package interface)

/-- An interface has at most one group, and without it only this group is missing. -/
theorem exists_split_groups :
    ∃ before after,
      snapshot.groups = before ++ (snapshot.group? package interface).toList ++ after ∧
        (snapshot.without package interface).groups = before ++ after := by
  have unique : snapshot.groups.Pairwise fun g h =>
      ¬(g.key.isNamed package interface = true ∧ h.key.isNamed package interface = true) := by
    have distinct := List.pairwise_map.1 (Group.nodup_keys_ofRecords snapshot.records)
    exact distinct.imp fun ne both => ne (GroupKey.eq_of_isNamed both.1 both.2)
  rw [groups_without]
  exact exists_split unique

def verdict? (options : GenerationOptions) (header : MetadataHeader) : Option Verdict :=
  (snapshot.group? package interface).map
    (·.verdict options (options.header? header) snapshot.specs)

/-- Without an interface only the verdict on its group is missing. -/
theorem exists_split_verdicts (options : GenerationOptions) (header : MetadataHeader) :
    ∃ before after,
      snapshot.verdicts options header =
          before ++ (snapshot.verdict? package interface options header).toList ++ after ∧
        (snapshot.without package interface).verdicts options header = before ++ after := by
  obtain ⟨before, after, whole, kept⟩ := snapshot.exists_split_groups package interface
  let verdict (g : Group) := g.verdict options (options.header? header) snapshot.specs
  have cut : (snapshot.verdict? package interface options header).toList =
      (snapshot.group? package interface).toList.map verdict := by
    unfold verdict?
    cases snapshot.group? package interface <;> rfl
  refine ⟨Plan.specVerdicts (options.header? header) [] snapshot.specs ++ before.map verdict,
    after.map verdict, ?_, ?_⟩
  · rw [verdicts, Plan.verdicts, whole, cut, List.map_append, List.map_append]
    simp only [List.append_assoc, verdict]
  · rw [verdicts, Plan.verdicts, kept, specs_without, List.map_append]
    simp only [List.append_assoc, verdict]

end Snapshot

theorem filterMap_toList {α β : Type} (f : α → Option β) (x : Option α) :
    x.toList.filterMap f = (x.bind f).toList := by
  cases x with
  | none => rfl
  | some a => cases h : f a <;> simp [h]

/-- Without the methods that contribute records of an interface, a run over an empty shelf writes
the same artifacts with the same texts in the same order, except for the implementation of that
interface if there was one, and it meets the same conflicts, except for that of the group of the
interface if it had one. The faults are the same. -/
theorem other_interfaces_keep_output (snapshot : Snapshot) (options : GenerationOptions)
    (header : MetadataHeader) (rejectExisting : Bool) (phase phase' : RunPhase)
    (package interface : String) :
    let full := run snapshot.source options header (.memory rejectExisting) phase .empty
    let reduced := run (snapshot.without package interface).source options header
      (.memory rejectExisting) phase' .empty
    let own := snapshot.verdict? package interface options header
    ∃ fullReport reducedReport,
      full.result = .ok fullReport ∧ reduced.result = .ok reducedReport ∧
      (∃ before after : List Artifact,
        let artifacts := before ++ (own.bind Verdict.artifact?).toList ++ after
        fullReport.artifacts = artifacts.map ArtifactRecord.ofArtifact ∧
          full.state.toList = artifacts.map Artifact.entry ∧
          reducedReport.artifacts = (before ++ after).map ArtifactRecord.ofArtifact ∧
          reduced.state.toList = (before ++ after).map Artifact.entry) ∧
      (∃ before after : List Conflict,
        fullReport.conflicts = before ++ (own.bind Verdict.conflict?).toList ++ after ∧
          reducedReport.conflicts = before ++ after) ∧
      reducedReport.malformed = fullReport.malformed := by
  intro full reduced own
  obtain ⟨fullReport, result, state, artifacts, conflicts, malformed⟩ :=
    run_on_empty_shelf snapshot options header rejectExisting phase
  obtain ⟨reducedReport, result', state', artifacts', conflicts', malformed'⟩ :=
    run_on_empty_shelf (snapshot.without package interface) options header rejectExisting phase'
  obtain ⟨before, after, whole, kept⟩ :=
    snapshot.exists_split_verdicts package interface options header
  rw [Snapshot.attempts, whole, List.filterMap_append, List.filterMap_append, filterMap_toList]
    at state artifacts
  rw [Snapshot.attempts, kept, List.filterMap_append] at state' artifacts'
  rw [whole, List.filterMap_append, List.filterMap_append, filterMap_toList] at conflicts
  rw [kept, List.filterMap_append] at conflicts'
  refine ⟨fullReport, reducedReport, result, result', ⟨_, _, artifacts, state, artifacts', state'⟩,
    ⟨_, _, conflicts, conflicts'⟩, ?_⟩
  rw [malformed', malformed, Snapshot.malformed_without]

end ExceptionStubs
