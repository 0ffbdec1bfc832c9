import ExceptionStubs.Proofs.Faults
import ExceptionStubs.Proofs.Isolation
/-!
# Rearranged snapshots

How the declarations of different interfaces are interleaved decides in which order classes are
written and what is wrong is told, and nothing else. As long as the marked types keep their order
and so do the methods of every interface, the groups are the same up to their order, and the verdict
on a group looks at the group and at the specs alone.
-/

namespace ExceptionStubs

namespace Declaration

variable {package interface : String} {d : Declaration}

def isMethodOf (package interface : String) (d : Declaration) : Bool :=
  d.marker.kind = .method ∧ d.package = package ∧ d.owner = some interface

/-- Only the methods that are declared in an interface contribute records of it. -/
theorem isMethodOf_of_hasRecordOf (h : d.hasRecordOf package interface = true) :
    d.isMethodOf package interface = true := by
  unfold hasRecordOf records at h
  cases hm : d.marker with
  | type marker => simp [hm] at h
  | method marker =>
    rw [hm] at h
    dsimp only at h
    split at h
    · next rs built =>
      obtain ⟨⟨⟩, -, built⟩ := bind_eq_ok.1 built
      obtain ⟨scope, inScope, built⟩ := bind_eq_ok.1 built
      obtain ⟨r, made, built⟩ := bind_eq_ok.1 built
      cases built
      obtain ⟨hp, hi, -⟩ := MethodRecord.describes_of_ofDeclaration made
      obtain ⟨sp, so⟩ := scope_eq_ok inScope
      have named : r.owner.package.text = package ∧ r.owner.interface.text = interface := by
        simpa [GroupKey.isNamed] using h
      simp [isMethodOf, hm, Marker.kind, so, ← sp, ← hp, ← hi, named]
    · cases h

end Declaration

/-- The same declarations, with the marked types in the same order and with the declarations that
contribute records of an interface in the same order, for every interface. -/
structure Snapshot.Rearranged (s t : Snapshot) : Prop where
  perm : s.declarations.Perm t.declarations
  types : s.marked .type = t.marked .type
  interfaces : ∀ package interface,
    s.declarations.filter (·.hasRecordOf package interface) =
      t.declarations.filter (·.hasRecordOf package interface)

theorem GroupKey.isNamed_iff {k k' : GroupKey} :
    k'.isNamed k.package.text k.interface.text = true ↔ k' = k := by
  have self : k.isNamed k.package.text k.interface.text = true := by simp [isNamed]
  exact ⟨fun named => eq_of_isNamed named self, fun same => same ▸ self⟩

namespace Snapshot

/-- Only methods contribute records. -/
theorem filter_hasRecordOf (s : Snapshot) (package interface : String) :
    (s.marked .method).filter (·.hasRecordOf package interface) =
      s.declarations.filter (·.hasRecordOf package interface) := by
  unfold marked
  rw [List.filter_filter]
  apply List.filter_congr
  intro d _
  cases h : d.marker.kind with
  | type => simp [Declaration.hasRecordOf_of_type h]
  | method => simp

theorem records_filter (s : Snapshot) (k : GroupKey) :
    s.records.filter (·.owner = k) =
      Build.accepted ((s.declarations.filter
        (·.hasRecordOf k.package.text k.interface.text)).map Declaration.records) := by
  rw [← filter_hasRecordOf, records]
  symm
  apply Declaration.accepted_filter (q := (· = k))
  intro d r h
  rw [Declaration.hasRecordOf_of_ok h, Bool.eq_iff_iff]
  simp [GroupKey.isNamed_iff]

namespace Rearranged

variable {s t : Snapshot}

/-- It is enough that the marked methods that are declared in an interface keep their order. -/
theorem of_methods (perm : s.declarations.Perm t.declarations)
    (types : s.marked .type = t.marked .type)
    (methods : ∀ package interface, s.declarations.filter (·.isMethodOf package interface) =
      t.declarations.filter (·.isMethodOf package interface)) : s.Rearranged t where
  perm := perm
  types := types
  interfaces package interface := by
    have within (ds : List Declaration) : ds.filter (·.hasRecordOf package interface) =
        (ds.filter (·.isMethodOf package interface)).filter
          (·.hasRecordOf package interface) := by
      rw [List.filter_filter]
      apply List.filter_congr
      intro d _
      cases h : d.hasRecordOf package interface with
      | false => simp
      | true => simp [Declaration.isMethodOf_of_hasRecordOf h]
    rw [within s.declarations, within t.declarations, methods]

theorem specs (h : s.Rearranged t) : s.specs = t.specs := by
  rw [Snapshot.specs, h.types, Snapshot.specs]

theorem groups (h : s.Rearranged t) : s.groups.Perm t.groups := by
  apply Group.ofRecords_perm
  intro k
  rw [records_filter, records_filter, h.interfaces]

theorem malformed (h : s.Rearranged t) : s.malformed.Perm t.malformed := by
  unfold Snapshot.malformed
  rw [h.types]
  have methods : (s.marked .method).Perm (t.marked .method) := h.perm.filter _
  exact ((methods.map Declaration.records).filterMap _).append_left _

theorem verdicts (h : s.Rearranged t) (options : GenerationOptions) (header : MetadataHeader) :
    (s.verdicts options header).Perm (t.verdicts options header) := by
  unfold Snapshot.verdicts Plan.verdicts
  rw [h.specs]
  exact (h.groups.map _).append_left _

theorem attempts (h : s.Rearranged t) (options : GenerationOptions) (header : MetadataHeader) :
    (s.attempts options header).Perm (t.attempts options header) :=
  (h.verdicts options header).filterMap _

end Rearranged

end Snapshot

/-- Runs over rearranged snapshots and empty shelves leave the same text under every qualified name,
and report the same artifacts, conflicts and faults up to their order. -/
theorem rearranged_run_keeps_output (s t : Snapshot) (h : s.Rearranged t)
    (options : GenerationOptions) (header : MetadataHeader) (rejectExisting rejectExisting' : Bool)
    (phase phase' : RunPhase) :
    let first := run s.source options header (.memory rejectExisting) phase .empty
    let second := run t.source options header (.memory rejectExisting') phase' .empty
    ∃ report report', first.result = .ok report ∧ second.result = .ok report' ∧
      (∀ name, first.state.get? name = second.state.get? name) ∧
      report.artifacts.Perm report'.artifacts ∧
      report.conflicts.Perm report'.conflicts ∧
      report.malformed.Perm report'.malformed := by
  intro first second
  obtain ⟨report, result, state, artifacts, conflicts, malformed⟩ :=
    run_on_empty_shelf s options header rejectExisting phase
  obtain ⟨report', result', state', artifacts', conflicts', malformed'⟩ :=
    run_on_empty_shelf t options header rejectExisting' phase'
  have attempts := h.attempts options header
  refine ⟨report, report', result, result', ?_, ?_, ?_, ?_⟩
  · apply OrderedMap.get?_eq_of_perm
    rw [state, state']
    exact attempts.map _
  · rw [artifacts, artifacts']
    exact attempts.map _
  · rw [conflicts, conflicts']
    exact (h.verdicts options header).filterMap _
  · rw [malformed, malformed']
    exact h.malformed

def Declaration.throwing (interface name exception : String) : Declaration where
  element := .method
  package := "billing"
  enclosing := some interface
  name := name
  returnType := some "void"
  parameters := []
  marker := .method ⟨exception, "default"⟩

theorem Declaration.isMethodOf_throwing (interface name exception package interface' : String) :
    (throwing interface name exception).isMethodOf package interface' =
      decide ("billing" = package ∧ interface = interface') := by
  simp [isMethodOf, throwing, Marker.kind, owner, ElementKind.isType]

def Snapshot.interleaved : Snapshot where
  declarations :=
    [.throwing "Accounts" "find" "NotFound", .throwing "Invoices" "pay" "NotFound",
      .throwing "Accounts" "close" "billing.ledger.Locked"]

def Snapshot.sideBySide : Snapshot where
  declarations :=
    [.throwing "Invoices" "pay" "NotFound", .throwing "Accounts" "find" "NotFound",
      .throwing "Accounts" "close" "billing.ledger.Locked"]

theorem rearranged_run_of_interleaved :
    Snapshot.interleaved.Rearranged .sideBySide ∧
      ∃ report report',
        (run Snapshot.interleaved.source .standard ⟨⟨2024, 1, 1, 0, 0, 0⟩⟩ (.memory false) .idle
          .empty).result = .ok report ∧
        (run Snapshot.sideBySide.source .standard ⟨⟨2024, 1, 1, 0, 0, 0⟩⟩ (.memory true) .idle
          .empty).result = .ok report' ∧
        report.artifacts.map ArtifactRecord.qualifiedName =
          ["billing.AccountsImpl", "billing.InvoicesImpl"] ∧
        report'.artifacts.map ArtifactRecord.qualifiedName =
          ["billing.InvoicesImpl", "billing.AccountsImpl"] ∧
        report.artifacts.Perm report'.artifacts := by
  let header : MetadataHeader := ⟨⟨2024, 1, 1, 0, 0, 0⟩⟩
  have rearranged : Snapshot.interleaved.Rearranged .sideBySide := by
    refine .of_methods ?_ rfl fun package interface => ?_
    · exact .swap ..
    · by_cases invoices : "Invoices" = interface
      · subst invoices
        simp [Snapshot.interleaved, Snapshot.sideBySide, List.filter_cons,
          Declaration.isMethodOf_throwing]
      · simp [Snapshot.interleaved, Snapshot.sideBySide, List.filter_cons,
          Declaration.isMethodOf_throwing, invoices]
  obtain ⟨report, report', result, result', -, artifacts, -, -⟩ :=
    rearranged_run_keeps_output _ _ rearranged .standard header false true .idle .idle
  obtain ⟨_, known, -, attempted, -⟩ :=
    run_on_empty_shelf Snapshot.interleaved .standard header false .idle
  obtain rfl := Except.ok.inj (result.symm.trans known)
  obtain ⟨_, known', -, attempted', -⟩ :=
    run_on_empty_shelf Snapshot.sideBySide .standard header true .idle
  obtain rfl := Except.ok.inj (result'.symm.trans known')
  refine ⟨rearranged, report, report', result, result', ?_, ?_, artifacts⟩
  · rw [attempted, map_qualifiedName_records, Snapshot.targets_attempts]
    decide +kernel
  · rw [attempted', map_qualifiedName_records, Snapshot.targets_attempts]
    decide +kernel

end ExceptionStubs
