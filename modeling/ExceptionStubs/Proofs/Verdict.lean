import ExceptionStubs.Proofs.ClaimLedger
import ExceptionStubs.Proofs.Consistency
import ExceptionStubs.Proofs.Group
import ExceptionStubs.Run.Plan
/-!
# Verdicts

What becomes of every spec and every group, without a ledger: a spec is attempted unless an
earlier spec has its target, and a group is attempted if it passes its checks and no spec has its
target. The steps of a plan are those of the verdicts, because the ledger of claims always knows
the first spec of every target, and because no two groups have the same target.
-/

namespace ExceptionStubs

/-- What becomes of a spec or of a group: its class is attempted, or a conflict skips it. -/
inductive Verdict where
  | attempted (artifact : Artifact)
  | skipped (conflict : Conflict)
deriving DecidableEq

namespace Verdict

def artifact? : Verdict → Option Artifact
  | attempted artifact => some artifact
  | skipped _ => none

def conflict? : Verdict → Option Conflict
  | attempted _ => none
  | skipped conflict => some conflict

def step : Verdict → Step
  | attempted artifact => .attempt artifact.qualifiedName (.ok artifact)
  | skipped conflict => .tell (.skipped conflict)

theorem artifact?_eq_some_iff {v : Verdict} {a : Artifact} :
    v.artifact? = some a ↔ v = .attempted a := by
  cases v <;> simp [artifact?]

/-- Every verdict is an attempt or a conflict. -/
theorem length_artifacts_add_length_conflicts (verdicts : List Verdict) :
    (verdicts.filterMap artifact?).length + (verdicts.filterMap conflict?).length =
      verdicts.length := by
  induction verdicts with
  | nil => rfl
  | cons v vs ih =>
    cases v <;> simp only [List.filterMap_cons, artifact?, conflict?, List.length_cons] <;> omega

end Verdict

namespace ExceptionSpec

/-- The interface of the first spec with a target. -/
def claimant? (specs : List ExceptionSpec) (target : String) : Option String :=
  (specs.find? (·.qualifiedName == target)).map origin

@[simp] theorem claimant?_nil (target : String) : claimant? [] target = none := rfl

theorem claimant?_concat (specs : List ExceptionSpec) (s : ExceptionSpec) (target : String) :
    claimant? (specs ++ [s]) target =
      (claimant? specs target).or (if s.qualifiedName = target then some s.origin else none) := by
  rw [claimant?, claimant?, List.find?_append]
  cases specs.find? (·.qualifiedName == target) with
  | some first => simp
  | none => by_cases h : s.qualifiedName = target <;> simp [h]

theorem claimant?_eq_none_iff {specs : List ExceptionSpec} {target : String} :
    claimant? specs target = none ↔ target ∉ specs.map qualifiedName := by
  simp [claimant?]

theorem mem_targets_of_claimant? {specs : List ExceptionSpec} {target owner : String}
    (h : claimant? specs target = some owner) : target ∈ specs.map qualifiedName := by
  by_contra free
  rw [claimant?_eq_none_iff.2 free] at h
  cases h

/-- What becomes of a spec behind earlier ones. -/
def verdict (header : Option MetadataHeader) (earlier : List ExceptionSpec) (s : ExceptionSpec) :
    Verdict :=
  match claimant? earlier s.qualifiedName with
  | some owner => .skipped (.duplicateTarget s.origin s.qualifiedName owner)
  | none => .attempted ⟨s.package, s.name, s.classText s.package header⟩

variable {header : Option MetadataHeader} {earlier : List ExceptionSpec} {s : ExceptionSpec}

theorem verdict_of_taken {owner : String} (h : claimant? earlier s.qualifiedName = some owner) :
    s.verdict header earlier = .skipped (.duplicateTarget s.origin s.qualifiedName owner) := by
  rw [verdict, h]

theorem verdict_of_free (h : claimant? earlier s.qualifiedName = none) :
    s.verdict header earlier = .attempted ⟨s.package, s.name, s.classText s.package header⟩ := by
  rw [verdict, h]

/-- A spec is only attempted if its target is free, and under its own name. -/
theorem verdict_eq_attempted {a : Artifact} (h : s.verdict header earlier = .attempted a) :
    claimant? earlier s.qualifiedName = none ∧ a.package = s.package ∧ a.name = s.name := by
  cases hc : claimant? earlier s.qualifiedName with
  | some owner =>
    rw [verdict_of_taken hc] at h
    cases h
  | none =>
    rw [verdict_of_free hc] at h
    cases h
    exact ⟨rfl, rfl, rfl⟩

/-- The class of a spec is attempted if its target is new. -/
theorem artifact?_verdict (header : Option MetadataHeader) (earlier : List ExceptionSpec)
    (s : ExceptionSpec) :
    (s.verdict header earlier).artifact? =
      if s.qualifiedName ∈ earlier.map qualifiedName then none
      else some ⟨s.package, s.name, s.classText s.package header⟩ := by
  cases claimed : claimant? earlier s.qualifiedName with
  | none =>
    rw [verdict_of_free claimed, if_neg (claimant?_eq_none_iff.1 claimed), Verdict.artifact?]
  | some owner =>
    rw [verdict_of_taken claimed, if_pos (mem_targets_of_claimant? claimed), Verdict.artifact?]

end ExceptionSpec

namespace Group

def verdict (options : GenerationOptions) (header : Option MetadataHeader)
    (specs : List ExceptionSpec) (g : Group) : Verdict :=
  match g.validate (options.checks specs) with
  | .error conflict => .skipped conflict
  | .ok v =>
    match ExceptionSpec.claimant? specs g.target with
    | some owner => .skipped (.duplicateTarget g.qualifiedInterface g.target owner)
    | none =>
      .attempted ⟨g.package, g.implementationName, v.classText options.component header⟩

variable {options : GenerationOptions} {header : Option MetadataHeader}
  {specs : List ExceptionSpec} {g : Group} {v : ValidatedGroup}

theorem verdict_of_conflict {conflict : Conflict}
    (hv : g.validate (options.checks specs) = .error conflict) :
    g.verdict options header specs = .skipped conflict := by
  rw [verdict, hv]

theorem verdict_of_taken {owner : String} (hv : g.validate (options.checks specs) = .ok v)
    (h : ExceptionSpec.claimant? specs g.target = some owner) :
    g.verdict options header specs =
      .skipped (.duplicateTarget g.qualifiedInterface g.target owner) := by
  simp only [verdict, hv, h]

theorem verdict_of_free (hv : g.validate (options.checks specs) = .ok v)
    (h : ExceptionSpec.claimant? specs g.target = none) :
    g.verdict options header specs =
      .attempted ⟨g.package, g.implementationName, v.classText options.component header⟩ := by
  simp only [verdict, hv, h]

/-- A group is only attempted if it passes its checks, and as the implementation of its
interface. -/
theorem verdict_eq_attempted {a : Artifact} (h : g.verdict options header specs = .attempted a) :
    (∃ v, g.validate (options.checks specs) = .ok v) ∧
      a.package = g.package ∧ a.name = g.implementationName := by
  cases hv : g.validate (options.checks specs) with
  | error conflict =>
    rw [verdict_of_conflict hv] at h
    cases h
  | ok v =>
    cases hc : ExceptionSpec.claimant? specs g.target with
    | some owner =>
      rw [verdict_of_taken hv hc] at h
      cases h
    | none =>
      rw [verdict_of_free hv hc] at h
      cases h
      exact ⟨⟨v, rfl⟩, rfl, rfl⟩

/-- The class of a group is attempted if no spec has its target and it passes its checks. -/
theorem artifact?_verdict (options : GenerationOptions) (header : Option MetadataHeader)
    (specs : List ExceptionSpec) (g : Group) :
    (g.verdict options header specs).artifact? =
      if g.target ∈ specs.map ExceptionSpec.qualifiedName then none
      else (g.validate (options.checks specs)).toOption.map fun v =>
        ⟨g.package, g.implementationName, v.classText options.component header⟩ := by
  cases checked : g.validate (options.checks specs) with
  | error conflict =>
    rw [verdict_of_conflict checked]
    simp [Verdict.artifact?, Except.toOption]
  | ok v =>
    cases claimed : ExceptionSpec.claimant? specs g.target with
    | none =>
      rw [verdict_of_free checked claimed,
        if_neg (ExceptionSpec.claimant?_eq_none_iff.1 claimed)]
      rfl
    | some owner =>
      rw [verdict_of_taken checked claimed,
        if_pos (ExceptionSpec.mem_targets_of_claimant? claimed), Verdict.artifact?]

def steps (options : GenerationOptions) (header : Option MetadataHeader)
    (specs : List ExceptionSpec) (g : Group) : List Step :=
  .enter .validating ::
    match g.validate (options.checks specs) with
    | .error _ => [(g.verdict options header specs).step]
    | .ok v =>
      v.warnings.map (.tell <| .tolerated ·) ++
        [.enter .emitting, (g.verdict options header specs).step]

end Group

namespace ClaimLedger

variable {ledger : ClaimLedger}

/-- The owner of a target in the ledger is the claimant among the specs. -/
def Knows (ledger : ClaimLedger) (specs : List ExceptionSpec) (target : String) : Prop :=
  ledger.owners.get? target = ExceptionSpec.claimant? specs target

theorem knows_empty (target : String) : empty.Knows [] target := rfl

theorem Knows.insert {package name : String} {specs : List ExceptionSpec} {target owner : String}
    (ne : target ≠ JavaName.qualify package name) (h : ledger.Knows specs target) :
    Knows ⟨ledger.owners.insert (JavaName.qualify package name) owner⟩ specs target := by
  rw [Knows, OrderedMap.get?_insert, if_neg ne.symm]
  exact h

/-- A spec whose target has a claimant adds nothing to what the ledger knows. -/
theorem knows_concat_of_taken {earlier : List ExceptionSpec} {s : ExceptionSpec} {owner : String}
    (known : ∀ target, ledger.Knows earlier target)
    (taken : ExceptionSpec.claimant? earlier s.qualifiedName = some owner) (target : String) :
    ledger.Knows (earlier ++ [s]) target := by
  rw [Knows, known target, ExceptionSpec.claimant?_concat]
  by_cases h : s.qualifiedName = target
  · simp [← h, taken]
  · simp [h]

theorem knows_concat_of_free {earlier : List ExceptionSpec} {s : ExceptionSpec}
    (known : ∀ target, ledger.Knows earlier target)
    (free : ExceptionSpec.claimant? earlier s.qualifiedName = none) (target : String) :
    Knows ⟨ledger.owners.insert s.qualifiedName s.origin⟩ (earlier ++ [s]) target := by
  rw [Knows, OrderedMap.get?_insert, ExceptionSpec.claimant?_concat]
  by_cases h : s.qualifiedName = target
  · simp [← h, free]
  · rw [if_neg h, if_neg h, Option.or_none]
    exact known target

end ClaimLedger

namespace Plan

def specVerdicts (header : Option MetadataHeader) (earlier specs : List ExceptionSpec) :
    List Verdict :=
  specs.mapIdx fun i s => s.verdict header (earlier ++ specs.take i)

def verdicts (options : GenerationOptions) (header : Option MetadataHeader)
    (specs : List ExceptionSpec) (groups : List Group) : List Verdict :=
  specVerdicts header [] specs ++ groups.map (·.verdict options header specs)

theorem specVerdicts_cons (header : Option MetadataHeader) (earlier : List ExceptionSpec)
    (s : ExceptionSpec) (specs : List ExceptionSpec) :
    specVerdicts header earlier (s :: specs) =
      s.verdict header earlier :: specVerdicts header (earlier ++ [s]) specs := by
  simp [specVerdicts, List.mapIdx_cons]

/-- The ledger after the exceptions knows the claimants of all specs. -/
theorem exceptionSteps_eq (header : Option MetadataHeader) {ledger : ClaimLedger}
    {earlier : List ExceptionSpec} (specs : List ExceptionSpec)
    (known : ∀ target, ledger.Knows earlier target) :
    (exceptionSteps header ledger specs).1 = (specVerdicts header earlier specs).map Verdict.step ∧
      ∀ target, (exceptionSteps header ledger specs).2.Knows (earlier ++ specs) target := by
  induction specs generalizing ledger earlier with
  | nil => simpa [exceptionSteps, specVerdicts] using known
  | cons s specs ih =>
    rw [specVerdicts_cons, List.append_cons earlier s specs]
    cases hc : ExceptionSpec.claimant? earlier s.qualifiedName with
    | some owner =>
      have claim := ClaimLedger.claim_of_taken ((known s.qualifiedName).trans hc) s.origin
      obtain ⟨steps, rest⟩ := ih (ClaimLedger.knows_concat_of_taken known hc)
      rw [exceptionSteps, claim, ExceptionSpec.verdict_of_taken hc, List.map_cons, ← steps]
      exact ⟨rfl, rest⟩
    | none =>
      have claim := ClaimLedger.claim_of_free ((known s.qualifiedName).trans hc) s.origin
      obtain ⟨steps, rest⟩ := ih (ClaimLedger.knows_concat_of_free known hc)
      rw [exceptionSteps, claim, ExceptionSpec.verdict_of_free hc, ExceptionSpec.artifact_eq_ok,
        List.map_cons, ← steps]
      exact ⟨rfl, rest⟩

/-- The ledger before the groups knows the claimants of the targets of all groups, and a claim for
one group leaves it so for the groups behind it. -/
theorem groupSteps_eq (options : GenerationOptions) (header : Option MetadataHeader)
    {ledger : ClaimLedger} {specs : List ExceptionSpec} {groups : List Group}
    (distinct : (groups.map Group.target).Nodup)
    (known : ∀ g ∈ groups, ledger.Knows specs g.target) :
    groupSteps (options.checks specs) options.component header ledger groups =
      groups.flatMap (·.steps options header specs) := by
  induction groups generalizing ledger with
  | nil => rfl
  | cons g groups ih =>
    rw [List.map_cons, List.nodup_cons] at distinct
    have later : ∀ h ∈ groups, ledger.Knows specs h.target :=
      fun h hh => known h (List.mem_cons_of_mem _ hh)
    rw [groupSteps, List.flatMap_cons, Group.steps]
    cases hv : g.validate (options.checks specs) with
    | error conflict =>
      rw [Group.verdict_of_conflict hv, ih distinct.2 later]
      rfl
    | ok v =>
      have hg := Group.group_of_validate hv
      cases hc : ExceptionSpec.claimant? specs g.target with
      | some owner =>
        have claim := ClaimLedger.claim_of_taken ((known g List.mem_cons_self).trans hc)
          g.qualifiedInterface
        rw [Group.verdict_of_taken hv hc]
        simp [emissionStep, hg, claim, ih distinct.2 later, Verdict.step, Group.target]
      | none =>
        have claim := ClaimLedger.claim_of_free ((known g List.mem_cons_self).trans hc)
          g.qualifiedInterface
        have later' : ∀ h ∈ groups, ClaimLedger.Knows ⟨ledger.owners.insert (JavaName.qualify
            g.package g.implementationName) g.qualifiedInterface⟩ specs h.target :=
          fun h hh => (later h hh).insert fun same => distinct.1 (List.mem_map.2 ⟨h, hh, same⟩)
        rw [Group.verdict_of_free hv hc]
        simp [emissionStep, hg, claim, ih distinct.2 later', Verdict.step,
          ValidatedGroup.artifact_eq_ok, Artifact.qualifiedName]

end Plan

end ExceptionStubs
