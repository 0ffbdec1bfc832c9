import ExceptionStubs.Proofs.JavaName
import ExceptionStubs.Proofs.OrderedMap
import ExceptionStubs.Run.ClaimLedger
import Mathlib.Data.Finset.Card
/-!
# Rows of claims

A ledger files the owners of targets under qualified names. Valid targets that differ have different
qualified names, so behind a row of claims on valid targets the ledger says of every package and
name who claimed it first, and a claim is refused exactly if that is somebody already.
-/

namespace ExceptionStubs

/-- A claim of an owner on a target that sinks accept. -/
structure Claim where
  package : String
  name : String
  owner : String
  valid : Target.check package name = .ok ()

namespace Claim

def pair (c : Claim) : String × String := (c.package, c.name)

def target (c : Claim) : String := JavaName.qualify c.package c.name

theorem target_eq_qualify_iff {c : Claim} {package name : String}
    (valid : Target.check package name = .ok ()) :
    c.target = JavaName.qualify package name ↔ c.pair = (package, name) := by
  have dots {package name : String} (valid : Target.check package name = .ok ()) :
      '.' ∉ name.toList :=
    JavaName.dot_notMem_of_isIdentifier (Target.check_eq_ok_iff.1 valid).1
  rw [target, JavaName.qualify_inj (dots c.valid) (dots valid), pair, Prod.mk.injEq]

/-- Claims on targets with the same qualified name are claims on the same package and name. -/
theorem target_inj {c d : Claim} : c.target = d.target ↔ c.pair = d.pair :=
  target_eq_qualify_iff d.valid

def first? (earlier : List Claim) (c : Claim) : Option Claim := earlier.find? (·.pair = c.pair)

def answer (earlier : List Claim) (c : Claim) : Except Conflict Unit :=
  match first? earlier c with
  | none => .ok ()
  | some first => .error (.duplicateTarget c.owner c.target first.owner)

theorem first?_eq_none_iff {earlier : List Claim} {c : Claim} :
    first? earlier c = none ↔ ∀ e ∈ earlier, e.pair ≠ c.pair := by
  simp [first?]

theorem answer_eq_ok_iff {earlier : List Claim} {c : Claim} :
    answer earlier c = .ok () ↔ ∀ e ∈ earlier, e.pair ≠ c.pair := by
  rw [← first?_eq_none_iff, answer]
  cases first? earlier c <;> simp

end Claim

namespace ClaimLedger

section Claim

variable {ledger : ClaimLedger} {package name : String}

theorem claim_of_taken {first : String}
    (h : ledger.owners.get? (JavaName.qualify package name) = some first) (owner : String) :
    ledger.claim package name owner =
      .error (.duplicateTarget owner (JavaName.qualify package name) first) := by
  simp only [claim, h]

theorem claim_of_free (h : ledger.owners.get? (JavaName.qualify package name) = none)
    (owner : String) :
    ledger.claim package name owner =
      .ok ⟨ledger.owners.insert (JavaName.qualify package name) owner⟩ := by
  simp only [claim, h]

end Claim

/-- The answer to a claim, and the ledger behind it. A claim that is refused is not entered. -/
def submit (ledger : ClaimLedger) (c : Claim) : Except Conflict Unit × ClaimLedger :=
  match ledger.claim c.package c.name c.owner with
  | .error conflict => (.error conflict, ledger)
  | .ok ledger => (.ok (), ledger)

def submitAll (ledger : ClaimLedger) : List Claim → List (Except Conflict Unit) × ClaimLedger
  | [] => ([], ledger)
  | c :: claims =>
    let (answer, ledger) := ledger.submit c
    let (answers, ledger) := ledger.submitAll claims
    (answer :: answers, ledger)

theorem submitAll_cons (ledger : ClaimLedger) (c : Claim) (claims : List Claim) :
    ledger.submitAll (c :: claims) =
      ((ledger.submit c).1 :: ((ledger.submit c).2.submitAll claims).1,
        ((ledger.submit c).2.submitAll claims).2) := rfl

theorem submitAll_concat (ledger : ClaimLedger) (claims : List Claim) (c : Claim) :
    (ledger.submitAll (claims ++ [c])).2 = ((ledger.submitAll claims).2.submit c).2 := by
  induction claims generalizing ledger with
  | nil => rfl
  | cons first claims ih => exact ih (ledger.submit first).2

/-- The owner of every target is the one that claimed it first. -/
def Enters (ledger : ClaimLedger) (claims : List Claim) : Prop :=
  ∀ target, ledger.owners.get? target = (claims.find? (·.target = target)).map Claim.owner

theorem enters_nil : empty.Enters [] := fun _ => rfl

variable {ledger : ClaimLedger} {claims : List Claim}

theorem Enters.get?_target (h : ledger.Enters claims) (c : Claim) :
    ledger.owners.get? c.target = (c.first? claims).map Claim.owner := by
  simp only [h c.target, Claim.target_inj, Claim.first?]

/-- A claim on what was claimed before is refused and changes nothing. -/
theorem Enters.submit_of_taken (h : ledger.Enters claims) {c first : Claim}
    (taken : c.first? claims = some first) :
    ledger.submit c = (.error (.duplicateTarget c.owner c.target first.owner), ledger) := by
  have owned : ledger.owners.get? c.target = some first.owner := by rw [h.get?_target, taken]; rfl
  rw [submit, claim_of_taken owned]
  rfl

/-- The first claim on a target is entered. -/
theorem Enters.submit_of_free (h : ledger.Enters claims) {c : Claim}
    (free : c.first? claims = none) :
    ledger.submit c = (.ok (), ⟨ledger.owners.insert c.target c.owner⟩) := by
  have unowned : ledger.owners.get? c.target = none := by rw [h.get?_target, free]; rfl
  rw [submit, claim_of_free unowned]
  rfl

theorem Enters.answer (h : ledger.Enters claims) (c : Claim) :
    (ledger.submit c).1 = c.answer claims := by
  rw [Claim.answer]
  cases before : c.first? claims with
  | none => rw [h.submit_of_free before]
  | some first => rw [h.submit_of_taken before]

theorem Enters.concat (h : ledger.Enters claims) (c : Claim) :
    (ledger.submit c).2.Enters (claims ++ [c]) := by
  intro target
  rw [List.find?_append]
  cases before : c.first? claims with
  | some first =>
    rw [h.submit_of_taken before, h target]
    -- Where `c` would be found, an earlier claim is.
    by_cases same : c.target = target
    · have found : claims.find? (·.target = target) = some first := by
        rw [← before, Claim.first?]
        simp only [← same, Claim.target_inj]
      rw [found, Option.some_or]
    · simp [same]
  | none =>
    rw [h.submit_of_free before, OrderedMap.get?_insert, h target]
    by_cases same : c.target = target
    · have unfound : claims.find? (·.target = target) = none := by
        rw [← before, Claim.first?]
        simp only [← same, Claim.target_inj]
      simp [same, unfound]
    · simp [same]

/-- Every claim of a row is answered as the claims before it demand, and the ledger enters all. -/
theorem Enters.submitAll (h : ledger.Enters claims) (later : List Claim) :
    (ledger.submitAll later).1 = later.mapIdx (fun k c => c.answer (claims ++ later.take k)) ∧
      (ledger.submitAll later).2.Enters (claims ++ later) := by
  induction later generalizing ledger claims with
  | nil => exact ⟨rfl, by rwa [List.append_nil]⟩
  | cons c later ih =>
    obtain ⟨answers, entered⟩ := ih (h.concat c)
    rw [List.append_assoc] at entered
    refine ⟨?_, entered⟩
    rw [List.mapIdx_cons, submitAll_cons, answers, h.answer]
    simp

theorem Enters.isClaimed_iff (h : ledger.Enters claims) {package name : String}
    (valid : Target.check package name = .ok ()) :
    ledger.isClaimed package name = true ↔ ∃ c ∈ claims, c.pair = (package, name) := by
  simp [isClaimed, OrderedMap.contains, h _, Claim.target_eq_qualify_iff valid]

/-- There is an entry for every package and name that was claimed. -/
theorem Enters.size_eq (h : ledger.Enters claims) :
    ledger.size = (claims.map Claim.pair).toFinset.card := by
  have keys : ledger.owners.keys.toFinset = (claims.map Claim.target).toFinset := by
    ext target
    rw [List.mem_toFinset, List.mem_toFinset, ← OrderedMap.contains_iff_mem_keys,
      OrderedMap.contains, h target]
    simp
  have targets : (claims.map Claim.target).toFinset =
      (claims.map Claim.pair).toFinset.image (Function.uncurry JavaName.qualify) := by
    ext target
    simp [Claim.target, Claim.pair]
  have apart : Set.InjOn (Function.uncurry JavaName.qualify)
      ((claims.map Claim.pair).toFinset : Set (String × String)) := by
    intro p hp q hq same
    simp only [List.coe_toFinset, List.mem_map, Set.mem_ofPred_eq] at hp hq
    obtain ⟨c, -, rfl⟩ := hp
    obtain ⟨d, -, rfl⟩ := hq
    exact Claim.target_inj.1 same
  rw [size, OrderedMap.size, ← List.length_map Prod.fst,
    ← List.toFinset_card_of_nodup ledger.owners.nodup, ← Finset.card_image_of_injOn apart,
    ← targets, ← keys]
  rfl

end ClaimLedger

/-- In a row of claims on valid targets the first one on a package and name wins. A claim succeeds
exactly if no claim before it was on the same package and name; otherwise it is refused in favour of
the owner of the first such claim, and the ledger stays as it is. Behind the claims exactly the
targets that they are on are claimed, and the ledger counts each of them once. -/
theorem first_claim_wins (earlier : List Claim) (c : Claim) (later : List Claim) :
    let answer := (ClaimLedger.empty.submitAll (earlier ++ c :: later)).1[earlier.length]?
    let before := (ClaimLedger.empty.submitAll earlier).2
    let after := (ClaimLedger.empty.submitAll (earlier ++ [c])).2
    (answer = some (.ok ()) ↔ ∀ e ∈ earlier, e.pair ≠ c.pair) ∧
    (∀ first, earlier.find? (·.pair = c.pair) = some first →
      answer = some (.error (.duplicateTarget c.owner (JavaName.qualify c.package c.name)
        first.owner)) ∧ after = before) ∧
    (∀ package name, Target.check package name = .ok () →
      (before.isClaimed package name = true ↔ ∃ e ∈ earlier, e.pair = (package, name))) ∧
    before.size = (earlier.map Claim.pair).toFinset.card := by
  intro answer before after
  have entered : before.Enters earlier := (ClaimLedger.enters_nil.submitAll earlier).2
  have answered : answer = some (c.answer earlier) := by
    simp only [answer, (ClaimLedger.enters_nil.submitAll (earlier ++ c :: later)).1]
    simp
  rw [answered]
  refine ⟨?_, ?_, fun package name valid => entered.isClaimed_iff valid, entered.size_eq⟩
  · rw [Option.some.injEq, Claim.answer_eq_ok_iff]
  · intro first taken
    constructor
    · rw [Claim.answer, Claim.first?, taken]
      rfl
    · calc
        after = (before.submit c).2 := ClaimLedger.submitAll_concat ..
        _ = before := by rw [entered.submit_of_taken taken]

end ExceptionStubs
