import ExceptionStubs.Proofs.Account
import ExceptionStubs.Proofs.Interleaving
import ExceptionStubs.Sink.Faulty
/-!
# Runs over sinks with faults

A sink with faults holds back what is written until it can fail no more, and streams it to the sink
below as a whole. So a target that fails leaves the sink below alone, and any other is answered as
by it: behind a run, that sink is as if the attempts that are spared had been the only ones, and the
others are failures of the report.
-/

namespace ExceptionStubs

namespace Faults

variable (faults : Faults)

/-- Why a stream to a target fails. The first moment with a fault decides; a stream without chunks
writes nothing, and one that is given up does not finish. -/
def failure? (target : String) (chunks : List ByteArray) (finished : Bool) : Option SinkError :=
  if target ∈ faults.opening then some (.io target "open refused")
  else if chunks ≠ [] ∧ target ∈ faults.writing then some (.io target "disk full")
  else if finished ∧ target ∈ faults.finishing then some (.io target "finish refused")
  else none

/-- The answer to an artifact that fails. -/
def refusal? (a : Artifact) : Option Answer :=
  (faults.failure? a.qualifiedName [a.body.toUTF8] true).map fun e => ⟨a, .error e⟩

/-- The target of the artifact is without faults. -/
def spares (a : Artifact) : Bool :=
  !(faults.opening ++ faults.writing ++ faults.finishing).contains a.qualifiedName

theorem refusal?_eq_none_iff {a : Artifact} :
    faults.refusal? a = none ↔ faults.spares a = true := by
  grind [refusal?, failure?, spares]

theorem written?_of_refusal? {a : Artifact} {answer : Answer}
    (refused : faults.refusal? a = some answer) : answer.written? = none := by
  obtain ⟨e, -, rfl⟩ := Option.map_eq_some_iff.1 refused
  rfl

end Faults

namespace Sink

variable {σ ω : Type} (sink : Sink σ ω) (faults : Faults)

theorem writeAll_withFaults (chunks : List ByteArray) (held : HeldArtifact) (s : σ) :
    (sink.withFaults faults).writeAll chunks held s =
      if chunks ≠ [] ∧ held.target ∈ faults.writing then (.error "disk full", s)
      else (.ok { held with chunks := held.chunks ++ chunks }, s) := by
  induction chunks generalizing held with
  | nil => simp [writeAll]
  | cons chunk chunks ih =>
    by_cases faulty : held.target ∈ faults.writing
    · simp [writeAll, withFaults, faulty]
    · have spared :
          HeldArtifact.target { held with chunks := held.chunks ++ [chunk] } ∉ faults.writing :=
        faulty
      have written : (sink.withFaults faults).write chunk held s =
          (.ok { held with chunks := held.chunks ++ [chunk] }, s) := by
        simp [withFaults, faulty]
      simp [writeAll, written, ih, spared, faulty]

/-- A stream that meets a fault leaves the sink below alone, and any other is one of the sink below
unless it is given up. -/
theorem stream_withFaults (package name : String) (chunks : List ByteArray) (finished : Bool)
    (s : σ) :
    (sink.withFaults faults).stream package name chunks finished s =
      match faults.failure? (JavaName.qualify package name) chunks finished with
      | some e => ⟨none, .error e, s⟩
      | none =>
        if finished then { sink.stream package name chunks true s with location := none }
        else ⟨none, .ok (), s⟩ := by
  unfold Faults.failure?
  by_cases opening : JavaName.qualify package name ∈ faults.opening
  · have refused : (sink.withFaults faults).openTarget package name s =
        (.error (.io (JavaName.qualify package name) "open refused"), s) := by
      simp [withFaults, HeldArtifact.target, opening]
    rw [stream, refused, if_pos opening]
  · have opened : (sink.withFaults faults).openTarget package name s =
        (.ok ⟨package, name, []⟩, s) := by
      simp [withFaults, HeldArtifact.target, opening]
    have written : (sink.withFaults faults).writeAll chunks ⟨package, name, []⟩ s =
        if chunks ≠ [] ∧ JavaName.qualify package name ∈ faults.writing then
          (.error "disk full", s)
        else (.ok ⟨package, name, chunks⟩, s) :=
      sink.writeAll_withFaults faults chunks ⟨package, name, []⟩ s
    rw [stream, opened, if_neg opening]
    simp only [written]
    by_cases writing : chunks ≠ [] ∧ JavaName.qualify package name ∈ faults.writing
    · rw [if_pos writing, if_pos writing]
      rfl
    · rw [if_neg writing, if_neg writing]
      cases finished with
      | false => simp [withFaults]
      | true =>
        by_cases finishing : JavaName.qualify package name ∈ faults.finishing
        · simp [withFaults, HeldArtifact.target, finishing]
        · simp [withFaults, HeldArtifact.target, finishing]

variable {faults}

theorem deliver_withFaults_of_refused {a : Artifact} {answer : Answer}
    (refused : faults.refusal? a = some answer) (s : σ) :
    answer = ⟨a, ((sink.withFaults faults).deliver a s).result⟩ ∧
      ((sink.withFaults faults).deliver a s).state = s := by
  obtain ⟨e, failure, rfl⟩ := Option.map_eq_some_iff.1 refused
  have delivered : (sink.withFaults faults).deliver a s = ⟨none, .error e, s⟩ := by
    rw [deliver, stream_withFaults, ← Artifact.qualifiedName, failure]
  rw [delivered]
  exact ⟨rfl, rfl⟩

theorem deliver_withFaults_of_spared {a : Artifact} (spared : faults.refusal? a = none) (s : σ) :
    (sink.withFaults faults).deliver a s = { sink.deliver a s with location := none } := by
  rw [deliver, stream_withFaults, ← Artifact.qualifiedName, Option.map_eq_none_iff.1 spared]
  rfl

/-- What is spared is delivered to the sink below as if it were all, and the rest fails in
between. -/
theorem deliverAll_withFaults (faults : Faults) (artifacts : List Artifact) (s : σ) :
    ((sink.withFaults faults).deliverAll artifacts s).2 =
        (sink.deliverAll (artifacts.filter faults.spares) s).2 ∧
      Interleaved (sink.deliverAll (artifacts.filter faults.spares) s).1
        (artifacts.filterMap faults.refusal?)
        ((sink.withFaults faults).deliverAll artifacts s).1 := by
  induction artifacts generalizing s with
  | nil => exact ⟨rfl, .nil⟩
  | cons a artifacts ih =>
    rw [deliverAll_cons]
    cases refused : faults.refusal? a with
    | some answer =>
      have skipped : ¬faults.spares a = true := by simp [← faults.refusal?_eq_none_iff, refused]
      -- The state is the old one, so what follows is delivered as if `a` were not there.
      obtain ⟨answered, unchanged⟩ := deliver_withFaults_of_refused sink refused s
      rw [unchanged, ← answered, List.filter_cons_of_neg skipped,
        List.filterMap_cons_some refused]
      obtain ⟨state, answers⟩ := ih s
      exact ⟨state, answers.right answer⟩
    | none =>
      have kept : faults.spares a = true := faults.refusal?_eq_none_iff.1 refused
      rw [deliver_withFaults_of_spared sink refused, List.filter_cons_of_pos kept,
        List.filterMap_cons_none refused, deliverAll_cons]
      obtain ⟨state, answers⟩ := ih (sink.deliver a s).state
      exact ⟨state, answers.left _⟩

end Sink

/-- A run over a sink with faults leaves the sink below as if it had attempted only what is spared,
and reports this as that sink answers it. All other attempts are reported as failures, in their
places, and what is skipped for other reasons is the same. -/
theorem run_spares_other_attempts {σ ω : Type} (snapshot : Snapshot) (options : GenerationOptions)
    (header : MetadataHeader) (sink : Sink σ ω) (faults : Faults) (phase : RunPhase) (s : σ) :
    let attempts := snapshot.attempts options header
    let below := sink.deliverAll (attempts.filter faults.spares) s
    ∃ report,
      (run snapshot.source options header (sink.withFaults faults) phase s).result = .ok report ∧
        (run snapshot.source options header (sink.withFaults faults) phase s).state = below.2 ∧
        report.artifacts = (below.1.filterMap Answer.written?).map ArtifactRecord.ofArtifact ∧
        Interleaved (below.1.filterMap Answer.failure?)
          ((attempts.filterMap faults.refusal?).filterMap Answer.failure?) report.writeFailures ∧
        report.conflicts = (snapshot.verdicts options header).filterMap Verdict.conflict? ∧
        report.malformed = snapshot.malformed := by
  intro attempts below
  obtain ⟨report, result, state, account⟩ :=
    run_account snapshot options header (sink.withFaults faults) phase s
  obtain ⟨spared, answers⟩ := sink.deliverAll_withFaults faults attempts s
  refine ⟨report, result, state.trans spared, ?_, ?_, account.conflicts, account.malformed⟩
  · have refused : (attempts.filterMap faults.refusal?).filterMap Answer.written? = [] := by
      rw [List.filterMap_eq_nil_iff]
      intro answer mem
      obtain ⟨a, -, refused⟩ := List.mem_filterMap.1 mem
      exact faults.written?_of_refusal? refused
    have written := answers.filterMap Answer.written?
    rw [refused] at written
    rw [account.artifacts, written.eq_of_nil]
  · rw [account.writeFailures]
    exact answers.filterMap Answer.failure?

end ExceptionStubs
