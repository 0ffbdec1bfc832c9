import ExceptionStubs.Proofs.MemorySink
import ExceptionStubs.Proofs.MetadataHeader
import ExceptionStubs.Proofs.Split
/-!
# Runs with and without headers

Whether classes get a header shows in their texts and nowhere else: plans with and without headers
have the same verdicts up to the texts, and so reports differ in hashes alone. In a text, a header
is one more line, in front of the annotation of the class or else of the class itself; what stands
before it, a package and imports, ends with a line break if it is there at all.
-/

namespace ExceptionStubs

namespace Text

/-- The longer text is the shorter one with one more line, in front of the lines of the rest. -/
def LineInserted (line rest shorter longer : String) : Prop :=
  ∃ above, split '\n' shorter = above ++ split '\n' rest ∧
    split '\n' longer = above ++ line :: split '\n' rest

def EndsLine (text : String) : Prop := text = "" ∨ ['\n'] <:+ text.toList

theorem EndsLine.append {first second : String} (h : EndsLine first) (h' : EndsLine second) :
    EndsLine (first ++ second) := by
  obtain rfl | ends := h'
  · rwa [String.append_empty]
  · right
    rw [String.toList_append]
    exact ends.trans (List.suffix_append _ _)

/-- A line is inserted where a line starts. -/
theorem lineInserted_append {before line : String} (start : EndsLine before)
    (single : '\n' ∉ line.toList) (rest : String) :
    LineInserted line rest (before ++ rest) (before ++ (line ++ "\n") ++ rest) := by
  obtain rfl | ⟨front, ends⟩ := start
  · refine ⟨[], ?_, ?_⟩
    · rw [String.empty_append]
      rfl
    · rw [String.empty_append, split_append_newline, split_of_notMem single]
      rfl
  · obtain rfl : before = String.ofList front ++ "\n" := by
      rw [← String.toList_inj, ← ends, String.toList_append, String.toList_ofList]
      rfl
    have parts : String.ofList front ++ "\n" ++ (line ++ "\n") ++ rest =
        String.ofList front ++ "\n" ++ (line ++ "\n" ++ rest) := String.append_assoc
    refine ⟨split '\n' (String.ofList front), split_append_newline _ _, ?_⟩
    rw [parts, split_append_newline, split_append_newline, split_of_notMem single]
    rfl

end Text

namespace ClassText

theorem endsLine_packageLine (package : String) : Text.EndsLine (packageLine package) := by
  unfold packageLine
  split
  · exact .inl rfl
  · exact .inr (ClassTemplates.suffix_toList_append (by decide +kernel) _)

theorem endsLine_importLines (imports : List String) : Text.EndsLine (importLines imports) := by
  cases imports with
  | nil => exact .inl rfl
  | cons first rest =>
    right
    rw [importLines, List.isEmpty_cons, if_neg Bool.false_ne_true]
    exact ClassTemplates.suffix_toList_append (by decide +kernel) _

end ClassText

/-- The class of an exception with a message has its header in front of the class line. -/
theorem ExceptionSpec.lineInserted_classText {s : ExceptionSpec} (standard : s.mode = .standard)
    (valid : JavaName.isPackageName s.package = true) (header : MetadataHeader) :
    Text.LineInserted (header.annotation s.package) (ClassText.standardClass s.name)
      (s.classText s.package none) (s.classText s.package (some header)) := by
  have single := header.newline_notMem_annotation valid
  have inserted := Text.lineInserted_append (ClassText.endsLine_packageLine s.package) single
    (ClassText.standardClass s.name)
  unfold classText
  simp only [standard, MetadataHeader.optionalLine_some, MetadataHeader.optionalLine_none,
    String.append_empty]
  exact inserted

/-- The class of an exception with parameters alone has no header. -/
theorem ExceptionSpec.classText_of_variadic {s : ExceptionSpec} (variadic : s.mode = .variadic)
    (header header' : Option MetadataHeader) :
    s.classText s.package header = s.classText s.package header' := by
  unfold classText
  simp only [variadic]

def ValidatedGroup.declaration (v : ValidatedGroup) (settings : ComponentSettings) : String :=
  ClassText.optionalLine "@" ((v.component? settings).getD "") ++
    ClassText.implementingClass v.group.implementationName v.group.interface
      (v.group.records.map (v.methodText settings))

/-- An implementation has its header in front of its annotation, or else of its class line. -/
theorem ValidatedGroup.lineInserted_classText (v : ValidatedGroup) (settings : ComponentSettings)
    (header : MetadataHeader) :
    Text.LineInserted (header.annotation v.group.package) (v.declaration settings)
      (v.classText settings none) (v.classText settings (some header)) := by
  have parts (header : Option MetadataHeader) : v.classText settings header =
      ClassText.packageLine v.group.package ++ ClassText.importLines (v.imports settings) ++
        ClassText.optionalLine "" (MetadataHeader.line header v.group.package) ++
        v.declaration settings := String.append_assoc
  have single := header.newline_notMem_annotation v.group.key.package.valid
  have start := (ClassText.endsLine_packageLine v.group.package).append
    (ClassText.endsLine_importLines (v.imports settings))
  rw [parts, parts, MetadataHeader.optionalLine_some, MetadataHeader.optionalLine_none,
    String.append_empty]
  exact Text.lineInserted_append start single _

def GenerationOptions.withHeader (options : GenerationOptions) (on : Bool) : GenerationOptions :=
  { options with metadataHeader := on }

def Artifact.title (a : Artifact) : String × String := (a.package, a.name)

inductive Verdict.SameTitle : Verdict → Verdict → Prop
  | attempted (package name body body' : String) :
    SameTitle (.attempted ⟨package, name, body⟩) (.attempted ⟨package, name, body'⟩)
  | skipped (conflict : Conflict) : SameTitle (.skipped conflict) (.skipped conflict)

theorem ExceptionSpec.sameTitle_verdict (header header' : Option MetadataHeader)
    (earlier : List ExceptionSpec) (s : ExceptionSpec) :
    (s.verdict header earlier).SameTitle (s.verdict header' earlier) := by
  cases taken : claimant? earlier s.qualifiedName with
  | some owner =>
    rw [verdict_of_taken taken, verdict_of_taken taken]
    exact .skipped _
  | none =>
    rw [verdict_of_free taken, verdict_of_free taken]
    exact .attempted ..

theorem Group.sameTitle_verdict (options : GenerationOptions) (on on' : Bool)
    (header header' : Option MetadataHeader) (specs : List ExceptionSpec) (g : Group) :
    (g.verdict (options.withHeader on) header specs).SameTitle
      (g.verdict (options.withHeader on') header' specs) := by
  have same : g.validate ((options.withHeader on).checks specs) =
      g.validate ((options.withHeader on').checks specs) := rfl
  cases valid : g.validate ((options.withHeader on).checks specs) with
  | error conflict =>
    rw [verdict_of_conflict valid, verdict_of_conflict (same ▸ valid)]
    exact .skipped _
  | ok v =>
    cases taken : ExceptionSpec.claimant? specs g.target with
    | some owner =>
      rw [verdict_of_taken valid taken, verdict_of_taken (same ▸ valid) taken]
      exact .skipped _
    | none =>
      rw [verdict_of_free valid taken, verdict_of_free (same ▸ valid) taken]
      exact .attempted ..

namespace Snapshot

variable (snapshot : Snapshot) (options : GenerationOptions) (header : MetadataHeader)
  (on on' : Bool)

/-- Plans with and without headers look the same to a view that shows no texts. -/
theorem map_steps_withHeader {α : Type} {view : Step → α}
    (blind : ∀ v v' : Verdict, v.SameTitle v' → view v.step = view v'.step) :
    (snapshot.steps (options.withHeader on) header).map view =
      (snapshot.steps (options.withHeader on') header).map view := by
  refine snapshot.map_steps_congr rfl (fun earlier s => ?_) fun g => ?_
  · exact blind _ _ (s.sameTitle_verdict _ _ earlier)
  · exact blind _ _ (g.sameTitle_verdict options on on' _ _ snapshot.specs)

theorem titles_withHeader :
    (snapshot.attempts (options.withHeader on) header).map Artifact.title =
      (snapshot.attempts (options.withHeader on') header).map Artifact.title := by
  have seen (options : GenerationOptions) :
      (snapshot.attempts options header).map Artifact.title =
        ((snapshot.steps options header).map (·.artifact?.map Artifact.title)).filterMap id := by
    rw [← attempts_steps, List.map_filterMap, List.filterMap_map]
    rfl
  rw [seen, seen, snapshot.map_steps_withHeader options header on on']
  rintro _ _ (_ | _) <;> rfl

theorem conflicts_withHeader :
    (snapshot.verdicts (options.withHeader on) header).filterMap Verdict.conflict? =
      (snapshot.verdicts (options.withHeader on') header).filterMap Verdict.conflict? := by
  have seen (options : GenerationOptions) :
      (snapshot.steps options header).filterMap Step.told? =
        ((snapshot.steps options header).map Step.told?).filterMap id := by
    rw [List.filterMap_map]
    rfl
  rw [← skipped_steps, ← skipped_steps, seen, seen,
    snapshot.map_steps_withHeader options header on on']
  rintro _ _ (_ | _) <;> rfl

theorem diagnostics_withHeader (answer : String → Except SinkError Unit) :
    (snapshot.steps (options.withHeader on) header).flatMap (Step.diagnostics answer) =
      (snapshot.steps (options.withHeader on') header).flatMap (Step.diagnostics answer) := by
  rw [List.flatMap_def, List.flatMap_def, snapshot.map_steps_withHeader options header on on']
  rintro _ _ (_ | _) <;> rfl

/-- A sink takes the same classes, because they have the same names. -/
theorem titles_admitted_withHeader (rejectExisting : Bool) (shelf : Shelf) :
    (snapshot.admitted (options.withHeader on) header rejectExisting shelf).map Artifact.title =
      (snapshot.admitted (options.withHeader on') header rejectExisting shelf).map
        Artifact.title := by
  have seen (options : GenerationOptions) :
      (snapshot.admitted options header rejectExisting shelf).map Artifact.title =
        ((snapshot.attempts options header).map Artifact.title).filter
          fun title => shelf.admits rejectExisting (JavaName.qualify title.1 title.2) := by
    rw [List.filter_map]
    rfl
  rw [seen, seen, snapshot.titles_withHeader options header on on']

/-- What a header does to the text of a class: one of an exception with parameters alone stays as it
is, and every other one gains the line of the header. -/
structure StampedFrom (a : Artifact) (plain : String) : Prop where
  origin : (∃ s, snapshot.AttemptsSpec options header s a) ∨
    ∃ g, snapshot.AttemptsGroup options header g a
  variadic : ∀ s, snapshot.AttemptsSpec options header s a → s.mode = .variadic → a.body = plain
  standard : ∀ s, snapshot.AttemptsSpec options header s a → s.mode = .standard →
    Text.LineInserted (header.annotation s.package) (ClassText.standardClass s.name) plain a.body
  implementation : ∀ g, snapshot.AttemptsGroup options header g a →
    ∃ v, g.validate (options.checks snapshot.specs) = .ok v ∧
      Text.LineInserted (header.annotation g.package) (v.declaration options.component) plain a.body

variable {snapshot options header}

/-- The class of a spec is attempted without a header, too. -/
theorem AttemptsSpec.plain {s : ExceptionSpec} {a : Artifact}
    (h : snapshot.AttemptsSpec (options.withHeader true) header s a) :
    a.body = s.classText s.package (some header) ∧
      snapshot.AttemptsSpec (options.withHeader false) header s
        { a with body := s.classText s.package none } := by
  obtain ⟨i, at_i, attempted⟩ := h
  obtain ⟨free, -⟩ := ExceptionSpec.verdict_eq_attempted attempted
  rw [ExceptionSpec.verdict_of_free free] at attempted
  cases attempted
  exact ⟨rfl, i, at_i, ExceptionSpec.verdict_of_free free⟩

/-- The class of a group is attempted without a header, too. -/
theorem AttemptsGroup.plain {g : Group} {a : Artifact}
    (h : snapshot.AttemptsGroup (options.withHeader true) header g a) :
    ∃ v, g.validate ((options.withHeader true).checks snapshot.specs) = .ok v ∧
      a.body = v.classText options.component (some header) ∧
      snapshot.AttemptsGroup (options.withHeader false) header g
        { a with body := v.classText options.component none } := by
  obtain ⟨mem, attempted⟩ := h
  obtain ⟨⟨v, valid⟩, -⟩ := Group.verdict_eq_attempted attempted
  have valid' : g.validate ((options.withHeader false).checks snapshot.specs) = .ok v := valid
  cases taken : ExceptionSpec.claimant? snapshot.specs g.target with
  | some owner =>
    rw [Group.verdict_of_taken valid taken] at attempted
    cases attempted
  | none =>
    rw [Group.verdict_of_free valid taken] at attempted
    cases attempted
    exact ⟨v, valid, rfl, mem, Group.verdict_of_free valid' taken⟩

/-- Every class that is attempted with a header is attempted without it, too. As no target is
attempted twice, the text without the header is the same for every spec and every group that the
class is attempted for. -/
theorem exists_plain {a : Artifact}
    (h : a ∈ snapshot.attempts (options.withHeader true) header) :
    ∃ plain, { a with body := plain } ∈ snapshot.attempts (options.withHeader false) header ∧
      snapshot.StampedFrom (options.withHeader true) header a plain := by
  have origin := (snapshot.mem_attempts_iff _ _).1 h
  have unique {text text' : String}
      (mem : { a with body := text } ∈ snapshot.attempts (options.withHeader false) header)
      (mem' : { a with body := text' } ∈ snapshot.attempts (options.withHeader false) header) :
      text = text' :=
    congrArg Artifact.body
      (List.inj_on_of_nodup_map (snapshot.nodup_targets_attempts _ _) mem mem' rfl)
  have ofSpec {s : ExceptionSpec}
      (h : snapshot.AttemptsSpec (options.withHeader true) header s a) :=
    (snapshot.mem_attempts_iff _ _).2 (.inl ⟨s, h.plain.2⟩)
  have ofGroup {g : Group} {text : String} (attempted : snapshot.AttemptsGroup
      (options.withHeader false) header g { a with body := text }) :=
    (snapshot.mem_attempts_iff _ _).2 (.inr ⟨g, attempted⟩)
  obtain ⟨plain, mem⟩ : ∃ plain,
      { a with body := plain } ∈ snapshot.attempts (options.withHeader false) header := by
    obtain ⟨s, spec⟩ | ⟨g, group⟩ := origin
    · exact ⟨_, ofSpec spec⟩
    · obtain ⟨v, -, -, attempted⟩ := group.plain
      exact ⟨_, ofGroup attempted⟩
  refine ⟨plain, mem, origin, ?_, ?_, ?_⟩
  · intro s spec variadic
    obtain rfl := unique (ofSpec spec) mem
    rw [spec.plain.1]
    exact ExceptionSpec.classText_of_variadic variadic _ _
  · intro s spec standard
    obtain rfl := unique (ofSpec spec) mem
    obtain ⟨i, at_i, -⟩ := id spec
    have valid := ExceptionSpec.check_of_mem_accepted (List.mem_of_getElem? at_i)
    rw [spec.plain.1]
    exact ExceptionSpec.lineInserted_classText standard (Target.check_eq_ok_iff.1 valid).2 header
  · intro g group
    obtain ⟨v, valid, text, attempted⟩ := group.plain
    obtain rfl := unique (ofGroup attempted) mem
    obtain rfl := Group.group_of_validate valid
    rw [text]
    exact ⟨v, valid, v.lineInserted_classText options.component header⟩

end Snapshot

/-- Runs with and without headers over the same shelf give reports that differ in hashes alone and
the same diagnostics, and leave the same names in the same order. The text of every class that is
written with a header is the one without it and one more line, in front of the annotation of the
class if it has one and else of its class line; only an exception with parameters alone has the same
text in both runs. -/
theorem metadata_header_adds_one_line (snapshot : Snapshot) (options : GenerationOptions)
    (header : MetadataHeader) (rejectExisting : Bool) (phase : RunPhase) (shelf : Shelf) :
    let runWith on :=
      run snapshot.source (options.withHeader on) header (.memory rejectExisting) phase shelf
    ∃ stamped plain,
      (runWith true).result = .ok stamped ∧
        (runWith false).result = .ok plain ∧
        stamped = { plain with artifacts := stamped.artifacts } ∧
        stamped.artifacts.map (fun a => (a.package, a.name)) =
          plain.artifacts.map (fun a => (a.package, a.name)) ∧
        RunEvent.diagnostics (runWith true).events = RunEvent.diagnostics (runWith false).events ∧
        (runWith true).state.keys = (runWith false).state.keys ∧
        ∀ record ∈ stamped.artifacts, ∃ a text,
          record = .ofArtifact a ∧
            (runWith true).state.get? record.qualifiedName = some a.body ∧
            (runWith false).state.get? record.qualifiedName = some text ∧
            snapshot.StampedFrom (options.withHeader true) header a text := by
  intro runWith
  obtain ⟨stamped, result, state, artifacts, account⟩ :=
    run_on_shelf snapshot (options.withHeader true) header rejectExisting phase shelf
  obtain ⟨plain, result', state', artifacts', account'⟩ :=
    run_on_shelf snapshot (options.withHeader false) header rejectExisting phase shelf
  have admitted :=
    snapshot.titles_admitted_withHeader options header true false rejectExisting shelf
  have named (titled : List Artifact) : titled.map Artifact.qualifiedName =
      (titled.map Artifact.title).map fun title => JavaName.qualify title.1 title.2 := by
    rw [List.map_map]
    rfl
  refine ⟨stamped, plain, result, result', ?_, ?_, ?_, ?_, ?_⟩
  · refine account.eq_up_to_artifacts account' ?_ ?_
    · rw [account.writeFailures, account'.writeFailures, Shelf.failed_answerTo,
        Shelf.failed_answerTo, named, named, snapshot.titles_withHeader options header true false]
    · rw [account.conflicts, account'.conflicts,
        snapshot.conflicts_withHeader options header true false]
  · rw [artifacts, artifacts', List.map_map, List.map_map]
    exact admitted
  · rw [run_diagnostics_on_shelf, run_diagnostics_on_shelf,
      snapshot.diagnostics_withHeader options header true false]
  · have distinct := snapshot.nodup_entries_admitted (options.withHeader true) header
      rejectExisting shelf
    have distinct' := snapshot.nodup_entries_admitted (options.withHeader false) header
      rejectExisting shelf
    rw [state, state', OrderedMap.keys_insertAll distinct, OrderedMap.keys_insertAll distinct',
      Artifact.map_fst_entry, Artifact.map_fst_entry, named, named, admitted]
  · intro record h
    obtain ⟨a, mem, rfl⟩ := List.mem_map.1 (artifacts ▸ h)
    obtain ⟨attempted, taken⟩ := List.mem_filter.1 mem
    obtain ⟨text, attempted', inserted⟩ := Snapshot.exists_plain attempted
    have mem' : { a with body := text } ∈
        snapshot.admitted (options.withHeader false) header rejectExisting shelf :=
      List.mem_filter.2 ⟨attempted', taken⟩
    exact ⟨a, text, rfl, get?_of_mem_admitted snapshot _ header rejectExisting phase mem,
      get?_of_mem_admitted snapshot _ header rejectExisting phase mem', inserted⟩

end ExceptionStubs
