import ExceptionStubs.Proofs.DatelessText
import Mathlib.Data.List.TakeWhile
/-!
# Masking is a normal form

The dates of a text, the leftmost first and going on behind each, cut it into pieces, and masking
joins these pieces with one and the same date. A joined text is cut where it was joined: a piece
with a date behind it opens none, because its opening would be closed by the quotes of that date at
the latest, and behind the last piece nothing closes what it opens. So masking twice is masking
once, and two texts are masked to the same text exactly if they have the same pieces.
-/

namespace ExceptionStubs

namespace DateMask

def IsDate (text : List Char) : Prop := ∃ value, '"' ∉ value ∧ text = opening ++ (value ++ ['"'])

/-- No date starts in the text in front of the rest, wherever it would end. -/
def StartsNoDate (before rest : List Char) : Prop :=
  ∀ front date back, IsDate date → before ++ rest = front ++ (date ++ back) →
    before.length ≤ front.length

/-- The pieces around the dates of a text. The first date is one with no date starting in front of
it, and what stands behind it is cut in the same way. -/
inductive Cut : List Char → List (List Char) → Prop where
  | last {cs : List Char} (undated : StartsNoDate cs []) : Cut cs [cs]
  | date {before date behind : List Char} {rest : List (List Char)} (isDate : IsDate date)
      (leftmost : StartsNoDate before (date ++ behind)) (later : Cut behind rest) :
      Cut (before ++ (date ++ behind)) (before :: rest)

/-- An opening without a quote behind it is no date. -/
theorem afterDate?_of_unclosed {rest : List Char} (h : '"' ∉ rest) :
    afterDate? (opening ++ rest) = none := by
  have skipped : rest.dropWhile (· != '"') = [] := by
    rw [List.dropWhile_eq_nil_iff]
    intro c mem
    exact bne_iff_ne.2 fun quote => h (quote ▸ mem)
  rw [afterDate?_opening_append, skipped, List.tail?_nil]

theorem afterDate?_eq_some_iff {cs behind : List Char} :
    afterDate? cs = some behind ↔ ∃ date, IsDate date ∧ cs = date ++ behind := by
  constructor
  · intro found
    by_cases opens : opening <+: cs
    · obtain ⟨rest, rfl⟩ := opens
      by_cases closed : '"' ∈ rest
      · obtain ⟨value, after, rfl, unquoted⟩ := List.eq_append_cons_of_mem closed
        rw [afterDate?_opening unquoted, Option.some.injEq] at found
        subst found
        exact ⟨_, ⟨value, unquoted, rfl⟩, by simp⟩
      · rw [afterDate?_of_unclosed closed] at found
        cases found
    · rw [afterDate?_eq_none opens] at found
      cases found
  · rintro ⟨_, ⟨value, unquoted, rfl⟩, rfl⟩
    rw [List.append_assoc, List.append_assoc, List.singleton_append]
    exact afterDate?_opening unquoted behind

theorem afterDate?_eq_none_iff {cs : List Char} :
    afterDate? cs = none ↔ ∀ date, IsDate date → ¬date <+: cs := by
  rw [Option.eq_none_iff_forall_ne_some]
  constructor
  · rintro absent date isDate ⟨behind, rfl⟩
    exact absent behind (afterDate?_eq_some_iff.2 ⟨date, isDate, rfl⟩)
  · intro absent behind found
    obtain ⟨date, isDate, rfl⟩ := afterDate?_eq_some_iff.1 found
    exact absent date isDate (List.prefix_append _ _)

theorem startsNoDate_nil (rest : List Char) : StartsNoDate [] rest :=
  fun front _ _ _ _ => Nat.zero_le front.length

theorem startsNoDate_cons_iff {c : Char} {before rest : List Char} :
    StartsNoDate (c :: before) rest ↔
      afterDate? (c :: (before ++ rest)) = none ∧ StartsNoDate before rest := by
  rw [afterDate?_eq_none_iff]
  constructor
  · intro h
    refine ⟨?_, fun front date back isDate parts => ?_⟩
    · rintro date isDate ⟨back, parts⟩
      have early := h [] date back isDate parts.symm
      simp at early
    · have later := h (c :: front) date back isDate (congrArg (c :: ·) parts)
      simpa using later
  · rintro ⟨absent, h⟩ front date back isDate parts
    cases front with
    | nil => exact absurd ⟨back, parts.symm⟩ (absent date isDate)
    | cons d front =>
      have later := h front date back isDate (List.cons.inj parts).2
      simpa using later

theorem pieces_of_some {cs behind : List Char} (h : afterDate? cs = some behind) :
    pieces cs = [] :: pieces behind := by
  cases cs with
  | nil => cases h
  | cons c cs =>
    rw [pieces]
    split
    · next found =>
      rw [h, Option.some.injEq] at found
      rw [found]
    · next absent => rw [h] at absent; cases absent

theorem pieces_cons_of_none {c : Char} {cs piece : List Char} {rest : List (List Char)}
    (h : afterDate? (c :: cs) = none) (parts : pieces cs = piece :: rest) :
    pieces (c :: cs) = (c :: piece) :: rest := by
  rw [pieces]
  split
  · next found => rw [h] at found; cases found
  · rw [parts]

/-- A text is cut into at least one piece. -/
theorem exists_pieces_eq_cons (cs : List Char) : ∃ piece rest, pieces cs = piece :: rest := by
  induction cs with
  | nil => exact ⟨[], [], by rw [pieces]⟩
  | cons c cs ih =>
    cases found : afterDate? (c :: cs) with
    | some behind => exact ⟨[], pieces behind, pieces_of_some found⟩
    | none =>
      obtain ⟨piece, rest, parts⟩ := ih
      exact ⟨c :: piece, rest, pieces_cons_of_none found parts⟩

/-- Where no date starts, one more character belongs to the first piece. -/
theorem Cut.cons {c : Char} {cs piece : List Char} {rest : List (List Char)}
    (h : afterDate? (c :: cs) = none) (cut : Cut cs (piece :: rest)) :
    Cut (c :: cs) ((c :: piece) :: rest) := by
  cases cut with
  | last undated => exact .last (startsNoDate_cons_iff.2 ⟨by rwa [List.append_nil], undated⟩)
  | date isDate leftmost later =>
    exact .date isDate (startsNoDate_cons_iff.2 ⟨h, leftmost⟩) later

/-- The computed pieces are those around the dates. The induction is that of the scan, which goes on
behind a date or behind a single character. -/
theorem cut_pieces (cs : List Char) : Cut cs (pieces cs) := by
  induction cs using maskChars.induct with
  | case1 =>
    rw [pieces]
    exact .last (startsNoDate_nil [])
  | case2 c cs behind found ih =>
    rw [pieces_of_some found]
    obtain ⟨date, isDate, parts⟩ := afterDate?_eq_some_iff.1 found
    rw [parts]
    exact .date isDate (startsNoDate_nil _) ih
  | case3 c cs absent ih =>
    obtain ⟨piece, rest, parts⟩ := exists_pieces_eq_cons cs
    rw [pieces_cons_of_none absent parts]
    exact (parts ▸ ih).cons absent

/-- Text in which no date starts belongs to the first piece of what follows it. -/
theorem pieces_append {before cs piece : List Char} {rest : List (List Char)}
    (h : StartsNoDate before cs) (parts : pieces cs = piece :: rest) :
    pieces (before ++ cs) = (before ++ piece) :: rest := by
  induction before with
  | nil => exact parts
  | cons c before ih =>
    obtain ⟨absent, h⟩ := startsNoDate_cons_iff.1 h
    exact pieces_cons_of_none absent (ih h)

/-- There is one way to cut a text. -/
theorem cut_iff {cs : List Char} {parts : List (List Char)} : Cut cs parts ↔ pieces cs = parts := by
  constructor
  · intro cut
    induction cut with
    | last undated =>
      have whole := pieces_append undated (by rw [pieces])
      rwa [List.append_nil] at whole
    | @date before date behind rest isDate leftmost _ ih =>
      have found : afterDate? (date ++ behind) = some behind :=
        afterDate?_eq_some_iff.2 ⟨date, isDate, rfl⟩
      have whole := pieces_append leftmost (pieces_of_some found)
      rwa [List.append_nil, ih] at whole
  · rintro rfl
    exact cut_pieces cs

/-- Masking joins the pieces with one and the same date. -/
theorem maskChars_eq_intercalate (cs : List Char) :
    maskChars cs = masked.intercalate (pieces cs) := by
  induction cs using maskChars.induct with
  | case1 => rw [maskChars, pieces, List.intercalate_singleton]
  | case2 c cs behind found ih =>
    obtain ⟨piece, rest, parts⟩ := exists_pieces_eq_cons behind
    rw [maskChars_of_some found, pieces_of_some found, ih, parts, List.intercalate_cons_cons,
      List.nil_append]
  | case3 c cs absent ih =>
    obtain ⟨piece, rest, parts⟩ := exists_pieces_eq_cons cs
    rw [maskChars_cons_of_none absent, pieces_cons_of_none absent parts, ih, parts]
    cases rest with
    | nil => rw [List.intercalate_singleton, List.intercalate_singleton]
    | cons next rest => simp [List.intercalate_cons_cons]

/-- Masked text that starts without this character was there before: every opening starts with it,
so no date was masked in it. -/
theorem exists_of_maskChars_eq_append {quiet rest cs : List Char} (h : 'd' ∉ quiet)
    (starts : maskChars cs = quiet ++ rest) : ∃ ds, cs = quiet ++ ds ∧ maskChars ds = rest := by
  induction quiet generalizing cs with
  | nil => exact ⟨cs, rfl, starts⟩
  | cons q quiet ih =>
    rw [List.mem_cons, not_or] at h
    cases cs with
    | nil => simp [maskChars] at starts
    | cons c cs =>
      cases found : afterDate? (c :: cs) with
      | some behind =>
        rw [maskChars_of_some found, masked_eq, opening_eq] at starts
        exact absurd (List.cons.inj starts).1 h.1
      | none =>
        rw [maskChars_cons_of_none found, List.cons_append, List.cons.injEq] at starts
        obtain ⟨rfl, starts⟩ := starts
        obtain ⟨ds, rfl, kept⟩ := ih h.2 starts
        exact ⟨ds, rfl, kept⟩

/-- Masking what follows a character makes no date start there: what would open it was there before,
and so was the quote that would close it. -/
theorem afterDate?_cons_maskChars {c : Char} {cs : List Char} (h : afterDate? (c :: cs) = none) :
    afterDate? (c :: maskChars cs) = none := by
  rw [afterDate?_eq_none_iff]
  rintro _ ⟨value, unquoted, rfl⟩ ⟨back, parts⟩
  rw [opening_eq, List.append_assoc, List.cons_append, List.cons.injEq] at parts
  obtain ⟨rfl, parts⟩ := parts
  obtain ⟨ds, rfl, rest⟩ := exists_of_maskChars_eq_append (by decide) parts.symm
  have unclosed : '"' ∉ ds := by
    intro closed
    obtain ⟨value, after, rfl, first⟩ := List.eq_append_cons_of_mem closed
    have found : afterDate? ('d' :: ("ate = \"".toList ++ (value ++ '"' :: after))) = some after :=
      afterDate?_opening first after
    rw [h] at found
    cases found
  rw [maskChars_of_dateless (dateless_of_notMem (by decide) unclosed)] at rest
  exact unclosed (by simp [rest])

/-- A masked text is cut where the text was. -/
theorem pieces_maskChars (cs : List Char) : pieces (maskChars cs) = pieces cs := by
  induction cs using maskChars.induct with
  | case1 => rw [maskChars]
  | case2 c cs behind found ih =>
    have unquoted : '"' ∉ "<masked>".toList := by decide
    have again : afterDate? (masked ++ maskChars behind) = some (maskChars behind) :=
      afterDate?_opening unquoted _
    rw [maskChars_of_some found, pieces_of_some again, pieces_of_some found, ih]
  | case3 c cs absent ih =>
    obtain ⟨piece, rest, parts⟩ := exists_pieces_eq_cons cs
    rw [maskChars_cons_of_none absent, pieces_cons_of_none absent parts]
    exact pieces_cons_of_none (afterDate?_cons_maskChars absent) (ih.trans parts)

theorem mask_eq_mask_iff {s t : String} : mask s = mask t ↔ pieces s.toList = pieces t.toList := by
  rw [mask, mask, String.ofList_inj]
  constructor
  · intro same
    rw [← pieces_maskChars, same, pieces_maskChars]
  · intro same
    rw [maskChars_eq_intercalate, same, ← maskChars_eq_intercalate]

/-- Masking a text again changes nothing. Every text is cut at its dates in one way, and two texts
are masked to the same text exactly if they are cut into the same pieces. -/
theorem masked_text_is_normal_form :
    (∀ s, mask (mask s) = mask s) ∧
    (∀ s : String, ∃! parts, Cut s.toList parts) ∧
    ∀ s t : String, mask s = mask t ↔ ∃ parts, Cut s.toList parts ∧ Cut t.toList parts := by
  refine ⟨fun s => ?_, fun s => ⟨_, cut_pieces s.toList, fun parts cut => (cut_iff.1 cut).symm⟩,
    fun s t => ?_⟩
  · rw [mask_eq_mask_iff, mask, String.toList_ofList, pieces_maskChars]
  · rw [mask_eq_mask_iff]
    constructor
    · intro same
      exact ⟨_, cut_pieces s.toList, same ▸ cut_pieces t.toList⟩
    · rintro ⟨parts, cut, cut'⟩
      rw [cut_iff.1 cut, cut_iff.1 cut']

end DateMask

end ExceptionStubs
