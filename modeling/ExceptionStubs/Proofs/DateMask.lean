import ExceptionStubs.ClassText.DateMask
import ExceptionStubs.Proofs.MetadataHeader
import Mathlib.Data.List.Basic
/-!
# The date of a header is masked as a whole

Masking goes through a text from the left, and what stands in front of a header may hold quotes and
openings of dates. An occurrence that starts there ends at the latest with the first quote of the
header, which is not the one before its date, and no date opens between these two. So masking always
meets the date of the header where it begins, and texts that differ in that date alone are masked to
the same text.
-/

namespace ExceptionStubs

namespace DateMask

theorem maskChars_of_some {cs behind : List Char} (h : afterDate? cs = some behind) :
    maskChars cs = masked ++ maskChars behind := by
  cases cs with
  | nil => cases h
  | cons c cs =>
    rw [maskChars]
    split
    · next found =>
      rw [h, Option.some.injEq] at found
      rw [found]
    · next absent => rw [h] at absent; cases absent

theorem maskChars_cons_of_none {c : Char} {cs : List Char} (h : afterDate? (c :: cs) = none) :
    maskChars (c :: cs) = c :: maskChars cs := by
  rw [maskChars]
  split
  · next found => rw [h] at found; cases found
  · rfl

theorem afterDate?_eq_none {cs : List Char} (h : ¬opening <+: cs) : afterDate? cs = none := by
  rw [afterDate?, if_neg]
  rwa [List.isPrefixOf_iff_prefix]

theorem afterDate?_opening_append (rest : List Char) :
    afterDate? (opening ++ rest) = (rest.dropWhile (· != '"')).tail? := by
  have opens : opening.isPrefixOf (opening ++ rest) = true :=
    List.isPrefixOf_iff_prefix.2 (List.prefix_append _ _)
  cases ends : rest.dropWhile (· != '"') <;> simp [afterDate?, opens, ends]

/-- An occurrence ends with the first quote behind its opening. -/
theorem afterDate?_opening {date : List Char} (h : '"' ∉ date) (behind : List Char) :
    afterDate? (opening ++ (date ++ '"' :: behind)) = some behind := by
  have skipped : (date ++ '"' :: behind).dropWhile (· != '"') = '"' :: behind := by
    rw [List.dropWhile_append_of_pos]
    · simp
    · intro c mem
      exact bne_iff_ne.2 fun quote => h (quote ▸ mem)
  rw [afterDate?_opening_append, skipped, List.tail?_cons]

/-- Every opening starts with this character, so nothing is masked where it does not occur. -/
theorem maskChars_append_of_notMem {quiet : List Char} (h : 'd' ∉ quiet) (cs : List Char) :
    maskChars (quiet ++ cs) = quiet ++ maskChars cs := by
  induction quiet with
  | nil => rfl
  | cons c quiet ih =>
    rw [List.mem_cons, not_or] at h
    have closed : ¬opening <+: c :: (quiet ++ cs) := by
      rintro ⟨rest, starts⟩
      exact h.1 (List.cons.inj starts).1
    rw [List.cons_append, maskChars_cons_of_none (afterDate?_eq_none closed), ih h.2]
    rfl

/-- A prefix that lacks a character ends before it. -/
theorem prefix_append_cons_iff {α : Type} {p before after : List α} {x : α} (h : x ∉ p) :
    p <+: before ++ x :: after ↔ p <+: before := by
  constructor
  · intro starts
    rcases List.prefix_or_prefix_of_prefix starts (List.prefix_append before _) with short | long
    · exact short
    · obtain ⟨more, rfl⟩ := long
      rw [List.prefix_append_right_inj] at starts
      cases more with
      | nil => simp
      | cons y more =>
        obtain ⟨rfl, -⟩ := List.cons_prefix_cons.1 starts
        exact absurd (by simp) h
  · exact fun starts => starts.trans (List.prefix_append _ _)

/-- What stands before the first quote of a header, from its first value on. -/
def lead : List Char := "value = ".toList

/-- What stands between the first quote of a header and its date. -/
def inside : List Char := (programName ++ "\", ").toList

/-- A header from its first value on, with what follows behind its date. -/
def dated (date after : List Char) : List Char :=
  lead ++ '"' :: (inside ++ (opening ++ (date ++ '"' :: after)))

/-- Masking takes the date of a header behind this text as a whole and goes on behind it, and what
it makes of the text in front does not depend on the date. -/
def Settled (before : List Char) : Prop :=
  ∃ front, ∀ date after, '"' ∉ date →
    maskChars (before ++ dated date after) = front ++ (masked ++ maskChars after)

/-- No date opens in a header before its own. -/
theorem settled_nil : Settled [] := by
  have quietLead : 'd' ∉ lead := by decide
  have quietInside : 'd' ∉ inside := by decide
  refine ⟨lead ++ '"' :: inside, fun date after unquoted => ?_⟩
  rw [List.nil_append, dated, maskChars_append_of_notMem quietLead, ← List.singleton_append,
    maskChars_append_of_notMem (by decide), maskChars_append_of_notMem quietInside,
    maskChars_of_some (afterDate?_opening unquoted after)]
  simp only [List.append_assoc, List.cons_append, List.nil_append]

/-- No occurrence starts in front of a header and has its opening end in the header. -/
theorem settled_cons {c : Char} {before : List Char} (closed : ¬opening <+: c :: before)
    (h : Settled before) : Settled (c :: before) := by
  obtain ⟨front, settled⟩ := h
  refine ⟨c :: front, fun date after unquoted => ?_⟩
  have still : ¬opening <+: c :: (before ++ dated date after) := by
    have start : dated date after = 'v' :: (dated date after).tail := rfl
    rw [start, ← List.cons_append, prefix_append_cons_iff (by decide)]
    exact closed
  rw [List.cons_append, maskChars_cons_of_none (afterDate?_eq_none still),
    settled date after unquoted, List.cons_append]

/-- An occurrence that ends in front of a header leaves the header alone. -/
theorem settled_opening_of_quote {text behind : List Char} (h : '"' ∉ text)
    (later : Settled behind) : Settled (opening ++ (text ++ '"' :: behind)) := by
  obtain ⟨front, settled⟩ := later
  refine ⟨masked ++ front, fun date after unquoted => ?_⟩
  rw [List.append_assoc, List.append_assoc, List.cons_append,
    maskChars_of_some (afterDate?_opening h _), settled date after unquoted, List.append_assoc]

/-- An occurrence that reaches into a header ends with its first quote, and no date opens between
that quote and the date of the header. -/
theorem settled_opening {text : List Char} (h : '"' ∉ text) : Settled (opening ++ text) := by
  have quietInside : 'd' ∉ inside := by decide
  have unquotedLead : '"' ∉ text ++ lead := by
    rw [List.mem_append, not_or]
    exact ⟨h, by decide⟩
  refine ⟨masked ++ inside, fun date after unquoted => ?_⟩
  rw [List.append_assoc, dated, ← List.append_assoc text,
    maskChars_of_some (afterDate?_opening unquotedLead _), maskChars_append_of_notMem quietInside,
    maskChars_of_some (afterDate?_opening unquoted after), List.append_assoc]

/-- Whatever stands in front of a header, its date is masked as a whole. The induction is on the
length of that text, because masking skips a whole occurrence in one step. -/
theorem settled (before : List Char) : Settled before := by
  induction n : before.length using Nat.strongRecOn generalizing before with
  | ind n ih =>
    subst n
    cases before with
    | nil => exact settled_nil
    | cons c before =>
      by_cases opens : opening <+: c :: before
      · obtain ⟨rest, parts⟩ := opens
        rw [← parts] at ih ⊢
        by_cases quoted : '"' ∈ rest
        · obtain ⟨text, behind, rfl, first⟩ := List.eq_append_cons_of_mem quoted
          apply settled_opening_of_quote first
          apply ih behind.length _ behind rfl
          simp only [List.length_append, List.length_cons]
          omega
        · exact settled_opening quoted
      · exact settled_cons opens (ih before.length (by simp) before rfl)

end DateMask

namespace MetadataHeader

/-- A header is its annotation up to the first value, then that value and the date. -/
theorem toList_annotation (h : MetadataHeader) (package : String) :
    (h.annotation package).toList =
      "@javax.annotation.processing.Generated(".toList ++ DateMask.dated h.timestamp.toList
        (", comments = \"version " ++ programVersion ++ "; package " ++ package ++
          "\")").toList := by
  have start : "@javax.annotation.processing.Generated(value = \"".toList =
      "@javax.annotation.processing.Generated(".toList ++ (DateMask.lead ++ ['"']) := by
    decide +kernel
  have date : "\", date = \"".toList = "\", ".toList ++ DateMask.opening := by decide +kernel
  have comments : "\", comments = \"version ".toList =
      '"' :: ", comments = \"version ".toList := by decide +kernel
  unfold annotation DateMask.dated DateMask.inside
  simp only [String.toList_append]
  rw [start, date, comments]
  -- The literals have to be out of the way before the parts are regrouped.
  generalize "@javax.annotation.processing.Generated(".toList = front
  generalize ", comments = \"version ".toList = version
  generalize "\", ".toList = comma
  simp

end MetadataHeader

namespace DateMask

/-- Texts that differ in the time of a header alone are masked to the same text. -/
theorem mask_annotation (before after package : String) (h h' : MetadataHeader) :
    mask (before ++ h.annotation package ++ after) =
      mask (before ++ h'.annotation package ++ after) := by
  obtain ⟨front, settled⟩ :=
    settled (before.toList ++ "@javax.annotation.processing.Generated(".toList)
  have masked_text (h : MetadataHeader) :
      maskChars (before ++ h.annotation package ++ after).toList = front ++ (masked ++ maskChars
        ((", comments = \"version " ++ programVersion ++ "; package " ++ package ++ "\")").toList ++
          after.toList)) := by
    have unquoted : '"' ∉ h.timestamp.toList := Timestamp.notMem_render (by decide) (by decide) _
    rw [← settled h.timestamp.toList _ unquoted, String.toList_append, String.toList_append,
      MetadataHeader.toList_annotation]
    unfold dated
    generalize "@javax.annotation.processing.Generated(".toList = start
    simp
  rw [mask, mask, masked_text h, masked_text h']

end DateMask

end ExceptionStubs
