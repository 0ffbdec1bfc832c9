import ExceptionStubs.Proofs.DateMask
import ExceptionStubs.Proofs.Split
import Mathlib.Data.List.Infix
/-!
# Texts in which no date opens

A text without the opening of a date is masked to itself, and a masked text without one was not
changed by masking. So a text whose only date is that of a header is told by its masked text, among
all texts with such a header.
-/

namespace ExceptionStubs

namespace DateMask

/-- No date opens in the text. -/
def Dateless (cs : List Char) : Prop := ¬opening <:+: cs

instance (cs : List Char) : Decidable (Dateless cs) := inferInstanceAs (Decidable ¬_)

/-- No date opens in the text or where it ends, whatever follows. -/
def Sealed (cs : List Char) : Prop := ∀ rest, Dateless rest → Dateless (cs ++ rest)

theorem opening_eq : opening = 'd' :: "ate = \"".toList := by decide

def closing : List Char := "<masked>\"".toList

theorem masked_eq : masked = opening ++ closing := by decide

theorem dateless_nil : Dateless [] := by decide

theorem Dateless.not_prefix {cs : List Char} (h : Dateless cs) : ¬opening <+: cs :=
  fun starts => h starts.isInfix

theorem Dateless.part {cs ds : List Char} (h : Dateless cs) (within : ds <:+: cs) : Dateless ds :=
  fun found => h (found.trans within)

theorem dateless_cons_iff {c : Char} {cs : List Char} :
    Dateless (c :: cs) ↔ ¬opening <+: c :: cs ∧ Dateless cs := by
  rw [Dateless, List.infix_cons_iff, not_or, Dateless]

theorem dateless_of_notMem {c : Char} {cs : List Char} (needed : c ∈ opening) (h : c ∉ cs) :
    Dateless cs :=
  fun found => h (found.subset needed)

/-- A character that openings lack keeps apart what stands on its sides. -/
theorem Dateless.append_cons {c : Char} {before after : List Char} (other : c ∉ opening)
    (h : Dateless before) (h' : Dateless after) : Dateless (before ++ c :: after) := by
  induction before with
  | nil =>
    refine dateless_cons_iff.2 ⟨fun starts => other ?_, h'⟩
    rw [opening_eq, List.cons_prefix_cons] at starts
    rw [opening_eq, ← starts.1]
    exact List.mem_cons_self
  | cons b before ih =>
    obtain ⟨closed, h⟩ := dateless_cons_iff.1 h
    rw [List.cons_append, dateless_cons_iff, ← List.cons_append, prefix_append_cons_iff other]
    exact ⟨closed, ih h⟩

/-- An opening ends with a quote, so it does not reach into a text without quotes. -/
theorem Dateless.append_unquoted {cs ds : List Char} (h : Dateless cs) (unquoted : '"' ∉ ds) :
    Dateless (cs ++ ds) := by
  intro found
  obtain here | there | ⟨front, back, parts, ends, starts⟩ := List.infix_append_iff.1 found
  · exact h here
  · exact unquoted (there.subset (by decide))
  · by_cases empty : back = []
    · rw [empty, List.append_nil] at parts
      exact h (parts ▸ ends.isInfix)
    · have quote : back.getLast empty = '"' := by
        have last := congrArg List.getLast? parts
        rw [List.getLast?_append_of_ne_nil front empty, List.getLast?_eq_some_getLast empty] at last
        exact (Option.some.inj last).symm
      exact unquoted (starts.subset (quote ▸ List.getLast_mem empty))

theorem Sealed.append {cs ds : List Char} (h : Sealed cs) (h' : Sealed ds) : Sealed (cs ++ ds) := by
  intro rest quiet
  rw [List.append_assoc]
  exact h _ (h' rest quiet)

theorem Sealed.dateless {cs : List Char} (h : Sealed cs) : Dateless cs := by
  have whole := h [] dateless_nil
  rwa [List.append_nil] at whole

/-- An opening starts with this character, so none starts where it does not occur. -/
theorem sealed_of_notMem {cs : List Char} (h : 'd' ∉ cs) : Sealed cs := by
  intro rest quiet
  induction cs with
  | nil => exact quiet
  | cons c cs ih =>
    rw [List.mem_cons, not_or] at h
    rw [List.cons_append, dateless_cons_iff, opening_eq, List.cons_prefix_cons]
    exact ⟨fun starts => h.1 starts.1, ih h.2⟩

/-- No date opens in a closed text and no ending of it starts an opening. -/
theorem sealed_of_tails {cs : List Char} (h : Dateless cs)
    (ends : ∀ tail ∈ cs.tails, tail <+: opening → tail = []) : Sealed cs := by
  intro rest quiet found
  obtain here | there | ⟨front, back, parts, suffix, starts⟩ := List.infix_append_iff.1 found
  · exact h here
  · exact quiet there
  · obtain rfl := ends front ((List.mem_tails _ _).2 suffix) ⟨back, parts.symm⟩
    exact quiet (parts ▸ starts.isInfix)

/-- A text without dates is sealed by a sealed one that starts with a character openings lack. -/
theorem Dateless.sealed_append {c : Char} {cs ds : List Char} (h : Dateless cs)
    (start : ds.head? = some c) (other : c ∉ opening) (h' : Sealed ds) : Sealed (cs ++ ds) := by
  obtain ⟨ds, rfl⟩ := List.head?_eq_some_iff.1 start
  intro rest quiet
  have behind : Dateless (ds ++ rest) := (dateless_cons_iff.1 (h' rest quiet)).2
  rw [List.append_assoc, List.cons_append]
  exact h.append_cons other behind

/-- Masking leaves a text without dates in front of this character alone. -/
theorem maskChars_append_of_dateless {cs : List Char} (h : Dateless cs) (rest : List Char) :
    maskChars (cs ++ 'd' :: rest) = cs ++ maskChars ('d' :: rest) := by
  induction cs with
  | nil => rfl
  | cons c cs ih =>
    obtain ⟨closed, h⟩ := dateless_cons_iff.1 h
    -- An opening has this character in front alone, so none that starts here goes on there.
    have still : ¬opening <+: c :: (cs ++ 'd' :: rest) := by
      rw [opening_eq, List.cons_prefix_cons] at closed ⊢
      rwa [prefix_append_cons_iff (by decide)]
    rw [List.cons_append, maskChars_cons_of_none (afterDate?_eq_none still), ih h,
      List.cons_append]

theorem maskChars_of_dateless {cs : List Char} (h : Dateless cs) : maskChars cs = cs := by
  induction cs with
  | nil => simp [maskChars]
  | cons c cs ih =>
    obtain ⟨closed, h⟩ := dateless_cons_iff.1 h
    rw [maskChars_cons_of_none (afterDate?_eq_none closed), ih h]

/-- A masked text without dates was not changed. -/
theorem maskChars_of_dateless_maskChars {cs : List Char} (h : Dateless (maskChars cs)) :
    maskChars cs = cs := by
  induction cs with
  | nil => simp [maskChars]
  | cons c cs ih =>
    cases found : afterDate? (c :: cs) with
    | some behind =>
      rw [maskChars_of_some found, masked_eq, List.append_assoc] at h
      exact absurd (List.prefix_append _ _) h.not_prefix
    | none =>
      rw [maskChars_cons_of_none found] at h ⊢
      rw [ih (dateless_cons_iff.1 h).2]

/-- The first opening of a text tells what stands around it. -/
theorem append_opening_inj {before before' after after' : List Char} (h : Dateless before)
    (h' : Dateless before')
    (same : before ++ (opening ++ after) = before' ++ (opening ++ after')) :
    before = before' ∧ after = after' := by
  -- Nothing that a text without dates starts with is an opening, not even with one behind it.
  have apart {c : Char} {cs rest : List Char} (h : Dateless (c :: cs)) (x : List Char) :
      opening ++ x ≠ c :: cs ++ (opening ++ rest) := by
    intro same
    have starts : opening <+: c :: (cs ++ 'd' :: ("ate = \"".toList ++ rest)) := ⟨x, same⟩
    apply h.not_prefix
    rw [opening_eq, List.cons_prefix_cons] at starts ⊢
    rwa [prefix_append_cons_iff (by decide)] at starts
  induction before generalizing before' with
  | nil =>
    cases before' with
    | nil => exact ⟨rfl, List.append_cancel_left same⟩
    | cons c before' => exact absurd same (apart h' after)
  | cons c before ih =>
    cases before' with
    | nil => exact absurd same.symm (apart h after')
    | cons c' before' =>
      rw [List.cons_append, List.cons_append, List.cons.injEq] at same
      obtain ⟨rfl, same⟩ := same
      obtain ⟨rfl, rfl⟩ := ih (dateless_cons_iff.1 h).2 (dateless_cons_iff.1 h').2 same
      exact ⟨rfl, rfl⟩

theorem exists_opening {cs : List Char} (h : ¬Dateless cs) :
    ∃ before after, Dateless before ∧ cs = before ++ (opening ++ after) := by
  induction cs with
  | nil => exact absurd dateless_nil h
  | cons c cs ih =>
    by_cases starts : opening <+: c :: cs
    · obtain ⟨after, parts⟩ := starts
      exact ⟨[], after, dateless_nil, parts.symm⟩
    · have later : ¬Dateless cs := fun quiet => h (dateless_cons_iff.2 ⟨starts, quiet⟩)
      obtain ⟨before, after, quiet, rfl⟩ := ih later
      refine ⟨c :: before, after, dateless_cons_iff.2 ⟨fun opens => starts ?_, quiet⟩, rfl⟩
      exact opens.trans (List.prefix_append _ _)

/-- A date that opens behind a text without dates is masked, whatever it is. -/
theorem maskChars_append_opening {before date : List Char} (h : Dateless before)
    (unquoted : '"' ∉ date) (after : List Char) :
    maskChars (before ++ (opening ++ (date ++ '"' :: after))) =
      before ++ (opening ++ (closing ++ maskChars after)) := by
  have start : opening ++ (date ++ '"' :: after) =
      'd' :: ("ate = \"".toList ++ (date ++ '"' :: after)) := rfl
  rw [start, maskChars_append_of_dateless h, ← start,
    maskChars_of_some (afterDate?_opening unquoted after), masked_eq, List.append_assoc]

/-- The first date of a text does not show in the masked text. -/
theorem mask_date {before date date' : String} (h : Dateless before.toList)
    (unquoted : '"' ∉ date.toList) (unquoted' : '"' ∉ date'.toList) (after : String) :
    mask (before ++ ("date = \"" ++ date ++ "\"") ++ after) =
      mask (before ++ ("date = \"" ++ date' ++ "\"") ++ after) := by
  have chars (date : String) : (before ++ ("date = \"" ++ date ++ "\"") ++ after).toList =
      before.toList ++ (opening ++ (date.toList ++ '"' :: after.toList)) := by
    simp only [String.toList_append, List.append_assoc]
    rfl
  rw [mask, mask, chars, chars, maskChars_append_opening h unquoted,
    maskChars_append_opening h unquoted']

def toDate : List Char := lead ++ '"' :: inside

theorem append_dated (before date after : List Char) :
    before ++ dated date after = (before ++ toDate) ++ (opening ++ (date ++ '"' :: after)) := by
  rw [dated, toDate, List.append_assoc, List.append_assoc, List.cons_append]

/-- No opening reaches up to the date of a header: the quote before that date closes a value. -/
theorem quote_mem_of_opening {before front rest : List Char}
    (parts : before ++ toDate = front ++ (opening ++ rest)) : '"' ∈ rest := by
  have value : toDate = (lead ++ '"' :: "throwgen".toList) ++ '"' :: ", ".toList := by decide
  have word : opening = "date = ".toList ++ ['"'] := by decide
  by_contra unquoted
  rw [value, word, ← List.append_assoc, List.append_assoc "date = ".toList,
    ← List.append_assoc front, List.singleton_append,
    Text.append_cons_inj_last (by decide) unquoted] at parts
  have last := congrArg List.getLast? parts.1
  simp at last

/-- A text whose only date is that of a header is told by its masked text from every other text with
a header of that date. -/
theorem dated_inj_of_maskChars {before before' after after' date : List Char}
    (unquoted : '"' ∉ date) (quietBefore : Dateless before) (quietAfter : Dateless after)
    (same : maskChars (before ++ dated date after) = maskChars (before' ++ dated date after')) :
    before = before' ∧ after = after' := by
  have quiet : Dateless (before ++ toDate) := by
    have start : toDate = 'v' :: toDate.tail := by decide
    have quietLead : 'd' ∉ toDate.tail := by decide
    rw [start]
    exact quietBefore.append_cons (by decide) (dateless_of_notMem (by decide) quietLead)
  rw [append_dated, append_dated, maskChars_append_opening quiet unquoted,
    maskChars_of_dateless quietAfter] at same
  by_cases quiet' : Dateless (before' ++ toDate)
  · rw [maskChars_append_opening quiet' unquoted] at same
    obtain ⟨front, back⟩ := append_opening_inj quiet quiet' same
    have kept : after = maskChars after' := List.append_cancel_left back
    rw [kept] at quietAfter
    exact ⟨List.append_cancel_right front, kept.trans (maskChars_of_dateless_maskChars quietAfter)⟩
  · -- Masking would find a date in front of the header and leave that of the header behind it.
    obtain ⟨front, rest, quietFront, parts⟩ := exists_opening quiet'
    obtain ⟨text, behind, rfl, first⟩ :=
      List.eq_append_cons_of_mem (quote_mem_of_opening parts)
    have regrouped (later : List Char) : front ++ (opening ++ (text ++ '"' :: behind)) ++ later =
        front ++ (opening ++ (text ++ '"' :: (behind ++ later))) := by
      simp only [List.append_assoc, List.cons_append]
    rw [parts, regrouped, maskChars_append_opening quietFront first] at same
    obtain ⟨-, back⟩ := append_opening_inj quiet quietFront same
    have kept := List.append_cancel_left back
    rw [kept] at quietAfter
    have unchanged := maskChars_of_dateless_maskChars quietAfter
    rw [unchanged] at quietAfter
    exact absurd ⟨behind, _, List.append_assoc ..⟩ quietAfter

end DateMask

end ExceptionStubs
