import ExceptionStubs.Json.Printer
import ExceptionStubs.Json.Reader
import Mathlib.Data.List.Basic
/-!
# Tokens of written values

Texts are read as tokens piece by piece: what a piece is read as does not depend on what stands
behind it, so pieces can be put together, with blanks between them. A text between quotes is such a
piece, whatever characters it holds.
-/

namespace ExceptionStubs.Json

namespace Token

/-- More fuel changes nothing. -/
theorem readAll_mono {n m : Nat} {cs : List Char} {ts : List Token} (h : readAll n cs = some ts)
    (more : n ≤ m) : readAll m cs = some ts := by
  induction n generalizing m cs ts with
  | zero =>
    cases cs with
    | nil =>
      cases h
      cases m <;> rfl
    | cons c cs => cases h
  | succ n ih =>
    obtain ⟨m, rfl⟩ : ∃ k, m = k + 1 := ⟨m - 1, by omega⟩
    have fewer : n ≤ m := by omega
    cases cs with
    | nil => exact h
    | cons c cs =>
      rw [readAll] at h ⊢
      by_cases blank : isBlank c = true
      · rw [if_pos blank] at h ⊢
        exact ih h fewer
      · rw [if_neg blank] at h ⊢
        cases first : readFrom c cs with
        | none => simp [first] at h
        | some read =>
          obtain ⟨token, rest⟩ := read
          simp only [first, Option.map_eq_some_iff] at h ⊢
          obtain ⟨us, later, rfl⟩ := h
          exact ⟨us, ih later fewer, rfl⟩

/-- A piece of text that is read as some tokens, whatever stands behind it. -/
def Reads (cs : List Char) (ts : List Token) : Prop :=
  ∀ fuel rest us, readAll fuel rest = some us →
    readAll (fuel + cs.length) (cs ++ rest) = some (ts ++ us)

namespace Reads

theorem nil : Reads [] [] := fun _ _ _ h => h

theorem append {cs ds : List Char} {ts us : List Token} (h : Reads cs ts) (h' : Reads ds us) :
    Reads (cs ++ ds) (ts ++ us) := by
  intro fuel rest later read
  have whole := h _ _ _ (h' fuel rest later read)
  rw [List.append_assoc, List.append_assoc, List.length_append, Nat.add_comm cs.length,
    ← Nat.add_assoc]
  exact whole

theorem blank {c : Char} (h : isBlank c = true) : Reads [c] [] := by
  intro fuel rest us read
  rw [List.singleton_append, List.length_singleton, readAll, if_pos h]
  exact read

/-- A token is read from its characters. -/
theorem token {c : Char} {cs : List Char} {t : Token} (solid : isBlank c = false)
    (h : ∀ rest, readFrom c (cs ++ rest) = some (t, rest)) : Reads (c :: cs) [t] := by
  intro fuel rest us read
  have more : readAll (fuel + cs.length) rest = some us := readAll_mono read (by omega)
  rw [List.length_cons, ← Nat.add_assoc, List.cons_append, readAll]
  simp [solid, h, more]

theorem blanks {cs : List Char} (h : ∀ c ∈ cs, isBlank c = true) : Reads cs [] := by
  induction cs with
  | nil => exact nil
  | cons c cs ih =>
    exact (blank (h c List.mem_cons_self)).append (ih fun d mem => h d (List.mem_cons_of_mem c mem))

theorem newline (depth : Nat) : Reads (Json.newline depth) [] := by
  apply blanks
  intro c mem
  obtain rfl | mem := List.mem_cons.1 mem
  · rfl
  · rw [List.eq_of_mem_replicate mem]
    rfl

theorem ofText? {cs : List Char} {ts : List Token} (h : Reads cs ts) :
    Token.ofText? cs = some ts := by
  have whole := h 0 [] [] rfl
  rwa [List.append_nil, List.append_nil, Nat.zero_add] at whole

end Reads

/-- Two hexadecimal digits tell a control character. -/
theorem hex4?_control {n : Nat} (h : n < 0x20) :
    hex4? '0' '0' (Nat.digitChar (n / 16)) (Nat.digitChar (n % 16)) = some n := by
  have all : ∀ n < 0x20,
      hex4? '0' '0' (Nat.digitChar (n / 16)) (Nat.digitChar (n % 16)) = some n := by decide
  exact all n h

/-- How a character is written: by an escape of one letter, by its number, or as it is. -/
theorem escapeChar_cases (c : Char) :
    (∃ letter, escapeChar c = ['\\', letter] ∧ letter ≠ 'u' ∧ escaped? letter = some c) ∨
      (c.toNat < 0x20 ∧ escapeChar c =
        ['\\', 'u', '0', '0', Nat.digitChar (c.toNat / 16), Nat.digitChar (c.toNat % 16)]) ∨
      (escapeChar c = [c] ∧ c ≠ '"' ∧ c ≠ '\\' ∧ ¬c.toNat < 0x20) := by
  unfold escapeChar
  split
  · next h => exact .inl ⟨'"', rfl, by decide, by rw [h]; rfl⟩
  split
  · next h => exact .inl ⟨'\\', rfl, by decide, by rw [h]; rfl⟩
  split
  · next h => exact .inl ⟨'n', rfl, by decide, by rw [h]; rfl⟩
  split
  · next h => exact .inl ⟨'r', rfl, by decide, by rw [h]; rfl⟩
  split
  · next h => exact .inl ⟨'t', rfl, by decide, by rw [h]; rfl⟩
  split
  · next h => exact .inl ⟨'b', rfl, by decide, by rw [h]; rfl⟩
  split
  · next h => exact .inl ⟨'f', rfl, by decide, by rw [h]; rfl⟩
  split
  · next h => exact .inr (.inl ⟨h, rfl⟩)
  · next quote backslash _ _ _ _ _ control => exact .inr (.inr ⟨rfl, quote, backslash, control⟩)

def IsNumbered (cs : List Char) : Prop :=
  ∀ a b c d rest, cs = '\\' :: 'u' :: a :: b :: c :: d :: rest → ∃ n, hex4? a b c d = some n

theorem isNumbered_escaped (cs rest : List Char) :
    IsNumbered (cs.flatMap escapeChar ++ '"' :: rest) := by
  intro a b c d later same
  cases cs with
  | nil => simp at same
  | cons x cs =>
    rw [List.flatMap_cons, List.append_assoc] at same
    obtain ⟨letter, written, plain, -⟩ | ⟨control, written⟩ | ⟨written, -, backslash, -⟩ :=
      escapeChar_cases x
    · rw [written] at same
      simp [plain] at same
    · rw [written] at same
      simp only [List.cons_append, List.cons.injEq, true_and] at same
      obtain ⟨rfl, rfl, rfl, rfl, -⟩ := same
      exact ⟨_, hex4?_control control⟩
    · rw [written] at same
      simp [backslash] at same

/-- A character is read back from what it is written as. -/
theorem readText_escapeChar (read : List Char) (c : Char) {rest : List Char}
    (numbered : IsNumbered rest) :
    readText (some read) (escapeChar c ++ rest) = readText (some (c :: read)) rest := by
  obtain ⟨letter, written, plain, known⟩ | ⟨control, written⟩ |
    ⟨written, quote, backslash, visible⟩ := escapeChar_cases c
  · rw [written, readText.eq_def]
    simp [plain, known]
  · have number := hex4?_control control
    have single : (isLeading c.toNat || isTrailing c.toNat) = false := by
      simp [isLeading, isTrailing]
      omega
    obtain ⟨leading, trailing⟩ := Bool.or_eq_false_iff.1 single
    rw [written, readText.eq_def]
    by_cases another : ∃ e f g h later, rest = '\\' :: 'u' :: e :: f :: g :: h :: later
    · obtain ⟨e, f, g, h, later, rfl⟩ := another
      obtain ⟨m, number'⟩ := numbered e f g h later rfl
      simp [number, number', leading, trailing]
    · -- No escape that could be the second half of a pair follows.
      push Not at another
      simp [number, leading, trailing]
  · rw [written, readText.eq_def]
    simp [backslash, visible]

/-- A text is read back from what it is written as. -/
theorem readText_escaped (read cs rest : List Char) :
    readText (some read) (cs.flatMap escapeChar ++ '"' :: rest) =
      some (some (String.ofList (read.reverse ++ cs)), rest) := by
  induction cs generalizing read with
  | nil =>
    rw [List.flatMap_nil, List.nil_append, readText, List.append_nil]
    rfl
  | cons c cs ih =>
    rw [List.flatMap_cons, List.append_assoc,
      readText_escapeChar read c (isNumbered_escaped cs rest), ih]
    simp

namespace Reads

theorem writeText (s : String) : Reads (Json.writeText (some s)) [scalar (.string (some s))] := by
  refine token rfl fun rest => ?_
  have behind : (s.toList.flatMap escapeChar ++ ['"']) ++ rest =
      s.toList.flatMap escapeChar ++ '"' :: rest := by simp
  change readFrom '"' ((s.toList.flatMap escapeChar ++ ['"']) ++ rest) = _
  rw [behind, readFrom, readText_escaped]
  simp

theorem beginArray : Reads ['['] [.beginArray] := token rfl fun _ => rfl

theorem endArray : Reads [']'] [.endArray] := token rfl fun _ => rfl

theorem beginObject : Reads ['\x7b'] [.beginObject] := token rfl fun _ => rfl

theorem endObject : Reads ['\x7d'] [.endObject] := token rfl fun _ => rfl

theorem colon : Reads [':'] [.colon] := token rfl fun _ => rfl

theorem comma : Reads [','] [.comma] := token rfl fun _ => rfl

theorem bool (b : Bool) : Reads (write (.bool b)) [scalar (.bool b)] := by
  cases b <;> exact token rfl fun _ => rfl

end Reads

end Token

end ExceptionStubs.Json
