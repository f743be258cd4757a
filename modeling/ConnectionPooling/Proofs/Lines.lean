/-
# Reading back what was written on a line

Each line that is written is a statement of its own: an assignment or the header of a table.
Reading takes the statements off the text one after the other, as they were written.

What is needed of a value is said by `Written`: the reader gives it back, and leaves the line
end that follows it.
-/

import Mathlib.Data.List.Basic
import Mathlib.Algebra.Group.Nat.Defs
import ConnectionPooling.Toml.Reader
import ConnectionPooling.Proofs.Notation

namespace ConnectionPooling.Toml

open Document (Value)

/-! ## Whole numbers -/

theorem isDigit_toDigits {n : Nat} {c : Char} (listed : c ∈ Nat.toDigits 10 n) :
    c.isDigit = true :=
  Nat.isDigit_of_mem_toDigits (by decide) (by decide) listed

theorem natOfDigits_toDigits (n : Nat) : natOfDigits 10 (Nat.toDigits 10 n) = n := by
  have read := Nat.ofDigitChars_toDigits (b := 10) (n := n) (by decide) (by decide)
  rw [Nat.ofDigitChars_eq_foldl] at read
  refine Eq.trans ?_ read
  unfold natOfDigits
  apply List.foldl_ext
  intro size c listed
  unfold hexDigit?
  rw [if_pos (isDigit_toDigits listed)]
  rfl

/-- A number that is not zero is not written with a zero in front. -/
theorem head?_toDigits {n : Nat} (pos : 0 < n) : (Nat.toDigits 10 n).head? ≠ some '0' := by
  induction n using Nat.strongRecOn with
  | ind n ih =>
    by_cases small : n < 10
    · rw [Nat.toDigits_of_lt_base small]
      intro same
      have zero := Nat.digitChar_eq_zero.1 (Option.some.inj same)
      omega
    · have shorter := ih (n / 10) (by omega) (by omega)
      obtain ⟨c, cs, digits⟩ :=
        List.exists_cons_of_ne_nil (Nat.toDigits_ne_nil (n := n / 10) (b := 10))
      rw [Nat.toDigits_of_base_le (by decide) (by omega), digits]
      rw [digits] at shorter
      exact shorter

/-- Digits end at the end of the line. -/
theorem moreDigits_append {digits : List Char} (all : ∀ c ∈ digits, c.isDigit = true)
    (rest : List Char) :
    moreDigits Char.isDigit (digits ++ '\n' :: rest) = some (digits, '\n' :: rest) := by
  induction digits with
  | nil =>
    rw [List.nil_append, moreDigits.eq_3 _ _ _ (fun _ _ same => absurd same (by decide))]
    rfl
  | cons c digits ih =>
    have digit := all c List.mem_cons_self
    have other : c ≠ '_' := ne_of_kind digit rfl
    rw [List.cons_append, moreDigits.eq_3 _ _ _ (fun _ _ same => absurd same other), if_pos digit,
      ih fun d later => all d (List.mem_cons_of_mem c later)]
    rfl

/-- Digits at the end of a line are not followed by a mark that would make them part of a date
or of a time of day. -/
theorem looksLike_digits {digits : List Char} (all : ∀ c ∈ digits, c.isDigit = true) {mark : Char}
    (other : mark.isDigit = false) (inner : mark ≠ '\n') (width : Nat) (rest : List Char) :
    (((digits ++ '\n' :: rest).take width).all Char.isDigit &&
      ((digits ++ '\n' :: rest).drop width).head? == some mark) = false := by
  induction width generalizing digits with
  | zero =>
    cases digits with
    | nil => simp [Ne.symm inner]
    | cons c digits =>
      have digit := all c List.mem_cons_self
      have differs : c ≠ mark := ne_of_kind digit other
      simp [differs]
  | succ width ih =>
    cases digits with
    | nil => rfl
    | cons c digits =>
      have digit := all c List.mem_cons_self
      simpa [digit] using ih fun d later => all d (List.mem_cons_of_mem c later)

/-! ## Values -/

/-- A value is written as this text: at the end of a line, the reader gives the value back. -/
structure Written (text : List Char) (value : Value) : Prop where
  /-- The text begins with something else than a blank, a bracket or a brace. -/
  first : ∃ c cs, text = c :: cs ∧ isBlank c = false ∧ c ≠ '[' ∧ c ≠ '\x7b'
  /-- The reader stops at the end of the line. -/
  read : ∀ rest, scalar? (text ++ '\n' :: rest) = some (value, '\n' :: rest)

theorem written_text (text : String) : Written (writeText text) (.text text) := by
  obtain ⟨c, cs, begins, quote⟩ := exists_writeText text
  refine ⟨⟨c, cs, begins, ?_⟩, fun rest => ?_⟩
  · rcases quote with rfl | rfl
    · exact ⟨rfl, by decide, by decide⟩
    · exact ⟨rfl, by decide, by decide⟩
  · have read : text? (writeText text ++ '\n' :: rest) = some (text, '\n' :: rest) :=
      text?_writeText text (by simp) (by simp)
    unfold scalar?
    rw [begins] at read ⊢
    rw [List.cons_append] at read ⊢
    dsimp only
    rw [if_pos (by rcases quote with rfl | rfl <;> rfl), read]
    rfl

theorem written_bool (on : Bool) : Written (toString on).toList (.bool on) := by
  cases on with
  | true => exact ⟨⟨'t', ['r', 'u', 'e'], rfl, rfl, by decide, by decide⟩, fun rest => rfl⟩
  | false => exact ⟨⟨'f', ['a', 'l', 's', 'e'], rfl, rfl, by decide, by decide⟩, fun rest => rfl⟩

/-- What is left to do when a text begins with a digit that is not zero. -/
theorem number?_digits {c : Char} {cs : List Char} (all : ∀ d ∈ c :: cs, d.isDigit = true)
    (zero : c ≠ '0') (fits : natOfDigits 10 (c :: cs) < 2 ^ 63) (rest : List Char) :
    number? (c :: cs ++ '\n' :: rest) =
      some (.int (natOfDigits 10 (c :: cs)), '\n' :: rest) := by
  have digit := all c List.mem_cons_self
  have ne {d : Char} (other : d.isDigit = false) : c ≠ d := ne_of_kind digit other
  have unsigned : sign (c :: (cs ++ '\n' :: rest)) = (false, c :: (cs ++ '\n' :: rest)) :=
    sign.eq_3 _ (fun _ same => ne rfl (List.cons.inj same).1)
      (fun _ same => ne rfl (List.cons.inj same).1)
  have unnamed : namedNumber? (c :: (cs ++ '\n' :: rest)) = none :=
    namedNumber?.eq_3 _ (fun _ same => ne rfl (List.cons.inj same).1)
      (fun _ same => ne rfl (List.cons.inj same).1)
  have whole : decimalDigits? (c :: (cs ++ '\n' :: rest)) = some (c :: cs, '\n' :: rest) := by
    rw [decimalDigits?.eq_2 _ (fun _ same => zero (List.cons.inj same).1), digits?.eq_2,
      if_pos digit, moreDigits_append fun d later => all d (List.mem_cons_of_mem c later)]
    rfl
  have word : word? false (natOfDigits 10 (c :: cs)) = some (.int (natOfDigits 10 (c :: cs))) :=
    if_pos fits
  rw [List.cons_append, number?.eq_4 _ (fun _ same => zero (List.cons.inj same).1)
    (fun _ same => zero (List.cons.inj same).1) (fun _ same => zero (List.cons.inj same).1),
    unsigned, unnamed]
  unfold decimal?
  rw [unsigned]
  dsimp only
  rw [whole]
  show (word? false (natOfDigits 10 (c :: cs))).bind _ = _
  rw [word]
  rfl

theorem number?_toDigits {n : Nat} (fits : n < 2 ^ 63) (rest : List Char) :
    number? (Nat.toDigits 10 n ++ '\n' :: rest) = some (.int n, '\n' :: rest) := by
  have size := natOfDigits_toDigits n
  rcases Nat.eq_zero_or_pos n with rfl | pos
  · rfl
  · have first := head?_toDigits pos
    have all := fun d => @isDigit_toDigits n d
    cases digits : Nat.toDigits 10 n with
    | nil => exact absurd digits Nat.toDigits_ne_nil
    | cons c cs =>
      rw [digits] at all first size
      have read := number?_digits all (fun same => first (congrArg some same))
        (by rw [size]; exact fits) rest
      rwa [size] at read

/-- A number is read back if it fits into a signed word. -/
theorem written_nat {n : Nat} (fits : n < 2 ^ 63) : Written (toString n).toList (.int n) := by
  have all := fun c => @isDigit_toDigits n c
  have number := number?_toDigits fits
  have date (rest : List Char) : looksLikeDate (Nat.toDigits 10 n ++ '\n' :: rest) = false :=
    looksLike_digits all rfl (by decide) 4 rest
  have time (rest : List Char) : looksLikeTime (Nat.toDigits 10 n ++ '\n' :: rest) = false :=
    looksLike_digits all rfl (by decide) 2 rest
  rw [Nat.toString_eq_ofList_toDigits, String.toList_ofList]
  cases digits : Nat.toDigits 10 n with
  | nil => exact absurd digits Nat.toDigits_ne_nil
  | cons c cs =>
    rw [digits] at all number date time
    have ne {d : Char} (other : d.isDigit = false) : c ≠ d :=
      ne_of_kind (all c List.mem_cons_self) other
    refine ⟨⟨c, cs, rfl, ?_, ne rfl, ne rfl⟩, fun rest => ?_⟩
    · unfold isBlank
      rw [decide_eq_false (ne rfl), decide_eq_false (ne rfl)]
      rfl
    · have number := number rest
      have date := date rest
      have time := time rest
      rw [List.cons_append] at number date time ⊢
      unfold scalar?
      dsimp only
      rw [date, time, decide_eq_false (ne rfl), decide_eq_false (ne rfl),
        decide_eq_false (ne rfl), decide_eq_false (ne rfl)]
      exact number

/-- A value is read whatever may nest inside others. -/
theorem Written.value? {text : List Char} {value : Value} (written : Written text value)
    (rest : List Char) :
    value? depthLimit (text ++ '\n' :: rest) = some (value, '\n' :: rest) := by
  obtain ⟨⟨c, cs, rfl, -, bracket, brace⟩, read⟩ := written
  exact (value?.eq_6 _ 78 (fun _ same => bracket (List.cons.inj same).1)
    (fun _ same => brace (List.cons.inj same).1)).trans (read rest)

/-! ## Statements -/

theorem skipBlanks_cons {c : Char} (other : isBlank c = false) (cs : List Char) :
    skipBlanks (c :: cs) = c :: cs := by
  unfold skipBlanks
  rw [List.dropWhile_cons, other]
  rfl

/-- Nothing that a key begins with is a blank, a line end, a bracket or the mark of a
comment. -/
theorem first_writeKey (name : String) : ∃ c cs, writeKey name = c :: cs ∧
    isBlank c = false ∧ c ≠ '\n' ∧ c ≠ '\r' ∧ c ≠ '#' ∧ c ≠ '[' := by
  obtain ⟨c, cs, begins, kind⟩ := exists_writeKey name
  refine ⟨c, cs, begins, ?_⟩
  rcases kind with rfl | rfl | bare
  · exact ⟨rfl, by decide, by decide, by decide, by decide⟩
  · exact ⟨rfl, by decide, by decide, by decide, by decide⟩
  · have ne {d : Char} (other : inBareKey d = false) : c ≠ d := ne_of_kind bare other
    refine ⟨?_, ne rfl, ne rfl, ne rfl, ne rfl⟩
    unfold isBlank
    rw [decide_eq_false (ne rfl), decide_eq_false (ne rfl)]
    rfl

theorem key?_writeKey (name : String) (rest : List Char) :
    key? (writeKey name ++ ' ' :: '=' :: rest) = some (([], name), '=' :: rest) := by
  obtain ⟨c, cs, begins, blank, -⟩ := first_writeKey name
  have here : skipBlanks (writeKey name ++ ' ' :: '=' :: rest) =
      writeKey name ++ ' ' :: '=' :: rest := by
    rw [begins]
    exact skipBlanks_cons blank _
  have part : keyPart? (writeKey name ++ ' ' :: '=' :: rest) =
      some (name, ' ' :: '=' :: rest) := by
    apply keyPart?_writeKey
    rintro d ⟨⟩
    rfl
  unfold key?
  rw [show depthLimit = 78 + 1 from rfl, keyParts?.eq_2, here, part]
  rfl

theorem assignment?_write (name : String) {text : List Char} {value : Value}
    (written : Written text value) (rest : List Char) :
    assignment? (value? depthLimit) (writeKey name ++ ' ' :: '=' :: ' ' :: (text ++ '\n' :: rest)) =
      some (([], name, value), '\n' :: rest) := by
  have read := written.value? rest
  have key := key?_writeKey name (' ' :: (text ++ '\n' :: rest))
  obtain ⟨⟨c, cs, rfl, blank, -⟩, -⟩ := written
  have here : skipBlanks (' ' :: (c :: cs ++ '\n' :: rest)) = c :: cs ++ '\n' :: rest :=
    (List.dropWhile_cons_of_pos rfl).trans (skipBlanks_cons blank _)
  unfold assignment?
  rw [key]
  show (value? depthLimit (skipBlanks (' ' :: (c :: cs ++ '\n' :: rest)))).bind _ = _
  rw [here, read]
  rfl

/-- A line that is not empty and holds a statement is read as that statement. -/
theorem statements?_line {c : Char} {cs rest : List Char} {statement : Statement}
    (blank : isBlank c = false) (lineEnd : c ≠ '\n') (carriage : c ≠ '\r') (comment : c ≠ '#')
    (shorter : rest.length ≤ cs.length)
    (read : statement? (c :: cs) = some (statement, '\n' :: rest)) :
    statements? (c :: cs) = (statements? rest).map (statement :: ·) := by
  rw [statements?.eq_1, skipBlanks_cons blank]
  dsimp only
  split
  · rename_i same
    exact absurd (Option.some.inj same) lineEnd
  · rename_i same
    exact absurd (Option.some.inj same) carriage
  · rename_i same
    exact absurd (Option.some.inj same) comment
  · rw [read]
    exact if_pos (Nat.lt_succ_of_le shorter)

/-- A text makes these statements, whatever comes behind it. -/
def States (text : List Char) (statements : List Statement) : Prop :=
  ∀ rest, statements? (text ++ rest) = (statements? rest).map (statements ++ ·)

theorem States.nil : States [] [] :=
  fun rest => by rw [List.nil_append]; cases statements? rest <;> rfl

theorem States.append {text text' : List Char} {first second : List Statement}
    (states : States text first) (states' : States text' second) :
    States (text ++ text') (first ++ second) := by
  intro rest
  rw [List.append_assoc, states, states', Option.map_map]
  exact congrArg (Option.map · _) (funext fun later => (List.append_assoc ..).symm)

/-- A whole text is read as the statements that it makes. -/
theorem States.statements? {text : List Char} {statements : List Statement}
    (states : States text statements) : statements? text = some statements := by
  have none : Toml.statements? [] = some [] := by
    rw [Toml.statements?.eq_1]
    rfl
  have whole := states []
  rw [List.append_nil, none] at whole
  exact whole.trans (congrArg some (List.append_nil statements))

/-- An empty line makes none. -/
theorem states_blank : States ['\n'] [] := by
  intro rest
  rw [List.singleton_append, statements?.eq_1, skipBlanks_cons rfl]
  exact (if_pos (Nat.lt_succ_self _)).trans (States.nil rest)

/-- An assignment is read as such. -/
theorem states_assignment (name : String) {text : List Char} {value : Value}
    (written : Written text value) :
    States (writeAssignment name text) [.assign [] name value] := by
  intro rest
  have read := assignment?_write name written rest
  have line : writeAssignment name text ++ rest =
      writeKey name ++ ' ' :: '=' :: ' ' :: (text ++ '\n' :: rest) := by
    unfold writeAssignment
    simp only [List.append_assoc, List.cons_append, List.nil_append]
  obtain ⟨c, cs, begins, blank, lineEnd, carriage, comment, bracket⟩ := first_writeKey name
  rw [line]
  rw [begins, List.cons_append] at read ⊢
  apply statements?_line blank lineEnd carriage comment
  · simp only [List.length_append, List.length_cons]
    omega
  · rw [statement?.eq_2 _ (fun _ same => bracket (List.cons.inj same).1), read]
    rfl

/-- The header of a table is read as such. -/
theorem states_header {header : List Char} {path : List String} {name : String}
    (single : ∃ c cs, header = c :: cs ∧ c ≠ '[')
    (key : ∀ rest, key? (header ++ ']' :: rest) = some ((path, name), ']' :: rest)) :
    States ('[' :: header ++ [']', '\n']) [.beginTable path name] := by
  intro rest
  obtain ⟨c, cs, rfl, other⟩ := single
  have line : '[' :: c :: cs ++ [']', '\n'] ++ rest =
      '[' :: (c :: cs ++ ']' :: '\n' :: rest) := by
    simp only [List.append_assoc, List.cons_append, List.nil_append]
  rw [line]
  apply statements?_line rfl (by decide) (by decide) (by decide)
  · simp only [List.length_append, List.length_cons]
    omega
  · show header? ('[' :: _) = _
    rw [header?.eq_2 (c :: cs ++ ']' :: '\n' :: rest)
      (fun _ same => other (List.cons.inj same).1), key]
    rfl

end ConnectionPooling.Toml
