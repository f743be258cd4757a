/-
# Reading back what was written between quotes

A text is written in one of four notations, which is chosen by what stands in it. Whatever
the choice, reading gives the text again and stops right behind it. The same holds for keys.

Between double quotes some characters are written as escapes, and reading undoes each of them
by itself: `Escapes` says how a character may be written there. Where three quotes close a
text, quotes of the text may stand right before them, and the reader gives up to two of them
back to the text; so it matters that no more than two ever stand together unescaped.
-/

import ConnectionPooling.Toml.Writer
import ConnectionPooling.Toml.Scan

namespace ConnectionPooling.Toml

/-! ## Characters -/

/-- Characters are different if only one of them is of some kind. -/
theorem ne_of_kind {kind : Char → Bool} {c d : Char} (inside : kind c = true)
    (outside : kind d = false) : c ≠ d := by
  rintro rfl
  rw [outside] at inside
  cases inside

/-- How a character may be written between double quotes. -/
inductive Escapes (c : Char) : List Char → Prop
  /-- It stands for itself. -/
  | plain (stands : inBasicText c = true) : Escapes c [c]
  /-- A letter behind a backslash stands for it. -/
  | letter {l : Char} (means : escape? l = some c) : Escapes c ['\\', l]
  /-- Its code point is given. -/
  | code {w x y z : Char} (means : codePoint? [w, x, y, z] = some c) :
      Escapes c ['\\', 'u', w, x, y, z]

/-- The four digits of a code point in ASCII are read back. -/
theorem codePoint?_fourHexDigits {n : Nat} (ascii : n < 128) :
    codePoint? (fourHexDigits n) = some (Char.ofNat n) := by
  have all : ∀ n < 128, codePoint? (fourHexDigits n) = some (Char.ofNat n) := by
    decide +kernel
  exact all n ascii

/-- A character that is no control character, or that is a tab, may stand in a comment. -/
theorem inComment_of_not_control {c : Char} (control : isEscapedControl c = false)
    (lineEnd : c ≠ '\n') : inComment c = true := by
  unfold isEscapedControl at control
  unfold inComment isBeyondAscii
  by_cases tab : c = '\t'
  · rw [tab]
    rfl
  · simp only [ne_eq, Bool.or_eq_false_iff, Bool.and_eq_false_iff, decide_eq_false_iff_not,
      decide_not, Bool.not_eq_eq_eq_not, Bool.not_false, decide_eq_true_eq, lineEnd, tab,
      or_false] at control
    simp only [Bool.or_eq_true, Bool.and_eq_true, decide_eq_true_eq]
    omega

theorem Escapes.of_eq {c d l : Char} (same : c = d) (means : escape? l = some d) :
    Escapes c ['\\', l] :=
  .letter (same ▸ means)

theorem escapes_plain {c : Char} (quote : c ≠ '\x22') (lineEnd : c ≠ '\n') :
    Escapes c (escapePlain c) := by
  unfold escapePlain
  split
  · exact .of_eq ‹_› rfl
  split
  · exact .of_eq ‹_› rfl
  split
  · exact .of_eq ‹_› rfl
  split
  · exact .of_eq ‹_› rfl
  split
  · exact .of_eq ‹_› rfl
  split
  · rename_i control
    have ascii : c.toNat < 128 := by
      simp only [Bool.or_eq_true, decide_eq_true_eq] at control
      omega
    have read := codePoint?_fourHexDigits ascii
    rw [Char.ofNat_toNat] at read
    exact .code read
  · rename_i backslash ordinary
    refine .plain ?_
    have control : isEscapedControl c = false := by
      unfold isEscapedControl
      simp only [Bool.or_eq_true, decide_eq_true_eq, not_or] at ordinary
      simp only [Bool.or_eq_false_iff, Bool.and_eq_false_iff, decide_eq_false_iff_not]
      exact ⟨.inl (.inl ordinary.1), ordinary.2⟩
    unfold inBasicText
    simp only [Bool.and_eq_true, decide_eq_true_eq]
    exact ⟨⟨inComment_of_not_control control lineEnd, quote⟩, backslash⟩

theorem escapes_basic (c : Char) : Escapes c (escapeBasic c) := by
  unfold escapeBasic
  split
  · exact .of_eq ‹_› rfl
  split
  · exact .of_eq ‹_› rfl
  · rename_i quote lineEnd
    exact escapes_plain quote lineEnd

/-- What stands for a character does not begin with a quote. -/
theorem Escapes.ne_quote {c : Char} {cs : List Char} (escapes : Escapes c cs)
    (rest tail : List Char) : cs ++ rest ≠ '\x22' :: tail := by
  intro same
  cases escapes with
  | plain stands =>
    cases same
    cases stands
  | letter | code => cases same

/-- The letter of an escape is none of the two that are followed by a code point, and no line
ends behind it. -/
theorem letter_of_escape? {l c : Char} (means : escape? l = some c) :
    l ≠ 'u' ∧ l ≠ 'U' ∧ ∀ rest, isLineEndAhead (l :: rest) = false := by
  unfold escape? at means
  split at means
  all_goals first
    | exact ⟨by decide, by decide, fun _ => rfl⟩
    | cases means

/-- Between double quotes, what stands for a character is read as that character. -/
theorem Escapes.basicText {c : Char} {cs : List Char} (escapes : Escapes c cs)
    (rest : List Char) : basicText (cs ++ rest) = prepend c (basicText rest) := by
  cases escapes with
  | plain stands =>
    have basic : inBasicText '\x22' = false ∧ inBasicText '\\' = false := ⟨rfl, rfl⟩
    have quote : c ≠ '\x22' := ne_of_kind stands rfl
    have backslash : c ≠ '\\' := ne_of_kind stands rfl
    rw [List.singleton_append, Toml.basicText.eq_6 _ _ quote
      (fun _ _ _ _ _ same => absurd same backslash)
      (fun _ _ _ _ _ _ _ _ _ same => absurd same backslash)
      (fun _ _ same => absurd same backslash), if_pos stands]
  | letter means =>
    obtain ⟨short, long, -⟩ := letter_of_escape? means
    rw [List.cons_append, List.singleton_append, Toml.basicText.eq_5 _ _
      (fun _ _ _ _ _ same => absurd same short)
      (fun _ _ _ _ _ _ _ _ _ same => absurd same long), means]
    rfl
  | code means =>
    show Toml.basicText ('\\' :: 'u' :: _ :: _ :: _ :: _ :: rest) = _
    rw [Toml.basicText.eq_3, means]
    rfl

theorem Escapes.longBasicText {c : Char} {cs : List Char} (escapes : Escapes c cs)
    (rest : List Char) :
    longBasicText false (cs ++ rest) = prepend c (longBasicText false rest) := by
  cases escapes with
  | plain stands =>
    have quote : c ≠ '\x22' := ne_of_kind stands rfl
    have backslash : c ≠ '\\' := ne_of_kind stands rfl
    have lineEnd : c ≠ '\n' := ne_of_kind stands rfl
    have carriage : c ≠ '\r' := ne_of_kind stands rfl
    rw [List.singleton_append, Toml.longBasicText.eq_9 _ _ _ (fun _ same => absurd same quote)
      backslash (fun _ same => absurd same carriage) lineEnd, stands]
    rfl
  | letter means =>
    obtain ⟨short, long, ahead⟩ := letter_of_escape? means
    rw [List.cons_append, List.singleton_append, Toml.longBasicText.eq_5 _ _ _
      (fun _ _ _ _ _ same => absurd same short)
      (fun _ _ _ _ _ _ _ _ _ same => absurd same long), ahead, means]
    rfl
  | code means =>
    show Toml.longBasicText false ('\\' :: 'u' :: _ :: _ :: _ :: _ :: rest) = _
    rw [Toml.longBasicText.eq_3, means]
    rfl

/-! ## Texts on one line -/

theorem basicText_flatMap_escapeBasic (cs rest : List Char) :
    basicText (cs.flatMap escapeBasic ++ '\x22' :: rest) = some (cs, rest) := by
  induction cs with
  | nil => rfl
  | cons c cs ih =>
    rw [List.flatMap_cons, List.append_assoc, (escapes_basic c).basicText, ih]
    rfl

theorem literalText_append {cs : List Char} (clean : ∀ c ∈ cs, inLiteralText c = true)
    (rest : List Char) : literalText (cs ++ '\x27' :: rest) = some (cs, rest) := by
  induction cs with
  | nil => rfl
  | cons c cs ih =>
    have stands := clean c List.mem_cons_self
    have quote : c ≠ '\x27' := ne_of_kind stands rfl
    rw [List.cons_append, literalText.eq_3 _ _ quote, if_pos stands,
      ih fun d later => clean d (List.mem_cons_of_mem c later)]
    rfl

/-! ## Texts between three quotes -/

/-- Behind the quotes that close a text, no more quotes belong to it if none follow. -/
theorem closeQuotes_of_head?_ne {quote : Char} {rest : List Char}
    (ends : rest.head? ≠ some quote) : closeQuotes quote rest = ([], rest) := by
  cases rest with
  | nil => rfl
  | cons c rest =>
    have other : c ≠ quote := fun same => ends (congrArg some same)
    cases rest with
    | nil => exact if_neg other
    | cons d rest => simp only [closeQuotes, other, decide_false, Bool.false_and,
        Bool.false_eq_true, if_false]

theorem closeQuotes_one {quote : Char} {rest : List Char}
    (ends : rest.head? ≠ some quote) : closeQuotes quote (quote :: rest) = ([quote], rest) := by
  cases rest with
  | nil => exact if_pos rfl
  | cons d rest =>
    have other : d ≠ quote := fun same => ends (congrArg some same)
    simp only [closeQuotes, other, decide_false, Bool.and_false, Bool.false_eq_true, if_false,
      if_true]

theorem closeQuotes_two (quote : Char) (rest : List Char) :
    closeQuotes quote (quote :: quote :: rest) = ([quote, quote], rest) := by
  simp only [closeQuotes, decide_true, Bool.and_self, if_true]

/-- A quote that does not begin three of them belongs to the text. -/
theorem longBasicText_quote {rest : List Char} (alone : ∀ tail, rest ≠ '\x22' :: '\x22' :: tail) :
    longBasicText false ('\x22' :: rest) = prepend '\x22' (longBasicText false rest) := by
  rw [longBasicText.eq_9 _ _ _ (fun tail _ same => alone tail same) (by decide)
    (fun _ same => absurd same (by decide)) (by decide)]
  rfl

/-- A quote is left as it is only where no third one would come about, and what stands for
any other character does not begin with a quote. -/
theorem escapeLong_ne_quote {quotes : Nat} {c : Char} (escaped : c = '\x22' → quotes = 2)
    (cs rest tail : List Char) : escapeLong quotes (c :: cs) ++ rest ≠ '\x22' :: tail := by
  unfold escapeLong
  split
  · rename_i quote
    rw [if_pos (escaped quote)]
    exact fun same => by cases same
  split
  · exact fun same => by cases same
  · rename_i quote lineEnd
    rw [List.append_assoc]
    exact (escapes_plain quote lineEnd).ne_quote _ tail

/-- Behind a quote that is left as it is no two others follow, unless one ends the text. -/
theorem escapeLong_ne_two_quotes {quotes : Nat} (behind : 0 < quotes) (few : quotes ≤ 2)
    {c : Char} {cs : List Char} (more : ¬(c = '\x22' ∧ cs = [] ∧ quotes = 1))
    (rest tail : List Char) :
    escapeLong quotes (c :: cs) ++ rest ≠ '\x22' :: '\x22' :: tail := by
  by_cases quote : c = '\x22'
  · subst quote
    unfold escapeLong
    rw [if_pos rfl]
    split
    · exact fun same => by cases same
    · cases cs with
      | nil => exact fun _ => more ⟨rfl, rfl, by omega⟩
      | cons d cs =>
        rw [List.cons_append]
        intro same
        exact escapeLong_ne_quote (fun _ => by omega) cs rest tail (List.cons.inj same).2
  · exact escapeLong_ne_quote (fun same => absurd same quote) cs rest _

/-- The induction is on the text, and what carries it is the number of quotes that stand
right before. Where the text ends in one or two quotes, the three that close it are found
too early, and those that are left over are given back. -/
theorem longBasicText_escapeLong {rest : List Char} (ends : rest.head? ≠ some '\x22')
    (cs : List Char) {quotes : Nat} (few : quotes ≤ 2) :
    longBasicText false (escapeLong quotes cs ++ '\x22' :: '\x22' :: '\x22' :: rest) =
      some (cs, rest) := by
  induction cs generalizing quotes with
  | nil =>
    unfold escapeLong
    rw [List.nil_append, longBasicText.eq_2, closeQuotes_of_head?_ne ends]
  | cons c cs ih =>
    have next := @ih 0 (Nat.zero_le 2)
    unfold escapeLong
    split
    · rename_i quote
      subst quote
      split
      · have escaped : Escapes '\x22' ['\\', '\x22'] := .letter rfl
        exact (escaped.longBasicText _).trans (congrArg (prepend '\x22') next)
      · rename_i fewer
        rw [List.cons_append]
        cases cs with
        | nil =>
          unfold escapeLong
          rw [List.nil_append, longBasicText.eq_2, closeQuotes_one ends]
        | cons d cs =>
          by_cases last : d = '\x22' ∧ cs = [] ∧ quotes + 1 = 1
          · obtain ⟨rfl, rfl, first⟩ := last
            rw [first]
            exact congrArg some (closeQuotes_two '\x22' rest)
          · rw [longBasicText_quote
              (escapeLong_ne_two_quotes (Nat.succ_pos quotes) (by omega) last _),
              ih (by omega)]
            rfl
    split
    · rename_i lineEnd
      subst lineEnd
      rw [List.cons_append, longBasicText.eq_8, next]
      rfl
    · rename_i quote lineEnd
      rw [List.append_assoc, (escapes_plain quote lineEnd).longBasicText, next]
      rfl

/-! ### Runs of quotes -/

theorem le_longestRun (c : Char) (current : Nat) (cs : List Char) :
    current ≤ longestRun c current cs := by
  induction cs generalizing current with
  | nil => exact Nat.le_refl current
  | cons d cs ih =>
    unfold longestRun
    split
    · exact Nat.le_of_succ_le (ih (current + 1))
    · exact Nat.le_max_left ..

theorem longestRun_mono (c : Char) {fewer more : Nat} (le : fewer ≤ more) (cs : List Char) :
    longestRun c fewer cs ≤ longestRun c more cs := by
  induction cs generalizing fewer more with
  | nil => exact le
  | cons d cs ih =>
    unfold longestRun
    split
    · exact ih (Nat.succ_le_succ le)
    · omega

theorem longestRun_tail (c d : Char) (current : Nat) (cs : List Char) :
    longestRun c 0 cs ≤ longestRun c current (d :: cs) := by
  rw [longestRun]
  split
  · exact longestRun_mono c (Nat.zero_le _) cs
  · exact Nat.le_max_right ..

/-- A text without a run of a character does not have the character. -/
theorem ne_of_longestRun_eq_zero {c : Char} {cs : List Char} (none : longestRun c 0 cs = 0) :
    ∀ d ∈ cs, d ≠ c := by
  induction cs with
  | nil => exact fun d listed => absurd listed List.not_mem_nil
  | cons e cs ih =>
    have rest : longestRun c 0 cs = 0 :=
      Nat.le_zero.1 (Nat.le_trans (longestRun_tail c e 0 cs) (Nat.le_of_eq none))
    intro d listed
    rcases List.mem_cons.1 listed with rfl | later
    · rintro rfl
      have one := le_longestRun d (0 + 1) cs
      rw [longestRun, if_pos rfl] at none
      omega
    · exact ih rest d later

/-- A quote that does not begin three of them belongs to the text. -/
theorem longLiteralText_quote {rest : List Char}
    (alone : ∀ tail, rest ≠ '\x27' :: '\x27' :: tail) :
    longLiteralText ('\x27' :: rest) = prepend '\x27' (longLiteralText rest) := by
  rw [longLiteralText.eq_5 _ _ (fun tail _ same => alone tail same)
    (fun _ same => absurd same (by decide)) (by decide)]
  rfl

/-- Behind a quote no two others follow, unless one ends the text. -/
theorem append_ne_two_quotes {quote c : Char} {cs : List Char}
    (few : longestRun quote 0 (quote :: c :: cs) ≤ 2) (more : ¬(c = quote ∧ cs = []))
    (rest tail : List Char) : c :: cs ++ rest ≠ quote :: quote :: tail := by
  intro same
  cases cs with
  | nil => exact more ⟨(List.cons.inj same).1, rfl⟩
  | cons d cs =>
    simp only [List.cons_append, List.cons.injEq] at same
    have three := le_longestRun quote (0 + 1 + 1 + 1) cs
    rw [same.1, same.2.1] at few
    simp only [longestRun, if_true] at few
    omega

/-- Between three single quotes nothing is escaped. Again quotes at the end of the text are
given back to it. -/
theorem longLiteralText_append {rest : List Char} (ends : rest.head? ≠ some '\x27')
    {cs : List Char} (clean : ∀ c ∈ cs, c = '\n' ∨ c = '\x27' ∨ inLiteralText c = true)
    (few : longestRun '\x27' 0 cs ≤ 2) :
    longLiteralText (cs ++ '\x27' :: '\x27' :: '\x27' :: rest) = some (cs, rest) := by
  induction cs with
  | nil => rw [List.nil_append, longLiteralText.eq_2, closeQuotes_of_head?_ne ends]
  | cons c cs ih =>
    have next := ih (fun d later => clean d (List.mem_cons_of_mem c later))
      (Nat.le_trans (longestRun_tail _ c 0 cs) few)
    rw [List.cons_append]
    rcases clean c List.mem_cons_self with rfl | rfl | stands
    · rw [longLiteralText.eq_4, next]
      rfl
    · cases cs with
      | nil => rw [List.nil_append, longLiteralText.eq_2, closeQuotes_one ends]
      | cons d cs =>
        by_cases last : d = '\x27' ∧ cs = []
        · obtain ⟨rfl, rfl⟩ := last
          exact congrArg some (closeQuotes_two '\x27' rest)
        · rw [longLiteralText_quote (append_ne_two_quotes few last _), next]
          rfl
    · have quote : c ≠ '\x27' := ne_of_kind stands rfl
      have lineEnd : c ≠ '\n' := ne_of_kind stands rfl
      have carriage : c ≠ '\r' := ne_of_kind stands rfl
      rw [longLiteralText.eq_5 _ _ (fun _ same => absurd same quote)
        (fun _ same => absurd same carriage) lineEnd, stands, next]
      rfl

/-! ## The choice of a notation -/

theorem inLiteralText_of_inComment {c : Char} (allowed : inComment c = true)
    (quote : c ≠ '\x27') : inLiteralText c = true := by
  unfold inLiteralText
  rw [allowed, decide_eq_true quote]
  rfl

/-- Single quotes are put around a text only if it has none, on one line and without control
characters. -/
theorem Shape.of_literal {s : Shape} (chosen : s.style = .literal) :
    s.control = false ∧ s.singleQuotes = 0 ∧ s.lineEnd = false := by
  unfold Shape.style at chosen
  grind

/-- Three single quotes are put around a text only if it has no three of them in a row, and no
control characters. -/
theorem Shape.of_longLiteral {s : Shape} (chosen : s.style = .longLiteral) :
    s.control = false ∧ s.singleQuotes ≤ 2 := by
  unfold Shape.style at chosen
  grind

/-- A key is put between single quotes only if it has none, on one line and without control
characters; otherwise it is put between double quotes. -/
theorem Shape.keyStyle_cases (s : Shape) :
    s.keyStyle = .basic ∨
      (s.keyStyle = .literal ∧ s.control = false ∧ s.singleQuotes = 0 ∧ s.lineEnd = false) := by
  unfold Shape.keyStyle
  grind

/-- A text without control characters, but perhaps with line ends. -/
theorem inComment_of_shape {cs : List Char} (control : (shape cs).control = false) {c : Char}
    (listed : c ∈ cs) (lineEnd : c ≠ '\n') : inComment c = true := by
  apply inComment_of_not_control _ lineEnd
  have none := List.any_eq_false.1 control c listed
  simpa only [Bool.not_eq_true] using none

theorem ne_of_shape {cs : List Char} (lineEnd : (shape cs).lineEnd = false) {c : Char}
    (listed : c ∈ cs) : c ≠ '\n' := by
  rintro rfl
  have found : cs.contains '\n' = true := List.contains_iff_mem.2 listed
  exact Bool.false_ne_true (lineEnd.symm.trans found)

theorem clean_of_literal {cs : List Char} (control : (shape cs).control = false)
    (quotes : (shape cs).singleQuotes = 0) (lineEnd : (shape cs).lineEnd = false) :
    ∀ c ∈ cs, inLiteralText c = true := fun c listed =>
  inLiteralText_of_inComment (inComment_of_shape control listed (ne_of_shape lineEnd listed))
    (ne_of_longestRun_eq_zero quotes c listed)

theorem clean_of_longLiteral {cs : List Char} (control : (shape cs).control = false) :
    ∀ c ∈ cs, c = '\n' ∨ c = '\x27' ∨ inLiteralText c = true := by
  intro c listed
  by_cases lineEnd : c = '\n'
  · exact .inl lineEnd
  · by_cases quote : c = '\x27'
    · exact .inr (.inl quote)
    · exact .inr (.inr
        (inLiteralText_of_inComment (inComment_of_shape control listed lineEnd) quote))

/-! ## Texts -/

theorem lineEnd?_cons {c : Char} (lineEnd : c ≠ '\n') (carriage : c ≠ '\r')
    (rest : List Char) : lineEnd? (c :: rest) = none :=
  lineEnd?.eq_3 _ (fun _ same => lineEnd (List.cons.inj same).1)
    (fun _ same => carriage (List.cons.inj same).1)

theorem Escapes.lineEnd? {c : Char} {cs : List Char} (escapes : Escapes c cs)
    (rest : List Char) : lineEnd? (cs ++ rest) = none := by
  cases escapes with
  | plain stands =>
    have lineEnd : c ≠ '\n' := ne_of_kind stands rfl
    have carriage : c ≠ '\r' := ne_of_kind stands rfl
    exact lineEnd?_cons lineEnd carriage rest
  | letter | code => rfl

/-- A line end is put behind the opening quotes of a text that has line ends. Where none is
put, none is found. -/
theorem skipLineEnd_opening {cs rest : List Char} (none : '\n' ∉ cs → lineEnd? rest = none) :
    skipLineEnd (opening cs ++ rest) = rest := by
  unfold opening
  by_cases found : '\n' ∈ cs
  · rw [if_pos (List.contains_iff_mem.2 found)]
    rfl
  · rw [if_neg (fun seen => found (List.contains_iff_mem.1 seen))]
    unfold skipLineEnd
    rw [List.nil_append, none found]
    rfl

theorem lineEnd?_escapeLong {cs : List Char} (lineEnd : '\n' ∉ cs) (rest : List Char) :
    lineEnd? (escapeLong 0 cs ++ '\x22' :: rest) = none := by
  cases cs with
  | nil => rfl
  | cons c cs =>
    unfold escapeLong
    split
    · rfl
    split
    · rename_i same
      exact absurd (same ▸ List.mem_cons_self) lineEnd
    · rename_i quote other
      rw [List.append_assoc]
      exact (escapes_plain quote other).lineEnd? _

theorem lineEnd?_longLiteral {cs : List Char} (lineEnd : '\n' ∉ cs)
    (clean : ∀ c ∈ cs, c = '\n' ∨ c = '\x27' ∨ inLiteralText c = true) (rest : List Char) :
    lineEnd? (cs ++ '\x27' :: rest) = none := by
  cases cs with
  | nil => rfl
  | cons c cs =>
    rcases clean c List.mem_cons_self with rfl | rfl | stands
    · exact absurd List.mem_cons_self lineEnd
    · rfl
    · have other : c ≠ '\n' := ne_of_kind stands rfl
      have carriage : c ≠ '\r' := ne_of_kind stands rfl
      exact lineEnd?_cons other carriage _

theorem text?_basic (cs : List Char) {rest : List Char} (ends : rest.head? ≠ some '\x22') :
    text? (writeStyled cs .basic ++ rest) = some (String.ofList cs, rest) := by
  have single (tail : List Char) :
      cs.flatMap escapeBasic ++ '\x22' :: rest ≠ '\x22' :: '\x22' :: tail := by
    cases cs with
    | nil =>
      intro same
      exact ends (congrArg List.head? (List.cons.inj same).2)
    | cons c cs =>
      rw [List.flatMap_cons, List.append_assoc]
      exact (escapes_basic c).ne_quote _ _
  unfold writeStyled
  dsimp only
  rw [List.cons_append, List.cons_append, List.append_assoc, List.singleton_append,
    text?.eq_2 _ single, basicText_flatMap_escapeBasic]
  rfl

theorem text?_literal {cs : List Char} (clean : ∀ c ∈ cs, inLiteralText c = true)
    {rest : List Char} (ends : rest.head? ≠ some '\x27') :
    text? (writeStyled cs .literal ++ rest) = some (String.ofList cs, rest) := by
  have single (tail : List Char) : cs ++ '\x27' :: rest ≠ '\x27' :: '\x27' :: tail := by
    intro same
    cases cs with
    | nil => exact ends (congrArg List.head? (List.cons.inj same).2)
    | cons c cs =>
      have stands := clean c List.mem_cons_self
      rw [(List.cons.inj same).1] at stands
      cases stands
  unfold writeStyled
  dsimp only
  rw [List.cons_append, List.cons_append, List.append_assoc, List.singleton_append,
    text?.eq_4 _ single, literalText_append clean]
  rfl

theorem text?_longBasic (cs : List Char) {rest : List Char} (ends : rest.head? ≠ some '\x22') :
    text? (writeStyled cs .longBasic ++ rest) = some (String.ofList cs, rest) := by
  have opened : writeStyled cs .longBasic ++ rest = '\x22' :: '\x22' :: '\x22' ::
      (opening cs ++ (escapeLong 0 cs ++ '\x22' :: '\x22' :: '\x22' :: rest)) := by
    unfold writeStyled
    simp only [List.append_assoc, List.cons_append, List.nil_append]
  rw [opened, text?.eq_1, skipLineEnd_opening fun none => lineEnd?_escapeLong none _,
    longBasicText_escapeLong ends cs (Nat.zero_le 2)]
  rfl

theorem text?_longLiteral {cs : List Char}
    (clean : ∀ c ∈ cs, c = '\n' ∨ c = '\x27' ∨ inLiteralText c = true)
    (few : longestRun '\x27' 0 cs ≤ 2) {rest : List Char} (ends : rest.head? ≠ some '\x27') :
    text? (writeStyled cs .longLiteral ++ rest) = some (String.ofList cs, rest) := by
  have opened : writeStyled cs .longLiteral ++ rest = '\x27' :: '\x27' :: '\x27' ::
      (opening cs ++ (cs ++ '\x27' :: '\x27' :: '\x27' :: rest)) := by
    unfold writeStyled
    simp only [List.append_assoc, List.cons_append, List.nil_append]
  rw [opened, text?.eq_3, skipLineEnd_opening fun none => lineEnd?_longLiteral none clean _,
    longLiteralText_append ends clean few]
  rfl

/-- Whatever notation is chosen for a text, it is read back, if no quote follows it. -/
theorem text?_writeText (text : String) {rest : List Char} (double : rest.head? ≠ some '\x22')
    (single : rest.head? ≠ some '\x27') :
    text? (writeText text ++ rest) = some (text, rest) := by
  have whole : String.ofList text.toList = text := String.ofList_toList
  unfold writeText
  dsimp only
  cases chosen : (shape text.toList).style with
  | basic => rw [text?_basic _ double, whole]
  | literal =>
    obtain ⟨control, quotes, lineEnd⟩ := Shape.of_literal chosen
    rw [text?_literal (clean_of_literal control quotes lineEnd) single, whole]
  | longBasic => rw [text?_longBasic _ double, whole]
  | longLiteral =>
    obtain ⟨control, quotes⟩ := Shape.of_longLiteral chosen
    rw [text?_longLiteral (clean_of_longLiteral control) quotes single, whole]

/-- A text begins with a quote. -/
theorem exists_writeText (text : String) :
    ∃ c cs, writeText text = c :: cs ∧ (c = '\x22' ∨ c = '\x27') := by
  unfold writeText
  dsimp only
  cases (shape text.toList).style with
  | basic | longBasic => exact ⟨_, _, rfl, .inl rfl⟩
  | literal | longLiteral => exact ⟨_, _, rfl, .inr rfl⟩

/-! ## Keys -/

theorem isBareKey_iff {cs : List Char} :
    isBareKey cs = true ↔ cs ≠ [] ∧ ∀ c ∈ cs, inBareKey c = true := by
  unfold isBareKey
  rw [Bool.and_eq_true, List.all_eq_true, Bool.not_eq_true', List.isEmpty_eq_false_iff]
  rfl

/-- A key that needs no quotes ends where a character follows that needs them. -/
theorem keyPart?_bare {cs : List Char} (bare : isBareKey cs = true) {rest : List Char}
    (ends : ∀ c ∈ rest.head?, inBareKey c = false) :
    keyPart? (cs ++ rest) = some (String.ofList cs, rest) := by
  obtain ⟨nonempty, all⟩ := isBareKey_iff.1 bare
  obtain ⟨c, cs, rfl⟩ := List.exists_cons_of_ne_nil nonempty
  have first := all c List.mem_cons_self
  have none : rest.takeWhile inBareKey = [] ∧ rest.dropWhile inBareKey = rest := by
    cases rest with
    | nil => exact ⟨rfl, rfl⟩
    | cons d rest =>
      have other : inBareKey d = false := ends d rfl
      rw [List.takeWhile_cons, List.dropWhile_cons, other]
      exact ⟨rfl, rfl⟩
  rw [keyPart?.eq_3]
  · rw [List.takeWhile_append_of_pos all, List.dropWhile_append_of_pos all, none.1, none.2,
      List.append_nil]
    rfl
  · intro tail same
    rw [(List.cons.inj same).1] at first
    cases first
  · intro tail same
    rw [(List.cons.inj same).1] at first
    cases first

theorem keyPart?_basic (cs rest : List Char) :
    keyPart? (writeStyled cs .basic ++ rest) = some (String.ofList cs, rest) := by
  unfold writeStyled
  dsimp only
  rw [List.cons_append, List.cons_append, List.append_assoc, List.singleton_append,
    keyPart?.eq_1, basicText_flatMap_escapeBasic]
  rfl

theorem keyPart?_literal {cs : List Char} (clean : ∀ c ∈ cs, inLiteralText c = true)
    (rest : List Char) :
    keyPart? (writeStyled cs .literal ++ rest) = some (String.ofList cs, rest) := by
  unfold writeStyled
  dsimp only
  rw [List.cons_append, List.cons_append, List.append_assoc, List.singleton_append,
    keyPart?.eq_2, literalText_append clean]
  rfl

/-- However a key is written, it is read back. -/
theorem keyPart?_writeKey (name : String) {rest : List Char}
    (ends : ∀ c ∈ rest.head?, inBareKey c = false) :
    keyPart? (writeKey name ++ rest) = some (name, rest) := by
  have whole : String.ofList name.toList = name := String.ofList_toList
  unfold writeKey
  dsimp only
  split
  · rename_i bare
    rw [keyPart?_bare bare ends, whole]
  · rcases (shape name.toList).keyStyle_cases with
      basic | ⟨literal, control, quotes, lineEnd⟩
    · rw [basic, keyPart?_basic, whole]
    · rw [literal, keyPart?_literal (clean_of_literal control quotes lineEnd), whole]

/-- A key begins with a quote or with a character that needs none. -/
theorem exists_writeKey (name : String) :
    ∃ c cs, writeKey name = c :: cs ∧ (c = '\x22' ∨ c = '\x27' ∨ inBareKey c = true) := by
  unfold writeKey
  dsimp only
  split
  · rename_i bare
    obtain ⟨nonempty, all⟩ := isBareKey_iff.1 bare
    obtain ⟨c, cs, same⟩ := List.exists_cons_of_ne_nil nonempty
    exact ⟨c, cs, same, .inr (.inr (all c (same ▸ List.mem_cons_self)))⟩
  · rcases (shape name.toList).keyStyle_cases with basic | ⟨literal, -⟩
    · rw [basic]
      exact ⟨_, _, rfl, .inl rfl⟩
    · rw [literal]
      exact ⟨_, _, rfl, .inr (.inl rfl)⟩

end ConnectionPooling.Toml
