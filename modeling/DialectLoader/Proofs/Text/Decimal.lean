import DialectLoader.Text.Blank
import DialectLoader.Text.Digit

/-!
# Decimal numbers, read and written

Reading accepts any run of ASCII digits whose value stays below the bound, with leading zeros or
without. Writing never starts a number of several digits with a zero. So reading and writing again
gives the run without its needless zeros, and the run itself exactly when it has none. In particular
the written form is never longer than the run that was read.

Numbers are unbounded here; the bound is that of the machine word into which a number is to be read,
and it is checked once at the end of the run. Digits of other scripts are recognised as digits but
have no value, so a run with one of them cannot be read and nothing is said about its value.
-/

namespace DialectLoader.Text

variable {digits : List Char} {bound number : Nat}

/-- A run of digits without the zeros at its start; its last digit stays even if it is a zero, so
that something is left of a run that consists of zeros. -/
def dropNeedlessZeros : List Char → List Char
  | '0' :: digit :: rest => dropNeedlessZeros (digit :: rest)
  | digits => digits

theorem dropNeedlessZeros_zero (digit : Char) (rest : List Char) :
    dropNeedlessZeros ('0' :: digit :: rest) = dropNeedlessZeros (digit :: rest) := rfl

theorem dropNeedlessZeros_of_ne {digit : Char} (visible : digit ≠ '0') (rest : List Char) :
    dropNeedlessZeros (digit :: rest) = digit :: rest := by
  cases rest with
  | nil => simp [dropNeedlessZeros]
  | cons next rest => simp [dropNeedlessZeros, visible]

/-- Dropping zeros only shortens, and a run that keeps its length is kept whole. So a message in
which numbers are written anew never grows, and comparing lengths tells whether it changed. -/
theorem dropNeedlessZeros_length (digits : List Char) :
    (dropNeedlessZeros digits).length ≤ digits.length ∧
      ((dropNeedlessZeros digits).length = digits.length → dropNeedlessZeros digits = digits) := by
  fun_induction dropNeedlessZeros digits with
  | case1 digit rest ih =>
    obtain ⟨shorter, _⟩ := ih
    simp only [List.length_cons] at shorter ⊢
    constructor
    · omega
    · intro same
      omega
  | case2 digits => exact ⟨Nat.le_refl _, fun _ => rfl⟩

/-- An ASCII digit is written as the number that it stands for, which is a single digit. Nothing is
assumed of the character beyond that it could be read. -/
theorem digitValue?_spec {c : Char} {value : Nat} (read : digitValue? c = some value) :
    value < 10 ∧ Nat.digitChar value = c := by
  simp only [digitValue?, Option.ite_none_right_eq_some, Option.some.injEq] at read
  obtain ⟨⟨least, greatest⟩, rfl⟩ := read
  have lower : 48 ≤ c.toNat := least
  have upper : c.toNat ≤ 57 := greatest
  have zero : '0'.toNat = 48 := rfl
  refine ⟨by omega, ?_⟩
  apply Char.toNat_inj.mp
  rw [Nat.toNat_digitChar_of_lt_ten (by omega)]
  omega

/-- Digits read behind a positive value are written behind its digits. Each digit multiplies the
value by ten and adds itself, which is how a written number grows at its end. -/
theorem decimal_of_readDigitsFrom {value number : Nat} (positive : 0 < value)
    (read : readDigitsFrom value digits = some number) :
    decimal number = decimal value ++ digits := by
  induction digits generalizing value with
  | nil =>
    have same : value = number := Option.some.inj read
    simp [same]
  | cons c rest ih =>
    obtain ⟨digit, digitRead, restRead⟩ := Option.bind_eq_some_iff.mp read
    obtain ⟨single, written⟩ := digitValue?_spec digitRead
    have grown : decimal (10 * value + digit) = decimal value ++ [c] := by
      rw [← written, ← Nat.toDigits_of_lt_base single]
      exact (Nat.toDigits_append_toDigits (by decide) positive single).symm
    rw [ih (by omega) restRead, grown]
    simp

/-- A number that was read is written as its digits without needless zeros, whatever the bound
was. -/
theorem decimal_of_readDecimal? (read : readDecimal? bound digits = some number) :
    decimal number = dropNeedlessZeros digits := by
  have visible : digits ≠ [] := by
    rintro rfl
    simp [readDecimal?] at read
  have fromZero : readDigitsFrom 0 digits = some number := by
    simp only [readDecimal?, List.isEmpty_iff, visible, if_false, Option.filter_eq_some_iff] at read
    exact read.1
  clear read
  induction digits with
  | nil => exact absurd rfl visible
  | cons c rest ih =>
    obtain ⟨digit, digitRead, restRead⟩ := Option.bind_eq_some_iff.mp fromZero
    obtain ⟨single, written⟩ := digitValue?_spec digitRead
    rw [Nat.mul_zero, Nat.zero_add] at restRead
    have alone : decimal digit = [c] := by rw [← written]; exact Nat.toDigits_of_lt_base single
    rcases Nat.eq_zero_or_pos digit with rfl | positive
    · have zero : c = '0' := written.symm
      subst zero
      cases rest with
      | nil =>
        have same : 0 = number := Option.some.inj restRead
        rw [← same, alone]
        rfl
      | cons next rest =>
        rw [dropNeedlessZeros_zero]
        exact ih (by simp) restRead
    · have other : c ≠ '0' := by
        rintro rfl
        have zero : some 0 = some digit := digitRead
        exact absurd (Option.some.inj zero) (by omega)
      rw [dropNeedlessZeros_of_ne other, decimal_of_readDigitsFrom positive restRead, alone]
      rfl

/-- Digits are read one run after the other: the value of the first is what the second starts from,
and a run that cannot be read ends both. -/
theorem readDigitsFrom_append (value : Nat) (left right : List Char) :
    readDigitsFrom value (left ++ right) = (readDigitsFrom value left).bind
      (readDigitsFrom · right) := by
  induction left generalizing value with
  | nil => rfl
  | cons c rest ih =>
    simp only [List.cons_append, readDigitsFrom]
    cases digitValue? c with
    | none => rfl
    | some digit => exact ih _

theorem digitValue?_digitChar {digit : Nat} (single : digit < 10) :
    digitValue? digit.digitChar = some digit := by
  have each : ∀ digit < 10, digitValue? (Nat.digitChar digit) = some digit := by decide
  exact each digit single

/-- The written form of a number is read as that number. Its last digit is read behind the others,
which is the induction by which it was written. -/
theorem readDigitsFrom_decimal (number : Nat) :
    readDigitsFrom 0 (decimal number) = some number := by
  induction number using Nat.strongRecOn with
  | ind number ih =>
    by_cases single : number < 10
    · rw [decimal, Nat.toDigits_of_lt_base single]
      simp [readDigitsFrom, digitValue?_digitChar single]
    · have last : number % 10 < 10 := Nat.mod_lt _ (by decide)
      have grown : decimal number = decimal (number / 10) ++ [(number % 10).digitChar] := by
        rw [← Nat.toDigits_of_lt_base last]
        conv => lhs; rw [← Nat.div_add_mod number 10]
        exact (Nat.toDigits_append_toDigits (by decide) (by omega) last).symm
      rw [grown, readDigitsFrom_append, ih (number / 10) (by omega)]
      simp only [Option.bind_some, readDigitsFrom, digitValue?_digitChar last, Option.some.injEq]
      omega

/-- A number below the bound is read back from its written form. At the bound and above reading
fails, so the bound cannot be dropped. -/
theorem readDecimal?_decimal (small : number < bound) :
    readDecimal? bound (decimal number) = some number := by
  have visible : (decimal number).isEmpty = false := by
    rw [List.isEmpty_eq_false_iff]
    exact Nat.toDigits_ne_nil
  rw [readDecimal?, visible, readDigitsFrom_decimal]
  simp [small]

/-- A run that can be read has digits and nothing else, and it has at least one: the empty run is no
number. -/
theorem isDigit_of_readDecimal? (read : readDecimal? bound digits = some number) :
    digits ≠ [] ∧ ∀ c ∈ digits, isDigit c = true := by
  have ascii {c : Char} {value : Nat} (single : digitValue? c = some value) : isDigit c = true := by
    simp only [digitValue?, Option.ite_none_right_eq_some] at single
    have lower : 48 ≤ c.toNat := single.1.1
    have upper : c.toNat ≤ 57 := single.1.2
    simp only [isDigit, digitZeros, List.any_cons, Bool.or_eq_true, Bool.and_eq_true,
      decide_eq_true_eq]
    exact .inl ⟨lower, by omega⟩
  have each (value : Nat) (rest : List Char) (known : (readDigitsFrom value rest).isSome) :
      ∀ c ∈ rest, isDigit c = true := by
    induction rest generalizing value with
    | nil => simp
    | cons c rest ih =>
      obtain ⟨number, known⟩ := Option.isSome_iff_exists.mp known
      obtain ⟨digit, single, behind⟩ := Option.bind_eq_some_iff.mp known
      intro d member
      rcases List.mem_cons.mp member with rfl | later
      · exact ascii single
      · exact ih _ (by rw [behind]; rfl) d later
  by_cases empty : digits = []
  · simp [readDecimal?, empty] at read
  · simp only [readDecimal?, List.isEmpty_iff, empty, if_false, Option.filter_eq_some_iff] at read
    exact ⟨empty, each 0 digits (by rw [read.1]; rfl)⟩

theorem lt_of_readDecimal? (read : readDecimal? bound digits = some number) : number < bound := by
  unfold readDecimal? at read
  split at read
  · cases read
  · exact of_decide_eq_true (Option.filter_eq_some_iff.mp read).2

/-- The zeros at the start of a run have no value, however many there are. -/
theorem readDigitsFrom_zeros (count : Nat) (digits : List Char) :
    readDigitsFrom 0 (List.replicate count '0' ++ digits) = readDigitsFrom 0 digits := by
  induction count with
  | zero => rfl
  | succ count ih =>
    rw [List.replicate_succ, List.cons_append, ← ih]
    rfl

/-- What is dropped from the start of a run are zeros, so the run can be put together again from
their number and what is left. -/
theorem exists_zeros_append_dropNeedlessZeros (digits : List Char) :
    ∃ count, digits = List.replicate count '0' ++ dropNeedlessZeros digits := by
  fun_induction dropNeedlessZeros digits with
  | case1 digit rest ih =>
    obtain ⟨count, same⟩ := ih
    exact ⟨count + 1, by rw [List.replicate_succ, List.cons_append, ← same]⟩
  | case2 digits => exact ⟨0, rfl⟩

/-- A run is read as a number exactly if it is the written form of the number with zeros in front,
and the number is below the bound. This says all about reading, without following the digits. -/
theorem readDecimal?_eq_some_iff :
    readDecimal? bound digits = some number ↔
      number < bound ∧ ∃ count, digits = List.replicate count '0' ++ decimal number := by
  constructor
  · intro read
    obtain ⟨count, same⟩ := exists_zeros_append_dropNeedlessZeros digits
    exact ⟨lt_of_readDecimal? read, count, by rw [decimal_of_readDecimal? read, ← same]⟩
  · rintro ⟨small, count, rfl⟩
    have visible : (List.replicate count '0' ++ decimal number).isEmpty = false := by
      rw [List.isEmpty_eq_false_iff]
      exact List.append_ne_nil_of_right_ne_nil _ Nat.toDigits_ne_nil
    rw [readDecimal?, visible, readDigitsFrom_zeros, readDigitsFrom_decimal]
    simp [small]

theorem isDigit_of_mem_decimal {number : Nat} {c : Char} (member : c ∈ decimal number) :
    isDigit c = true :=
  (isDigit_of_readDecimal? (readDecimal?_decimal (Nat.lt_succ_self number))).2 c member

/-- A greater number is not written in fewer digits. Columns of line numbers are therefore as wide
as the last one needs. -/
theorem length_decimal_mono {number greater : Nat} (ordered : number ≤ greater) :
    (decimal number).length ≤ (decimal greater).length := by
  have bounded := (Nat.length_toDigits_le_iff (by decide) Nat.length_toDigits_pos).mp
    (Nat.le_refl (Nat.toDigits 10 greater).length)
  exact (Nat.length_toDigits_le_iff (by decide) Nat.length_toDigits_pos).mpr
    (Nat.lt_of_le_of_lt ordered bounded)

theorem isBlank_of_isDigit {c : Char} (digit : isDigit c = true) : isBlank c = false := by
  have disjoint : (blankRanges.all fun range => digitZeros.all fun first =>
      decide (range.2 < first) || decide (first + 10 ≤ range.1)) = true := by
    decide +kernel
  simp only [List.all_eq_true, Bool.or_eq_true, decide_eq_true_eq] at disjoint
  obtain ⟨first, zero, above, below⟩ : ∃ first ∈ digitZeros, first ≤ c.toNat ∧
      c.toNat < first + 10 := by
    simpa [isDigit] using digit
  rw [← Bool.not_eq_true]
  intro blank
  obtain ⟨range, blankRange, least, most⟩ : ∃ range ∈ blankRanges, range.1 ≤ c.toNat ∧
      c.toNat ≤ range.2 := by
    simpa [isBlank] using blank
  rcases disjoint range blankRange first zero with before | behind <;> omega

end DialectLoader.Text
