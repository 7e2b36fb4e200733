import BatteryTelemetry.Number.Style
import BatteryTelemetry.Proofs.Number.Decimal

/-!
# Numerals

A numeral has a whole part without superfluous zeros, perhaps a fraction after a point and perhaps a
power of ten, and it stands for a decimal (`Decimal.ofText?`). It is read from its parts
(`ofText_append`), and no other characters than those of its parts are in it.
-/

namespace BatteryTelemetry

namespace Decimal

def ofDigits (digits : List Char) : ℕ := Nat.ofDigitChars 10 digits 0

/-- Digits of which the first is a zero only if it is the only one. -/
def isWhole (digits : List Char) : Bool :=
  digits.all Char.isDigit && (digits == ['0'] || digits.head?.any (· != '0'))

/-- The digits of a fraction, which stand behind a point. -/
def fraction? : List Char → Option (List Char)
  | [] => some []
  | _ :: digits => if digits ≠ [] ∧ digits.all Char.isDigit then some digits else none

def natural? (digits : List Char) : Option ℕ :=
  if digits ≠ [] ∧ digits.all Char.isDigit then some (ofDigits digits) else none

/-- The power of ten, which stands behind an `e`. -/
def power? : List Char → Option ℤ
  | [] => some 0
  | _ :: '-' :: digits => (natural? digits).map fun n : ℕ ↦ -(n : ℤ)
  | _ :: '+' :: digits => (natural? digits).map fun n : ℕ ↦ (n : ℤ)
  | _ :: digits => (natural? digits).map fun n : ℕ ↦ (n : ℤ)

/-- The decimal of a numeral without a sign. -/
def ofText? (text : List Char) : Option Decimal :=
  let mantissa := text.takeWhile (· != 'e')
  let whole := mantissa.takeWhile (· != '.')
  if isWhole whole then
    match fraction? (mantissa.dropWhile (· != '.')), power? (text.dropWhile (· != 'e')) with
    | some digits, some power => some ⟨ofDigits (whole ++ digits), power - digits.length⟩
    | _, _ => none
  else none

variable {whole digits rest text : List Char} {c : Char} {power : ℤ} {n : ℕ}

/-- A fraction behind its point; no point stands without a fraction. -/
def pointed : List Char → List Char
  | [] => []
  | digits => '.' :: digits

theorem ne_of_isDigit {mark : Char} (hmark : mark.isDigit = false) (h : c.isDigit) :
    (c != mark) = true := by
  rw [bne_iff_ne]
  rintro rfl
  rw [hmark] at h
  cases h

theorem fraction_pointed (h : digits.all Char.isDigit) : fraction? (pointed digits) = some digits := by
  cases digits with
  | nil => rfl
  | cons c rest => exact if_pos ⟨List.cons_ne_nil c rest, h⟩

/-- A numeral is read part by part. -/
theorem ofText_append (hwhole : isWhole whole) (hdigits : digits.all Char.isDigit)
    (hrest : ∀ c ∈ rest.head?, c = 'e') :
    ofText? (whole ++ pointed digits ++ rest) = (power? rest).map fun power ↦
      ⟨ofDigits (whole ++ digits), power - digits.length⟩ := by
  have hall : ∀ c ∈ whole, c.isDigit := by
    simp only [isWhole, Bool.and_eq_true, List.all_eq_true] at hwhole
    exact hwhole.1
  have hall' : ∀ c ∈ digits, c.isDigit := List.all_eq_true.mp hdigits
  have hmantissa : ∀ c ∈ whole ++ pointed digits, (c != 'e') = true := by
    intro c hc
    rcases List.mem_append.mp hc with hc | hc
    · exact ne_of_isDigit (by decide) (hall c hc)
    · cases digits with
      | nil => cases hc
      | cons d others =>
        rcases List.mem_cons.mp hc with rfl | hc
        · decide
        · exact ne_of_isDigit (by decide) (hall' c hc)
  have hpower : rest.takeWhile (· != 'e') = [] ∧ rest.dropWhile (· != 'e') = rest := by
    cases rest with
    | nil => simp
    | cons c others =>
      obtain rfl := hrest c rfl
      simp
  have hpoint : (pointed digits).takeWhile (· != '.') = [] ∧
      (pointed digits).dropWhile (· != '.') = pointed digits := by
    cases digits <;> simp [pointed]
  have hplain : ∀ c ∈ whole, (c != '.') = true := fun c hc ↦ ne_of_isDigit (by decide) (hall c hc)
  simp only [ofText?, List.takeWhile_append_of_pos hmantissa, List.dropWhile_append_of_pos hmantissa,
    hpower, List.append_nil, List.takeWhile_append_of_pos hplain, List.dropWhile_append_of_pos hplain,
    hpoint, if_pos hwhole, fraction_pointed hdigits]
  cases power? rest <;> rfl

/-- The digits before and behind the point are one number, and the power makes up for the point. -/
theorem exists_ofText_append (hwhole : isWhole whole) (hdigits : digits.all Char.isDigit)
    (hrest : ∀ c ∈ rest.head?, c = 'e') (hpower : power? rest = some power) : ∃ decimal,
      ofText? (whole ++ pointed digits ++ rest) = some decimal ∧
        decimal.value = ofDigits (whole ++ digits) * 10 ^ (power - digits.length) := by
  rw [ofText_append hwhole hdigits hrest, hpower]
  exact ⟨_, rfl, rfl⟩

theorem exists_ofText_pointed (hwhole : isWhole whole) (hdigits : digits.all Char.isDigit) :
    ∃ decimal, ofText? (whole ++ pointed digits) = some decimal ∧
      decimal.value = ofDigits (whole ++ digits) * 10 ^ (0 - digits.length : ℤ) := by
  have hrest : ∀ c ∈ ([] : List Char).head?, c = 'e' := by simp
  have htext := exists_ofText_append hwhole hdigits hrest rfl
  rwa [List.append_nil] at htext

theorem isDigit_toDigits (n : ℕ) : (Nat.toDigits 10 n).all Char.isDigit :=
  List.all_eq_true.mpr fun _ hc ↦ Nat.isDigit_of_mem_toDigits (by decide) (by decide) hc

theorem isDigit_zeros (count : ℕ) : (NumberStyle.zeros count).all Char.isDigit := by
  simp [NumberStyle.zeros]

theorem ofDigits_toDigits (n : ℕ) : ofDigits (Nat.toDigits 10 n) = n := Nat.ofDigitChars_ten_toDigits

/-- Zeros behind digits multiply by powers of ten. -/
theorem ofDigits_append_zeros (digits : List Char) (count : ℕ) :
    ofDigits (digits ++ NumberStyle.zeros count) = ofDigits digits * 10 ^ count := by
  rw [ofDigits, Nat.ofDigitChars_append, NumberStyle.zeros, Nat.ofDigitChars_replicate_zero,
    Nat.mul_comm, ofDigits]

theorem ofDigits_zeros_append (count : ℕ) (digits : List Char) :
    ofDigits (NumberStyle.zeros count ++ digits) = ofDigits digits := by
  rw [ofDigits, Nat.ofDigitChars_append, NumberStyle.zeros, Nat.ofDigitChars_replicate_zero,
    Nat.mul_zero, ofDigits]

/-- The digits of a positive number do not begin with a zero. -/
theorem head_toDigits_ne_zero (h : 0 < n) : (Nat.toDigits 10 n).head? ≠ some '0' := by
  induction n using Nat.strongRecOn with
  | ind n ih =>
    rcases Nat.lt_or_ge n 10 with hlt | hge
    · rw [Nat.toDigits_of_lt_base hlt]
      have hdigit : ∀ d < 10, 0 < d → d.digitChar ≠ '0' := by decide
      simpa using hdigit n hlt h
    · rw [Nat.toDigits_of_base_le (by decide) hge, List.head?_append_of_ne_nil _ Nat.toDigits_ne_nil]
      exact ih _ (Nat.div_lt_self h (by decide)) (Nat.div_pos hge (by decide))

/-- One or more digits of which the first is no zero. -/
structure IsSignificant (digits : List Char) : Prop where
  isDigit : digits.all Char.isDigit
  ne_nil : digits ≠ []
  head_ne : digits.head? ≠ some '0'

theorem isSignificant_toDigits (h : 0 < n) : IsSignificant (Nat.toDigits 10 n) :=
  ⟨isDigit_toDigits n, Nat.toDigits_ne_nil, head_toDigits_ne_zero h⟩

theorem IsSignificant.isWhole (h : IsSignificant digits) : isWhole digits := by
  cases digits with
  | nil => exact absurd rfl h.ne_nil
  | cons c others =>
    have hc : c ≠ '0' := fun heq ↦ h.head_ne (congrArg some heq)
    rw [Decimal.isWhole, h.isDigit]
    simp [hc]

/-- Zeros behind digits leave the first one as it is. -/
theorem IsSignificant.append_zeros (h : IsSignificant digits) (count : ℕ) :
    IsSignificant (digits ++ NumberStyle.zeros count) where
  isDigit := by
    rw [List.all_append, h.isDigit, isDigit_zeros]
    rfl
  ne_nil := by simp [h.ne_nil]
  head_ne := by
    rw [List.head?_append_of_ne_nil _ h.ne_nil]
    exact h.head_ne

theorem IsSignificant.take (h : IsSignificant digits) {count : ℕ} (hcount : count ≠ 0) :
    IsSignificant (digits.take count) where
  isDigit := List.all_eq_true.mpr fun c hc ↦
    List.all_eq_true.mp h.isDigit c (List.mem_of_mem_take hc)
  ne_nil := by simp [h.ne_nil, hcount]
  head_ne := by
    rw [List.head?_take, if_neg hcount]
    exact h.head_ne

theorem isWhole_toDigits (n : ℕ) : isWhole (Nat.toDigits 10 n) := by
  rcases Nat.eq_zero_or_pos n with rfl | hpos
  · decide
  · exact (isSignificant_toDigits hpos).isWhole

def isCharacter (c : Char) : Bool := c.isDigit || ['.', 'e', '+', '-'].contains c

theorem isCharacter_of_isDigit {c : Char} (h : c.isDigit) : isCharacter c := by
  rw [isCharacter, h]
  rfl

theorem isCharacter_of_natural {n : ℕ} (h : natural? digits = some n) :
    ∀ c ∈ digits, isCharacter c := by
  rw [natural?, Option.ite_none_right_eq_some] at h
  exact fun c hc ↦ isCharacter_of_isDigit (List.all_eq_true.mp h.1.2 c hc)

/-- A power of ten has digits and a sign behind its `e`. -/
theorem isCharacter_of_power {power : ℤ} (h : power? text = some power)
    (hhead : ∀ c ∈ text.head?, c = 'e') : ∀ c ∈ text, isCharacter c := by
  have hsign {c : Char} {digits : List Char} {f : ℕ → ℤ} (hc : isCharacter c)
      (h : (natural? digits).map f = some power) : ∀ d ∈ c :: digits, isCharacter d := by
    obtain ⟨n, hn, -⟩ := Option.map_eq_some_iff.mp h
    exact List.forall_mem_cons.mpr ⟨hc, isCharacter_of_natural hn⟩
  cases text with
  | nil => simp
  | cons mark rest =>
    obtain rfl := hhead mark rfl
    refine List.forall_mem_cons.mpr ⟨by decide, ?_⟩
    unfold power? at h
    split at h
    · rename_i heq
      cases heq
    · rename_i heq
      obtain rfl := (List.cons.inj heq).2
      exact hsign (by decide) h
    · rename_i heq
      obtain rfl := (List.cons.inj heq).2
      exact hsign (by decide) h
    · rename_i heq
      obtain rfl := (List.cons.inj heq).2
      obtain ⟨n, hn, -⟩ := Option.map_eq_some_iff.mp h
      exact isCharacter_of_natural hn

theorem isCharacter_of_fraction (h : fraction? text = some digits)
    (hhead : ∀ c ∈ text.head?, c = '.') : ∀ c ∈ text, isCharacter c := by
  cases text with
  | nil => simp
  | cons mark rest =>
    obtain rfl := hhead mark rfl
    rw [fraction?, Option.ite_none_right_eq_some] at h
    refine List.forall_mem_cons.mpr ⟨by decide, fun c hc ↦ ?_⟩
    exact isCharacter_of_isDigit (List.all_eq_true.mp h.1.2 c hc)

theorem head_dropWhile_eq {mark c : Char} (h : c ∈ (text.dropWhile (· != mark)).head?) :
    c = mark := by
  have hhead := List.head?_dropWhile_not (· != mark) text
  rw [Option.mem_def.mp h] at hhead
  simpa using hhead

/-- Whatever is read as a numeral has characters of numerals only. -/
theorem isCharacter_of_ofText {decimal : Decimal} (h : ofText? text = some decimal) :
    ∀ c ∈ text, isCharacter c := by
  unfold ofText? at h
  dsimp only at h
  rw [Option.ite_none_right_eq_some] at h
  obtain ⟨hwhole, h⟩ := h
  rw [isWhole, Bool.and_eq_true] at hwhole
  split at h
  · rename_i digits power hfraction hpower
    intro c hc
    rw [← List.takeWhile_append_dropWhile (p := (· != 'e')) (l := text), List.mem_append,
      ← List.takeWhile_append_dropWhile (p := (· != '.')) (l := text.takeWhile (· != 'e')),
      List.mem_append] at hc
    rcases hc with (hc | hc) | hc
    · exact isCharacter_of_isDigit (List.all_eq_true.mp hwhole.1 c hc)
    · exact isCharacter_of_fraction hfraction (fun _ ↦ head_dropWhile_eq) c hc
    · exact isCharacter_of_power hpower (fun _ ↦ head_dropWhile_eq) c hc
  · cases h

end Decimal

end BatteryTelemetry
