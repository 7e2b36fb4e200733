import BatteryTelemetry.Hex
import Mathlib.Tactic.IntervalCases
import Mathlib.Tactic.SplitIfs

/-!
# Digits in either case

A number may be written with leading zeros and with letters of either case. A digit has the value
of its lower-case form (`digit_toLower`), so reading is reading the lower-case text, and there the
digits that `Nat.toDigits` writes are read back (`readDigits_toDigits`). The same holds of the
pairs of digits of a payload (`Hex.decode_map_toLower`).
-/

namespace BatteryTelemetry

namespace Numeral

/-- The text has the digits of a number in either case, after any number of zeros. -/
def IsWritten (radix n : Nat) (text : List Char) : Prop :=
  ∃ zeros, text.map Char.toLower = List.replicate zeros '0' ++ Nat.toDigits radix n

theorem toNat_toLower (c : Char) :
    c.toLower.toNat = if 65 ≤ c.toNat ∧ c.toNat ≤ 90 then c.toNat + 32 else c.toNat := by
  have hge : c.val ≥ 'A'.val ↔ 65 ≤ c.toNat := UInt32.le_iff_toNat_le
  have hle : c.val ≤ 'Z'.val ↔ c.toNat ≤ 90 := UInt32.le_iff_toNat_le
  unfold Char.toLower
  split_ifs with h hn hn
  · change (c.toNat + 32) % 2 ^ 32 = c.toNat + 32
    omega
  · rw [hge, hle] at h
    exact absurd h hn
  · rw [hge, hle] at h
    exact absurd hn h
  · rfl

/-- Either case of a letter is the same digit. -/
theorem digit_toLower (radix : Nat) (c : Char) : digit? radix c.toLower = digit? radix c := by
  simp only [digit?, toNat_toLower]
  by_cases h : 65 ≤ c.toNat ∧ c.toNat ≤ 90
  · have hdigit : ¬(48 ≤ c.toNat ∧ c.toNat ≤ 57) := by omega
    have hlower : ¬(48 ≤ c.toNat + 32 ∧ c.toNat + 32 ≤ 57) := by omega
    have hupper : ¬(65 ≤ c.toNat + 32 ∧ c.toNat + 32 ≤ 90) := by omega
    have hletter : 97 ≤ c.toNat + 32 ∧ c.toNat + 32 ≤ 122 := by omega
    simp only [if_pos h, if_neg hdigit, if_neg hlower, if_neg hupper, if_pos hletter]
    rfl
  · simp only [if_neg h]

theorem digit_digitChar {radix d : Nat} (hradix : radix ≤ 16) (h : d < radix) :
    digit? radix d.digitChar = some d := by
  have hd : d < 16 := by omega
  interval_cases d <;> simp [digit?, Nat.digitChar, h]

theorem toLower_digitChar (d : Nat) : d.digitChar.toLower = d.digitChar := by
  rcases Nat.lt_or_ge d 16 with hd | hd
  · interval_cases d <;> rfl
  · rw [Nat.digitChar_eq_star.mpr hd]
    rfl

/-- Digits are the ten figures and letters. -/
theorem toNat_of_digit {radix d : Nat} {c : Char} (h : digit? radix c = some d) :
    48 ≤ c.toNat ∧ c.toNat ≤ 57 ∨ 65 ≤ c.toNat ∧ c.toNat ≤ 90 ∨
      97 ≤ c.toNat ∧ c.toNat ≤ 122 := by
  simp only [digit?] at h
  split_ifs at h <;> omega

theorem toLower_eq_plus_iff {c : Char} : c.toLower = '+' ↔ c = '+' := by
  rw [← Char.toNat_inj, ← Char.toNat_inj, toNat_toLower]
  have hplus : '+'.toNat = 43 := rfl
  split_ifs <;> omega

variable {radix limit : Nat}

/-- Digits are read on from the value of those before them. -/
theorem readDigits_append (value : Nat) (first second : List Char) :
    readDigits radix limit value (first ++ second) =
      (readDigits radix limit value first).bind (readDigits radix limit · second) := by
  induction first generalizing value with
  | nil => rfl
  | cons c rest ih =>
    simp only [List.cons_append, readDigits]
    cases digit? radix c with
    | none => rfl
    | some d =>
      dsimp only
      split_ifs
      · rfl
      · exact ih _

theorem readDigits_map_toLower (value : Nat) (text : List Char) :
    readDigits radix limit value (text.map Char.toLower) =
      readDigits radix limit value text := by
  induction text generalizing value with
  | nil => rfl
  | cons c rest ih => simp only [List.map_cons, readDigits, digit_toLower, ih]

/-- Zeros in front do not matter. -/
theorem readDigits_zeros (hradix : 0 < radix) (zeros : Nat) (text : List Char) :
    readDigits radix limit 0 (List.replicate zeros '0' ++ text) =
      readDigits radix limit 0 text := by
  have hzero : digit? radix '0' = some 0 := by simp [digit?, hradix]
  induction zeros with
  | zero => rfl
  | succ zeros ih => simpa [List.replicate_succ, readDigits, hzero] using ih

/-- Written digits are read back. -/
theorem readDigits_toDigits (hbase : 1 < radix) (hradix : radix ≤ 16) {n : Nat} (h : n ≤ limit) :
    readDigits radix limit 0 (Nat.toDigits radix n) = .ok n := by
  induction n using Nat.strongRecOn with
  | ind n ih =>
    by_cases hn : n < radix
    · rw [Nat.toDigits_of_lt_base hn]
      simp [readDigits, digit_digitChar hradix hn, h]
    · have hdiv : n / radix < n := Nat.div_lt_self (by omega) hbase
      have hmod : n % radix < radix := Nat.mod_lt n (by omega)
      have hvalue : n / radix * radix + n % radix = n := Nat.div_add_mod' n radix
      rw [Nat.toDigits_of_base_le hbase (by omega), readDigits_append, ih _ hdiv (by omega)]
      simp [Except.bind, readDigits, digit_digitChar hradix hmod, hvalue, h]

theorem map_toLower_toDigits (hbase : 1 < radix) (n : Nat) :
    (Nat.toDigits radix n).map Char.toLower = Nat.toDigits radix n := by
  induction n using Nat.strongRecOn with
  | ind n ih =>
    by_cases hn : n < radix
    · rw [Nat.toDigits_of_lt_base hn, List.map_singleton, toLower_digitChar]
    · have hdiv : n / radix < n := Nat.div_lt_self (by omega) hbase
      rw [Nat.toDigits_of_base_le hbase (by omega), List.map_append, ih _ hdiv,
        List.map_singleton, toLower_digitChar]

theorem isSome_digit_of_readDigits {value n : Nat} {text : List Char}
    (h : readDigits radix limit value text = .ok n) : ∀ c ∈ text, (digit? radix c).isSome := by
  induction text generalizing value with
  | nil => simp
  | cons c rest ih =>
    simp only [readDigits] at h
    split at h
    · cases h
    · rename_i d hd
      split_ifs at h
      exact List.forall_mem_cons.mpr ⟨by simp [hd], ih h⟩

theorem read_cons_of_ne_plus {c : Char} (h : c ≠ '+') (rest : List Char) :
    read radix limit (c :: rest) = readDigits radix limit 0 (c :: rest) := by
  simp [read, h]

/-- Either case is read alike, the sign included. -/
theorem read_map_toLower (text : List Char) :
    read radix limit (text.map Char.toLower) = read radix limit text := by
  cases text with
  | nil => rfl
  | cons c rest =>
    by_cases h : c = '+'
    · subst h
      cases rest with
      | nil => rfl
      | cons d rest => exact readDigits_map_toLower 0 (d :: rest)
    · rw [read_cons_of_ne_plus h, List.map_cons,
        read_cons_of_ne_plus (mt toLower_eq_plus_iff.mp h)]
      exact readDigits_map_toLower 0 (c :: rest)

theorem read_of_readDigits {text : List Char} {n : Nat} (hne : text ≠ [])
    (h : readDigits radix limit 0 text = .ok n) : read radix limit text = .ok n := by
  cases text with
  | nil => exact absurd rfl hne
  | cons c rest =>
    have hplus : c ≠ '+' := by
      rintro rfl
      obtain ⟨d, hd⟩ := Option.isSome_iff_exists.mp (isSome_digit_of_readDigits h '+' (by simp))
      have hrange := toNat_of_digit hd
      simp at hrange
    rw [read_cons_of_ne_plus hplus, h]

namespace IsWritten

variable {n : Nat} {text : List Char}

theorem readDigits (h : IsWritten radix n text) (hbase : 1 < radix) (hradix : radix ≤ 16)
    (hlimit : n ≤ limit) : readDigits radix limit 0 text = .ok n := by
  obtain ⟨zeros, htext⟩ := h
  rw [← readDigits_map_toLower, htext, readDigits_zeros (by omega),
    readDigits_toDigits hbase hradix hlimit]

theorem ne_nil (h : IsWritten radix n text) : text ≠ [] := by
  obtain ⟨zeros, htext⟩ := h
  rintro rfl
  simp [Nat.toDigits_ne_nil] at htext

theorem read (h : IsWritten radix n text) (hbase : 1 < radix) (hradix : radix ≤ 16)
    (hlimit : n ≤ limit) : read radix limit text = .ok n :=
  read_of_readDigits h.ne_nil (h.readDigits hbase hradix hlimit)

theorem isSome_digit (h : IsWritten radix n text) (hbase : 1 < radix) (hradix : radix ≤ 16) :
    ∀ c ∈ text, (digit? radix c).isSome :=
  isSome_digit_of_readDigits (h.readDigits hbase hradix le_rfl)

end IsWritten

theorem isWritten_toDigits (hbase : 1 < radix) (n : Nat) :
    IsWritten radix n (Nat.toDigits radix n) :=
  ⟨0, map_toLower_toDigits hbase n⟩

/-- Padding adds zeros in front. -/
theorem isWritten_padded (hbase : 1 < radix) (width n : Nat) :
    IsWritten radix n (padded radix width n) := by
  refine ⟨width - (Nat.toDigits radix n).length, ?_⟩
  simp only [padded, List.map_append, List.map_replicate, map_toLower_toDigits hbase]
  rfl

end Numeral

namespace Hex

/-- The text has the digits of bytes in either case. -/
def IsWritten (data : List UInt8) (text : List Char) : Prop :=
  text.map Char.toLower = encode data

/-- Payloads may be written in either case. -/
theorem decode_map_toLower : ∀ text, decode? (text.map Char.toLower) = decode? text
  | [] => rfl
  | [_] => rfl
  | high :: low :: rest => by
    have hpair := @Numeral.read_map_toLower 16 255 [high, low]
    simp only [List.map_cons, List.map_nil] at hpair
    simp only [List.map_cons, decode?, hpair, decode_map_toLower rest]

theorem mem_encode {data : List UInt8} {c : Char} (h : c ∈ encode data) :
    ∃ d < 16, c = Nat.digitChar d := by
  simp only [encode, List.mem_flatMap, encodeByte, List.mem_cons, List.not_mem_nil,
    or_false] at h
  obtain ⟨byte, -, rfl | rfl⟩ := h
  · exact ⟨_, Nat.div_lt_of_lt_mul byte.toNat_lt, rfl⟩
  · exact ⟨_, Nat.mod_lt _ (by decide), rfl⟩

/-- What is displayed of bytes has their digits. -/
theorem isWritten_encode (data : List UInt8) : IsWritten data (encode data) := by
  refine (List.map_congr_left ?_).trans (List.map_id _)
  intro c hc
  obtain ⟨d, -, rfl⟩ := mem_encode hc
  exact Numeral.toLower_digitChar d

/-- Only the empty text stands for no bytes. -/
theorem decode_eq_some_nil_iff {text : List Char} : decode? text = some [] ↔ text = [] := by
  cases text using decode?.fun_cases <;> simp_all [decode?]

namespace IsWritten

variable {data : List UInt8} {text : List Char}

theorem decode (h : IsWritten data text) : decode? text = some data := by
  rw [← decode_map_toLower, h, decode_encode]

theorem eq_nil_iff (h : IsWritten data text) : text = [] ↔ data = [] := by
  rw [← decode_eq_some_nil_iff, h.decode, Option.some_inj]

theorem isSome_digit (h : IsWritten data text) : ∀ c ∈ text, (Numeral.digit? 16 c).isSome := by
  intro c hc
  rw [← Numeral.digit_toLower]
  obtain ⟨d, hd, hlower⟩ := mem_encode (h ▸ List.mem_map_of_mem hc)
  rw [hlower, Numeral.digit_digitChar le_rfl hd]
  rfl

end IsWritten

end Hex

end BatteryTelemetry
