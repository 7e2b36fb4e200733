import BatteryTelemetry.Proofs.Capture.Slices

/-!
# Which payloads are read

Each pair of characters is read as a numeral of its own, and a numeral may begin with a plus sign.
A pair is therefore two hexadecimal digits or a plus sign and one digit, in which the sign counts
like a zero. A text is read exactly if it shows the digits of some bytes, in either case, once a
zero stands for each of these signs (`decode_eq_some_iff`). Among the texts without a plus sign
these are exactly the hexadecimal renderings of byte strings; a plus sign and a digit are read too
and are none.
-/

namespace BatteryTelemetry

namespace Numeral

theorem digit_lt {radix d : Nat} {c : Char} (h : digit? radix c = some d) : d < radix := by
  simp only [digit?] at h
  split_ifs at h <;> simp_all

theorem toNat_digitChar : ∀ d < 16, d.digitChar.toNat = if d < 10 then 48 + d else 87 + d := by
  decide

/-- A digit in either case is the one that is written for its value. -/
theorem toLower_eq_digitChar {d : Nat} {c : Char} (h : digit? 16 c = some d) :
    c.toLower = d.digitChar := by
  have hd := toNat_digitChar d (digit_lt h)
  rw [← Char.toNat_inj, toNat_toLower, hd]
  simp only [digit?] at h
  split_ifs at h ⊢ <;> simp_all <;> omega

end Numeral

namespace Hex

variable {text : List Char} {data : List UInt8}

/-- The text is an even number of hexadecimal digits. -/
def IsRendering (text : List Char) : Prop :=
  text.length % 2 = 0 ∧ ∀ c ∈ text, (Numeral.digit? 16 c).isSome

/-- A plus sign counts like a zero. -/
def unsignedDigit (c : Char) : Char := if c = '+' then '0' else c

/-- The text with a zero for the plus sign of each pair. -/
def unsigned : List Char → List Char
  | high :: low :: rest => unsignedDigit high :: low :: unsigned rest
  | text => text

/-- Only the first character of a pair may be a plus sign. -/
theorem read_pair (high low : Char) :
    Numeral.read 16 255 [high, low] = Numeral.readDigits 16 255 0 [unsignedDigit high, low] := by
  by_cases h : high = '+'
  · subst h
    exact (Numeral.readDigits_zeros (by decide) 1 [low]).symm
  · rw [unsignedDigit, if_neg h, Numeral.read_cons_of_ne_plus h]

/-- A pair is a byte if both of its characters are digits. -/
theorem read_pair_eq_ok_iff {high low : Char} {value : Nat} :
    Numeral.read 16 255 [high, low] = .ok value ↔
      ∃ a b, Numeral.digit? 16 (unsignedDigit high) = some a ∧ Numeral.digit? 16 low = some b ∧
        value = a * 16 + b := by
  rw [read_pair]
  cases ha : Numeral.digit? 16 (unsignedDigit high) with
  | none => simp [Numeral.readDigits, ha]
  | some a =>
    have hlt := Numeral.digit_lt ha
    have hfirst : ¬255 < a := by omega
    cases hb : Numeral.digit? 16 low with
    | none => simp [Numeral.readDigits, ha, hb, if_neg hfirst]
    | some b =>
      have hlt' := Numeral.digit_lt hb
      have hboth : ¬255 < a * 16 + b := by omega
      simp [Numeral.readDigits, ha, hb, if_neg hfirst, if_neg hboth, eq_comm]

/-- A pair can be read if both its characters are digits, a plus sign in front counting as one. -/
theorem exists_read_pair_iff {high low : Char} :
    (∃ value, Numeral.read 16 255 [high, low] = .ok value) ↔
      (Numeral.digit? 16 (unsignedDigit high)).isSome ∧ (Numeral.digit? 16 low).isSome := by
  simp only [read_pair_eq_ok_iff, Option.isSome_iff_exists]
  constructor
  · rintro ⟨value, a, b, ha, hb, -⟩
    exact ⟨⟨a, ha⟩, b, hb⟩
  · rintro ⟨⟨a, ha⟩, b, hb⟩
    exact ⟨_, a, b, ha, hb, rfl⟩

/-- A plus sign is read like a zero. -/
theorem decode_unsigned : ∀ text, decode? (unsigned text) = decode? text
  | [] => rfl
  | [_] => rfl
  | high :: low :: rest => by
    have hdigit : unsignedDigit (unsignedDigit high) = unsignedDigit high := by
      unfold unsignedDigit
      split_ifs <;> simp_all
    rw [unsigned, decode?, decode?, read_pair, read_pair, hdigit, decode_unsigned rest]

/-- Apart from plus signs a text that can be read consists of the digits of its bytes. -/
theorem isWritten_of_decode (h : decode? text = some data) : IsWritten data (unsigned text) := by
  induction text using decode?.induct generalizing data with
  | case1 =>
    obtain rfl := Option.some.inj h
    rfl
  | case2 => cases h
  | case3 high low rest fault hread =>
    rw [decode?, hread] at h
    cases h
  | case4 high low rest value hread ih =>
    rw [decode?, hread] at h
    obtain ⟨late, hlate, rfl⟩ := Option.map_eq_some_iff.mp h
    obtain ⟨a, b, ha, hb, rfl⟩ := read_pair_eq_ok_iff.mp hread
    have hlt := Numeral.digit_lt ha
    have hlt' := Numeral.digit_lt hb
    have hbyte : (UInt8.ofNat (a * 16 + b)).toNat = a * 16 + b :=
      UInt8.toNat_ofNat_of_lt' (by simp only [UInt8.size]; omega)
    have hhigh : (a * 16 + b) / 16 = a := by omega
    have hlow : (a * 16 + b) % 16 = b := by omega
    rw [IsWritten, unsigned, List.map_cons, List.map_cons, encode_cons, hbyte, hhigh, hlow,
      Numeral.toLower_eq_digitChar ha, Numeral.toLower_eq_digitChar hb, ih hlate]

/-- The texts that are read as given bytes are those that show the bytes' digits. -/
theorem decode_eq_some_iff : decode? text = some data ↔ IsWritten data (unsigned text) := by
  refine ⟨isWritten_of_decode, fun h ↦ ?_⟩
  rw [← decode_unsigned]
  exact h.decode

theorem isRendering_cons_cons {high low : Char} {rest : List Char} :
    IsRendering (high :: low :: rest) ↔
      (Numeral.digit? 16 high).isSome ∧ (Numeral.digit? 16 low).isSome ∧ IsRendering rest := by
  have hlength : (high :: low :: rest).length % 2 = rest.length % 2 := by
    simp only [List.length_cons]
    omega
  rw [IsRendering, IsRendering, hlength, List.forall_mem_cons, List.forall_mem_cons]
  tauto

/-- Apart from plus signs the texts that can be read are the renderings. -/
theorem isSome_decode_iff : ∀ text, (decode? text).isSome ↔ IsRendering (unsigned text)
  | [] => by simp [decode?, unsigned, IsRendering]
  | [_] => by simp [decode?, unsigned, IsRendering]
  | high :: low :: rest => by
    rw [unsigned, isRendering_cons_cons, ← isSome_decode_iff rest, ← and_assoc,
      ← exists_read_pair_iff, decode?]
    cases Numeral.read 16 255 [high, low] <;> simp

theorem unsigned_of_notMem : ∀ text : List Char, '+' ∉ text → unsigned text = text
  | [], _ => rfl
  | [_], _ => rfl
  | high :: low :: rest, h => by
    have hhigh : high ≠ '+' := by
      rintro rfl
      exact h List.mem_cons_self
    have hrest : '+' ∉ rest := fun hmem ↦ h (by simp [hmem])
    rw [unsigned, unsignedDigit, if_neg hhigh, unsigned_of_notMem rest hrest]

/-- A text in capitals shows the same digits. -/
theorem isWritten_map_toUpper (data : List UInt8) :
    IsWritten data ((encode data).map Char.toUpper) := by
  have hdigit : ∀ d < 16, d.digitChar.toUpper.toLower = d.digitChar := by decide
  rw [IsWritten, List.map_map]
  refine (List.map_congr_left ?_).trans (List.map_id _)
  intro c hc
  obtain ⟨d, hd, rfl⟩ := mem_encode hc
  exact hdigit d hd

theorem IsRendering.plus_notMem (h : IsRendering text) : '+' ∉ text := fun hmem ↦
  absurd (h.2 '+' hmem) (by decide)

/-- How a text is read as a payload. -/
structure ReadsPayload (text : List Char) : Prop where
  slices : decodeSlices text = some (decode? text)
  isSome_iff : (decode? text).isSome ↔ IsRendering (unsigned text)
  eq_some_iff (data : List UInt8) :
    decode? text = some data ↔ (unsigned text).map Char.toLower = encode data
  /-- Only a text that is read with a plus sign in it is taken for a rendering and is none. -/
  isSome_iff_isRendering_iff :
    ((decode? text).isSome ↔ IsRendering text) ↔ ¬('+' ∈ text ∧ (decode? text).isSome)
  eq_some_iff_of_isRendering (data : List UInt8) : IsRendering text →
    (decode? text = some data ↔ text.map Char.toLower = encode data)
  lower_eq_lower (other : List Char) (data : List UInt8) : IsRendering text → IsRendering other →
    decode? text = some data → decode? other = some data →
      text.map Char.toLower = other.map Char.toLower
  lower (data : List UInt8) : text = encode data → decode? text = some data
  upper (data : List UInt8) : text = (encode data).map Char.toUpper → decode? text = some data

/-- Every text is read in this way. Both renderings of any bytes are read as the bytes, and every
text that is read is a rendering unless it has a plus sign. -/
theorem readsPayload (text : List Char) : ReadsPayload text := by
  have hrendering {text : List Char} {data : List UInt8} (h : IsRendering text) :
      decode? text = some data ↔ text.map Char.toLower = encode data := by
    rw [decode_eq_some_iff, unsigned_of_notMem text h.plus_notMem, IsWritten]
  refine
    { slices := decodeSlices_eq text
      isSome_iff := isSome_decode_iff text
      eq_some_iff := fun _ ↦ decode_eq_some_iff
      isSome_iff_isRendering_iff := ?_
      eq_some_iff_of_isRendering := fun _ h ↦ hrendering h
      lower_eq_lower := fun other data h hother htext hdata ↦ ?_
      lower := fun data htext ↦ htext ▸ decode_encode data
      upper := fun data htext ↦ htext ▸ (isWritten_map_toUpper data).decode }
  · by_cases hplus : '+' ∈ text
    · have hnone : ¬IsRendering text := fun h ↦ h.plus_notMem hplus
      simp [hplus, hnone]
    · rw [isSome_decode_iff, unsigned_of_notMem text hplus]
      simp [hplus]
  · exact ((hrendering h).mp htext).trans ((hrendering hother).mp hdata).symm

/-- A plus sign and a digit are read, and they are not two hexadecimal digits. -/
theorem not_forall_isSome_decode_iff : ¬∀ text, (decode? text).isSome ↔ IsRendering text := by
  intro h
  have hread : (decode? ['+', 'f']).isSome := by decide
  exact ((h ['+', 'f']).mp hread).plus_notMem List.mem_cons_self

end Hex

end BatteryTelemetry
