import BatteryTelemetry.Proofs.Capture.Field
import BatteryTelemetry.Proofs.Text.Encoding

/-!
# Payloads read by byte offsets

A payload may be read by slices: the text is tested for ASCII and for an even number of bytes, and
then each pair of bytes is taken out by its offsets. A slice that ends behind the text or inside a
character does not exist. Behind the two tests every slice exists, and the outcome is that of
reading pairs of characters (`decodeSlices_eq`).
-/

namespace BatteryTelemetry

namespace Text

/-- A text divided at a byte offset, unless the offset lies behind the text or inside a
character. -/
def cut? : List Char → Nat → Option (List Char × List Char)
  | text, 0 => some ([], text)
  | [], _ + 1 => none
  | c :: rest, offset + 1 =>
    if c.utf8Size ≤ offset + 1 then
      (cut? rest (offset + 1 - c.utf8Size)).map fun (front, back) ↦ (c :: front, back)
    else none

/-- The part of a text between two byte offsets, if it exists. -/
def slice? (text : List Char) (first last : Nat) : Option (List Char) :=
  (cut? text last).bind fun whole ↦ (cut? whole.1 first).map Prod.snd

def IsAscii (text : List Char) : Prop := ∀ c ∈ text, c.toNat < 128

instance (text : List Char) : Decidable (IsAscii text) :=
  List.decidableBAll (fun c : Char ↦ c.toNat < 128) text

end Text

namespace Hex

/-- Reads the pairs of bytes at some offsets. The outer `none` stands for a slice that does not
exist, the inner one for a pair that is no numeral; no pair is read after that. -/
def readSlices (text : List Char) : List Nat → Option (Option (List UInt8))
  | [] => some (some [])
  | offset :: rest =>
    match Text.slice? text offset (offset + 2) with
    | none => none
    | some pair =>
      match Numeral.read 16 255 pair with
      | .error _ => some none
      | .ok value => (readSlices text rest).map (·.map (UInt8.ofNat value :: ·))

def decodeSlices (text : List Char) : Option (Option (List UInt8)) :=
  let size := (encodeText text).length
  if Text.IsAscii text ∧ size % 2 = 0 then readSlices text (List.range' 0 (size / 2) 2)
  else some none

end Hex

namespace Text

theorem utf8Size_of_lt {c : Char} (h : c.toNat < 128) : c.utf8Size = 1 := by
  have hle : c.val ≤ 0x7f := UInt32.le_iff_toNat_le.mpr (Nat.le_of_lt_succ h)
  exact if_pos hle

variable {front : List Char}

theorem cut?_append (h : IsAscii front) (back : List Char) :
    cut? (front ++ back) front.length = some (front, back) := by
  induction front with
  | nil => cases back <;> rfl
  | cons c rest ih =>
    obtain ⟨hc, hrest⟩ := List.forall_mem_cons.mp h
    simp [cut?, utf8Size_of_lt hc, ih hrest]

/-- Among the first 128 characters offsets in bytes and in characters agree. -/
theorem slice?_append {part : List Char} (hfront : IsAscii front) (hpart : IsAscii part)
    (back : List Char) :
    slice? (front ++ (part ++ back)) front.length (front.length + part.length) = some part := by
  have hboth : IsAscii (front ++ part) := List.forall_mem_append.mpr ⟨hfront, hpart⟩
  have hlast := cut?_append hboth back
  rw [List.length_append, List.append_assoc] at hlast
  rw [slice?, hlast, Option.bind_some, cut?_append hfront]
  rfl

theorem length_encodeText {text : List Char} (h : IsAscii text) :
    (encodeText text).length = text.length := by
  induction text with
  | nil => rfl
  | cons c rest ih =>
    obtain ⟨hc, hrest⟩ := List.forall_mem_cons.mp h
    rw [encodeText, List.flatMap_cons, List.length_append, String.length_utf8EncodeChar,
      utf8Size_of_lt hc, List.length_cons, ← ih hrest, encodeText, Nat.add_comm]

end Text

namespace Hex

variable {text : List Char} {data : List UInt8}

/-- Each byte takes two characters, signs included. -/
theorem length_of_decode (h : decode? text = some data) : text.length = 2 * data.length := by
  induction text using decode?.induct generalizing data with
  | case1 =>
    obtain rfl := Option.some.inj h
    rfl
  | case2 => cases h
  | case3 high low rest fault hread =>
    rw [decode?, hread] at h
    cases h
  | case4 high low rest value hread ih =>
    rw [decode?, hread] at h
    obtain ⟨late, hlate, rfl⟩ := Option.map_eq_some_iff.mp h
    rw [List.length_cons, List.length_cons, List.length_cons, ih hlate]
    omega

/-- Nothing outside ASCII is a digit or a plus sign. -/
theorem isAscii_of_decode (h : decode? text = some data) : Text.IsAscii text := by
  intro c hc
  rcases Capture.IsPlain.of_decode h c hc with rfl | ⟨radix, hdigit⟩
  · decide
  · obtain ⟨d, hd⟩ := Option.isSome_iff_exists.mp hdigit
    have hrange := Numeral.toNat_of_digit hd
    omega

/-- Pairs of bytes behind some characters are read as pairs of characters. -/
theorem readSlices_append {front text : List Char} (hfront : Text.IsAscii front)
    (htext : Text.IsAscii text) (heven : text.length % 2 = 0) :
    readSlices (front ++ text) (List.range' front.length (text.length / 2) 2) =
      some (decode? text) := by
  match text with
  | [] => rfl
  | [_] => cases heven
  | high :: low :: rest =>
    obtain ⟨hpair, hrest⟩ : Text.IsAscii [high, low] ∧ Text.IsAscii rest :=
      List.forall_mem_append.mp htext
    have hslice : Text.slice? (front ++ high :: low :: rest) front.length (front.length + 2) =
        some [high, low] := Text.slice?_append hfront hpair rest
    have hhalf : (high :: low :: rest).length / 2 = rest.length / 2 + 1 := by
      simp only [List.length_cons]
      omega
    have hlater : readSlices (front ++ high :: low :: rest)
        (List.range' (front.length + 2) (rest.length / 2) 2) = some (decode? rest) := by
      have hfront' : Text.IsAscii (front ++ [high, low]) :=
        List.forall_mem_append.mpr ⟨hfront, hpair⟩
      have heven' : rest.length % 2 = 0 := by
        simp only [List.length_cons] at heven
        omega
      simpa using readSlices_append hfront' hrest heven'
    rw [hhalf, List.range'_succ, decode?]
    simp only [readSlices, hslice, hlater]
    cases Numeral.read 16 255 [high, low] <;> rfl

/-- No slice is missing, and the outcome is that of reading pairs of characters. -/
theorem decodeSlices_eq (text : List Char) : decodeSlices text = some (decode? text) := by
  by_cases h : Text.IsAscii text ∧ text.length % 2 = 0
  · have hnil : Text.IsAscii [] := by decide
    have hread := readSlices_append hnil h.1 h.2
    rw [decodeSlices, Text.length_encodeText h.1, if_pos h]
    exact hread
  · have hnone : decode? text = none := by
      rw [Option.eq_none_iff_forall_ne_some]
      intro data hdata
      have hlength := length_of_decode hdata
      exact h ⟨isAscii_of_decode hdata, by omega⟩
    rw [hnone, decodeSlices, if_neg]
    rintro ⟨hascii, heven⟩
    rw [Text.length_encodeText hascii] at heven
    exact h ⟨hascii, heven⟩

end Hex

end BatteryTelemetry
