import BatteryTelemetry.Files
import Mathlib.Tactic.SplitIfs

/-!
# Encoded texts

The UTF-8 bytes of a text, which `decodeText?` reads back. A line feed is a byte of its own and
part of no other character, so splitting the bytes at line feeds is splitting the text.
-/

namespace BatteryTelemetry

def encodeText (text : List Char) : List UInt8 := text.flatMap String.utf8EncodeChar

theorem encodeText_append (first second : List Char) :
    encodeText (first ++ second) = encodeText first ++ encodeText second :=
  List.flatMap_append

/-- These are the bytes of the text as a string. -/
theorem toList_toUTF8 (text : String) :
    text.toUTF8.data.toList = encodeText text.toList := by
  rw [String.toUTF8_eq_toByteArray, ← String.utf8Encode_toList, List.utf8Encode]
  simp [encodeText]

/-- Every text is read back from its bytes. -/
theorem decodeText_encodeText (text : List Char) : decodeText? (encodeText text) = some text := by
  have hbytes := toList_toUTF8 (String.ofList text)
  rw [String.toUTF8_eq_toByteArray, String.toList_ofList] at hbytes
  rw [decodeText?, ← hbytes, Array.toArray_toList, String.fromUTF8?,
    dif_pos (String.ofList text).isValidUTF8, Option.map_some, String.fromUTF8]
  exact congrArg some String.toList_ofList

/-- The bytes of a character behind the first 128 are all greater than those of the first 128. -/
theorem lineFeed_mem_utf8EncodeChar_iff {c : Char} :
    10 ∈ String.utf8EncodeChar c ↔ c = '\n' := by
  have hchar : c = '\n' ↔ c.val.toNat = 10 := by
    rw [← Char.toNat_inj]
    rfl
  have hbyte : ∀ n, (10 : UInt8) = UInt8.ofNat n ↔ n % 256 = 10 := by
    intro n
    rw [← UInt8.toNat_inj, UInt8.toNat_ofNat']
    exact eq_comm
  unfold String.utf8EncodeChar
  simp only [hchar]
  split_ifs <;> simp only [List.mem_cons, List.not_mem_nil, or_false, hbyte] <;> omega

/-- No other character has a line feed among its bytes. -/
theorem lineFeed_mem_encodeText_iff {text : List Char} :
    10 ∈ encodeText text ↔ '\n' ∈ text := by
  simp [encodeText, lineFeed_mem_utf8EncodeChar_iff]

end BatteryTelemetry
