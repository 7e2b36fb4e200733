import BatteryTelemetry.Proofs.Capture.RoundTrip

/-!
# Captures of one line

What is accepted as a code, a count or a payload has no characters but digits of some radix and plus
signs (`IsPlain`), so it is a field wherever it stands. A line with a space between three fields is
read field by field, whatever the fields say, and a capture of this line is read like the line,
however it ends (`read_fieldsLine`).
-/

namespace BatteryTelemetry.Capture

/-- The text has nothing but digits of some radix and plus signs. The mark of a hexadecimal number
is made of such digits too. -/
def IsPlain (text : List Char) : Prop :=
  ∀ c ∈ text, c = '+' ∨ ∃ radix, (Numeral.digit? radix c).isSome

namespace IsPlain

variable {text : List Char}

theorem of_digits {radix : Nat} (h : ∀ c ∈ text, (Numeral.digit? radix c).isSome) :
    IsPlain text :=
  fun c hc ↦ .inr ⟨radix, h c hc⟩

theorem of_read {radix limit n : Nat} (h : Numeral.read radix limit text = .ok n) :
    IsPlain text := by
  unfold Numeral.read at h
  split at h
  · cases h
  · cases h
  · exact List.forall_mem_cons.mpr
      ⟨.inl rfl, of_digits (Numeral.isSome_digit_of_readDigits h)⟩
  · exact of_digits (Numeral.isSome_digit_of_readDigits h)

theorem of_decode {data : List UInt8} (h : Hex.decode? text = some data) : IsPlain text := by
  induction text using Hex.decode?.induct generalizing data with
  | case1 => simp [IsPlain]
  | case2 => cases h
  | case3 high low rest fault hread =>
    rw [Hex.decode?, hread] at h
    cases h
  | case4 high low rest value hread ih =>
    rw [Hex.decode?, hread] at h
    obtain ⟨late, hlate, -⟩ := Option.map_eq_some_iff.mp h
    exact List.forall_mem_append.mpr ⟨of_read hread, ih hlate⟩

/-- The marks in front are made of a zero and an `x`, which count as characters of digits too. -/
theorem of_stripMarks (h : IsPlain (stripMarks text)) : IsPlain text := by
  induction text using stripMarks.induct with
  | case1 rest ih =>
    rw [stripMarks] at h
    have hmark : ∀ c ∈ ['0', 'x'], (Numeral.digit? 36 c).isSome := by simp [Numeral.digit?]
    exact List.forall_mem_append.mpr ⟨of_digits hmark, ih h⟩
  | case2 text hmark =>
    rwa [stripMarks] at h
    exact hmark

theorem of_readCode {code : UInt16} (h : readCode text = .ok code) : IsPlain text := by
  unfold readCode at h
  split at h
  · cases h
  · rename_i hread
    exact of_stripMarks (of_read hread)

/-- No digit is white space or begins a comment. -/
theorem isField (h : IsPlain text) : IsField text := by
  intro c hc
  rcases h c hc with rfl | ⟨radix, hdigit⟩
  · decide
  · exact isField_of_digits (List.forall_mem_singleton.mpr hdigit) c List.mem_cons_self

/-- No text of digits can be taken for a switch. -/
theorem hyphen_notMem (h : IsPlain text) : '-' ∉ text := by
  intro hmem
  rcases h '-' hmem with hplus | ⟨radix, hdigit⟩
  · cases hplus
  · obtain ⟨d, hd⟩ := Option.isSome_iff_exists.mp hdigit
    have hrange := Numeral.toNat_of_digit hd
    simp at hrange

end IsPlain

/-- The text can be a field of its own. -/
structure IsWord (text : List Char) : Prop where
  isField : IsField text
  ne_nil : text ≠ []

theorem IsWord.of_readCode {text : List Char} {code : UInt16} (h : readCode text = .ok code) :
    IsWord text := by
  refine ⟨(IsPlain.of_readCode h).isField, ?_⟩
  rintro rfl
  cases h

theorem IsWord.of_isWritten {radix n : Nat} {text : List Char} (h : Numeral.IsWritten radix n text)
    (hbase : 1 < radix) (hradix : radix ≤ 16) : IsWord text :=
  ⟨isField_of_isWritten h hbase hradix, h.ne_nil⟩

theorem IsWord.of_decode {text : List Char} {data : List UInt8} (h : Hex.decode? text = some data)
    (hne : text ≠ []) : IsWord text :=
  ⟨(IsPlain.of_decode h).isField, hne⟩

/-- A line with a space between three fields. -/
def fieldsLine (code remain payload : List Char) : List Char :=
  code ++ ([' '] ++ (remain ++ ([' '] ++ payload)))

/-- How the last line of a file ends: not at all, or in one of two ways. -/
def IsLineEnd (text : List Char) : Prop := text = [] ∨ text = ['\n'] ∨ text = ['\r', '\n']

variable {code remain payload : List Char}

theorem fieldsLine_ne_mark (hcode : IsWord code) (hremain : IsWord remain)
    (hpayload : IsWord payload) : ∀ c ∈ fieldsLine code remain payload, c ≠ '#' ∧ c ≠ '\n' := by
  have hspace : IsGap [' '] := by decide
  simp only [fieldsLine, List.forall_mem_append]
  exact ⟨hcode.isField.ne_mark, hspace.ne_mark, hremain.isField.ne_mark, hspace.ne_mark,
    hpayload.isField.ne_mark⟩

/-- A line is read field by field; white space behind its fields does not matter. -/
theorem readLine_fieldsLine_append (hcode : IsWord code) (hremain : IsWord remain)
    (hpayload : IsWord payload) {after : List Char} (hafter : IsGap after) :
    readLine (fieldsLine code remain payload ++ after) =
      (readFields code remain payload).map some := by
  have hspace : IsGap [' '] := by decide
  have hcontent : content (fieldsLine code remain payload ++ after) =
      fieldsLine code remain payload ++ after := by
    have hmark : ∀ c ∈ fieldsLine code remain payload ++ after, c ≠ '#' := by
      intro c hc
      rcases List.mem_append.mp hc with hc | hc
      · exact (fieldsLine_ne_mark hcode hremain hpayload c hc).1
      · exact (hafter.ne_mark c hc).1
    have happend := content_append hmark .none
    rwa [List.append_nil] at happend
  have hwords : Text.words (fieldsLine code remain payload ++ after) =
      [code, remain, payload] := by
    calc
      _ = Text.words (code ++ ([' '] ++ (remain ++ ([' '] ++ (payload ++ after))))) := by
        simp only [fieldsLine, List.append_assoc]
      _ = code :: Text.words (remain ++ ([' '] ++ (payload ++ after))) :=
        hcode.isField.words_append hcode.ne_nil hspace (by decide) _
      _ = code :: remain :: Text.words (payload ++ after) :=
        congrArg _ (hremain.isField.words_append hremain.ne_nil hspace (by decide) _)
      _ = [code, remain, payload] := by
        rw [hpayload.isField.words_append_gap hafter, if_neg hpayload.ne_nil]
  rw [readLine, hcontent, hwords]

/-- Three words with spaces between them are the three fields of a line. -/
theorem readLine_fieldsLine (hcode : IsWord code) (hremain : IsWord remain)
    (hpayload : IsWord payload) :
    readLine (fieldsLine code remain payload) = (readFields code remain payload).map some := by
  have happend := readLine_fieldsLine_append hcode hremain hpayload (by decide : IsGap [])
  rwa [List.append_nil] at happend

/-- A capture of one line is read like the line. -/
theorem read_line {line : List Char} (h : '\n' ∉ line) {lineEnd : List Char}
    (hend : lineEnd = [] ∨ lineEnd = ['\n']) :
    read (encodeText (line ++ lineEnd)) =
      ((readLine line).mapError (.line 1)).map Option.toList := by
  have hline : readLineAt 1 (encodeText line) = (readLine line).mapError (.line 1) := by
    cases hread : readLine line with
    | error reason => exact readLineAt_of_error 1 (decodeText_encodeText line) hread
    | ok frame? => exact readLineAt_of_ok 1 (decodeText_encodeText line) hread
  rcases hend with rfl | rfl
  · rw [List.append_nil, read, splitOn_encodeText h, readLines_cons, hline]
    cases readLine line <;> simp [readLines, Except.bind, Except.map, Except.mapError]
  · have hlast : readLines 2 ((encodeText []).splitOn lineFeed) = .ok [] := readLines_blank 2
    rw [read, splitOn_encodeText_append h, readLines_cons, hline, hlast]
    cases readLine line <;> simp [Except.bind, Except.map, Except.mapError]

/-- A capture of one line is read as its line, however the line ends. -/
theorem read_fieldsLine (hcode : IsWord code) (hremain : IsWord remain) (hpayload : IsWord payload)
    {lineEnd : List Char} (hend : IsLineEnd lineEnd) :
    read (encodeText (fieldsLine code remain payload ++ lineEnd)) =
      ((readFields code remain payload).mapError (.line 1)).map ([·]) := by
  -- A carriage return belongs to the line.
  obtain ⟨after, rest, rfl, hafter, hrest⟩ : ∃ after rest, lineEnd = after ++ rest ∧
      IsGap after ∧ (rest = [] ∨ rest = ['\n']) := by
    rcases hend with rfl | rfl | rfl
    · exact ⟨[], [], rfl, by decide, .inl rfl⟩
    · exact ⟨[], ['\n'], rfl, by decide, .inr rfl⟩
    · exact ⟨['\r'], ['\n'], rfl, by decide, .inr rfl⟩
  have hline : '\n' ∉ fieldsLine code remain payload ++ after := by
    rw [List.mem_append, not_or]
    exact ⟨fun hmem ↦ (fieldsLine_ne_mark hcode hremain hpayload _ hmem).2 rfl,
      fun hmem ↦ (hafter.ne_mark _ hmem).2 rfl⟩
  rw [← List.append_assoc, read_line hline hrest,
    readLine_fieldsLine_append hcode hremain hpayload hafter]
  cases readFields code remain payload <;> rfl

end BatteryTelemetry.Capture
