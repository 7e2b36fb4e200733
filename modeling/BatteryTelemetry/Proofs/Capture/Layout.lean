import BatteryTelemetry.Capture.Line
import BatteryTelemetry.Proofs.Number.Digits
import BatteryTelemetry.Proofs.Text.Words

/-!
# Layouts of a capture

The ways to write frames as a capture: fields in either case and with leading zeros, any white
space around them, comments, lines without a frame, and either end of a line (`Writes`). A line is
cut at its comment (`content_append`) and divided into its fields (`exists_words`), which are read
one by one (`readLine_some`). Only a frame without a payload is not read back: its line has two
fields (`readLine_of_data_eq_nil`).
-/

namespace BatteryTelemetry.Capture

def IsGap (text : List Char) : Prop := ∀ c ∈ text, Text.isBlank c ∧ c ≠ '\n'

instance (text : List Char) : Decidable (IsGap text) :=
  List.decidableBAll (fun c ↦ Text.isBlank c ∧ c ≠ '\n') text

inductive IsComment : List Char → Prop where
  | none : IsComment []
  | some {text : List Char} (h : '\n' ∉ text) : IsComment ('#' :: text)

/-- The hexadecimal digits of a code, with or without a mark in front of them. -/
def IsCode (code : UInt16) (field : List Char) : Prop :=
  ∃ digits, Numeral.IsWritten 16 code.toNat digits ∧
    (field = digits ∨ field = '0' :: 'x' :: digits)

/-- What a line may have in front of its comment, with the frame that it holds. -/
inductive IsContent : List Char → Option Frame → Prop where
  | blank {gap : List Char} (h : IsGap gap) : IsContent gap none
  | frame {frame : Frame} {before code first remain second payload after : List Char}
      (hbefore : IsGap before) (hcode : IsCode frame.code code)
      (hfirst : IsGap first) (hfirst_ne : first ≠ [])
      (hremain : Numeral.IsWritten 10 frame.remain.toNat remain)
      (hsecond : IsGap second) (hsecond_ne : second ≠ [])
      (hpayload : Hex.IsWritten frame.data payload) (hafter : IsGap after) :
      IsContent (before ++ (code ++ (first ++ (remain ++ (second ++ (payload ++ after)))))) frame

/-- A line of a layout, with the frame that it holds. -/
def IsLine (line : List Char) (frame? : Option Frame) : Prop :=
  ∃ content comment, line = content ++ comment ∧ IsContent content frame? ∧ IsComment comment

/-- A text that writes frames in order, at most one in a line. The last line need not end. -/
inductive Writes : List Char → List Frame → Prop where
  | last {line : List Char} {frame? : Option Frame} (hline : IsLine line frame?) :
      Writes line frame?.toList
  | line {line lineEnd rest : List Char} {frame? : Option Frame} {frames : List Frame}
      (hline : IsLine line frame?) (hend : lineEnd = ['\n'] ∨ lineEnd = ['\r', '\n'])
      (hrest : Writes rest frames) :
      Writes (line ++ lineEnd ++ rest) (frame?.toList ++ frames)

/-- The text is neither divided by white space nor cut off by a comment. -/
def IsField (text : List Char) : Prop := ∀ c ∈ text, Text.isBlank c = false ∧ c ≠ '#'

theorem isField_of_digits {radix : Nat} {text : List Char}
    (h : ∀ c ∈ text, (Numeral.digit? radix c).isSome) : IsField text := by
  intro c hc
  obtain ⟨d, hd⟩ := Option.isSome_iff_exists.mp (h c hc)
  have hrange := Numeral.toNat_of_digit hd
  constructor
  · simp [Text.isBlank]
    omega
  · rintro rfl
    simp at hrange

theorem isField_of_isWritten {radix n : Nat} {text : List Char}
    (h : Numeral.IsWritten radix n text) (hbase : 1 < radix) (hradix : radix ≤ 16) :
    IsField text :=
  isField_of_digits (h.isSome_digit hbase hradix)

theorem IsCode.isField {code : UInt16} {field : List Char} (h : IsCode code field) :
    IsField field := by
  obtain ⟨digits, hdigits, hfield⟩ := h
  have hisField := isField_of_isWritten hdigits (by decide) (by decide)
  rcases hfield with rfl | rfl
  · exact hisField
  · exact List.forall_mem_cons.mpr ⟨by decide, List.forall_mem_cons.mpr ⟨by decide, hisField⟩⟩

theorem IsCode.ne_nil {code : UInt16} {field : List Char} (h : IsCode code field) :
    field ≠ [] := by
  obtain ⟨digits, hdigits, rfl | rfl⟩ := h
  · exact hdigits.ne_nil
  · simp

theorem stripMarks_of_notMem {text : List Char} (h : 'x' ∉ text) : stripMarks text = text := by
  unfold stripMarks
  split
  · simp at h
  · rfl

/-- A code is read with or without a mark, in either case. -/
theorem readCode_of_isCode {code : UInt16} {field : List Char} (h : IsCode code field) :
    readCode field = .ok code := by
  obtain ⟨digits, hdigits, hfield⟩ := h
  -- A mark is no digit, so the digits are left as they are.
  have hmark : 'x' ∉ digits := by
    intro hx
    have hdigit := hdigits.isSome_digit (by decide) (by decide) 'x' hx
    exact absurd hdigit (by decide)
  have hstrip : stripMarks field = digits := by
    rcases hfield with rfl | rfl
    · exact stripMarks_of_notMem hmark
    · rw [stripMarks, stripMarks_of_notMem hmark]
  have hread : Numeral.read 16 0xffff digits = .ok code.toNat :=
    hdigits.read (by decide) (by decide) (Nat.le_of_lt_succ code.toNat_lt)
  simp [readCode, hstrip, hread]

theorem readRemain_of_isWritten {remain : UInt16} {field : List Char}
    (h : Numeral.IsWritten 10 remain.toNat field) : readRemain field = .ok remain := by
  have hread : Numeral.read 10 0xffff field = .ok remain.toNat :=
    h.read (by decide) (by decide) (Nat.le_of_lt_succ remain.toNat_lt)
  simp [readRemain, hread]

theorem readPayload_eq_ok_iff {data : List UInt8} {field : List Char} :
    readPayload field = .ok data ↔ Hex.decode? field = some data := by
  unfold readPayload
  cases Hex.decode? field <;> simp

/-- The three fields are read independently of each other. -/
theorem readFields_eq_ok_iff {code remain payload : List Char} {frame : Frame} :
    readFields code remain payload = .ok frame ↔
      readCode code = .ok frame.code ∧ readRemain remain = .ok frame.remain ∧
        readPayload payload = .ok frame.data := by
  rcases frame with ⟨c, r, d⟩
  unfold readFields
  cases readCode code <;> cases readRemain remain <;> cases readPayload payload <;>
    simp [bind, Except.bind, pure, Except.pure]

/-! ## Words of a line -/

theorem IsGap.isBlank {gap : List Char} (h : IsGap gap) : ∀ c ∈ gap, Text.isBlank c :=
  fun c hc ↦ (h c hc).1

theorem IsGap.ne_mark {gap : List Char} (h : IsGap gap) : ∀ c ∈ gap, c ≠ '#' ∧ c ≠ '\n' := by
  intro c hc
  refine ⟨?_, (h c hc).2⟩
  rintro rfl
  exact absurd (h.isBlank _ hc) (by decide)

theorem IsField.ne_mark {field : List Char} (h : IsField field) :
    ∀ c ∈ field, c ≠ '#' ∧ c ≠ '\n' := by
  intro c hc
  refine ⟨(h c hc).2, ?_⟩
  rintro rfl
  exact absurd (h _ hc).1 (by decide)

theorem IsGap.words_eq_nil {gap : List Char} (h : IsGap gap) : Text.words gap = [] :=
  Text.words_eq_nil_iff.mpr h.isBlank

/-- A field in front of a gap is a word. -/
theorem IsField.words_append {field gap : List Char} (h : IsField field) (hne : field ≠ [])
    (hgap : IsGap gap) (hgap_ne : gap ≠ []) (rest : List Char) :
    Text.words (field ++ (gap ++ rest)) = field :: Text.words rest := by
  obtain ⟨c, others, rfl⟩ := List.exists_cons_of_ne_nil hgap_ne
  rw [Text.words_word_append hne fun c hc ↦ (h c hc).1, Text.words_gap_append hgap.isBlank]
  simpa using hgap.isBlank c (by simp)

/-- White space behind a field does not change it. -/
theorem IsField.words_append_gap {field gap : List Char} (h : IsField field) (hgap : IsGap gap) :
    Text.words (field ++ gap) = if field = [] then [] else [field] := by
  split_ifs with hne
  · rw [hne, List.nil_append, hgap.words_eq_nil]
  · rw [Text.words_word_append hne (fun c hc ↦ (h c hc).1), hgap.words_eq_nil]
    intro c hc
    exact hgap.isBlank c (List.mem_of_head? hc)

namespace IsContent

variable {text : List Char} {frame : Frame} {frame? : Option Frame}

/-- The fields are the words, but an empty payload is no word. -/
theorem exists_words (h : IsContent text (some frame)) :
    ∃ code remain payload, IsCode frame.code code ∧
      Numeral.IsWritten 10 frame.remain.toNat remain ∧ Hex.IsWritten frame.data payload ∧
      Text.words text = code :: remain :: if frame.data = [] then [] else [payload] := by
  cases h with
  | @frame _ before code first remain second payload after
      hbefore hcode hfirst hfirst_ne hremain hsecond hsecond_ne hpayload hafter =>
    refine ⟨code, remain, payload, hcode, hremain, hpayload, ?_⟩
    have hisRemain := isField_of_isWritten hremain (by decide) (by decide)
    have hisPayload := isField_of_digits hpayload.isSome_digit
    calc
      _ = Text.words (code ++ (first ++ (remain ++ (second ++ (payload ++ after))))) :=
        Text.words_gap_append hbefore.isBlank _
      _ = code :: Text.words (remain ++ (second ++ (payload ++ after))) :=
        hcode.isField.words_append hcode.ne_nil hfirst hfirst_ne _
      _ = code :: remain :: Text.words (payload ++ after) :=
        congrArg _ (hisRemain.words_append hremain.ne_nil hsecond hsecond_ne _)
      _ = code :: remain :: if frame.data = [] then [] else [payload] := by
        rw [hisPayload.words_append_gap hafter]
        simp only [hpayload.eq_nil_iff]

theorem ne_mark (h : IsContent text frame?) : ∀ c ∈ text, c ≠ '#' ∧ c ≠ '\n' := by
  cases h with
  | blank h => exact h.ne_mark
  | frame hbefore hcode hfirst _ hremain hsecond _ hpayload hafter =>
    have hisRemain := isField_of_isWritten hremain (by decide) (by decide)
    have hisPayload := isField_of_digits hpayload.isSome_digit
    simp only [List.forall_mem_append]
    exact ⟨hbefore.ne_mark, hcode.isField.ne_mark, hfirst.ne_mark, hisRemain.ne_mark,
      hsecond.ne_mark, hisPayload.ne_mark, hafter.ne_mark⟩

/-- A carriage return in front of the end of a line is white space. -/
theorem append_return (h : IsContent text frame?) : IsContent (text ++ ['\r']) frame? := by
  have hreturn : IsGap ['\r'] := by decide
  have hgap : ∀ {gap : List Char}, IsGap gap → IsGap (gap ++ ['\r']) :=
    fun hgap ↦ List.forall_mem_append.mpr ⟨hgap, hreturn⟩
  cases h with
  | blank h => exact .blank (hgap h)
  | frame hbefore hcode hfirst hfirst_ne hremain hsecond hsecond_ne hpayload hafter =>
    simp only [List.append_assoc]
    exact .frame hbefore hcode hfirst hfirst_ne hremain hsecond hsecond_ne hpayload (hgap hafter)

end IsContent

/-! ## Reading a line -/

theorem content_append {text comment : List Char} (h : ∀ c ∈ text, c ≠ '#')
    (hcomment : IsComment comment) : content (text ++ comment) = text := by
  have hbefore : ∀ c ∈ text, (c != '#') = true := by simpa using h
  rw [content, List.takeWhile_append_of_pos hbefore]
  cases hcomment <;> simp

variable {line : List Char} {frame : Frame}

namespace IsLine

variable {frame? : Option Frame}

theorem lineFeed_notMem (h : IsLine line frame?) : '\n' ∉ line := by
  obtain ⟨text, comment, rfl, htext, hcomment⟩ := h
  rw [List.mem_append, not_or]
  constructor
  · intro hmem
    exact (htext.ne_mark _ hmem).2 rfl
  · cases hcomment with
    | none => simp
    | some h => simpa using h

theorem append_return (h : IsLine line frame?) : IsLine (line ++ ['\r']) frame? := by
  obtain ⟨text, comment, rfl, htext, hcomment⟩ := h
  cases hcomment with
  | none => exact ⟨text ++ ['\r'], [], by simp, htext.append_return, .none⟩
  | @some words h =>
    exact ⟨text, '#' :: (words ++ ['\r']), by simp, htext, .some (by simpa using h)⟩

/-- Lines without a frame are passed over. -/
theorem readLine_none (h : IsLine line none) : readLine line = .ok none := by
  obtain ⟨text, comment, rfl, htext, hcomment⟩ := h
  rw [readLine_eq_none_iff, content_append (fun c hc ↦ (htext.ne_mark c hc).1) hcomment]
  cases htext with
  | blank hgap => exact hgap.isBlank

/-- The one thing that keeps the frame of a line from being read back is an empty payload. -/
theorem readLine_some (h : IsLine line (some frame)) (hdata : frame.data ≠ []) :
    readLine line = .ok (some frame) := by
  obtain ⟨text, comment, rfl, htext, hcomment⟩ := h
  obtain ⟨code, remain, payload, hcode, hremain, hpayload, hwords⟩ := htext.exists_words
  rw [if_neg hdata] at hwords
  have hfields : readFields code remain payload = .ok frame :=
    readFields_eq_ok_iff.mpr ⟨readCode_of_isCode hcode, readRemain_of_isWritten hremain,
      readPayload_eq_ok_iff.mpr hpayload.decode⟩
  rw [readLine, content_append (fun c hc ↦ (htext.ne_mark c hc).1) hcomment, hwords]
  simp [hfields, Except.map]

/-- Without a payload there are two fields. -/
theorem readLine_of_data_eq_nil (h : IsLine line (some frame)) (hdata : frame.data = []) :
    readLine line = .error (.fieldCount 2) := by
  obtain ⟨text, comment, rfl, htext, hcomment⟩ := h
  obtain ⟨code, remain, payload, -, -, -, hwords⟩ := htext.exists_words
  rw [if_pos hdata] at hwords
  rw [readLine, content_append (fun c hc ↦ (htext.ne_mark c hc).1) hcomment, hwords]
  rfl

end IsLine

end BatteryTelemetry.Capture
