import BatteryTelemetry.Proofs.Capture.Layout
import BatteryTelemetry.Proofs.Capture.Lines
import BatteryTelemetry.Proofs.Text.Encoding

/-!
# Round trips of a capture

Whatever the layout, frames are read back from the bytes of their capture, provided that each has a
payload (`readLines_of_writes`). What frames display, joined by line feeds, is one of the layouts
(`writes_displayed`), and frames that were read have payloads (`data_ne_nil_of_readLines`), so they
are read back from what they display. A frame without a payload displays a line that is refused.
-/

namespace BatteryTelemetry.Capture

variable {line : List Char} {frame : Frame}

theorem splitOn_encodeText (h : '\n' ∉ line) :
    (encodeText line).splitOn lineFeed = [encodeText line] :=
  List.splitOn_eq_singleton (mt lineFeed_mem_encodeText_iff.mp h)

theorem splitOn_encodeText_append (h : '\n' ∉ line) (rest : List Char) :
    (encodeText (line ++ '\n' :: rest)).splitOn lineFeed =
      encodeText line :: (encodeText rest).splitOn lineFeed := by
  rw [encodeText_append]
  exact List.splitOn_append_cons_self_of_not_mem (mt lineFeed_mem_encodeText_iff.mp h) _

/-- A line of a layout is read as it is meant, unless its frame has no payload. -/
theorem IsLine.readLineAt {frame? : Option Frame} (h : IsLine line frame?)
    (hdata : ∀ frame ∈ frame?.toList, frame.data ≠ []) (number : Nat) :
    readLineAt number (encodeText line) = .ok frame? := by
  refine readLineAt_of_ok number (decodeText_encodeText line) ?_
  cases frame? with
  | none => exact h.readLine_none
  | some frame => exact h.readLine_some (hdata frame (by simp))

/-- Whatever the layout, frames with a payload are read back. -/
theorem readLines_of_writes {text : List Char} {frames : List Frame} (h : Writes text frames)
    (hdata : ∀ frame ∈ frames, frame.data ≠ []) (number : Nat) :
    readLines number ((encodeText text).splitOn lineFeed) = .ok frames := by
  induction h generalizing number with
  | last hline =>
    rw [splitOn_encodeText hline.lineFeed_notMem, readLines_cons, hline.readLineAt hdata]
    simp [readLines, Except.bind, Except.map]
  | @line line lineEnd rest frame? frames hline hend hrest ih =>
    rw [List.forall_mem_append] at hdata
    -- The carriage return of a line end belongs to the line that is read.
    obtain ⟨whole, htext, hwhole⟩ : ∃ whole, line ++ lineEnd ++ rest = whole ++ '\n' :: rest ∧
        IsLine whole frame? := by
      rcases hend with rfl | rfl
      · exact ⟨line, by simp, hline⟩
      · exact ⟨line ++ ['\r'], by simp, hline.append_return⟩
    rw [htext, splitOn_encodeText_append hwhole.lineFeed_notMem, readLines_cons,
      hwhole.readLineAt hdata.1, Except.bind, ih hdata.2]
    rfl

/-- A frame that is read has a payload, for no word is empty. -/
theorem data_ne_nil_of_readLine (h : readLine line = .ok (some frame)) : frame.data ≠ [] := by
  unfold readLine at h
  split at h
  · cases h
  · rename_i code remain payload hwords
    have hne : payload ≠ [] := Text.ne_nil_of_mem_words (by rw [hwords]; simp)
    cases hfields : readFields code remain payload with
    | error fault => simp [hfields, Except.map] at h
    | ok found =>
      obtain rfl : found = frame := by simpa [hfields, Except.map] using h
      intro hdata
      have hpayload := (readFields_eq_ok_iff.mp hfields).2.2
      rw [hdata, readPayload_eq_ok_iff, Hex.decode_eq_some_nil_iff] at hpayload
      exact hne hpayload
  · cases h

/-- No frame without a payload is ever read. -/
theorem data_ne_nil_of_readLines {number : Nat} {lines : List (List UInt8)} {frames : List Frame}
    (h : readLines number lines = .ok frames) : ∀ frame ∈ frames, frame.data ≠ [] := by
  induction lines generalizing number frames with
  | nil =>
    obtain rfl : [] = frames := Except.ok.inj h
    simp
  | cons line rest ih =>
    rw [readLines_cons] at h
    cases hline : readLineAt number line with
    | error fault => simp [hline, Except.bind] at h
    | ok frame? =>
      cases hrest : readLines (number + 1) rest with
      | error fault => simp [hline, hrest, Except.bind, Except.map] at h
      | ok others =>
        obtain rfl : frame?.toList ++ others = frames := by
          simpa [hline, hrest, Except.bind, Except.map] using h
        obtain ⟨text, -, htext⟩ := readLineAt_eq_ok_iff.mp hline
        refine List.forall_mem_append.mpr ⟨?_, ih hrest⟩
        intro frame hframe
        obtain rfl := Option.mem_toList.mp hframe
        exact data_ne_nil_of_readLine htext

def displayed (frames : List Frame) : List Char :=
  ['\n'].intercalate (frames.map (·.text.toList))

/-- What a frame displays is a line of a layout. -/
theorem isLine_text (frame : Frame) : IsLine frame.text.toList (some frame) := by
  have hblank : IsGap [' '] := by decide
  have hnone : IsGap [] := by decide
  refine ⟨frame.text.toList, [], by simp, ?_, .none⟩
  have hcontent := IsContent.frame hnone
    ⟨_, Numeral.isWritten_padded (by decide) 4 frame.code.toNat, .inl rfl⟩ hblank (by simp)
    (Numeral.isWritten_toDigits (by decide) frame.remain.toNat) hblank (by simp)
    (Hex.isWritten_encode frame.data) hnone
  simpa [Frame.text] using hcontent

theorem displayed_cons (frame : Frame) {rest : List Frame} (h : rest ≠ []) :
    displayed (frame :: rest) = frame.text.toList ++ '\n' :: displayed rest := by
  rw [displayed, List.map_cons, List.intercalate_cons_of_ne_nil (by simpa using h),
    List.append_assoc]
  rfl

theorem displayed_singleton (frame : Frame) : displayed [frame] = frame.text.toList :=
  List.intercalate_singleton

/-- The lines that frames display are a layout of the frames. -/
theorem writes_displayed (frames : List Frame) : Writes (displayed frames) frames := by
  induction frames with
  | nil => exact .last ⟨[], [], rfl, .blank (by decide), .none⟩
  | cons frame rest ih =>
    by_cases hrest : rest = []
    · subst hrest
      rw [displayed_singleton]
      exact .last (isLine_text frame)
    · rw [displayed_cons frame hrest, ← List.singleton_append, ← List.append_assoc]
      exact .line (isLine_text frame) (.inl rfl) ih

/-- The lines of what frames display are those of the frames. -/
theorem splitOn_displayed {frames : List Frame} (h : frames ≠ []) :
    (encodeText (displayed frames)).splitOn lineFeed =
      frames.map fun frame ↦ encodeText frame.text.toList := by
  induction frames with
  | nil => exact absurd rfl h
  | cons frame rest ih =>
    have hline := (isLine_text frame).lineFeed_notMem
    by_cases hrest : rest = []
    · subst hrest
      rw [displayed_singleton, splitOn_encodeText hline]
      rfl
    · rw [displayed_cons frame hrest, splitOn_encodeText_append hline, ih hrest]
      rfl

/-- The first frame without a payload displays the first line that cannot be read. -/
theorem read_displayed_of_data_eq_nil {early : List Frame} {frame : Frame}
    (hearly : ∀ other ∈ early, other.data ≠ []) (hdata : frame.data = []) (late : List Frame) :
    read (encodeText (displayed (early ++ frame :: late))) =
      .error (.line (early.length + 1) (.fieldCount 2)) := by
  have hline : readLineAt (1 + early.length) (encodeText frame.text.toList) =
      .error (.line (1 + early.length) (.fieldCount 2)) :=
    readLineAt_of_error _ (decodeText_encodeText _)
      ((isLine_text frame).readLine_of_data_eq_nil hdata)
  rw [read, splitOn_displayed (by simp), List.map_append, List.map_cons, readLines_eq_error_iff,
    Nat.add_comm early.length]
  refine ⟨_, _, _, rfl, ?_, by rwa [List.length_map]⟩
  intro line hmem
  obtain ⟨other, hother, rfl⟩ := List.mem_map.mp hmem
  refine (isReadable_iff 1).mpr ⟨some other, (isLine_text other).readLineAt ?_ 1⟩
  simpa using hearly other hother

/-- Frames are read back from any layout if each has a payload, and from what they display if and
only if each has one; frames that were read always do. -/
structure RoundTrips (frames : List Frame) : Prop where
  written (text : List Char) : Writes text frames → (∀ frame ∈ frames, frame.data ≠ []) →
    read (encodeText text) = .ok frames
  displayed_iff : read (encodeText (displayed frames)) = .ok frames ↔
    ∀ frame ∈ frames, frame.data ≠ []
  noPayload (early late : List Frame) (frame : Frame) : frames = early ++ frame :: late →
    (∀ other ∈ early, other.data ≠ []) → frame.data = [] →
    ∃ fault : LineFault, fault.message = "expected 3 fields, found 2" ∧
      read (encodeText (displayed frames)) = .error (.line (early.length + 1) fault)
  returned (bytes : List UInt8) : read bytes = .ok frames →
    (∀ frame ∈ frames, frame.data ≠ []) ∧ read (encodeText (displayed frames)) = .ok frames

/-- The displayed lines are one layout among the others. -/
theorem roundTrips (frames : List Frame) : RoundTrips frames where
  written text htext hdata := readLines_of_writes htext hdata 1
  displayed_iff := ⟨data_ne_nil_of_readLines,
    fun hdata ↦ readLines_of_writes (writes_displayed frames) hdata 1⟩
  noPayload early late frame hframes hearly hdata := by
    subst hframes
    exact ⟨.fieldCount 2, rfl, read_displayed_of_data_eq_nil hearly hdata late⟩
  returned bytes hread := by
    have hdata := data_ne_nil_of_readLines hread
    exact ⟨hdata, readLines_of_writes (writes_displayed frames) hdata 1⟩

/-- A mark, zeros, capital letters, a tab, a space that does not break, comments, a line without a
frame, either end of a line, and a last line that does not end. -/
theorem roundTrips_of_layout :
    read (encodeText
      "# bus\r\n\t0x0B041 000\u00a00640# volts\n\r\nB0e1 4 1388fF".toList) =
      .ok [⟨0xb041, 0, [0x06, 0x40]⟩, ⟨0xb0e1, 4, [0x13, 0x88, 0xff]⟩] := by
  refine (roundTrips _).written _ ?_ (by decide)
  have hcomment : IsLine "# bus".toList none :=
    ⟨[], _, rfl, .blank (by decide), .some (by decide)⟩
  have hblank : IsLine [] none := ⟨[], [], rfl, .blank (by decide), .none⟩
  have hmarked : IsContent ("\t".toList ++ ("0x0B041".toList ++ (" ".toList ++ ("000".toList ++
      ("\u00a0".toList ++ ("0640".toList ++ []))))))
      (some ⟨0xb041, 0, [0x06, 0x40]⟩) :=
    .frame (by decide) ⟨"0B041".toList, ⟨1, by decide⟩, .inr rfl⟩ (by decide) (by decide)
      ⟨2, by decide⟩ (by decide) (by decide) (by rfl) (by decide)
  have hplain : IsContent ([] ++ ("B0e1".toList ++ (" ".toList ++ ("4".toList ++
      (" ".toList ++ ("1388fF".toList ++ []))))))
      (some ⟨0xb0e1, 4, [0x13, 0x88, 0xff]⟩) :=
    .frame (by decide) ⟨_, ⟨0, by decide⟩, .inl rfl⟩ (by decide) (by decide)
      ⟨0, by decide⟩ (by decide) (by decide) (by rfl) (by decide)
  exact .line hcomment (.inr rfl) (.line ⟨_, "# volts".toList, rfl, hmarked, .some (by decide)⟩
    (.inl rfl) (.line hblank (.inr rfl) (.last ⟨_, [], rfl, hplain, .none⟩)))

end BatteryTelemetry.Capture
