import BatteryTelemetry.Capture.Basic

/-!
# Reading line by line

A capture that ends where a line ends may be followed by another one. Reading both is reading the
first and then the second, whose lines are counted on (`readLines_append`, `readLines_add`). So the
outcome is decided by the first line at fault (`readLines_eq_error_iff`), be it a line that is no
text or one whose fields cannot be read. The lines before it need not hold frames, but they count.
-/

namespace BatteryTelemetry.Capture

/-- The fault of a capture with more lines before it. -/
def Fault.after (count : Nat) : Fault → Fault
  | line number fault => line (count + number) fault
  | file fault => file fault
  | notText => notText

def readLineAt (number : Nat) (line : List UInt8) : Except Fault (Option Frame) :=
  match decodeText? line with
  | none => .error .notText
  | some text =>
    match readLine text with
    | .error reason => .error (.line number reason)
    | .ok frame? => .ok frame?

def IsReadable (line : List UInt8) : Prop :=
  ∃ text frame?, decodeText? line = some text ∧ readLine text = .ok frame?

/-- There are no bytes behind the last line feed. -/
def EndsLine (bytes : List UInt8) : Prop := bytes = [] ∨ bytes.getLast? = some lineFeed

instance (bytes : List UInt8) : Decidable (EndsLine bytes) :=
  inferInstanceAs (Decidable (_ ∨ _))

section

variable {number : Nat} {line : List UInt8}

theorem readLineAt_of_none (number : Nat) (h : decodeText? line = none) :
    readLineAt number line = .error .notText := by
  simp only [readLineAt, h]

theorem readLineAt_of_error (number : Nat) {text : List Char} {reason : LineFault}
    (htext : decodeText? line = some text) (hread : readLine text = .error reason) :
    readLineAt number line = .error (.line number reason) := by
  simp only [readLineAt, htext, hread]

theorem readLineAt_of_ok (number : Nat) {text : List Char} {frame? : Option Frame}
    (htext : decodeText? line = some text) (hread : readLine text = .ok frame?) :
    readLineAt number line = .ok frame? := by
  simp only [readLineAt, htext, hread]

theorem readLineAt_eq_ok_iff {frame? : Option Frame} :
    readLineAt number line = .ok frame? ↔
      ∃ text, decodeText? line = some text ∧ readLine text = .ok frame? := by
  cases htext : decodeText? line with
  | none => simp [readLineAt_of_none number htext]
  | some text =>
    cases hread : readLine text with
    | error reason => simp [readLineAt_of_error number htext hread, hread]
    | ok found => simp [readLineAt_of_ok number htext hread, hread]

/-- A line fails as bytes or as a text, and only the second fault has the number of the line. -/
theorem readLineAt_eq_error_iff {fault : Fault} :
    readLineAt number line = .error fault ↔
      decodeText? line = none ∧ fault = .notText ∨
        ∃ text reason, decodeText? line = some text ∧ readLine text = .error reason ∧
          fault = .line number reason := by
  cases htext : decodeText? line with
  | none => simp [readLineAt_of_none number htext, eq_comm]
  | some text =>
    cases hread : readLine text with
    | error reason => simp [readLineAt_of_error number htext hread, hread, eq_comm]
    | ok found => simp [readLineAt_of_ok number htext hread, hread]

/-- The number of a line does not matter to whether it can be read. -/
theorem isReadable_iff (number : Nat) :
    IsReadable line ↔ ∃ frame?, readLineAt number line = .ok frame? := by
  simp only [readLineAt_eq_ok_iff, IsReadable]
  exact exists_comm

/-- A line with a later number has a later fault. -/
theorem readLineAt_add (count : Nat) :
    readLineAt (count + number) line = (readLineAt number line).mapError (.after count) := by
  cases htext : decodeText? line with
  | none =>
    rw [readLineAt_of_none _ htext, readLineAt_of_none _ htext]
    rfl
  | some text =>
    cases hread : readLine text with
    | error reason =>
      rw [readLineAt_of_error _ htext hread, readLineAt_of_error _ htext hread]
      rfl
    | ok found =>
      rw [readLineAt_of_ok _ htext hread, readLineAt_of_ok _ htext hread]
      rfl

end

variable {number : Nat} {lines : List (List UInt8)}

theorem readLines_cons (number : Nat) (line : List UInt8) (rest : List (List UInt8)) :
    readLines number (line :: rest) =
      (readLineAt number line).bind fun frame? ↦
        (readLines (number + 1) rest).map (frame?.toList ++ ·) := by
  rw [readLines, readLineAt]
  cases decodeText? line with
  | none => rfl
  | some text =>
    dsimp only
    rcases readLine text with fault | _ | frame
    · rfl
    · cases readLines (number + 1) rest <;> rfl
    · rfl

/-- The second part is read only if the first one can be read. -/
theorem readLines_append (number : Nat) (early late : List (List UInt8)) :
    readLines number (early ++ late) =
      (readLines number early).bind fun frames ↦
        (readLines (number + early.length) late).map (frames ++ ·) := by
  induction early generalizing number with
  | nil =>
    rw [List.nil_append, List.length_nil, Nat.add_zero]
    cases hlate : readLines number late <;> simp [readLines, Except.bind, Except.map]
  | cons line rest ih =>
    have hlength : number + (line :: rest).length = number + 1 + rest.length := by
      simp only [List.length_cons]
      omega
    rw [List.cons_append, readLines_cons, readLines_cons, ih, hlength]
    cases readLineAt number line with
    | error fault => rfl
    | ok frame? =>
      cases readLines (number + 1) rest with
      | error fault => rfl
      | ok frames =>
        cases readLines (number + 1 + rest.length) late <;>
          simp [Except.bind, Except.map]

/-- Lines that are counted on from a later number have later faults. -/
theorem readLines_add (count number : Nat) (lines : List (List UInt8)) :
    readLines (count + number) lines = (readLines number lines).mapError (.after count) := by
  induction lines generalizing number with
  | nil => rfl
  | cons line rest ih =>
    rw [readLines_cons, readLines_cons, readLineAt_add, Nat.add_assoc, ih]
    cases readLineAt number line with
    | error fault => rfl
    | ok frame? => cases readLines (number + 1) rest <;> rfl

/-- All lines count, those behind the last line feed included. -/
theorem exists_readLines_iff (number : Nat) :
    (∃ frames, readLines number lines = .ok frames) ↔ ∀ line ∈ lines, IsReadable line := by
  induction lines generalizing number with
  | nil => simp [readLines]
  | cons line rest ih =>
    rw [List.forall_mem_cons, ← ih (number + 1), isReadable_iff number, readLines_cons]
    cases readLineAt number line with
    | error fault => simp [Except.bind]
    | ok frame? => cases readLines (number + 1) rest <;> simp [Except.bind, Except.map]

/-- Lines fail with the fault of the first one that cannot be read. -/
theorem readLines_eq_error_iff {fault : Fault} :
    readLines number lines = .error fault ↔
      ∃ early line late, lines = early ++ line :: late ∧ (∀ other ∈ early, IsReadable other) ∧
        readLineAt (number + early.length) line = .error fault := by
  constructor
  · intro h
    induction lines generalizing number with
    | nil => cases h
    | cons line rest ih =>
      rw [readLines_cons] at h
      cases hline : readLineAt number line with
      | error first =>
        rw [hline] at h
        obtain rfl : first = fault := Except.error.inj h
        exact ⟨[], line, rest, rfl, by simp, hline⟩
      | ok frame? =>
        have hrest : readLines (number + 1) rest = .error fault := by
          rw [hline] at h
          cases hrest : readLines (number + 1) rest <;> simp_all [Except.bind, Except.map]
        obtain ⟨early, failing, late, rfl, hearly, hfailing⟩ := ih hrest
        refine ⟨line :: early, failing, late, rfl, ?_, ?_⟩
        · exact List.forall_mem_cons.mpr ⟨(isReadable_iff number).mpr ⟨frame?, hline⟩, hearly⟩
        · rwa [List.length_cons, Nat.add_comm early.length, ← Nat.add_assoc]
  · rintro ⟨early, line, late, rfl, hearly, hline⟩
    obtain ⟨frames, hframes⟩ := (exists_readLines_iff number).mpr hearly
    rw [readLines_append, hframes, Except.bind, readLines_cons, hline]
    rfl

variable {bytes : List UInt8}

theorem length_splitOn_lineFeed (bytes : List UInt8) :
    (bytes.splitOn lineFeed).length = bytes.count lineFeed + 1 := by
  induction bytes with
  | nil => rfl
  | cons byte rest ih =>
    rw [List.splitOn_cons_eq_if_modifyHead, List.count_cons]
    by_cases h : byte == lineFeed <;> simp [h, ih]

/-- Where a line ends, bytes may be split: the rest is lines of its own. -/
theorem splitOn_append_of_endsLine (h : EndsLine bytes) (rest : List UInt8) :
    (bytes ++ rest).splitOn lineFeed =
      (bytes.splitOn lineFeed).dropLast ++ rest.splitOn lineFeed := by
  rcases h with rfl | hlast
  · simp
  · obtain ⟨early, rfl⟩ := List.getLast?_eq_some_iff.mp hlast
    simp [List.splitOn_append_cons_self]

theorem readLines_blank (number : Nat) : readLines number [[]] = .ok [] := by
  have hline : readLineAt number [] = .ok none :=
    readLineAt_eq_ok_iff.mpr ⟨[], by decide, rfl⟩
  rw [readLines_cons, hline]
  rfl

/-- Bytes that end where a line ends and other bytes are read one after the other. -/
theorem read_append (h : EndsLine bytes) (rest : List UInt8) :
    read (bytes ++ rest) = (read bytes).bind fun frames ↦
      ((read rest).mapError (.after (bytes.count lineFeed))).map (frames ++ ·) := by
  have hlength : (bytes.splitOn lineFeed).dropLast.length = bytes.count lineFeed := by
    rw [List.length_dropLast, length_splitOn_lineFeed, Nat.add_sub_cancel]
  -- What is split off behind the last line feed is an empty line, which holds no frame.
  have hbytes : read bytes = readLines 1 (bytes.splitOn lineFeed).dropLast := by
    have hsplit := splitOn_append_of_endsLine h []
    rw [List.append_nil, List.splitOn_nil] at hsplit
    rw [read, hsplit, List.dropLast_concat, readLines_append]
    cases readLines 1 (bytes.splitOn lineFeed).dropLast with
    | error fault => rfl
    | ok frames => simp [Except.bind, Except.map, readLines_blank]
  calc
    read (bytes ++ rest) = readLines 1
        ((bytes.splitOn lineFeed).dropLast ++ rest.splitOn lineFeed) := by
      rw [read, splitOn_append_of_endsLine h]
    _ = (readLines 1 (bytes.splitOn lineFeed).dropLast).bind fun frames ↦
        (readLines (bytes.count lineFeed + 1) (rest.splitOn lineFeed)).map (frames ++ ·) := by
      rw [readLines_append, hlength, Nat.add_comm]
    _ = _ := by rw [hbytes, readLines_add, read]

/-! ## Parts of a capture -/

/-- The first part is read on its own, and the second one only if the first one can be read. -/
structure ReadsInParts (early late : List UInt8) : Prop where
  error (fault : Fault) : read early = .error fault → read (early ++ late) = .error fault
  ok (first second : List Frame) : read early = .ok first → read late = .ok second →
    read (early ++ late) = .ok (first ++ second)
  line (first : List Frame) (number : Nat) (fault : LineFault) : read early = .ok first →
    read late = .error (.line number fault) →
      read (early ++ late) = .error (.line (number + early.count lineFeed) fault)
  notText (first : List Frame) : read early = .ok first → read late = .error .notText →
    read (early ++ late) = .error .notText

/-- Reading succeeds if every line can be read, and fails with the first one that cannot. -/
structure ReportsFirstFault (bytes : List UInt8) : Prop where
  ok_iff : (∃ frames, read bytes = .ok frames) ↔
    ∀ line ∈ bytes.splitOn lineFeed, IsReadable line
  line_iff (number : Nat) (fault : LineFault) : read bytes = .error (.line number fault) ↔
    ∃ early line late text, bytes.splitOn lineFeed = early ++ line :: late ∧
      (∀ other ∈ early, IsReadable other) ∧ decodeText? line = some text ∧
      readLine text = .error fault ∧ number = early.length + 1
  notText_iff : read bytes = .error .notText ↔
    ∃ early line late, bytes.splitOn lineFeed = early ++ line :: late ∧
      (∀ other ∈ early, IsReadable other) ∧ decodeText? line = none
  ne_file (fault : FileFault) : read bytes ≠ .error (.file fault)

/-- By induction on the lines, each of which is read before those behind it. -/
theorem reportsFirstFault (bytes : List UInt8) : ReportsFirstFault bytes where
  ok_iff := exists_readLines_iff 1
  line_iff number fault := by
    simp [read, readLines_eq_error_iff, readLineAt_eq_error_iff, Nat.add_comm]
  notText_iff := by
    simp [read, readLines_eq_error_iff, readLineAt_eq_error_iff]
  ne_file fault := by
    simp [read, readLines_eq_error_iff, readLineAt_eq_error_iff]

/-- A capture is read in parts wherever a line ends, and the first line at fault is reported by
its number among all lines. -/
theorem reads_in_parts {early : List UInt8} (h : EndsLine early) (late : List UInt8) :
    ReadsInParts early late ∧ ReportsFirstFault (early ++ late) := by
  refine ⟨⟨?_, ?_, ?_, ?_⟩, reportsFirstFault _⟩
  · intro fault hearly
    rw [read_append h, hearly]
    rfl
  · intro first second hearly hlate
    rw [read_append h, hearly, hlate]
    rfl
  · intro first number fault hearly hlate
    rw [read_append h, hearly, hlate, Nat.add_comm]
    rfl
  · intro first hearly hlate
    rw [read_append h, hearly, hlate]
    rfl

/-- The second part has a line at fault and then one that is no text; the comment counts. -/
theorem reads_in_parts_of_third_line :
    let early := "b041 0 0640\r\n# bus\n".toUTF8.data.toList
    let late := "b041 zero 0640\n".toUTF8.data.toList ++ [0xff]
    EndsLine early ∧
      read (early ++ late) = .error (.line 3 (.remain "zero".toList .invalidDigit)) := by
  intro early late
  have h : EndsLine early := by decide
  refine ⟨h, ?_⟩
  exact (reads_in_parts h late).1.line [⟨0xb041, 0, [0x06, 0x40]⟩] 1 _ (by rfl) (by rfl)

end BatteryTelemetry.Capture
