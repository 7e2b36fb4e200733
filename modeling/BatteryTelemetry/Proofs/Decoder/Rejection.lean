import BatteryTelemetry.Decoder.Log
import BatteryTelemetry.Proofs.Bus.Answer
import BatteryTelemetry.Proofs.Decoder.Receive

/-!
# Rejected frames

A frame is accepted if it answers a parameter. Any other frame changes nothing, so it may as well
be left out of a run. The log tells the two kinds apart: a frame of an unknown code has one line, a
short one has three, the last two of which no accepted frame has. An accepted frame is warned about
only if it is the second half of a block for which no byte is kept.
-/

namespace BatteryTelemetry

/-- The frame has a known code and the bytes that the parameter needs. -/
def Frame.IsAccepted (frame : Frame) : Prop := ∃ pid ∈ Pid.all, frame.Answers pid

instance : DecidablePred Frame.IsAccepted := fun frame ↦
  inferInstanceAs (Decidable (∃ pid ∈ Pid.all, frame.Answers pid))

namespace Message

variable {frame : Frame}

theorem isAccepted_iff : frame.IsAccepted ↔ ∃ message, ofFrame frame = .ok message := by
  constructor
  · rintro ⟨pid, -, hanswers⟩
    exact ⟨_, ofFrame_of_answers hanswers⟩
  · rintro ⟨message, hmessage⟩
    exact ⟨message.pid, Pid.mem_all _, answers_of_ofFrame hmessage⟩

/-- A code that no parameter has is refused before the payload is looked at. -/
theorem ofFrame_of_unknown (h : ∀ pid : Pid, frame.code ≠ pid.code) :
    ofFrame frame = .error (.unknownCode frame.code) := by
  have hnone : Pid.ofCode? frame.code = none := by
    apply Option.eq_none_iff_forall_not_mem.mpr
    intro pid hpid
    exact h pid (Pid.ofCode_eq_some_iff.mp hpid).symm
  rw [ofFrame, hnone]

/-- A payload that is too short is refused with its length. -/
theorem ofFrame_of_short {pid : Pid} (hcode : frame.code = pid.code)
    (hshort : frame.data.length < pid.requiredBytes) :
    ofFrame frame = .error (.tooShort pid frame.data.length) := by
  have hnone : ofPayload? pid frame.remain frame.data = none := by
    rw [← Option.not_isSome_iff_eq_none, ofPayload_isSome_iff]
    exact Nat.not_le.mpr hshort
  simp only [ofFrame, Pid.ofCode_eq_some_iff.mpr hcode.symm, hnone]

end Message

namespace LogLine

/-- The line begins with neither of the letters of a size warning and a dropped frame. -/
def IsPlain (line : LogLine) : Prop :=
  ∃ c, line.text.toList.head? = some c ∧ c ≠ 'I' ∧ c ≠ 'D'

/-- A text begins like its first part. -/
theorem head?_append {s : String} {c : Char} (h : s.toList.head? = some c) (t : String) :
    (s ++ t).toList.head? = some c := by
  simp [h]

/-- The first letter tells these lines from the others. -/
theorem IsPlain.ne_append {line : LogLine} (h : line.IsPlain) (rest : String) :
    line.text ≠ "Invalid frame size - " ++ rest ∧ line.text ≠ "Dropped " ++ rest := by
  obtain ⟨c, hc, hsize, hdropped⟩ := h
  constructor
  · intro heq
    rw [heq, head?_append (c := 'I') (by decide)] at hc
    exact hsize (Option.some.inj hc).symm
  · intro heq
    rw [heq, head?_append (c := 'D') (by decide)] at hc
    exact hdropped (Option.some.inj hc).symm

end LogLine

theorem Metric.exists_head_name (metric : Metric) :
    ∃ c, metric.name.toList.head? = some c ∧ c ≠ 'I' ∧ c ≠ 'D' := by
  cases metric <;> exact ⟨_, rfl, by decide, by decide⟩

theorem CellMetric.head_name (metric : CellMetric) : metric.name.toList.head? = some 'b' := by
  cases metric <;> decide

theorem Pid.exists_head_description (pid : Pid) :
    ∃ c, pid.description.toList.head? = some c ∧ c ≠ 'I' ∧ c ≠ 'D' := by
  cases pid with
  | cellBlock block =>
    refine ⟨'c', ?_, by decide, by decide⟩
    iterate 2 apply LogLine.head?_append
    decide
  | _ => exact ⟨_, rfl, by decide, by decide⟩

namespace Decoder

def log (decoder : Decoder) (frame : Frame) : List LogLine := logLines (decoder.effects frame)

variable (decoder : Decoder) {frame : Frame}

theorem dispatch_of_not_isAccepted (h : ¬frame.IsAccepted) : decoder.dispatch frame = decoder := by
  cases hframe : Message.ofFrame frame with
  | error rejection => exact dispatch_of_error decoder hframe
  | ok message => exact absurd (Message.isAccepted_iff.mpr ⟨message, hframe⟩) h

/-- Frames that are not accepted may be left out of a run. -/
theorem run_filter_isAccepted (frames : List Frame) :
    decoder.run (frames.filter (·.IsAccepted)) = decoder.run frames := by
  rw [run, run, List.foldl_filter]
  congr 1
  funext d frame
  by_cases h : frame.IsAccepted
  · simp [h]
  · simp [h, dispatch_of_not_isAccepted d h]

/-- A frame with an unknown code is told in one line. -/
theorem log_of_unknown (h : ∀ pid : Pid, frame.code ≠ pid.code) :
    decoder.log frame = [(Note.ignored frame.code).logLine] := by
  rw [log, effects, Message.ofFrame_of_unknown h]
  rfl

/-- A frame that is too short is told as received and then as dropped. -/
theorem log_of_short {pid : Pid} (hcode : frame.code = pid.code)
    (hshort : frame.data.length < pid.requiredBytes) :
    decoder.log frame = [(Note.received pid frame.remain frame.data).logLine,
      (Note.tooShort pid frame.data.length).logLine,
      (Note.dropped pid frame.data.length).logLine] := by
  rw [log, effects, Message.ofFrame_of_short hcode hshort]
  rfl

theorem log_of_ok {message : Message} (h : Message.ofFrame frame = .ok message) :
    decoder.log frame = (Note.received message.pid frame.remain frame.data).logLine ::
      logLines (decoder.messageEffects message) := by
  rw [log, effects, h]
  rfl

/-- Whether a note may be one of a message. -/
def Tells (message : Message) : Note → Prop
  | .unpaired block => decoder.highByte? block = none ∧
      ∃ low coldest warmest board, message = .secondHalf block low coldest warmest board
  | .chargeEnded _ _ => True
  | _ => False

variable {decoder} {message : Message}

/-- What is noted of a message is known beforehand. -/
theorem tells_of_mem_messageEffects :
    ∀ effect ∈ decoder.messageEffects message, ∀ n, effect = .note n → decoder.Tells message n := by
  cases message with
  | stateOfCharge raw =>
    cases hflag : decoder.store.flag .chargeInProgress <;>
      simp [messageEffects, stateOfChargeEffects, hflag]
  | status status =>
    rcases decoder.store.statusEffects_cases status with
      ⟨-, -, heffects⟩ | ⟨-, -, heffects⟩ | ⟨-, -, -, heffects⟩ | ⟨-, -, -, heffects⟩ <;>
      simp [messageEffects, heffects, Store.alternatingEffects, Store.rapidEffects,
        Store.endEffects, Tells]
  | firstHalf block leastCell high => simp [messageEffects, firstHalfEffects, cellEffect]
  | secondHalf block low coldest warmest board =>
    refine List.forall_mem_append.mpr ⟨?_, ?_⟩
    · cases hbyte : decoder.highByte? block <;> simp [greatestEffects, hbyte, cellEffect, Tells]
    · cases board <;> simp [temperatureEffects, cellEffect, or_imp, forall_and]
  | _ => simp [messageEffects]

theorem unpaired_mem_messageEffects {block : BlockIndex} (h : decoder.highByte? block = none)
    (low coldest warmest : UInt8) (board : Option UInt8) :
    .note (.unpaired block) ∈
      decoder.messageEffects (.secondHalf block low coldest warmest board) := by
  simp [messageEffects, greatestEffects, h]

/-- No effect of an accepted frame is told like a refusal. -/
theorem isPlain_of_mem_messageEffects {effect : Effect} {line : LogLine}
    (heffect : effect ∈ decoder.messageEffects message) (hline : effect.logLine? = some line) :
    line.IsPlain := by
  cases effect with
  | publish metric value =>
    obtain rfl := Option.some.inj hline
    obtain ⟨c, hhead, hplain⟩ := metric.exists_head_name
    exact ⟨c, LogLine.head?_append (LogLine.head?_append hhead _) _, hplain⟩
  | publishCell metric index x =>
    obtain rfl := Option.some.inj hline
    refine ⟨'b', ?_, by decide, by decide⟩
    iterate 4 apply LogLine.head?_append
    exact metric.head_name
  | keep block high => cases hline
  | note n =>
    obtain rfl := Option.some.inj hline
    have htells := tells_of_mem_messageEffects _ heffect n rfl
    cases n with
    | unpaired block =>
      refine ⟨'B', ?_, by decide, by decide⟩
      iterate 2 apply LogLine.head?_append
      decide
    | chargeEnded status state =>
      refine ⟨'C', ?_, by decide, by decide⟩
      iterate 3 apply LogLine.head?_append
      decide
    | ignored | received | tooShort | dropped => cases htells

/-- No line of an accepted frame begins like a size warning or a report of a dropped frame. -/
theorem isPlain_of_mem_log (h : frame.IsAccepted) {line : LogLine}
    (hline : line ∈ decoder.log frame) : line.IsPlain := by
  obtain ⟨message, hmessage⟩ := Message.isAccepted_iff.mp h
  rw [log_of_ok decoder hmessage, List.mem_cons] at hline
  rcases hline with rfl | hline
  · obtain ⟨c, hhead, hplain⟩ := message.pid.exists_head_description
    refine ⟨c, ?_, hplain⟩
    iterate 4 apply LogLine.head?_append
    exact hhead
  · obtain ⟨effect, heffect, hsome⟩ := List.mem_filterMap.mp hline
    exact isPlain_of_mem_messageEffects heffect hsome

/-- An accepted frame is warned about if it is a second half that has no kept byte to go with. -/
theorem warn_mem_log_iff (h : frame.IsAccepted) :
    (∃ line ∈ decoder.log frame, line.level = .warn) ↔
      ∃ block, frame.IsSecondHalf block ∧ decoder.highByte? block = none := by
  obtain ⟨message, hmessage⟩ := Message.isAccepted_iff.mp h
  rw [log_of_ok decoder hmessage]
  constructor
  · rintro ⟨line, hline, hlevel⟩
    rcases List.mem_cons.mp hline with rfl | hline
    · cases hlevel
    · obtain ⟨effect, heffect, hsome⟩ := List.mem_filterMap.mp hline
      cases effect with
      | publish | publishCell =>
        obtain rfl := Option.some.inj hsome
        cases hlevel
      | keep => cases hsome
      | note n =>
        obtain rfl := Option.some.inj hsome
        have htells := tells_of_mem_messageEffects _ heffect n rfl
        cases n with
        | unpaired block =>
          obtain ⟨hbyte, low, coldest, warmest, board, rfl⟩ := htells
          exact ⟨block, (Message.ofFrame_eq_secondHalf_iff.mp hmessage).1, hbyte⟩
        | chargeEnded => cases hlevel
        | ignored | received | tooShort | dropped => cases htells
  · rintro ⟨block, hsecond, hbyte⟩
    have hhalf := Message.ofFrame_eq_secondHalf_iff.mpr ⟨hsecond, rfl, rfl, rfl, rfl⟩
    obtain rfl := Except.ok.inj (hmessage.symm.trans hhalf)
    refine ⟨(Note.unpaired block).logLine, List.mem_cons_of_mem _ ?_, rfl⟩
    exact List.mem_filterMap.mpr ⟨_, unpaired_mem_messageEffects hbyte _ _ _ _, rfl⟩

end Decoder

/-! ## All frames -/

/-- What becomes of a frame in the state and in the log. -/
structure Decoder.Treats (decoder : Decoder) (frame : Frame) : Prop where
  dispatch_eq_self : ¬frame.IsAccepted → decoder.dispatch frame = decoder
  log_of_unknown : (∀ pid : Pid, frame.code ≠ pid.code) →
    decoder.log frame = [⟨.trace, s!"Ignoring PID {codeText frame.code}"⟩]
  log_of_short (pid : Pid) : frame.code = pid.code → frame.data.length < pid.requiredBytes →
    let sizes := s!"required={pid.requiredBytes} received={frame.data.length}"
    decoder.log frame =
      [⟨.trace, s!"{pid.description} remain={frame.remain} data={payloadText frame.data}"⟩,
        ⟨.warn, s!"Invalid frame size - {sizes}"⟩,
        ⟨.debug, s!"Dropped {pid.description} frame: " ++ s!"Frame too short - {sizes}"⟩]
  log_of_accepted : frame.IsAccepted → ∀ line ∈ decoder.log frame, ∀ rest : String,
    line.text ≠ "Invalid frame size - " ++ rest ∧ line.text ≠ "Dropped " ++ rest
  warns_iff : frame.IsAccepted → ((∃ line ∈ decoder.log frame, line.level = .warn) ↔
    ∃ block, frame.IsSecondHalf block ∧ decoder.highByte? block = none)

/-- Whatever the decoder, a rejected frame leaves no trace in its state and the same lines in its
log, and without the rejected frames a run ends in the same state. -/
theorem Decoder.treats_and_run_filter (decoder : Decoder) (frames : List Frame) :
    (∀ frame, decoder.Treats frame) ∧
      decoder.run (frames.filter (·.IsAccepted)) = decoder.run frames := by
  refine ⟨fun frame ↦ ?_, run_filter_isAccepted decoder frames⟩
  exact {
    dispatch_eq_self := dispatch_of_not_isAccepted decoder
    log_of_unknown := log_of_unknown decoder
    log_of_short := fun pid ↦ log_of_short decoder
    log_of_accepted := fun h line hline ↦ (isPlain_of_mem_log h hline).ne_append
    warns_iff := warn_mem_log_iff }

/-- The three lines of a half of a block that is one byte short. -/
example :
    (Decoder.start .unset .empty).log ⟨0xb0e4, 0, [0x10, 0x78]⟩ =
      [⟨.trace, "cell block 4 stats remain=0 data=[10, 78]"⟩,
        ⟨.warn, "Invalid frame size - required=3 received=2"⟩,
        ⟨.debug, "Dropped cell block 4 stats frame: Frame too short - required=3 received=2"⟩] := by
  decide +kernel

end BatteryTelemetry
