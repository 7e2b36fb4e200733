import BatteryTelemetry.Proofs.Capture.Field
import BatteryTelemetry.Proofs.Command.Replay

/-!
# Frames as arguments and in captures

A frame comes as three arguments or as the three fields of a line. The arguments of a command are
read behind those that name the vehicle's file (`read_of_namesVehicle`), and three texts that are
not made of switches are the parts of a frame (`readAction_frame`). So the two ways accept the same
texts as a code (`codesReadAlike`), and a frame that is accepted shows what the capture of its one
line shows (`frame_shows_line`).
-/

namespace BatteryTelemetry.Command

open Capture (IsPlain IsWord IsLineEnd fieldsLine)

namespace Level

variable {σ α : Type} {level : Level σ} {arguments : List String} {items : List Item}

theorem finish_eq_takeAll (h : Item.switch "verbose" ∉ items) :
    level.finish items = level.takeAll items := by
  rw [finish]
  cases level.takeAll items with
  | error halt => rfl
  | ok state => simp [h, bind, Except.bind, pure, Except.pure]

theorem read_of_command {below : String → List String → Parsed α} {name : String}
    {rest : List String} {early state : σ}
    (hsplit : level.grammar.split arguments = (items, .command name rest)) (hname : name ≠ "help")
    (hearly : level.takeAll (settled items) = .ok early) (hstate : level.finish items = .ok state) :
    level.read below arguments = (below name rest).map fun inner ↦ (state, some inner) := by
  simp only [read, hsplit, hearly, hstate, if_neg hname]
  cases below name rest <;> rfl

theorem readLast_of_finished (hsplit : level.grammar.split arguments = (items, .finished)) :
    level.readLast arguments = level.finish items := by
  simp only [readLast, read, hsplit]
  cases level.finish items <;> rfl

end Level

/-- The arguments in front of a command that name the vehicle's file, or none. -/
inductive NamesVehicle : List String → Option String → Prop where
  | none : NamesVehicle [] none
  | letter {file : String} (hne : file ≠ "") (h : isHyphenated file = false) :
    NamesVehicle ["-c", file] (some file)
  | word {file : String} (hne : file ≠ "") (h : isHyphenated file = false) :
    NamesVehicle ["--config", file] (some file)

variable {options : List String} {vehicleFile : Option String}

theorem split_config {argument file : String} (hargument : argument = "-c" ∨ argument = "--config")
    (h : isHyphenated file = false) (arguments : List String) :
    programLevel.grammar.split (argument :: file :: "frame" :: arguments) =
      ([.switch "config", .setting "config" file false], .command "frame" arguments) := by
  have hswitch : programLevel.grammar.readSwitches argument =
      ([.switch "config"], .valueOf "config") := by
    rcases hargument with rfl | rfl <;> rfl
  have hcommand : argument ∉ programLevel.grammar.commands := by
    rcases hargument with rfl | rfl <;> decide
  have hhyphen : isHyphenated argument := by
    rcases hargument with rfl | rfl <;> rfl
  have hdashes : argument ≠ "--" := by
    rcases hargument with rfl | rfl <;> decide
  have hframe : "frame" ∈ programLevel.grammar.commands := by decide
  simp [Grammar.split, Grammar.splitFrom, Grammar.behind, hswitch, hcommand, hhyphen, hdashes, h,
    hframe]

/-- The vehicle's file goes into the request and changes nothing else of it. -/
theorem read_of_namesVehicle (h : NamesVehicle options vehicleFile) (arguments : List String) :
    Request.read (options ++ "frame" :: arguments) =
      (readAction "frame" arguments).map (Request.mk vehicleFile) := by
  have hread : programLevel.read readAction (options ++ "frame" :: arguments) =
      (readAction "frame" arguments).map fun action ↦ (vehicleFile, some action) := by
    have hconfig {file : String} (hne : file ≠ "") :
        programLevel.finish [.switch "config", .setting "config" file false] = .ok (some file) := by
      simp [Level.finish, Level.takeAll, programLevel, fileName, once, hne, bind, Except.bind, pure,
        Except.pure]
    cases h with
    | none => exact Level.read_of_command rfl (by decide) rfl rfl
    | letter hne hfile =>
      exact Level.read_of_command (split_config (.inl rfl) hfile arguments) (by decide) rfl
        (hconfig hne)
    | word hne hfile =>
      exact Level.read_of_command (split_config (.inr rfl) hfile arguments) (by decide) rfl
        (hconfig hne)
  rw [Request.read, hread]
  cases readAction "frame" arguments <;> rfl

/-- Fields of a line are never taken for switches. -/
theorem isHyphenated_of_isPlain {text : String} (h : IsPlain text.toList) :
    isHyphenated text = false := by
  unfold isHyphenated
  split
  · rename_i htext
    exact absurd (htext ▸ List.mem_cons_self) h.hyphen_notMem
  · rfl

/-- Three arguments that are no switches are the code, the count and the payload. -/
theorem readAction_frame {code remain payload : String} (hcode : isHyphenated code = false)
    (hremain : isHyphenated remain = false) (hpayload : isHyphenated payload = false) :
    readAction "frame" [code, remain, payload] = do
      let code ← frameCode code
      let remain ← count remain
      return .frame code remain payload := by
  have hdashes {text : String} (h : isHyphenated text = false) : text ≠ "--" := by
    rintro rfl
    cases h
  have hsplit : frameLevel.grammar.split [code, remain, payload] =
      ([.value 0 code, .value 1 remain, .value 2 payload], .finished) := by
    simp [Grammar.split, frameLevel, Grammar.splitFrom, Grammar.behind, hcode, hremain, hpayload,
      hdashes]
  have hread : readAction "frame" [code, remain, payload] =
      frameLevel.takeAll [.value 0 code, .value 1 remain, .value 2 payload] >>=
        FrameParts.action := by
    rw [← Level.finish_eq_takeAll (by simp), ← Level.readLast_of_finished hsplit]
    rfl
  rw [hread]
  cases hread : frameCode code with
  | error halt => simp [Level.takeAll, frameLevel, once, hread, bind, Except.bind]
  | ok value =>
    cases hcount : count remain <;>
      simp [Level.takeAll, frameLevel, once, required, FrameParts.action, hread, hcount, bind,
        Except.bind, pure, Except.pure]

theorem count_of_isWritten {text : String} {n : UInt16}
    (h : Numeral.IsWritten 10 n.toNat text.toList) : count text = .ok n := by
  have hread : Numeral.read 10 0xffff text.toList = .ok n.toNat :=
    h.read (by decide) (by decide) (Nat.le_of_lt_succ n.toNat_lt)
  have hhyphen : '-' ∉ text.toList := (IsPlain.of_read hread).hyphen_notMem
  unfold count
  split
  · rename_i htext
    exact absurd (htext ▸ List.mem_cons_self) hhyphen
  · simp [hread, pure, Except.pure]

theorem frameCode_eq_ok_iff {text : String} {code : UInt16} :
    frameCode text = .ok code ↔ Capture.readCode text.toList = .ok code := by
  unfold frameCode
  cases Capture.readCode text.toList <;>
    simp [pure, Except.pure, throw, throwThe, MonadExceptOf.throw]

theorem frameCode_eq_error_iff {text : String} {halt : Halt} :
    frameCode text = .error halt ↔
      ∃ reason, Capture.readCode text.toList = .error (.code text.toList reason) ∧
        halt = .code (.code text.toList reason) := by
  unfold frameCode Capture.readCode
  cases Numeral.read 16 0xffff (Capture.stripMarks text.toList) <;>
    simp [pure, Except.pure, throw, throwThe, MonadExceptOf.throw, eq_comm]

/-- A text is read as the code of a frame alike among the arguments and in a line: it has the same
value, or it is refused for the same reason. -/
structure CodesReadAlike (text : String) : Prop where
  accepted_iff {remain payload : List Char} {n : UInt16} {data : List UInt8} :
    Numeral.IsWritten 10 n.toNat remain → Hex.decode? payload = some data → payload ≠ [] →
      ∀ code, frameCode text = .ok code ↔
        Capture.readLine (fieldsLine text.toList remain payload) = .ok (some ⟨code, n, data⟩)
  rejected {halt : Halt} : frameCode text = .error halt → ∃ fault : Capture.LineFault,
    (∃ reason : NumeralFault,
      fault.message = s!"invalid PID {Text.quoted text.toList}: {reason.message}") ∧
    halt.outcome = ⟨2, [], [fault.message], none⟩ ∧
    ∀ remain payload, IsWord remain → IsWord payload →
      Capture.readLine (fieldsLine text.toList remain payload) = .error fault
  /-- The program ends with the refusal, unless the text can be made of switches. -/
  outcome_eq {halt : Halt} {options : List String} {vehicleFile : Option String}
    {remain payload : String} : frameCode text = .error halt → NamesVehicle options vehicleFile →
      isHyphenated text = false → isHyphenated remain = false → isHyphenated payload = false →
        ∀ surroundings,
          outcome surroundings (options ++ ["frame", text, remain, payload]) = halt.outcome

theorem codesReadAlike {text : String} (h : IsWord text.toList) : CodesReadAlike text where
  accepted_iff {remain payload n data} hremain hpayload hne code := by
    have hline := Capture.readLine_fieldsLine h (.of_isWritten hremain (by decide) (by decide))
      (.of_decode hpayload hne)
    have hfields : Capture.readFields text.toList remain payload = .ok ⟨code, n, data⟩ ↔
        frameCode text = .ok code := by
      rw [Capture.readFields_eq_ok_iff, frameCode_eq_ok_iff,
        Capture.readRemain_of_isWritten hremain, Capture.readPayload_eq_ok_iff.mpr hpayload]
      simp
    rw [hline, ← hfields]
    cases Capture.readFields text.toList remain payload <;> simp [Except.map]
  rejected {halt} hhalt := by
    obtain ⟨reason, hread, rfl⟩ := frameCode_eq_error_iff.mp hhalt
    refine ⟨.code text.toList reason, ⟨reason, rfl⟩, rfl, fun remain payload hremain hpayload ↦ ?_⟩
    rw [Capture.readLine_fieldsLine h hremain hpayload, Capture.readFields, hread]
    rfl
  outcome_eq hhalt hoptions htext hremain hpayload surroundings := by
    rw [outcome, read_of_namesVehicle hoptions, readAction_frame htext hremain hpayload, hhalt]
    rfl

/-- A frame among the arguments shows what a capture of its one line shows, and whatever text takes
the place of its code is read alike. -/
theorem frame_shows_line {surroundings : Surroundings} {vehicle : Vehicle}
    {codeText remainText payloadText : String} {code remain : UInt16} {data : List UInt8}
    (hoptions : NamesVehicle options vehicleFile)
    (hvehicle : loadVehicle surroundings.files vehicleFile = .ok vehicle)
    (hcode : frameCode codeText = .ok code)
    (hremain : Numeral.IsWritten 10 remain.toNat remainText.toList)
    (hpayload : Hex.decode? payloadText.toList = some data) (hne : payloadText.toList ≠ []) :
    (∃ lines,
      outcome surroundings (options ++ ["frame", codeText, remainText, payloadText]) =
        ⟨0, lines, [], none⟩ ∧
      ∀ (later : Surroundings) (arguments : List String) (laterFile : Option String) (file : String)
        (interval? : Option Duration) (lineEnd : List Char),
        Request.read arguments = .ok ⟨laterFile, .replay file interval? .console⟩ →
        loadVehicle later.files laterFile = .ok vehicle →
        later.files file = .ok (encodeText (fieldsLine codeText.toList remainText.toList
          payloadText.toList ++ lineEnd)) → IsLineEnd lineEnd →
        outcome later arguments = ⟨0, [s!"--- Data at {later.localTime} ---"] ++ lines ++
          ["--------------------------"], [], none⟩) ∧
    ∀ text : String, IsWord text.toList → CodesReadAlike text := by
  have hread := frameCode_eq_ok_iff.mp hcode
  refine ⟨⟨((freshDecoder vehicle).dispatch ⟨code, remain, data⟩).store.consoleLines, ?_, ?_⟩,
    fun text ↦ codesReadAlike⟩
  · have hcodePlain := isHyphenated_of_isPlain (IsPlain.of_readCode hread)
    have hremainPlain := isHyphenated_of_isPlain
      (IsPlain.of_digits (hremain.isSome_digit (by decide) (by decide)))
    have hpayloadPlain := isHyphenated_of_isPlain (IsPlain.of_decode hpayload)
    have hrequest : Request.read (options ++ ["frame", codeText, remainText, payloadText]) =
        .ok ⟨vehicleFile, .frame code remain payloadText⟩ := by
      rw [read_of_namesVehicle hoptions, readAction_frame hcodePlain hremainPlain hpayloadPlain,
        hcode, count_of_isWritten hremain]
      rfl
    rw [outcome_of_read hrequest]
    simp only [run, hvehicle, runAction, readPayload, hpayload]
    rfl
  · intro later arguments laterFile file interval? lineEnd hrequest hlater hfile hend
    have hfields : Capture.readFields codeText.toList remainText.toList payloadText.toList =
        .ok ⟨code, remain, data⟩ :=
      Capture.readFields_eq_ok_iff.mpr ⟨hread, Capture.readRemain_of_isWritten hremain,
        Capture.readPayload_eq_ok_iff.mpr hpayload⟩
    have hcapture : loadCapture later.files file = .ok [⟨code, remain, data⟩] := by
      rw [loadCapture, Capture.load, hfile]
      simp only [Capture.read_fieldsLine (.of_readCode hread)
        (.of_isWritten hremain (by decide) (by decide)) (.of_decode hpayload hne) hend, hfields]
      rfl
    rw [outcome_of_read hrequest, run_replay hlater hcapture]
    rfl

/-- A code with two marks, a count with a leading zero and a byte with a plus sign; the vehicle's
file is read for both. -/
theorem frame_shows_line_with_marks :
    let surroundings : Surroundings := ⟨fun name ↦
      if name = "car.yaml" then .ok "updated_bmu: false".toUTF8.data.toList
      else .ok "0x0xB041 00 06+f\r\n".toUTF8.data.toList, "noon", "noon", "a"⟩
    ∃ lines,
      outcome surroundings ["-c", "car.yaml", "frame", "0x0xB041", "00", "06+f"] =
        ⟨0, lines, [], none⟩ ∧
      outcome surroundings ["-c", "car.yaml", "replay", "car.txt", "console"] =
        ⟨0, ["--- Data at noon ---"] ++ lines ++ ["--------------------------"], [], none⟩ := by
  intro surroundings
  have hoptions : NamesVehicle ["-c", "car.yaml"] (some "car.yaml") :=
    .letter (by decide) rfl
  have hvehicle : loadVehicle surroundings.files (some "car.yaml") = .ok ⟨false⟩ := by
    decide +kernel
  have hcode : frameCode "0x0xB041" = .ok 0xb041 := rfl
  have hremain : Numeral.IsWritten 10 (0 : UInt16).toNat "00".toList := ⟨1, by decide⟩
  have hpayload : Hex.decode? "06+f".toList = some [0x06, 0x0f] := rfl
  obtain ⟨⟨lines, hframe, hreplay⟩, -⟩ :=
    frame_shows_line hoptions hvehicle hcode hremain hpayload (by decide)
  exact ⟨lines, hframe, hreplay surroundings ["-c", "car.yaml", "replay", "car.txt", "console"]
    (some "car.yaml") "car.txt" none ['\r', '\n'] (by rfl) hvehicle (by rfl) (.inr (.inr rfl))⟩

end BatteryTelemetry.Command
