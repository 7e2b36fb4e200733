import BatteryTelemetry.Command.Run
import BatteryTelemetry.Proofs.Document.Console
import BatteryTelemetry.Proofs.Document.Line

/-!
# Replays on the screen

A replay runs the frames of a capture on an empty store and shows what is left in it. Whatever the
vehicle and the capture, the document and the lines show the effects of the run
(`replays_show_run`): every value that an effect wrote last, and no other. What is said of the
document is said of its printed lines too, from which its fields can be read back.
-/

namespace BatteryTelemetry.Command

variable {surroundings later : Surroundings} {vehicle : Vehicle} {frames : List Frame}
variable {vehicleFile : Option String} {file : String} {interval? : Option Duration}

def effectsOf (vehicle : Vehicle) (frames : List Frame) : List Effect :=
  (freshDecoder vehicle).trace frames

/-- The pace of a replay does not matter to what it shows. -/
theorem run_replay (hvehicle : loadVehicle surroundings.files vehicleFile = .ok vehicle)
    (hcapture : loadCapture surroundings.files file = .ok frames) (output : Output) :
    run surroundings ⟨vehicleFile, .replay file interval? output⟩ =
      showReplay surroundings ((freshDecoder vehicle).run frames).store output := by
  simp only [run, hvehicle, runAction, hcapture]
  rfl

theorem outcome_of_read {arguments : List String} {request : Request}
    (h : Request.read arguments = .ok request) :
    outcome surroundings arguments = outcomeOf (run surroundings request) := by
  rw [outcome, h]

/-- What a replay shows comes from a reachable state. -/
theorem inRange_run_freshDecoder (vehicle : Vehicle) (frames : List Frame) :
    ((freshDecoder vehicle).run frames).store.InRange :=
  ((Decoder.Reachable.start vehicle.parameters).run frames).inRange

/-- A store holds what the effects of its run wrote last. -/
theorem holds_run_freshDecoder (vehicle : Vehicle) (frames : List Frame) :
    ((freshDecoder vehicle).run frames).store.Holds (effectsOf vehicle frames) :=
  Decoder.holds_run vehicle.parameters frames

/-- The document of a replay has the fields of what its frames wrote and the extremes of the pack,
null where nothing was written and nowhere else, and is printed field by field. The lines for a
person are those of the same metrics, one for each. -/
theorem replays_show_run {documentArguments consoleArguments : List String}
    {laterInterval? : Option Duration}
    (hdocument : Request.read documentArguments =
      .ok ⟨vehicleFile, .replay file interval? .json⟩)
    (hconsole : Request.read consoleArguments =
      .ok ⟨vehicleFile, .replay file laterInterval? .console⟩)
    (hfiles : later.files = surroundings.files)
    (hvehicle : loadVehicle surroundings.files vehicleFile = .ok vehicle)
    (hcapture : loadCapture surroundings.files file = .ok frames) :
    ∃ fields text slots,
      outcome surroundings documentArguments = ⟨0, (Json.object fields).lines .wide, [], none⟩ ∧
      outcome later consoleArguments =
        ⟨0, [s!"--- Data at {later.localTime} ---"] ++ listedLines fields text slots ++
          ["--------------------------"], [], none⟩ ∧
      (∀ line ∈ listedLines fields text slots, IsUnbroken line) ∧
      Shows (effectsOf vehicle frames) fields ∧
      Prints fields ((Json.object fields).lines .wide) ∧
      Texts (effectsOf vehicle frames) fields text slots := by
  have hrange := inRange_run_freshDecoder vehicle frames
  have hholds := holds_run_freshDecoder vehicle frames
  refine ⟨_, _, _, ?_, ?_, ?_, shows_replayDocument hrange hholds, prints_replayDocument hrange,
    texts_consoleLines hrange hholds⟩
  · rw [outcome_of_read hdocument, run_replay hvehicle hcapture]
    rfl
  · rw [← hfiles] at hvehicle hcapture
    rw [outcome_of_read hconsole, run_replay hvehicle hcapture, ← Store.consoleLines_eq]
    rfl
  · rw [← Store.consoleLines_eq]
    exact fun line hline ↦ Store.isUnbroken_of_mem_consoleLines hrange hline

/-- The second block is the only one of its row that is known, so a null and a dash stand before
it. -/
theorem replays_show_run_with_hole :
    let surroundings : Surroundings :=
      ⟨fun _ ↦ .ok "b0e2 1 138813".toUTF8.data.toList, "noon", "noon", "a"⟩
    let effects := effectsOf {} [⟨0xb0e2, 1, [0x13, 0x88, 0x13]⟩]
    (∃ fields text slots,
      outcome surroundings ["replay", "car.txt", "json"] =
        ⟨0, (Json.object fields).lines .wide, [], none⟩ ∧
      outcome surroundings ["replay", "car.txt", "console"] =
        ⟨0, ["--- Data at noon ---"] ++ listedLines fields text slots ++
          ["--------------------------"], [], none⟩ ∧
      Shows effects fields ∧ Prints fields ((Json.object fields).lines .wide) ∧
      Texts effects fields text slots) ∧
    outcome surroundings ["replay", "car.txt", "json"] =
      ⟨0, ["\x7b",
        "  \"bat_cell_vmin\": [",
        "    null,",
        "    3.5",
        "  ],",
        "  \"bat_pack_vmin\": 3.5,",
        "  \"pack\": \x7b",
        "    \"tmax\": null,",
        "    \"tmin\": null,",
        "    \"vmax\": null,",
        "    \"vmin\": 3.5",
        "  \x7d",
        "\x7d"], [], none⟩ ∧
    outcome surroundings ["replay", "car.txt", "console"] =
      ⟨0, ["--- Data at noon ---",
        "bat_pack_vmin        3.5 V",
        "bat_cell_vmin        [-, 3.500] V",
        "--------------------------"], [], none⟩ := by
  intro surroundings effects
  have hdocument : Request.read ["replay", "car.txt", "json"] =
      .ok ⟨none, .replay "car.txt" none .json⟩ := by rfl
  have hconsole : Request.read ["replay", "car.txt", "console"] =
      .ok ⟨none, .replay "car.txt" none .console⟩ := by rfl
  have hcapture : loadCapture surroundings.files "car.txt" =
      .ok [⟨0xb0e2, 1, [0x13, 0x88, 0x13]⟩] := by rfl
  obtain ⟨fields, text, slots, hjson, hlines, -, hshows, hprints, htexts⟩ :=
    replays_show_run hdocument hconsole (Eq.refl surroundings.files) rfl hcapture
  exact ⟨⟨fields, text, slots, hjson, hlines, hshows, hprints, htexts⟩, by decide +kernel,
    by decide +kernel⟩

end BatteryTelemetry.Command
