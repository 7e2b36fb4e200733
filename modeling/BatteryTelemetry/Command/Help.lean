/-!
# Help pages

What the program prints about itself: a page for each command, and its name with the version.
-/

namespace BatteryTelemetry.Command

def versionLine : String := "mgev-bms 0.1.0"

/-- What can be read about a command. The parts of a section have a name and a text. -/
structure Page where
  about : String
  usage : String
  commands : List (String × String)
  arguments : List (String × String)
  options : List (String × String)
deriving DecidableEq, Repr

namespace Page

/-- A name with blanks behind it to a width. -/
def fill (width : Nat) (name : String) : String :=
  name ++ String.ofList (List.replicate (width - name.length) ' ')

def titled (title : String) (parts : List (String × String)) : List (List String) :=
  if parts.isEmpty then []
  else
    let width := (parts.map fun part ↦ part.1.length).foldl max 0
    [s!"{title}:" :: parts.map fun part ↦ s!"  {fill width part.1}  {part.2}"]

/-- The lines of a page, with an empty line between its sections. -/
def lines (page : Page) : List String :=
  let sections := titled "Commands" page.commands ++ titled "Arguments" page.arguments ++
    titled "Options" page.options
  [page.about, "", s!"Usage: {page.usage}"] ++ sections.flatMap ("" :: ·)

end Page

def verboseHelp : String × String := ("-v, --verbose...", "Increase logging verbosity")

def quietHelp : String × String := ("-q, --quiet...", "Decrease logging verbosity")

def helpHelp : String × String := ("-h, --help", "Print help")

/-- The options that every command takes. -/
def sharedHelp : List (String × String) := [verboseHelp, quietHelp, helpHelp]

def helpCommand : String × String :=
  ("help", "Print this message or the help of the given subcommand(s)")

def programPage : Page where
  about := "MG EV BMS response decoder"
  usage := "mgev-bms [OPTIONS] <COMMAND>"
  commands :=
    [("replay", "Decode a capture file of BMS responses and output the resulting metrics"),
      ("frame", "Decode a single response frame and show the metrics it sets"),
      ("soc", "Show the displayed SOC for a raw BMS reading in tenths of a percent"), helpCommand]
  arguments := []
  options :=
    [verboseHelp, quietHelp,
      ("-c, --config <CONFIG>",
        "Vehicle configuration file (YAML), defaults to the updated BMU firmware"),
      helpHelp, ("-V, --version", "Print version")]

def replayPage : Page where
  about := "Decode a capture file of BMS responses and output the resulting metrics"
  usage := "mgev-bms replay [OPTIONS] <FILE> <COMMAND>"
  commands :=
    [("console", "Print the metrics to the standard output (console)"),
      ("json", "Print the metrics as one JSON document"),
      ("mqtt", "Publish the metrics to an MQTT broker"), helpCommand]
  arguments := [("<FILE>", "Capture file with one `PID REMAIN DATA` frame per line")]
  options :=
    ("    --interval <INTERVAL>",
      "Delay between frames to replay at bus pace (e.g., \"100ms\")") :: sharedHelp

def consolePage : Page where
  about := "Print the metrics to the standard output (console)"
  usage := "mgev-bms replay <FILE> console [OPTIONS]"
  commands := []
  arguments := []
  options := sharedHelp

def jsonPage : Page where
  about := "Print the metrics as one JSON document"
  usage := "mgev-bms replay <FILE> json [OPTIONS]"
  commands := []
  arguments := []
  options := sharedHelp

def mqttPage : Page where
  about := "Publish the metrics to an MQTT broker"
  usage := "mgev-bms replay <FILE> mqtt [OPTIONS]"
  commands := []
  arguments := []
  options :=
    [("    --config-file <CONFIG_FILE>",
        "The configuration file for the MQTT broker [default: mqtt.yaml]"), verboseHelp,
      ("    --format <FORMAT>",
        "Output format for MQTT messages [default: simple] [possible values: simple, json]"),
      quietHelp, helpHelp]

def framePage : Page where
  about := "Decode a single response frame and show the metrics it sets"
  usage := "mgev-bms frame [OPTIONS] <PID> <REMAIN> <DATA>"
  commands := []
  arguments :=
    [("<PID>", "PID in hex (e.g., b0e1)"),
      ("<REMAIN>", "Bytes remaining in the response after this frame"),
      ("<DATA>", "Payload in hex (e.g., 13881400)")]
  options := sharedHelp

def socPage : Page where
  about := "Show the displayed SOC for a raw BMS reading in tenths of a percent"
  usage := "mgev-bms soc [OPTIONS] <RAW>"
  commands := []
  arguments := [("<RAW>", "")]
  options := sharedHelp

def helpPage (program : String) : Page where
  about := helpCommand.2
  usage := s!"{program} help [COMMAND]..."
  commands := []
  arguments := [("[COMMAND]...", "Print help for the subcommand(s)")]
  options := []

def page? (path : List String) : Option Page :=
  match path with
  | [] => some programPage
  | ["replay"] => some replayPage
  | ["replay", "console"] => some consolePage
  | ["replay", "json"] => some jsonPage
  | ["replay", "mqtt"] => some mqttPage
  | ["replay", "help"] => some (helpPage "mgev-bms replay <FILE>")
  | ["frame"] => some framePage
  | ["soc"] => some socPage
  | ["help"] => some (helpPage "mgev-bms")
  | _ => none

end BatteryTelemetry.Command
