import Piste.Firmware.Certificate
import Piste.Firmware.Package
import Piste.LayoutFile.Basic
import Piste.Text.Style

/-!
# Error reports

Why a command failed, and the report on it that the user reads: the cause, and what to do about it.
-/

namespace Piste

open Diagram Firmware Text

/-- Why a command failed. -/
inductive CommandError where
  /-- An operation on files failed in the given context. -/
  | io (context : String) (error : Host.IoError)
  /-- The layout file at `path` cannot be loaded or used. -/
  | layoutFile (path : String) (error : LayoutFileError)
  /-- A set of connections of the layout file at `path` cannot be drawn. -/
  | draw (path set : String) (error : DrawError)
  | certificate (error : CertificateError)
  | package (error : PackageError)

namespace Report

/-- The parts of a report one after another. -/
def parts (parts : List (List Span)) : List Span :=
  parts.flatten

/-- The word that a report starts with. -/
def label : List Span :=
  [⟨[.bold, .red], "error"⟩, ": "]

/-- The heading of advice. -/
def advice : List Span :=
  ["\n", "  ", Style.bold.span "To fix this", ":\n"]

/-- What to do about terminals that cannot be placed. -/
def layoutHint? (path : String) : LayoutError → Option (List Span)
  | .missingDistance left right => some
    ["Add ", Style.cyan.span s!"[{left}, {right}, <mm>]", " to ", Style.cyan.span "distances",
      " in ", Style.cyan.span path]
  | .unknownTerminal id => some
    ["Set ", Style.cyan.span "anchor", " to one of the terminals, or add '", Style.cyan.span id,
      "' to ", Style.cyan.span "terminals"]
  | .nonPositiveStep _ _ _ => some
    ["Increase the distance or the ", Style.cyan.span "scale",
      " so neighbours are at least one column apart"]
  | .offCanvas _ _ => some
    ["Increase ", Style.cyan.span "center", " or reduce ", Style.cyan.span "scale"]
  | .tooWide _ _ => some
    ["Check ", Style.cyan.span "distances", " for a mistyped value, or reduce ",
      Style.cyan.span "scale"]
  | .noTerminals | .duplicateTerminal _ | .invalidScale _ | .missingLabelWidth _ => none

/-- Terminals cannot be placed. -/
def layoutError (path : String) (error : LayoutError) : List Span :=
  match layoutHint? path error with
  | some hint => parts [[error.message ++ "\n"], advice, ["    "], hint, ["\n"]]
  | none => [error.message ++ "\n"]

/-- A layout file cannot be loaded or used. -/
def layoutFileError (path : String) : LayoutFileError → List Span
  | .notFound _ => parts
    [["layout file not found: ", Style.yellow.span path, "\n"], advice,
      ["    1. Check the path passed to --layout\n",
        "    2. Start from the bundled layout: ", Style.cyan.span "layouts/piste.yml", "\n"]]
  | .unreadable error =>
    ["could not read ", Style.cyan.span path, ": ", error.message, "\n"]
  | .invalid error =>
    ["invalid layout file ", Style.cyan.span path, "\n", "\n", "  ",
      Style.dimmed.span error.message, "\n"]
  | .unknownLabelTerminal id => parts
    [["label width given for unknown terminal '", Style.yellow.span id, "'\n"], advice,
      ["    1. Add '", Style.cyan.span id, "' to ", Style.cyan.span "terminals", " in ",
        Style.cyan.span path, "\n",
        "    2. Remove it from ", Style.cyan.span "label_widths", "\n"]]
  | .duplicateSet name => parts
    [["connection set '", Style.yellow.span name, "' is defined more than once in ",
        Style.cyan.span path, "\n"], advice,
      ["    Rename one of the sets so every name is unique\n"]]
  | .unknownSet name => parts
    [["no connection set named '", Style.yellow.span name, "' in ", Style.cyan.span path, "\n"],
      advice, ["    Drop ", Style.cyan.span "--set", " to render every set in the file\n"]]
  | .layout error => layoutError path error

/-- What to do about a set of connections that cannot be drawn. -/
def drawHint (path set : String) : DrawError → List Span
  | .unknownTerminal id => parts
    [["\n", "  ", Style.dimmed.span s!"'{id}' is not listed under terminals in {path}", "\n"],
      advice,
      ["    1. Check the spelling of the terminal id\n",
        "    2. Add '", Style.cyan.span id, "' to ", Style.cyan.span "terminals",
        " along with its distances\n"]]
  | .selfConnection id => parts
    [advice, ["    Connect '", Style.cyan.span id, "' to a different terminal in set '",
      Style.cyan.span set, "'\n"]]

/-- A set of connections cannot be drawn. -/
def drawError (path set : String) (error : DrawError) : List Span :=
  parts [["cannot draw connection set '", Style.yellow.span set, "': ", error.message, "\n"],
    drawHint path set error]

/-- What to do about a certificate that cannot be embedded. -/
def certificateHint : CertificateError → List Span
  | .inputNotFound path => parts
    [advice,
      ["    1. Place the CA certificate at ", Style.cyan.span path, "\n",
        "    2. Pass another file with ", Style.cyan.span "--input", "\n"]]
  | .invalidIdentifier _ =>
    ["\n", "  ", Style.dimmed.span ("Variable names start with a letter or '_' and contain " ++
      "only letters, digits and '_'."), "\n"]
  | .unreadable _ _ | .unwritable _ _ | .template _ => []

/-- A certificate cannot be embedded. -/
def certificateError (error : CertificateError) : List Span :=
  parts [[error.message ++ "\n"], certificateHint error]

/-- The line for an input of a package that does not exist. -/
def missingInput (path : String) : List Span :=
  ["  ", Style.dimmed.span "missing", " ", Style.yellow.span path, "\n"]

/-- No package is made. -/
def packageError (error : PackageError) : List Span :=
  match error with
  | .missingInputs paths => parts
    [["required binary not found, skipping merge\n", "\n"], paths.flatMap missingInput, advice,
      ["    1. Build the firmware first\n",
        "    2. Check ", Style.cyan.span "--env", " and ", Style.cyan.span "--project-dir",
        " match the build\n"]]
  | .start program _ => parts
    [[error.message ++ "\n"], advice,
      ["    1. Install esptool: ", Style.cyan.span "pip install esptool", "\n",
        "    2. Point ", Style.cyan.span "--esptool", " at the executable (currently '", program,
        "')\n"]]
  | .createDirectory _ _ | .copy _ _ _ | .failed _ _ => [error.message ++ "\n"]

end Report

namespace CommandError

/-- The report on a failure. -/
def report (error : CommandError) : List Span :=
  Report.label ++
    match error with
    | io context error => [Span.plain (context ++ ": " ++ error.message ++ "\n")]
    | layoutFile path error => Report.layoutFileError path error
    | draw path set error => Report.drawError path set error
    | certificate error => Report.certificateError error
    | package error => Report.packageError error

/-- The report as it goes to the terminal. -/
def text (error : CommandError) : String :=
  renderSpans error.report

end CommandError

end Piste
