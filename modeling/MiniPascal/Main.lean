import MiniPascal.CommandLine.Report
import MiniPascal.Pattern.Compile

/-!
# The program

Reads the arguments, asks the file system for the source file and the clock for the time, prints the
report and ends with its code.
-/

namespace MiniPascal

/-- What the file system has under a path. -/
def FileEntry.find (path : String) : IO FileEntry := do
  try
    return .file (← IO.FS.readBinFile path)
  catch
    | .noFileOrDirectory .. => return .absent
    | .inappropriateType .. => return .directory
    | e => throw e

/-- The time that scanning and parsing a text takes. -/
def Timing.measure (entry : FileEntry) : IO Timing := do
  match entry with
  | .file bytes =>
    let source := (String.fromUTF8? bytes).getD ""
    let begun ← IO.monoMsNow
    let lexemes ← IO.lazyPure fun _ => ((scan 1 source).toExcept.toOption).getD []
    let scanned ← IO.monoMsNow
    let _ ← IO.lazyPure fun _ => (Parser.program (.ofLexemes lexemes)).toExcept
    let parsed ← IO.monoMsNow
    return ⟨scanned - begun, parsed - scanned, parsed - begun⟩
  | _ => return ⟨0, 0, 0⟩

end MiniPascal

open MiniPascal in
/-- Runs the program with the arguments of the command line. -/
def main (args : List String) : IO UInt32 := do
  match Options.ofArgs? args with
  | none =>
    (← IO.getStderr).putStr
      "usage: FILE [--verbose] [--timing] [--show-ast] [--stats] [--find REGEX]\n"
    return 2
  | some options =>
    let entry ← FileEntry.find options.path
    let timing ← Timing.measure entry
    let r := Report.ofRun (report Pattern.compile options entry timing)
    (← IO.getStdout).putStr r.out
    (← IO.getStderr).putStr r.err
    return r.code.toUInt32
