import Reflex.Bootstrap
import Reflex.Config.Reading

/-! The command line. It sets a runtime up from a configuration file and ticks it at the
clock readings on standard input, one a line, of which the first is the time of setting
up. Diagnostics go to standard error. -/
namespace Reflex.CommandLine

/-- A bound on nested code that no configuration comes near. -/
def depth : Nat := 100000

def source (file : String) : IO Config.Source := do
  try
    let bytes ← IO.FS.readBinFile file
    return match String.fromUTF8? bytes with
      | some content => .text content
      | none => .unreadable
  catch
    | .noFileOrDirectory _ _ _ => return .missing
    | _ => return .unreadable

def environment : IO Config.Environment := do
  let tickMillis ← IO.getEnv "TRIPWIRE_TICK_MS"
  let filter ← IO.getEnv "TRIPWIRE_LOG"
  let generalFilter ← IO.getEnv "RUST_LOG"
  return { tickMillis, filter, generalFilter }

/-- Writes what the journal says and empties it. -/
def report (w : World Unit) : IO (World Unit) := do
  for d in w.journal.reverse.filterMap Mark.diagnostic? do
    IO.eprintln d.render
  return { w with journal := [] }

def refuse (message : String) : IO UInt32 := do
  IO.eprintln message
  return 1

/-- The next clock reading; lines that hold none are skipped. -/
partial def nextReading (input : IO.FS.Stream) : IO (Option Instant) := do
  let line ← input.getLine
  if line.isEmpty then return none
  match Instant.read line with
  | some t => return some t
  | none => nextReading input

/-- Ticks at a reading and then at those that follow. -/
partial def serve (input : IO.FS.Stream) (w : World Unit) (t : Instant) : IO UInt32 := do
  let (outcome, w) := tickAt depth t w
  let w ← report w
  match outcome with
  | .error (.failed cause) => refuse cause.message
  | .error .exhausted => refuse "code nested too deeply"
  | .ok _ =>
    match ← nextReading input with
    | none => return 0
    | some t => serve input w t

def run (file : String) : IO UInt32 := do
  match Config.load (← source file) (← environment) with
  | .error problem => refuse problem.message
  | .ok c =>
    let input ← IO.getStdin
    match ← nextReading input with
    | none => return 0
    | some t =>
      match Bootstrap.start c t () with
      | .error cause => refuse cause.message
      | .ok w =>
        let (outcome, w) := bootstrap depth c w
        let w ← report w
        match outcome with
        | .ok _ => serve input w t
        | .error (stage, .failed cause) => refuse (stage.lead ++ cause.message)
        | .error (_, .exhausted) => refuse "code nested too deeply"

end Reflex.CommandLine

def main (arguments : List String) : IO UInt32 :=
  Reflex.CommandLine.run (arguments.head?.getD "tripwire.toml")
