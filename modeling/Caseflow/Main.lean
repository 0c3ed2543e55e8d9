import Std.Time.DateTime.Timestamp
import Caseflow.Command

/-!
# The command line

Reads the files that a command names and prints its answer, or why there is none.
-/
namespace Caseflow.Main

open Time

def now : IO Timestamp := do
  let nanos := (← Std.Time.Timestamp.now).toNanosecondsSinceUnixEpoch.val
  return ⟨nanos / nanosPerSecond, (nanos % nanosPerSecond).toNat, .inl (by
    have := Int.emod_lt_of_pos nanos (show (0 : Int) < nanosPerSecond by decide)
    have := Int.emod_nonneg nanos (show (nanosPerSecond : Int) ≠ 0 by decide)
    omega)⟩

def freshId : IO Uuid := do
  let random := BitVec.ofNat 128 (← IO.rand 0 (Nat.pow 2 128 - 1))
  let kept := random &&& ~~~((0xF#128 <<< 76) ||| (0x3#128 <<< 62))
  return ⟨kept ||| (0x4#128 <<< 76) ||| (0x2#128 <<< 62)⟩

/-- The texts of the files in a directory; those that cannot be read are left out. -/
def filesIn (directory : String) : IO (Dict String) := do
  let mut files := Dict.empty
  for entry in ← (← IO.FS.realPath directory).readDir do
    match ← EIO.toBaseIO (IO.FS.readFile entry.path) with
    | .ok text => files := files.insert entry.fileName text
    | .error _ => pure ()
  return files

def filesOf : Command → List String
  | .normalize file | .identify file | .step file .. | .timeout file _ | .predict file _ => [file]
  | .start file instructions => file :: instructions.toList
  | .replay file log | .migrate file log => [file, log]

def read (name : String) : IO (Command.Answer String) := do
  match ← EIO.toBaseIO (IO.FS.readFile name) with
  | .ok text => return .ok text
  | .error _ => return .error ("cannot read file " ++ name)

def run (words : Command.Words) (command : Command) : IO UInt32 := do
  let files ←
    match words.options.lookup "schemas" with
    | some directory => filesIn directory
    | none => pure .empty
  let texts ← (filesOf command).mapM fun name => do return (name, ← read name)
  let text (name : String) := (texts.lookup name).getD (.error ("cannot read file " ++ name))
  match command.answer ⟨files, ← freshId, ← now⟩ text with
  | .ok answer =>
    IO.println answer
    return 0
  | .error message =>
    IO.eprintln message
    return 1

end Caseflow.Main

def main (args : List String) : IO UInt32 := do
  match (Caseflow.Command.splitWords? args).bind fun words =>
      (Caseflow.Command.ofWords? words).map (words, ·) with
  | some (words, command) => Caseflow.Main.run words command
  | none =>
    IO.eprintln Caseflow.Command.usage
    return 2
