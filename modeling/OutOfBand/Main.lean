import OutOfBand.CommandLine.Program

/-!
# The executable

Reads the environment and the image, runs the program on the words of the command line, and prints
what it leaves. The executable by itself finds neither a network nor the IPMI tool.
-/

namespace OutOfBand.CommandLine

/-- A host with neither a network nor the IPMI tool. -/
def isolated : Reach Unit where
  web _ w := (.unreachable, w)
  tool _ w := (.missing, w)
  packet _ w := (some "Network is unreachable (os error 101)", w)
  stamp now w := (⟨0, toString now⟩, w)

/-- The environment, as far as options may stand in it. -/
def environment : IO (String → Option String) := do
  let found ← environmentNames.mapM fun (_, key) => do return (key, ← IO.getEnv key)
  return fun key => (found.lookup key).join

/-- The content of a file, or why there is none. -/
def contentOf (file : String) : IO (Except String Image) := do
  try return .ok (← IO.FS.readBinFile file).toList
  catch
    | .noFileOrDirectory _ _ _ => return .error "No such file or directory (os error 2)"
    | .inappropriateType _ _ _ => return .error "Is a directory (os error 21)"
    | e => return .error (toString e)

/-- Runs the program on the words after its name; the exit code tells of success. -/
def execute (words : List String) : IO UInt32 := do
  let env ← environment
  let content ← match Order.parse env words with
    | .ok ⟨_, .firmware _ file _⟩ => contentOf file
    | _ => pure (.ok [])
  let clock : Clock := ⟨← IO.monoNanosNow⟩
  match program clock isolated (fun _ => content) env words ⟨0, ()⟩ with
  | none => return 1
  | some (ending, _) =>
    IO.print ending.output
    ending.errors.zipIdx.forM fun (text, i) => IO.eprintln s!"{i}: {text}"
    return ending.code.toUInt32

end OutOfBand.CommandLine

def main (words : List String) : IO UInt32 := OutOfBand.CommandLine.execute words
