import TextSieve.CommandLine.Run
import TextSieve.CommandLine.Usage

/-!
The program. It leaves with status 0 if the command found anything, 1 if not or if it failed, and
2 if the command line was not understood.
-/

namespace TextSieve.CommandLine

def decode (bytes : ByteArray) : Except ReadFault Text :=
  match String.fromUTF8? bytes with
  | some s => .ok s.toList
  | none => .error .notText

/-- The outcome of reading bytes, where a failure to read is an answer as well. -/
def readBytes (act : IO ByteArray) : IO (Except ReadFault Text) := do
  match ← act.toBaseIO with
  | .ok bytes => return decode bytes
  | .error (.noFileOrDirectory ..) => return .error .missing
  | .error e => return .error (.described (toString e).toList)

/-- Files, the input stream and the clock of the machine. -/
def machine : Source IO where
  file path := readBytes (IO.FS.readBinFile (String.ofList path))
  input := readBytes do (← IO.getStdin).readBinToEnd
  milliseconds := IO.monoMsNow

def refuse (e : UsageError) : IO UInt32 := do
  let text := String.ofList e.message
  if e.isAnswer then
    IO.print text
    return 0
  else
    IO.eprint (if e = .helpWithoutArguments then text else "error: " ++ text ++ "\n")
    return 2

def perform (i : Invocation) : IO UInt32 := do
  match ← (run machine i).run with
  | .ok out =>
    IO.print (String.ofList out.text)
    return if out.success then 0 else 1
  | .error e =>
    IO.eprintln ("Error: " ++ String.ofList e.message)
    return 1

end TextSieve.CommandLine

def main (args : List String) : IO UInt32 :=
  match TextSieve.CommandLine.read (args.map String.toList) with
  | .ok i => TextSieve.CommandLine.perform i
  | .error e => TextSieve.CommandLine.refuse e
