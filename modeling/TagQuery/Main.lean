import TagQuery.CommandLine.Program

namespace TagQuery
namespace Main

def readError : IO.Error → ReadError
  | .alreadyExists _ code details => .system details.toList code.toNat
  | .otherError code details => .system details.toList code.toNat
  | .resourceBusy code details => .system details.toList code.toNat
  | .resourceVanished code details => .system details.toList code.toNat
  | .unsupportedOperation code details => .system details.toList code.toNat
  | .hardwareFault code details => .system details.toList code.toNat
  | .unsatisfiedConstraints code details => .system details.toList code.toNat
  | .illegalOperation code details => .system details.toList code.toNat
  | .protocolError code details => .system details.toList code.toNat
  | .timeExpired code details => .system details.toList code.toNat
  | .interrupted _ code details => .system details.toList code.toNat
  | .noFileOrDirectory _ code details => .system details.toList code.toNat
  | .invalidArgument _ code details => .system details.toList code.toNat
  | .permissionDenied _ code details => .system details.toList code.toNat
  | .resourceExhausted _ code details => .system details.toList code.toNat
  | .inappropriateType _ code details => .system details.toList code.toNat
  | .noSuchThing _ code details => .system details.toList code.toNat
  | .unexpectedEof => .system "unexpected end of file".toList 0
  | .userError message => .system message.toList 0

partial def readAll (stream : IO.FS.Stream) (bytes : ByteArray) : IO ByteArray := do
  let more ← stream.read 65536
  if more.isEmpty then return bytes
  readAll stream (bytes ++ more)

def readSource : Option Text → IO ByteArray
  | some path => do
    let file ← IO.FS.Handle.mk (String.ofList path) .read
    readAll (.ofHandle file) .empty
  | none => do readAll (← IO.getStdin) .empty

def input : Option (Option Text) → IO (Except ReadError ByteArray)
  | none => return .ok .empty
  | some source => do
    try return .ok (← readSource source)
    catch error => return .error (readError error)

end Main
end TagQuery

open TagQuery in
def main (arguments : List String) : IO UInt32 := do
  let colored := Program.colored (← IO.getEnv "CLICOLOR_FORCE") (← IO.getEnv "NO_COLOR")
    (← IO.getEnv "CLICOLOR") (← (← IO.getStdout).isTty)
  let invocation := Invocation.ofArguments (arguments.map String.toList)
  -- No clock is read here, so the records of the log are written without their times.
  let report := Program.run colored (← Main.input (Program.source? invocation)) invocation
  (← IO.getStdout).putStr (String.ofList report.out)
  (← IO.getStderr).putStr (String.ofList report.err)
  return UInt32.ofNat report.exit
