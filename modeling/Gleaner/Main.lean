import Gleaner.Http.Wire
import Gleaner.Service.Routes

/-! The service as a program: it takes its settings from the environment, reads one request from standard
input and writes the response to standard output, as a server of connections expects of it. -/
namespace Gleaner

def settings : List String :=
  ["BIND_ADDR", "PORT", "EXTRACT_MODE", "EXTRACT_REQUIRE_RECORDS", "MAX_UPLOAD_BYTES", "LOG_FORMAT"]

def environment : IO Environment := do
  let values ← settings.mapM fun name => do pure (name, ← IO.getEnv name)
  pure fun name => (values.lookup name).join

/-- A new number for a request. -/
def freshId : IO String := do
  let bytes ← IO.getRandomBytes 16
  pure (String.ofList (bytes.toList.flatMap fun b =>
    [Nat.digitChar (b.toNat / 16), Nat.digitChar (b.toNat % 16)]))

def serve (c : Config) : IO Unit := do
  let input ← (← IO.getStdin).readBinToEnd
  let response := match Http.Request.ofBytes? input.toList with
    | some r => Service.respond (.ofConfig c) c.maxUploadBytes r
    | none => { status := 400 }
  let output ← IO.getStdout
  output.write (response.bytes (← freshId)).toByteArray
  output.flush

end Gleaner

/-- Ends with a failure if a setting is not acceptable. -/
def main : IO UInt32 := do
  match Gleaner.Config.ofEnvironment (← Gleaner.environment) with
  | .error e =>
      IO.eprintln ("Error: Failed to load configuration\n\nCaused by:\n    " ++ e.message)
      pure 1
  | .ok c =>
      Gleaner.serve c
      pure 0
