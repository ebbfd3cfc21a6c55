/-
This file runs the command on the files of the system.
-/

import FormRules.Command
import FormRules.StandIn

namespace FormRules

/-- What the system's refusal of a file amounts to. -/
def ReadError.ofSystem : IO.Error → ReadError
  | .noFileOrDirectory .. => .notFound
  | .inappropriateType .. => .isDirectory
  | .permissionDenied _ code details | .otherError code details => .system details code.toNat
  | error => .system (toString error) 0

/-- Reads a file of the system. -/
def contentsOf (path : String) : IO Contents := do
  try
    let bytes ← IO.FS.readBinFile path
    return .ok bytes
  catch error => return .error (.ofSystem error)

/-- Opens the files of the system that a session asks for. -/
def Command.Session.perform : Session → IO Outcome
  | .done outcome => return outcome
  | .opening path resume => do
      let contents ← contentsOf path
      (resume contents).perform

end FormRules

open FormRules FormRules.StandIn in
def main (arguments : List String) : IO UInt32 := do
  let outcome ← (Command.session ("rule-check" :: arguments)).perform
  IO.print outcome.stdout
  IO.eprint outcome.stderr
  return outcome.exit.toUInt32
