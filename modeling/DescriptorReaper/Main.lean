import DescriptorReaper.Program

/-!
The command line: the first argument names a program, the others are its own. The run starts from
the standard streams alone and goes by the log filter of the environment.
-/

namespace DescriptorReaper

def Ending.status : Ending → UInt32
  | .exited status => UInt32.ofNat status
  | .killed signal => UInt32.ofNat (128 + signal)

end DescriptorReaper

open DescriptorReaper

def main (arguments : List String) : IO UInt32 := do
  let environment ← IO.getEnv "RUST_LOG"
  let start (program : Program) (rest : List String) : IO UInt32 := do
    let logging := environment.map Utf8.encode
    let console := Console.start Installation.usualHome [] ProcessState.usualLimit logging
    let outcome := program.outcome (rest.map Utf8.encode) console
    outcome.output.forM IO.println
    outcome.errors.forM IO.eprintln
    return outcome.ending.status
  match arguments with
  | "closefrom" :: rest => start .reaper rest
  | "lsfd" :: rest => start .lister rest
  | _ =>
      IO.eprintln "error: name a program, closefrom or lsfd"
      return 2
