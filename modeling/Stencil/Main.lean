import Stencil.Demo.Options

/-! # The demonstration program -/

open Stencil Stencil.Demo

/-- Reads all of a stream. -/
partial def readAll (h : IO.FS.Stream) : IO String := do
  let line ← h.getLine
  if line.isEmpty then pure "" else do
    let rest ← readAll h
    pure (line ++ rest)

/-- Runs the demonstration on the standard streams. -/
def main (args : List String) : IO UInt32 := do
  let command := Command.read (args.map String.toList)
  let input ←
    match command with
    | .run true => do
        let stdin ← IO.getStdin
        readAll stdin
    | _ => pure ""
  let (result, world) := command.perform.run (World.begin [] input.toList)
  IO.print (String.ofList world.output.flatten)
  match result with
  | .ok (code, complaint) => do
      IO.eprint (String.ofList complaint)
      pure (UInt32.ofNat code)
  | .error failure => do
      IO.eprintln (String.ofList failure.message)
      pure 1
