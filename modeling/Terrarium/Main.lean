import Terrarium.Batch

/-!
The command line: runs the default document as a batch and prints its report. The seed
comes from the environment, or from chance.
-/

open Terrarium in
def main : IO UInt32 := do
  let seed ← IO.getEnv Document.seedVariable
  let environment := seed.toList.map fun text => (Document.seedVariable, text)
  let bytes ← IO.getRandomBytes 8
  let offered := bytes.toList.foldl (fun n byte => 256 * n + byte.toNat) 0
  let batch := Batch.runOver (.record []) environment offered
  for line in Level.info.lines batch.events do
    IO.println line
  return if batch.succeeded then 0 else 1
