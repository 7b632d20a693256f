/-
  FieldRules/Main.lean
  ====================
  **The program.**

  Reads the file of constants that the command line asks for, runs the command,
  and shows what it shows.
-/
import FieldRules.CommandLine.Run

namespace FieldRules.Main

/-- The bytes of a file, or why it cannot be read. -/
def readFile (name : String) : IO FileContent := do
  try
    if ← (System.mkFilePath [name]).isDir then return .error .isDirectory
    return .ok ((← IO.FS.readBinFile name).toList.map (·.toNat))
  catch _ => return .error .notFound

def tableLines (table : List (List String)) : List String := table.map (" | ".intercalate ·)

end FieldRules.Main

def main (words : List String) : IO UInt32 := do
  let constants := (FieldRules.CommandLine.request words).constants?
  let content ← match constants with
    | some name => FieldRules.Main.readFile (FieldRules.FilePath.ofText name).render
    | none => pure (Except.error FieldRules.FileProblem.notFound)
  let screen := FieldRules.CommandLine.run words fun _ => content
  for line in FieldRules.Main.tableLines screen.table ++ screen.lines do
    IO.println line
  for line in screen.errors do
    IO.eprintln line
  return screen.code.toUInt32
