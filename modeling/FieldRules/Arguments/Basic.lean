/-
  FieldRules/Arguments/Basic.lean
  ===============================
  **The arguments of a rule, sorted by kind.**

  An argument is an unsigned integer, a string or a symbol.  Each kind keeps
  its own list in source order; how the kinds were interleaved is forgotten.
-/
namespace FieldRules

/-- One more than the greatest integer argument, 2^64: integers are 64 bits wide. -/
def integerModulus : Nat := 0x10000000000000000

/-- The arguments of one rule: integers below `integerModulus`, strings with
    their escapes removed, and the symbols that name constants. -/
structure Arguments where
  integers : List Nat := []
  strings : List String := []
  symbols : List String := []
deriving DecidableEq, Repr

namespace Arguments

def size (arguments : Arguments) : Nat :=
  arguments.strings.length + arguments.integers.length + arguments.symbols.length

def isEmpty (arguments : Arguments) : Bool :=
  arguments.strings.isEmpty && arguments.integers.isEmpty && arguments.symbols.isEmpty

/-- The arguments of two texts, one after the other, kind by kind. -/
def append (first second : Arguments) : Arguments :=
  { integers := first.integers ++ second.integers
    strings := first.strings ++ second.strings
    symbols := first.symbols ++ second.symbols }

def addInteger (arguments : Arguments) (value : Nat) : Arguments :=
  { arguments with integers := arguments.integers ++ [value] }

def addString (arguments : Arguments) (text : List Char) : Arguments :=
  { arguments with strings := arguments.strings ++ [String.ofList text] }

def addSymbol (arguments : Arguments) (name : List Char) : Arguments :=
  { arguments with symbols := arguments.symbols ++ [String.ofList name] }

theorem size_append (first second : Arguments) :
    (first.append second).size = first.size + second.size := by
  simp only [append, size, List.length_append]
  omega

end Arguments

end FieldRules
