/-
  FieldRules/Grammar.lean
  =======================
  **The grammar of rule text, as users read it.**

  The grammar in the notation of productions, in two parts: how a text is made
  of rules, and how the arguments of a rule are written.
-/
namespace FieldRules.Grammar

def version : String := "0.1.0"

def rules : String :=
  "rules       = invocation \x7b [ \",\" ] invocation \x7d ;\n" ++
  "invocation  = identifier \"(\" [ arguments ] \")\" ;\n" ++
  "identifier  = letter \x7b letter | digit | \"_\" \x7d ;\n"

def arguments : String :=
  "arguments   = argument \x7b separator argument \x7d ;\n" ++
  "separator   = \",\" | whitespace ;\n" ++
  "argument    = integer | string | symbol ;\n" ++
  "integer     = digit \x7b digit \x7d ;\n" ++
  "string      = \"'\" \x7b printable | \"\\\" printable \x7d \"'\" ;\n" ++
  "symbol      = upper \x7b upper | digit | \"_\" \x7d ;\n"

def full : String := rules ++ arguments

end FieldRules.Grammar
