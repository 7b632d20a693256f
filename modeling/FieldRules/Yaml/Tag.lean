/-
  FieldRules/Yaml/Tag.lean
  ========================
  **What the nodes of a YAML document denote.**

  A tag says what its node denotes.  It may be written; a plain scalar without one
  gets its tag from its form.
-/
import FieldRules.Regex.Match
import FieldRules.Regex.Reader

namespace FieldRules.Yaml

/-- What a node denotes. -/
inductive Tag where
  | null
  | truth
  | integer
  | float
  | binary
  | time
  | text
  | sequence
  | mapping
  | orderedMapping
  | pairs
  | set
  /-- The key under which other mappings are merged in. -/
  | merge
  /-- The key under which the value of a mapping as a whole stands. -/
  | defaultValue
  /-- A tag without a meaning of its own. -/
  | other (uri : String)
deriving DecidableEq, Repr

def tagNamespace : String := "tag:yaml.org,2002:"

def writtenTags : List (String × Tag) :=
  [("null", .null), ("bool", .truth), ("int", .integer), ("float", .float),
   ("binary", .binary), ("timestamp", .time), ("str", .text), ("seq", .sequence),
   ("map", .mapping), ("omap", .orderedMapping), ("pairs", .pairs), ("set", .set),
   ("merge", .merge), ("value", .defaultValue)]

def Tag.ofUri (uri : String) : Tag :=
  ((writtenTags.find? fun entry => tagNamespace ++ entry.1 == uri).map (·.2)).getD (.other uri)

/-! ### The tags of plain scalars -/

def form (source : String) : Regex := (Regex.parse source).toOption.getD .empty

/-- The forms of plain scalars and the tags they bring, in the order in which
    they are tried. -/
def plainForms : List (Tag × Regex) :=
  [(.truth, form <|
      "^(?:yes|Yes|YES|no|No|NO|true|True|TRUE|false|False|FALSE" ++
      "|on|On|ON|off|Off|OFF)$"),
   (.float, form <|
      "^(?:[-+]?(?:[0-9][0-9_]*)\\.[0-9_]*(?:[eE][-+][0-9]+)?" ++
      "|\\.[0-9][0-9_]*(?:[eE][-+][0-9]+)?" ++
      "|[-+]?[0-9][0-9_]*(?::[0-5]?[0-9])+\\.[0-9_]*" ++
      "|[-+]?\\.(?:inf|Inf|INF)|\\.(?:nan|NaN|NAN))$"),
   (.integer, form <|
      "^(?:[-+]?0b[0-1_]+|[-+]?0[0-7_]+|[-+]?(?:0|[1-9][0-9_]*)" ++
      "|[-+]?0x[0-9a-fA-F_]+|[-+]?[1-9][0-9_]*(?::[0-5]?[0-9])+)$"),
   (.merge, form "^(?:<<)$"),
   (.null, form "^(?:~|null|Null|NULL|)$"),
   (.time, form <|
      "^(?:[0-9][0-9][0-9][0-9]-[0-9][0-9]-[0-9][0-9]" ++
      "|[0-9][0-9][0-9][0-9]-[0-9][0-9]?-[0-9][0-9]?" ++
      "(?:[Tt]|[ \\t]+)[0-9][0-9]?:[0-9][0-9]:[0-9][0-9](?:\\.[0-9]*)?" ++
      "(?:[ \\t]*(?:Z|[-+][0-9][0-9]?(?::[0-9][0-9])?))?)$"),
   (.defaultValue, form "^(?:=)$"),
   (.other (tagNamespace ++ "yaml"), form "^(?:!|&|\\*)$")]

def plainTag (content : String) : Tag :=
  let start : Regex.Cursor := { after := content.toList }
  ((plainForms.find? fun entry => (entry.2.matchAt start).isSome).map (·.1)).getD .text

end FieldRules.Yaml
