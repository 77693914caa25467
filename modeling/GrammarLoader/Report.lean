import GrammarLoader.Language
import GrammarLoader.Text.Format

/-! # Reports

Text about a loaded language: a one-line summary, and its tables. In the tables
a named kind is written as it is and any other kind quoted; each node kind line
holds the id right-aligned in four columns, the kind word left-aligned in ten,
and the name.
-/

namespace GrammarLoader.Report

/-- `name version (abi N, K node kinds, F fields, fingerprint H)`, the fingerprint in sixteen hex digits. -/
def summary (l : Language) : String :=
  s!"{l.name} {l.version} (abi {l.abiVersion}, {l.nodeKindCount} node kinds, {l.fieldCount} fields, fingerprint "
    ++ Text.hexPadded 16 l.fingerprint.toNat ++ ")"

/-- How a symbol is named in reports: as it is when named, quoted otherwise. -/
def symbolLabel (s : Symbol) : String :=
  if s.flags.named then s.name else Text.quote s.name

/-- How a symbol id is named in reports; an id past the table is `#id`. -/
def kindName (l : Language) (id : UInt16) : String :=
  match l.artifact.symbol? id with
  | some s => symbolLabel s
  | none => s!"#{id}"

/-- Symbol ids named and joined by commas. -/
def kindList (l : Language) (ids : List UInt16) : String :=
  ", ".intercalate (ids.map (kindName l))

/-- The line of node kind `id`. -/
def nodeKindLine (id : Nat) (s : Symbol) : String :=
  "  " ++ Text.padLeft 4 ' ' (toString id) ++ "  " ++ Text.padRight 10 s.flags.kind.name ++ " "
    ++ symbolLabel s

/-- The line of field `id`. -/
def fieldLine (id : Nat) (name : String) : String :=
  "  " ++ Text.padLeft 4 ' ' (toString id) ++ "  " ++ name

/-- The node kind lines: one per id below the count, which stops at 65535. -/
def nodeKindLines (l : Language) : List String :=
  (l.artifact.symbols.zipIdx.take (min l.nodeKindCount 65535)).map fun (s, i) => nodeKindLine i s

/-- The field lines: one per field id from 1. -/
def fieldLines (l : Language) : List String :=
  (l.artifact.fields.zipIdx.take (min l.fieldCount 65535)).map fun (f, i) => fieldLine (i + 1) f

/-- The tables of a language, each line ended by a newline. -/
def tables (l : Language) : String :=
  let head :=
    [s!"=== {l.name} ===", s!"Scope: {l.scope}", "File types: " ++ ", ".intercalate l.fileTypes]
    ++ (match l.wordToken with
        | some w => ["Word token: " ++ kindName l w]
        | none => [])
    ++ ["Extras: " ++ kindList l l.extras, "External tokens: " ++ kindList l l.externalTokens]
  let body := head ++ ["", "Node kinds:"] ++ nodeKindLines l ++ ["", "Fields:"] ++ fieldLines l
  String.join (body.map (· ++ "\n"))

end GrammarLoader.Report
