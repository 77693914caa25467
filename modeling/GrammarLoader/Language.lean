import Std.Data.HashMap
import GrammarLoader.Validate
import GrammarLoader.Path

/-! # Languages

A language is a validated artifact with two indexes: node kinds by name and
field ids by name. Only visible symbols and supertypes are indexed as node
kinds; of several symbols with one name, the first named one and the first
anonymous one are kept. Field ids count from 1.
-/

namespace GrammarLoader

/-- The ids a node kind name has: its first named symbol and its first anonymous one. -/
structure KindIds where
  named : Option UInt16 := none
  anonymous : Option UInt16 := none
  deriving Repr, DecidableEq, Inhabited

/-- Record symbol `id` under its name unless that slot is taken. -/
def KindIds.add (ids : KindIds) (named : Bool) (id : UInt16) : KindIds :=
  if named then { ids with named := ids.named <|> some id }
  else { ids with anonymous := ids.anonymous <|> some id }

/-- The named or the anonymous id. -/
def KindIds.get (ids : KindIds) (named : Bool) : Option UInt16 :=
  if named then ids.named else ids.anonymous

/-- Whether a symbol is a node kind that can be looked up by name: it is visible or a
supertype. -/
def Symbol.indexed (s : Symbol) : Bool := s.flags.visible || s.flags.supertype

/-- The id of the symbol at a table index: the index itself, or `u16::MAX` past the id
space. -/
def symbolIdOfIndex (i : Nat) : UInt16 :=
  if i < UInt16.size then UInt16.ofNat i else 65535

/-- Index the symbol at position `i`: an indexed symbol takes its name's slot for its
naming, unless an earlier symbol holds it. -/
def indexKind (m : Std.HashMap String KindIds) (entry : Symbol × Nat) : Std.HashMap String KindIds :=
  let (s, i) := entry
  if s.indexed then m.insert s.name ((m.getD s.name {}).add s.flags.named (symbolIdOfIndex i))
  else m

/-- The node kind index of a symbol table. -/
def kindIndex (symbols : List Symbol) : Std.HashMap String KindIds :=
  symbols.zipIdx.foldl indexKind {}

/-- One call of `next` on a `u16` counter that runs up from `start`: the value it yields,
the counter's next value, and whether computing that value went past `u16::MAX`. The
counter steps in the same call, once the value is chosen; past `u16::MAX` it wraps to 0,
and under overflow checks it panics instead. -/
def counterNext (start : UInt16) : UInt16 × UInt16 × Bool :=
  (start, start + 1, start == 65535)

/-- Items zipped with a `u16` counter that runs up from `start`. The zip asks for an item
first and steps the counter only when there is one, so the counter steps once per item.
The flag says whether one of its steps went past `u16::MAX`. -/
def zipCounter {α : Type} : List α → UInt16 → List (α × UInt16) × Bool
  | [], _ => ([], false)
  | x :: xs, start =>
    let step := counterNext start
    let rest := zipCounter xs step.2.1
    ((x, step.1) :: rest.1, step.2.2 || rest.2)

/-- The field index: each name to its id, counted from 1 by a `u16` counter. A counter
value of 0 is no field id and is left out; of two equal names, the later one's id wins. -/
def fieldIndex (fields : List String) : Std.HashMap String UInt16 :=
  Std.HashMap.ofList ((zipCounter fields 1).1.filter fun p => p.2 != 0)

/-- A loaded grammar. -/
structure Language where
  artifact : Artifact
  kinds : Std.HashMap String KindIds
  fieldIds : Std.HashMap String UInt16

namespace Language

/-- The language of an artifact that passed validation. -/
def ofArtifact (a : Artifact) : Language :=
  ⟨a, kindIndex a.symbols, fieldIndex a.fields⟩

def name (l : Language) : String := l.artifact.name
def abiVersion (l : Language) : UInt32 := l.artifact.abiVersion
def version (l : Language) : String := l.artifact.metadata.version
def fingerprint (l : Language) : UInt64 := l.artifact.fingerprint
def scope (l : Language) : String := l.artifact.metadata.scope
def fileTypes (l : Language) : List String := l.artifact.metadata.fileTypes
def externalTokens (l : Language) : List UInt16 := l.artifact.externalTokens
def extras (l : Language) : List UInt16 := l.artifact.extras
def wordToken (l : Language) : Option UInt16 := l.artifact.wordToken

/-- The number of node kinds: the symbol count. -/
def nodeKindCount (l : Language) : Nat := l.artifact.symbols.length

/-- The number of fields. -/
def fieldCount (l : Language) : Nat := l.artifact.fields.length

/-- The name of a symbol id. -/
def nodeKindForId (l : Language) (id : UInt16) : Option String :=
  (l.artifact.symbol? id).map (·.name)

/-- The id of a visible or supertype node kind, named or anonymous. -/
def idForNodeKind (l : Language) (kind : String) (named : Bool) : Option UInt16 :=
  (l.kinds.get? kind).bind (·.get named)

/-- The flags of a symbol id. -/
def flags? (l : Language) (id : UInt16) : Option SymbolFlags :=
  (l.artifact.symbol? id).map (·.flags)

/-- Named; false past the end of the table. -/
def isNamed (l : Language) (id : UInt16) : Bool := (l.flags? id).any (·.named)
/-- Visible; false past the end of the table. -/
def isVisible (l : Language) (id : UInt16) : Bool := (l.flags? id).any (·.visible)
/-- A supertype; false past the end of the table. -/
def isSupertype (l : Language) (id : UInt16) : Bool := (l.flags? id).any (·.supertype)

/-- The kind of a symbol id. -/
def symbolKind (l : Language) (id : UInt16) : Option SymbolKind :=
  (l.flags? id).map SymbolFlags.kind

/-- The name of field id `id`; ids start at 1, so 0 names no field. -/
def fieldNameForId (l : Language) (id : UInt16) : Option String :=
  if id == 0 then none else l.artifact.fields[id.toNat - 1]?

/-- The id of a field name. -/
def fieldIdForName (l : Language) (name : String) : Option UInt16 :=
  l.fieldIds.get? name

/-- Whether a path's extension is one of the language's file types, exactly. -/
def matchesPath (l : Language) (path : String) : Bool :=
  match Path.extension? path with
  | some ext => l.fileTypes.contains ext
  | none => false

/-- `name (abi N)`. -/
def display (l : Language) : String :=
  s!"{l.name} (abi {l.abiVersion})"

/-- The language's summary in record notation, the name quoted. -/
def debug (l : Language) : String :=
  "Language \x7b name: " ++ Text.quote l.name ++ s!", abi_version: {l.abiVersion}, node_kinds: {l.nodeKindCount}, fields: {l.fieldCount} \x7d"

/-- Two languages are equal when their artifacts are. -/
def sameAs (l m : Language) : Bool := l.artifact == m.artifact

end Language

end GrammarLoader
