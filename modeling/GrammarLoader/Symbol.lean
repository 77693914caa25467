/-! # Symbols

A grammar's node kinds are its symbols. Each symbol has a name and three flags:
visible (it appears in syntax trees), named (it is a rule rather than literal
text) and supertype. The first two decide its kind.
-/

namespace GrammarLoader

/-- The three flags of a symbol. -/
structure SymbolFlags where
  visible : Bool
  named : Bool
  supertype : Bool
  deriving Repr, DecidableEq, Inhabited

/-- The four kinds of symbol, by visibility and naming. -/
inductive SymbolKind where
  /-- Visible and named: a rule that shows in trees. -/
  | regular
  /-- Visible literal text. -/
  | anonymous
  /-- A named rule that does not show in trees. -/
  | hidden
  /-- Neither visible nor named: a helper of the grammar. -/
  | auxiliary
  deriving Repr, DecidableEq

/-- The kind's word in reports. -/
def SymbolKind.name : SymbolKind → String
  | .regular => "regular"
  | .anonymous => "anonymous"
  | .hidden => "hidden"
  | .auxiliary => "auxiliary"

namespace SymbolFlags

/-- Visible and named. -/
def regular : SymbolFlags := ⟨true, true, false⟩
/-- Visible, not named. -/
def anonymous : SymbolFlags := ⟨true, false, false⟩
/-- Named, not visible. -/
def hidden : SymbolFlags := ⟨false, true, false⟩
/-- No flag set. -/
def auxiliary : SymbolFlags := ⟨false, false, false⟩

/-- The kind that visibility and naming give; the supertype flag plays no part. -/
def kind (f : SymbolFlags) : SymbolKind :=
  match f.visible, f.named with
  | true, true => .regular
  | true, false => .anonymous
  | false, true => .hidden
  | false, false => .auxiliary

/-- The flags as one byte: visible 1, named 2, supertype 4. -/
def bits (f : SymbolFlags) : UInt8 :=
  (if f.visible then 1 else 0) + (if f.named then 2 else 0) + (if f.supertype then 4 else 0)

end SymbolFlags

/-- A symbol: its name and flags. -/
structure Symbol where
  name : String
  flags : SymbolFlags
  deriving Repr, DecidableEq, Inhabited

end GrammarLoader
