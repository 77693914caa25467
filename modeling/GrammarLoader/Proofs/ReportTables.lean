import GrammarLoader.Proofs.FieldLookup
import GrammarLoader.Report

/-! # The rows of a language's tables

The tables of a language list its node kinds and then its fields, one row per id, each
row written from what the language reports for the id: its kind word and name for a
node kind, its name for a field. Both lists are cut at `u16::MAX`: node kinds run over
the ids below the count, fields over the ids from 1 up to the count. For fields the cut
never bites, since validation admits at most 65535 of them. For node kinds it does:
validation admits 65536 symbols, and then the row of the last id, 65535, is missing, so
the tables list one node kind fewer than the summary counts.

Main statement: `tables_rows`.
-/

namespace GrammarLoader

namespace Report

/-- Node kind `id` written as the language reports it: the kind word (`unknown` past the
table) and the name. -/
def kindRow (L : Language) (id : UInt16) : String :=
  "  " ++ Text.padLeft 4 ' ' (toString id) ++ "  "
    ++ Text.padRight 10 (((L.symbolKind id).map SymbolKind.name).getD "unknown") ++ " " ++ kindName L id

/-- Field `id` written as the language reports it: the name, or `?` when it has none. -/
def fieldRow (L : Language) (id : UInt16) : String :=
  "  " ++ Text.padLeft 4 ' ' (toString id) ++ "  " ++ (L.fieldNameForId id).getD "?"

theorem toNat_ofNat_id {i : Nat} (hi : i < UInt16.size) : (UInt16.ofNat i).toNat = i := by
  simp only [UInt16.size] at hi
  simp
  omega

theorem toString_ofNat {i : Nat} (hi : i < UInt16.size) : toString (UInt16.ofNat i) = toString i := by
  change toString (UInt16.ofNat i).toNat = toString i
  rw [toNat_ofNat_id hi]

/-- The row of a symbol of the table is the row of its id. -/
theorem nodeKindLine_eq_kindRow (L : Language) {i : Nat} (hi : i < L.nodeKindCount) (hid : i < UInt16.size) :
    nodeKindLine i L.artifact.symbols[i] = kindRow L (UInt16.ofNat i) := by
  have hsym : L.artifact.symbol? (UInt16.ofNat i) = some L.artifact.symbols[i] := by
    rw [Artifact.symbol?, toNat_ofNat_id hid, List.getElem?_eq_getElem hi]
  simp [nodeKindLine, kindRow, kindName, Language.symbolKind, Language.flags?, hsym, toString_ofNat hid]

/-- The row of a field of the table is the row of its id. -/
theorem fieldLine_eq_fieldRow (L : Language) {i : Nat} (hi : i < L.fieldCount) (hid : i < 65535) :
    fieldLine (i + 1) L.artifact.fields[i] = fieldRow L (UInt16.ofNat (i + 1)) := by
  have hname : L.fieldNameForId (UInt16.ofNat (i + 1)) = some L.artifact.fields[i] := by
    have hne : (UInt16.ofNat (i + 1) == 0) = false := by simpa using ofNat_succ_ne_zero hid
    rw [Language.fieldNameForId, hne, if_neg Bool.false_ne_true, toNat_ofNat_succ hid,
      Nat.add_sub_cancel, List.getElem?_eq_getElem hi]
  rw [fieldRow, hname, toString_ofNat (by simp only [UInt16.size]; omega), Option.getD_some, fieldLine]

/-- The node kind rows: one per id below the count, cut at `u16::MAX`. -/
theorem nodeKindLines_eq (L : Language) :
    nodeKindLines L = (List.range (min L.nodeKindCount 65535)).map fun i => kindRow L (UInt16.ofNat i) := by
  apply List.ext_getElem
  · simp [nodeKindLines, Language.nodeKindCount]
  · intro k hk _
    have hk' : k < min L.nodeKindCount 65535 := by simpa [nodeKindLines, Language.nodeKindCount] using hk
    simp only [nodeKindLines, List.getElem_map, List.getElem_take, List.getElem_zipIdx,
      List.getElem_range, Nat.zero_add]
    exact nodeKindLine_eq_kindRow L (by omega) (by simp only [UInt16.size]; omega)

/-- The field rows: one per id from 1 up to the count, cut at `u16::MAX`. -/
theorem fieldLines_eq (L : Language) :
    fieldLines L = (List.range (min L.fieldCount 65535)).map fun i => fieldRow L (UInt16.ofNat (i + 1)) := by
  apply List.ext_getElem
  · simp [fieldLines, Language.fieldCount]
  · intro k hk _
    have hk' : k < min L.fieldCount 65535 := by simpa [fieldLines, Language.fieldCount] using hk
    simp only [fieldLines, List.getElem_map, List.getElem_take, List.getElem_zipIdx,
      List.getElem_range, Nat.zero_add]
    exact fieldLine_eq_fieldRow L (by omega) (by omega)

/-- The tables: a head, then the node kind rows, then the field rows, each line ended. -/
theorem tables_eq_join (L : Language) :
    ∃ head : List String, tables L =
      String.join ((head ++ ["", "Node kinds:"] ++ nodeKindLines L ++ ["", "Fields:"] ++ fieldLines L).map
        (· ++ "\n")) :=
  ⟨_, rfl⟩

end Report

/-- The tables of a loaded language list, after `Node kinds:`, one row for each id
below the node kind count cut at `u16::MAX`, and after `Fields:` one row for each field
id `1 ..= fieldCount`, each row showing what the language reports for its id; every such
field id has a name. So the tables list as many node kinds as the summary counts exactly
when there are at most 65535, and validation allows one more. -/
theorem tables_rows (c : LoaderConfig) (a : Artifact) (L : Language) (hL : Loader.load c (some a) = .ok L) :
    (∃ head : List String, Report.tables L =
      String.join ((head ++ ["", "Node kinds:"] ++
        (List.range (min L.nodeKindCount 65535)).map (fun i => Report.kindRow L (UInt16.ofNat i)) ++
        ["", "Fields:"] ++
        (List.range L.fieldCount).map (fun i => Report.fieldRow L (UInt16.ofNat (i + 1)))).map (· ++ "\n"))) ∧
      (∀ i < L.fieldCount, ∃ name, L.fieldNameForId (UInt16.ofNat (i + 1)) = some name) ∧
      ((Report.nodeKindLines L).length = L.nodeKindCount ↔ L.nodeKindCount ≤ 65535) ∧
      L.nodeKindCount ≤ 65536 := by
  obtain ⟨rfl, hv⟩ := Loader.load_some_eq_ok_iff.mp hL
  have hfields := Artifact.fields_length_le_of_validate hv
  have hsymbols := Artifact.symbols_length_le_of_validate hv
  obtain ⟨head, htables⟩ := Report.tables_eq_join (.ofArtifact a)
  refine ⟨⟨head, ?_⟩, fun i hi => ⟨_, Language.fieldNameForId_ofNat a i hi hfields⟩, ?_, hsymbols⟩
  · have hmin : min (Language.ofArtifact a).fieldCount 65535 = (Language.ofArtifact a).fieldCount :=
      Nat.min_eq_left hfields
    rw [htables, Report.nodeKindLines_eq, Report.fieldLines_eq, hmin]
  · rw [Report.nodeKindLines_eq, List.length_map, List.length_range]
    omega

/-- A grammar with as many symbols as validation admits: `end` and 65535 more. -/
def fullSymbolTable : Artifact :=
  { Artifact.empty "full" currentAbi with
    symbols := ⟨"end", .hidden⟩ :: List.replicate 65535 ⟨"s", .regular⟩ }

theorem fullSymbolTable_symbols :
    fullSymbolTable.symbols = ⟨"end", .hidden⟩ :: List.replicate 65535 ⟨"s", .regular⟩ := rfl

theorem fullSymbolTable_symbols_length : fullSymbolTable.symbols.length = 65536 := by
  rw [fullSymbolTable_symbols, List.length_cons, List.length_replicate]

theorem fullSymbolTable_validate : fullSymbolTable.validate .standard = .ok () := by
  rw [Artifact.validate_eq_ok_iff]
  intro g hg
  simp only [Artifact.Check.all, List.mem_cons, List.not_mem_nil, or_false] at hg
  rcases hg with rfl | rfl | rfl | rfl | rfl | rfl
  · exact (isGrammarName_iff _).mp (by decide)
  · exact ⟨by decide, by decide⟩
  · refine ⟨⟨_, _, fullSymbolTable_symbols, rfl⟩, ?_, ?_⟩
    · exact Nat.le_of_eq fullSymbolTable_symbols_length
    · simp only [fullSymbolTable_symbols, List.mem_cons, List.mem_replicate]
      rintro s (rfl | ⟨-, rfl⟩) <;> decide
  · exact ⟨Nat.zero_le _, fun _ h => absurd h List.not_mem_nil,
      fun _ _ _ hj => absurd hj (Nat.not_lt_zero _)⟩
  · exact ⟨fun _ h => absurd h List.not_mem_nil, fun _ h => absurd h List.not_mem_nil,
      fun _ h => (Option.some_ne_none _ h.symm).elim⟩
  · exact ⟨fun _ => rfl, fun h => absurd rfl h⟩

/-- The full symbol table loads, and its tables list one node kind fewer than it has. -/
theorem fullSymbolTable_tables_drop_last_kind :
    Loader.load .standard (some fullSymbolTable) = .ok (.ofArtifact fullSymbolTable) ∧
      (Language.ofArtifact fullSymbolTable).nodeKindCount = 65536 ∧
      (Report.nodeKindLines (.ofArtifact fullSymbolTable)).length = 65535 := by
  have hcount : (Language.ofArtifact fullSymbolTable).nodeKindCount = 65536 :=
    fullSymbolTable_symbols_length
  refine ⟨Loader.load_some_eq_ok_iff.mpr ⟨rfl, fullSymbolTable_validate⟩, hcount, ?_⟩
  rw [Report.nodeKindLines_eq, List.length_map, List.length_range, hcount]
  rfl

end GrammarLoader
