import GrammarLoader.Loader

/-! # The built-in grammar

The grammar that ships with the loader: Grz, which describes slide decks with
viewboxes, objects, slides and registers. Its tables list every node kind and
field in id order: `end`, the lexical tokens, the tokens of the external scanner,
the rules, the repeat helpers, and the alias names. The artifact is sealed.
-/

namespace GrammarLoader.Builtin

/-- The package version that the artifact's metadata records. -/
def packageVersion : String := "0.1.0"

/-- The symbol table. -/
def symbols : List Symbol :=
  let n := SymbolFlags.regular
  let a := SymbolFlags.anonymous
  let h := SymbolFlags.hidden
  let x := SymbolFlags.auxiliary
  [ ⟨"end", h⟩,
    -- lexical tokens
    ⟨"identifier", n⟩, ⟨".", a⟩, ⟨"escape_sequence", n⟩, ⟨"\"", a⟩, ⟨"r#\"", a⟩, ⟨"\"#", a⟩,
    ⟨"number_literal", n⟩, ⟨"integer_literal", n⟩, ⟨"[", a⟩, ⟨"]", a⟩, ⟨"edge_parser", n⟩,
    ⟨"Size", a⟩, ⟨"()", a⟩, ⟨"\x7b", a⟩, ⟨"\x7d", a⟩, ⟨":", a⟩, ⟨"|", a⟩, ⟨"~", a⟩, ⟨"..", a⟩,
    ⟨"...", a⟩, ⟨"..=", a⟩, ⟨",", a⟩, ⟨"(", a⟩, ⟨")", a⟩, ⟨"operation", n⟩, ⟨"direction", n⟩,
    ⟨"<", a⟩, ⟨">", a⟩, ⟨"comment", n⟩, ⟨"whitespace", n⟩,
    -- external scanner
    ⟨"string_content", n⟩, ⟨"raw_string_content", n⟩, ⟨"obj_other", n⟩,
    -- rules
    ⟨"source_file", n⟩, ⟨"_definition", h⟩, ⟨"completion", n⟩, ⟨"_simple_string_literal", h⟩,
    ⟨"_raw_string_literal", h⟩, ⟨"string_literal", n⟩, ⟨"_text_ident", h⟩, ⟨"index_parser", n⟩,
    ⟨"_vb_identifier", h⟩, ⟨"slide_from", n⟩, ⟨"slide_vb", n⟩, ⟨"range", n⟩, ⟨"slide_obj", n⟩,
    ⟨"slide_objects", n⟩, ⟨"slide_function", n⟩, ⟨"slide_functions", n⟩, ⟨"slide", n⟩,
    ⟨"viewbox_obj", n⟩, ⟨"viewbox_inner", n⟩, ⟨"viewbox", n⟩, ⟨"obj_param", n⟩, ⟨"obj_inner", n⟩,
    ⟨"obj", n⟩, ⟨"register", n⟩,
    -- repeat helpers
    ⟨"source_file_repeat1", x⟩, ⟨"_simple_string_literal_repeat1", x⟩,
    ⟨"slide_objects_repeat1", x⟩, ⟨"slide_function_repeat1", x⟩, ⟨"slide_functions_repeat1", x⟩,
    ⟨"viewbox_inner_repeat1", x⟩, ⟨"obj_inner_repeat1", x⟩,
    -- aliases
    ⟨"size", n⟩, ⟨"inherit", n⟩ ]

/-- The field names, in increasing order. -/
def fields : List String :=
  ["body", "denominator", "direction", "function", "key", "name", "object", "objects",
   "operation", "range", "ty", "value", "viewbox", "viewbox_index"]

/-- The built-in artifact, sealed. -/
def artifact : Artifact :=
  Artifact.sealed
    { name := "grz"
      abiVersion := currentAbi
      symbols := symbols
      fields := fields
      externalTokens := [31, 32, 33]
      extras := [30, 29]
      wordToken := some 1
      metadata := ⟨packageVersion, "source.grz", ["grz"]⟩
      fingerprint := 0 }

/-- The source that gives the built-in artifact. -/
def source : ArtifactSource := ⟨some artifact⟩

/-- The built-in language under the standard configuration. -/
def language : Except Error Language :=
  Loader.load LoaderConfig.standard (some artifact)

end GrammarLoader.Builtin
