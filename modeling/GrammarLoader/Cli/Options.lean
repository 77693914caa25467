import GrammarLoader.Config

/-! # Command-line options

The command line reads left to right. `--emit`, `--min-abi` and `--max-abi` take
the next argument as their value, whatever it is; the last occurrence wins. The
other flags switch something on. Any other argument that starts with `-` is an
unknown option, and the rest are artifact paths, in order. The first offending
argument ends the reading with a usage message.
-/

namespace GrammarLoader.Cli

/-- What the command line asks for. -/
structure Options where
  artifacts : List String := []
  info : Bool := false
  emit : Option String := none
  minAbi : Option UInt32 := none
  maxAbi : Option UInt32 := none
  noVerify : Bool := false
  verbose : Bool := false
  showHelp : Bool := false
  showVersion : Bool := false
  deriving Repr, DecidableEq, Inhabited

/-- The loader settings: the standard ones, with the ABI bounds given and
verification unless switched off. -/
def Options.loaderConfig (o : Options) : LoaderConfig :=
  (LoaderConfig.standard.withAbiRange (o.minAbi.getD oldestAbi) (o.maxAbi.getD currentAbi)).withVerifyFingerprint
    !o.noVerify

/-- A decimal `u32`: an optional `+`, then one or more ASCII digits, below 2^32. -/
def parseU32 (s : String) : Option UInt32 :=
  let digits := match s.toList with
    | '+' :: rest => rest
    | cs => cs
  if digits.isEmpty || !digits.all Char.isDigit then none
  else
    let n : Nat := digits.foldl (fun acc c => acc * 10 + (c.toNat - 48)) 0
    if n < UInt32.size then some n.toUInt32 else none

/-- Read the arguments after the program name into `o`. -/
def parseRest (o : Options) : List String → Except String Options
  | [] => .ok { o with artifacts := o.artifacts.reverse }
  | arg :: rest =>
    match arg with
    | "-h" | "--help" => parseRest { o with showHelp := true } rest
    | "-V" | "--version" => parseRest { o with showVersion := true } rest
    | "-v" | "--verbose" => parseRest { o with verbose := true } rest
    | "--info" => parseRest { o with info := true } rest
    | "--no-verify" => parseRest { o with noVerify := true } rest
    | "--emit" =>
      match rest with
      | [] => .error "--emit requires a value"
      | v :: rest => parseRest { o with emit := some v } rest
    | "--min-abi" =>
      match rest with
      | [] => .error "--min-abi requires a value"
      | v :: rest =>
        match parseU32 v with
        | some n => parseRest { o with minAbi := some n } rest
        | none => .error s!"invalid --min-abi value: {v}"
    | "--max-abi" =>
      match rest with
      | [] => .error "--max-abi requires a value"
      | v :: rest =>
        match parseU32 v with
        | some n => parseRest { o with maxAbi := some n } rest
        | none => .error s!"invalid --max-abi value: {v}"
    | _ =>
      if arg.startsWith "-" then .error s!"unknown option: {arg}"
      else parseRest { o with artifacts := arg :: o.artifacts } rest

/-- Read a whole argument vector; the first entry is the program's name. -/
def parseArgs (argv : List String) : Except String Options :=
  parseRest {} argv.tail

end GrammarLoader.Cli
