import GrammarLoader.Cli.Options

/-! # The command line as a scan of items

The arguments after the program's name fall into items in one pass from the left.
`--emit`, `--min-abi` and `--max-abi` take the argument after them as their value,
whatever it is, and stand bare when nothing follows; the other known flags are
switches, each in a short and a long spelling; every other argument is plain, the
empty one included. An item is at fault when it is a bare flag, a plain argument that
starts with `-` (an unknown option), or an ABI bound whose value is not a decimal `u32`.

Reading the command line succeeds exactly when no item is at fault. The artifact paths
are then the plain items in order, each value flag holds its last value, and a switch
is on exactly when one of its spellings is given. Otherwise the usage message is that
of the first item at fault. Main statement: `parseArgs_follows_scan`.

The loop keeps the paths read so far newest first and reverses them at the end, so its
invariant (`parseRest_eq`) is stated over any options read so far, through
`Options.readOver`.
-/

namespace GrammarLoader.Cli

/-- The flags that take the argument after them as their value. -/
def valueFlags : List String := ["--emit", "--min-abi", "--max-abi"]

/-- The flags that switch something on, in both spellings. -/
def switchFlags : List String :=
  ["-h", "--help", "-V", "--version", "-v", "--verbose", "--info", "--no-verify"]

/-- One item of a command line. -/
inductive Item where
  /-- A switch, as spelled. -/
  | switch (flag : String)
  /-- A value flag and the argument after it. -/
  | valued (flag value : String)
  /-- A value flag with nothing after it. -/
  | bare (flag : String)
  /-- Any other argument. -/
  | plain (arg : String)
  deriving Repr, DecidableEq

/-- The items of an argument list, from the left. -/
def scan : List String → List Item
  | [] => []
  | arg :: rest =>
    if arg ∈ valueFlags then
      match rest with
      | [] => [.bare arg]
      | value :: rest => .valued arg value :: scan rest
    else if arg ∈ switchFlags then .switch arg :: scan rest
    else .plain arg :: scan rest

namespace Item

/-- The arguments an item was read from. -/
def words : Item → List String
  | .switch flag | .bare flag | .plain flag => [flag]
  | .valued flag value => [flag, value]

/-- The usage message of an item at fault. -/
def fault : Item → Option String
  | .switch _ => none
  | .valued flag value =>
    if flag ≠ "--emit" ∧ parseU32 value = none then some s!"invalid {flag} value: {value}" else none
  | .bare flag => some s!"{flag} requires a value"
  | .plain arg => if arg.startsWith "-" then some s!"unknown option: {arg}" else none

/-- A plain item's argument: an artifact path. -/
def path? : Item → Option String
  | .plain arg => some arg
  | _ => none

/-- The value an item gives to `flag`. -/
def valueOf? (flag : String) : Item → Option String
  | .valued f value => if f = flag then some value else none
  | _ => none

/-- Whether the item is a switch in one of these spellings. -/
def isSwitchIn (spellings : List String) : Item → Bool
  | .switch f => f ∈ spellings
  | _ => false

end Item

/-- The value given last to `flag`. -/
def lastValue (flag : String) (items : List Item) : Option String :=
  (items.filterMap (Item.valueOf? flag)).getLast?

/-- Whether a switch is given, in one of its spellings. -/
def given (spellings : List String) (items : List Item) : Bool :=
  items.any (Item.isSwitchIn spellings)

/-- The options that items without fault ask for. -/
def Options.ofItems (items : List Item) : Options where
  artifacts := items.filterMap Item.path?
  info := given ["--info"] items
  emit := lastValue "--emit" items
  minAbi := (lastValue "--min-abi" items).bind parseU32
  maxAbi := (lastValue "--max-abi" items).bind parseU32
  noVerify := given ["--no-verify"] items
  verbose := given ["-v", "--verbose"] items
  showHelp := given ["-h", "--help"] items
  showVersion := given ["-V", "--version"] items

/-- Options `o` with `items` read over them. The paths of `o` are newest first, as
reading keeps them; a value given in `items` replaces the one in `o`. -/
def Options.readOver (o : Options) (items : List Item) : Options where
  artifacts := o.artifacts.reverse ++ items.filterMap Item.path?
  info := o.info || given ["--info"] items
  emit := (lastValue "--emit" items).or o.emit
  minAbi := ((lastValue "--min-abi" items).map parseU32).getD o.minAbi
  maxAbi := ((lastValue "--max-abi" items).map parseU32).getD o.maxAbi
  noVerify := o.noVerify || given ["--no-verify"] items
  verbose := o.verbose || given ["-v", "--verbose"] items
  showHelp := o.showHelp || given ["-h", "--help"] items
  showVersion := o.showVersion || given ["-V", "--version"] items

/-- The items, written out, are the arguments they were read from. -/
theorem flatMap_words_scan (args : List String) : (scan args).flatMap Item.words = args := by
  fun_induction scan args with
  | case1 => rfl
  | case2 arg => simp [Item.words]
  | case3 arg _ value rest ih => simp [Item.words, ih]
  | case4 arg rest _ _ ih => simp [Item.words, ih]
  | case5 arg rest _ _ ih => simp [Item.words, ih]

theorem lastValue_cons (flag : String) (item : Item) (items : List Item) :
    lastValue flag (item :: items) = (lastValue flag items).or (item.valueOf? flag) := by
  simp only [lastValue, List.filterMap_cons]
  cases item.valueOf? flag with
  | none => simp
  | some v =>
    rw [List.getLast?_cons]
    cases (items.filterMap (Item.valueOf? flag)).getLast? <;> rfl

theorem given_cons (spellings : List String) (item : Item) (items : List Item) :
    given spellings (item :: items) = (item.isSwitchIn spellings || given spellings items) := by
  simp [given]

theorem getD_map_or {α β : Type} (x y : Option α) (f : α → β) (d : β) :
    ((x.or y).map f).getD d = (x.map f).getD ((y.map f).getD d) := by
  cases x <;> rfl

namespace Options

variable (o : Options) (items : List Item)

/-- Reading from the default options gives what the items ask for. -/
theorem readOver_default : ({} : Options).readOver items = ofItems items := by
  simp only [readOver, ofItems, List.reverse_nil, List.nil_append, Bool.false_or, Option.or_none]
  congr 1 <;> cases lastValue _ items <;> rfl

/-! One lemma per kind of item: what reading it first does to the options. -/

theorem readOver_plain (arg : String) :
    o.readOver (.plain arg :: items) = { o with artifacts := arg :: o.artifacts }.readOver items := by
  simp [readOver, lastValue_cons, given_cons, Item.path?, Item.valueOf?, Item.isSwitchIn]

theorem readOver_switch (flag : String) :
    o.readOver (.switch flag :: items) =
      { o with
        info := o.info || flag ∈ ["--info"]
        noVerify := o.noVerify || flag ∈ ["--no-verify"]
        verbose := o.verbose || flag ∈ ["-v", "--verbose"]
        showHelp := o.showHelp || flag ∈ ["-h", "--help"]
        showVersion := o.showVersion || flag ∈ ["-V", "--version"] }.readOver items := by
  simp only [readOver, lastValue_cons, given_cons, List.filterMap_cons, Item.path?, Item.valueOf?,
    Item.isSwitchIn]
  simp [Bool.or_assoc]

theorem readOver_valued (flag value : String) :
    o.readOver (.valued flag value :: items) =
      { o with
        emit := if flag = "--emit" then some value else o.emit
        minAbi := if flag = "--min-abi" then parseU32 value else o.minAbi
        maxAbi := if flag = "--max-abi" then parseU32 value else o.maxAbi }.readOver items := by
  simp only [readOver, lastValue_cons, given_cons, List.filterMap_cons, Item.path?, Item.valueOf?,
    Item.isSwitchIn, Bool.false_or, Option.or_assoc, getD_map_or]
  -- a flag is at most one of the three value flags
  by_cases he : flag = "--emit" <;> by_cases hm : flag = "--min-abi" <;>
    by_cases hx : flag = "--max-abi" <;> simp [he, hm, hx]

end Options

/-- An argument that is no known flag is an unknown option or a path. -/
theorem parseRest_plain (o : Options) {arg : String} (rest : List String) (hv : arg ∉ valueFlags)
    (hs : arg ∉ switchFlags) :
    parseRest o (arg :: rest) =
      if arg.startsWith "-" then .error s!"unknown option: {arg}"
      else parseRest { o with artifacts := arg :: o.artifacts } rest := by
  simp only [valueFlags, switchFlags, List.mem_cons, List.not_mem_nil, or_false, not_or] at hv hs
  rw [parseRest] <;> simp_all

/-- The loop's invariant: from options `o`, reading fails with the first item at fault, or
gives `o` with all the items read over it. -/
theorem parseRest_eq (o : Options) (args : List String) :
    parseRest o args =
      match (scan args).findSome? Item.fault with
      | some msg => .error msg
      | none => .ok (o.readOver (scan args)) := by
  -- one case per kind of item; within a kind, one case per spelling of the flag
  fun_induction scan args generalizing o with
  | case1 => simp [parseRest, Options.readOver, given, lastValue]
  | case2 arg h =>
    simp only [valueFlags, List.mem_cons, List.not_mem_nil, or_false] at h
    rcases h with rfl | rfl | rfl <;> simp [parseRest, Item.fault] <;> decide
  | case3 arg h value rest ih =>
    simp only [valueFlags, List.mem_cons, List.not_mem_nil, or_false] at h
    rcases h with rfl | rfl | rfl
    · simp [parseRest, Item.fault, ih, Options.readOver_valued]
    · cases hv : parseU32 value <;> simp [parseRest, Item.fault, ih, Options.readOver_valued, hv]
      decide
    · cases hv : parseU32 value <;> simp [parseRest, Item.fault, ih, Options.readOver_valued, hv]
      decide
  | case4 arg rest hv hs ih =>
    simp only [switchFlags, List.mem_cons, List.not_mem_nil, or_false] at hs
    rcases hs with rfl | rfl | rfl | rfl | rfl | rfl | rfl | rfl <;>
      simp [parseRest, Item.fault, ih, Options.readOver_switch, List.findSome?_cons]
  | case5 arg rest hv hs ih =>
    rw [parseRest_plain o rest hv hs]
    by_cases hdash : arg.startsWith "-"
    · simp [Item.fault, hdash]
    · simp [Item.fault, hdash, ih, Options.readOver_plain]

/-- Reading a command line succeeds exactly when no item of the scan is at fault, and then
gives what the items ask for: the plain items as paths in order, the last value of each
value flag, and each switch on exactly when given. Otherwise the usage message is that of
the first item at fault. -/
theorem parseArgs_follows_scan (prog : String) (rest : List String) :
    (∀ o, parseArgs (prog :: rest) = .ok o ↔
      (∀ item ∈ scan rest, item.fault = none) ∧ o = .ofItems (scan rest)) ∧
    (∀ msg, parseArgs (prog :: rest) = .error msg ↔
      ∃ pre item post, scan rest = pre ++ item :: post ∧ item.fault = some msg ∧
        ∀ earlier ∈ pre, earlier.fault = none) := by
  rw [parseArgs, List.tail_cons, parseRest_eq, Options.readOver_default]
  simp only [← List.findSome?_eq_some_iff]
  cases h : (scan rest).findSome? Item.fault with
  | none =>
    have hnone := List.findSome?_eq_none_iff.mp h
    refine ⟨fun o => ?_, fun msg => by simp⟩
    simp only [Except.ok.injEq]
    exact ⟨fun e => ⟨hnone, e.symm⟩, fun h => h.2.symm⟩
  | some first =>
    -- the first item at fault rules out success
    obtain ⟨_, item, _, hsplit, hitem, _⟩ := List.findSome?_eq_some_iff.mp h
    refine ⟨fun o => ?_, fun msg => by simp⟩
    simp only [reduceCtorEq, false_iff, not_and]
    exact fun hall => absurd (hall item (by simp [hsplit])) (by simp [hitem])

example : scan ["--emit", "--info", "-", ""] = [.valued "--emit" "--info", .plain "-", .plain ""] := by
  decide

example : parseArgs ["grz", "a", "--min-abi", "x", "-"] = .error "invalid --min-abi value: x" := by
  cbv

end GrammarLoader.Cli
