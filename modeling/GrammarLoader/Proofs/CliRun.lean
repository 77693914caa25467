import GrammarLoader.Proofs.Saving
import GrammarLoader.Cli.Run

/-! # What a run of the command line writes

With help and version off, a run first saves the built-in artifact where `--emit` says,
if it says so, and writes `wrote PATH`. Then it checks its sources in order: the artifact
paths; or, with none, the built-in grammar, unless an artifact was emitted. Each source
gets one status text, ended by a line break: `SOURCE: ok: SUMMARY` when it loads, followed
by the tables under `--info`, or `SOURCE: Error loading Grz grammar: ERROR` with the
error's context in parentheses. The run passes when every source loads. Files are read
after the save, so a source may be the artifact just emitted.

The texts are written as they are. Nothing removes or escapes a line break in a path, in a
metadata version, or in the grammar name of an error's context, so a status text can span
more than one line: `run_status_spans_two_lines` is such a run.

Main statement: `run_reports_each_source`.
-/

namespace GrammarLoader.Cli

open Files

/-- The sources a run checks, each with what loading it gives in tree `t`: the artifact
paths in order; with none, the built-in grammar, unless an artifact is emitted. -/
def checkedSources (o : Options) (t : FileTree) : List (String × Except Error Language) :=
  if o.artifacts.isEmpty then
    if o.emit.isSome then [] else [(builtinSource, Loader.load o.loaderConfig (some Builtin.artifact))]
  else o.artifacts.map fun path => (path, Loader.loadRead o.loaderConfig path (t.read path))

/-- The status text of a source: `ok:` and the summary, and the tables when asked for; or
the failure heading, the error and its context. -/
def statusLine (info : Bool) (src : String) : Except Error Language → String
  | .ok l => src ++ ": ok: " ++ Report.summary l ++ "\n" ++ (if info then Report.tables l ++ "\n" else "")
  | .error e =>
    src ++ ": Error loading Grz grammar: " ++ e.message ++
      (match e.context with
        | some c => " (" ++ c.render ++ ")"
        | none => "") ++ "\n"

/-- The line that reports a saved artifact. -/
def wroteLine : Option String → String
  | some path => "wrote " ++ path ++ "\n"
  | none => ""

/-- A traversal whose every step reads the tree without changing it. -/
theorem mapM_run_of_reads {α β : Type} (xs : List α) (f : α → StateM FileTree β) (g : α → β)
    (t : FileTree) (hf : ∀ x ∈ xs, (f x).run t = (g x, t)) : (xs.mapM f).run t = (xs.map g, t) := by
  induction xs with
  | nil => rfl
  | cons x xs ih =>
    have hhead := hf x (by simp)
    have htail := ih (fun y hy => hf y (by simp [hy]))
    simp only [List.mapM_cons, List.map_cons, StateT.run, bind, StateT.bind, pure, StateT.pure] at *
    rw [hhead]
    dsimp only
    rw [htail]

theorem statusText_ofResult (o : Options) (src : String) (r : Except Error Language) :
    statusText o src (.ofResult r) = statusLine o.info src r := by
  cases r with
  | ok l => simp [statusText, statusLine, CheckOutcome.ofResult, String.append_assoc, toString]
  | error e =>
    have hhead (x : String) : ": " ++ ("Error loading Grz grammar: " ++ x) =
        ": Error loading Grz grammar: " ++ x := by
      rw [← String.append_assoc]
      rfl
    cases h : e.context <;>
      simp [statusText, statusLine, CheckOutcome.ofResult, CheckOutcome.display,
        CheckOutcome.failureHeading, h, String.append_assoc, toString, hhead]

theorem passed_ofResult (r : Except Error Language) : (CheckOutcome.ofResult r).passed = r.toBool := by
  cases r <;> rfl

/-- Checking reads each source in the tree and changes nothing. -/
theorem checks_run (o : Options) (t : FileTree) (hemit : o.artifacts.isEmpty → o.emit = none) :
    (checks (m := StateM FileTree) o).run t =
      ((checkedSources o t).map fun (src, r) => (src, CheckOutcome.ofResult r), t) := by
  unfold checks checkedSources
  by_cases hempty : o.artifacts.isEmpty
  · simp [hempty, hemit hempty, Check.builtin, Check.source, Loader.loadSource, Builtin.source]
    rfl
  · simp only [hempty, Bool.false_eq_true, ↓reduceIte, List.map_map]
    apply mapM_run_of_reads
    intro path _
    rfl

theorem report_eq (o : Options) (sources : List (String × Except Error Language)) :
    report o (sources.map fun (src, r) => (src, CheckOutcome.ofResult r)) =
      (String.join (sources.map fun (src, r) => statusLine o.info src r),
        sources.all fun (_, r) => r.toBool) := by
  simp only [report, List.map_map, List.all_map, Function.comp_def, statusText_ofResult,
    passed_ofResult]

/-- A step of the identity monad applies the rest to its value. -/
theorem idBind {α β : Type} (x : α) (f : α → Id β) : (x >>= f : Id β) = f x := rfl

section Run

variable (o : Options) (hhelp : o.showHelp = false) (hversion : o.showVersion = false)
include hhelp hversion

/-- Without `--emit`, a run checks its sources in the tree as it is and reports them. -/
theorem run_run_of_none (hemit : o.emit = none) (t : FileTree) :
    (run (m := StateM FileTree) o).run t =
      ((String.join ((checkedSources o t).map fun (src, r) => statusLine o.info src r),
        .ok ((checkedSources o t).all fun (_, r) => r.toBool)), t) := by
  let outcomes := (checkedSources o t).map fun (src, r) => (src, CheckOutcome.ofResult r)
  calc (run (m := StateM FileTree) o).run t
      = (((report o outcomes).1, .ok (report o outcomes).2), t) := by
        simp only [run, hhelp, hversion, hemit, Bool.false_eq_true, ↓reduceIte, StateT.run_bind,
          checks_run o t (fun _ => hemit)]
        rfl
    _ = _ := by rw [report_eq]

/-- With `--emit` and a save that succeeds, a run says so, then checks its sources in the
tree the save left. -/
theorem run_run_of_saved {path : String} (hemit : o.emit = some path) {t t' : FileTree}
    (hsave : t.write path Builtin.artifact.encode = .ok t') :
    (run (m := StateM FileTree) o).run t =
      (("wrote " ++ path ++ "\n" ++
          String.join ((checkedSources o t').map fun (src, r) => statusLine o.info src r),
        .ok ((checkedSources o t').all fun (_, r) => r.toBool)), t') := by
  have hsaved := Artifact.save_run_eq_ok.mpr hsave
  by_cases hempty : o.artifacts.isEmpty
  · -- nothing to check: only the line about the save
    have hnone : checkedSources o t' = [] := by simp [checkedSources, hempty, hemit]
    rw [hnone, List.map_nil, String.join_nil, String.append_empty, List.all_nil]
    simp only [run, hhelp, hversion, hemit, hempty, Bool.false_eq_true, ↓reduceIte, StateT.run_bind,
      hsaved]
    rfl
  · let outcomes := (checkedSources o t').map fun (src, r) => (src, CheckOutcome.ofResult r)
    calc (run (m := StateM FileTree) o).run t
        = (("wrote " ++ path ++ "\n" ++ (report o outcomes).1, .ok (report o outcomes).2), t') := by
          simp only [run, hhelp, hversion, hemit, hempty, Bool.false_eq_true, ↓reduceIte,
            StateT.run_bind, hsaved, idBind]
          simp only [checks_run o t' (fun h => absurd h hempty)]
          rfl
      _ = _ := by rw [report_eq]

end Run

/-- A run with help and version off, in a tree where the save it asks for succeeds, writes
the line about the save, then one status text per checked source in order, and passes
exactly when every source loads in the tree the save left. -/
theorem run_reports_each_source (o : Options) (hhelp : o.showHelp = false)
    (hversion : o.showVersion = false) (t t' : FileTree)
    (hsaved : ∀ path, o.emit = some path → t.write path Builtin.artifact.encode = .ok t')
    (hkept : o.emit = none → t' = t) :
    (run (m := StateM FileTree) o).run t =
      ((wroteLine o.emit ++ String.join ((checkedSources o t').map fun (src, r) => statusLine o.info src r),
        .ok ((checkedSources o t').all fun (_, r) => r.toBool)), t') := by
  cases hemit : o.emit with
  | none =>
    obtain rfl := hkept hemit
    rw [run_run_of_none o hhelp hversion hemit, wroteLine, String.empty_append]
  | some path =>
    rw [run_run_of_saved o hhelp hversion hemit (hsaved path hemit), wroteLine]

/-- Emitting the built-in artifact to `g` and checking `g` reads back what was saved. -/
theorem run_emit_then_check :
    (run (m := StateM FileTree) { artifacts := ["g"], emit := some "g" }).run FileTree.host =
      ((wroteLine (some "g") ++
          String.join ((checkedSources { artifacts := ["g"], emit := some "g" }
            (FileTree.host.put (FileTree.scratch ++ ["g"]) (.file Builtin.artifact.encode .readWrite))).map
              fun (src, r) => statusLine false src r),
        .ok ((checkedSources { artifacts := ["g"], emit := some "g" }
          (FileTree.host.put (FileTree.scratch ++ ["g"]) (.file Builtin.artifact.encode .readWrite))).all
            fun (_, r) => r.toBool)),
        FileTree.host.put (FileTree.scratch ++ ["g"]) (.file Builtin.artifact.encode .readWrite)) :=
  run_reports_each_source _ rfl rfl _ _ (fun _ h => by cases h; exact FileTree.host_write_g _) nofun

/-! ## A status that spans two lines -/

/-- A grammar whose version holds a line break. -/
def twoLineVersion : Artifact :=
  { Artifact.empty "g" currentAbi with
    symbols := [⟨"end", .auxiliary⟩]
    metadata := ⟨"1\n2", "", []⟩ }

/-- The scratch directory with `twoLineVersion` saved as `g`. -/
def twoLineTree : FileTree :=
  FileTree.host.put (FileTree.scratch ++ ["g"]) (.file twoLineVersion.encode .readWrite)

/-- Checking `g` alone writes two lines: the version's line break goes out as it is. -/
theorem run_status_spans_two_lines :
    ((run (m := StateM FileTree) { artifacts := ["g"] }).run twoLineTree).1 =
        ("g: ok: g 1\n2 (abi 15, 1 node kinds, 0 fields, fingerprint 0000000000000000)\n", .ok true) ∧
      "g: ok: g 1\n2 (abi 15, 1 node kinds, 0 fields, fingerprint 0000000000000000)\n".splitOn "\n" =
        ["g: ok: g 1", "2 (abi 15, 1 node kinds, 0 fields, fingerprint 0000000000000000)", ""] := by
  have hread : twoLineTree.read "g" = .contents twoLineVersion.encode := by
    refine FileTree.read_write (FileTree.host_write_g _) fun q d h => ?_
    rw [FileTree.host_resolve_g] at h
    cases h
  have hencodable : twoLineVersion.Encodable := by
    constructor <;> decide
  have hload : Loader.load ({ artifacts := ["g"] } : Options).loaderConfig (some twoLineVersion) =
      .ok (.ofArtifact twoLineVersion) :=
    Loader.load_some_eq_ok_iff.mpr ⟨rfl, rfl⟩
  rw [run_run_of_none _ rfl rfl rfl]
  simp only [checkedSources, List.isEmpty_cons, Bool.false_eq_true, ↓reduceIte, List.map_cons,
    List.map_nil, hread, Loader.loadRead_encode hencodable, hload]
  constructor
  · rfl
  · simp +decide [String.splitOn, String.splitOnAux]

end GrammarLoader.Cli
