import GrammarLoader.Proofs.Codec
import GrammarLoader.Proofs.FileTree
import GrammarLoader.Proofs.Loading
import GrammarLoader.Files.Host

/-! # Saved artifacts load back

The three ways to load an artifact agree. Its encoding decodes to it, so loading the
bytes is loading the artifact; a rejection then names the grammar. Saving writes the
encoding to a file, which reads back as written unless the path leads to a device, so
loading the file is loading the artifact again, with the path added to a rejection's
context. The null device is the case the exception is for: it takes the bytes and
reads back empty.
-/

namespace GrammarLoader

open Files

namespace Loader

variable {c : LoaderConfig} {a : Artifact}

theorem load_some_eq_error_iff {e : Error} :
    load c (some a) = .error e ↔
      ∃ f, a.validate c = .error f ∧ e = ⟨.loadFailure f, some { grammar := some a.name }⟩ := by
  cases h : a.validate c with
  | ok u => simp [load, h]
  | error f => simp [load, h, Error.ofFailure, Error.withContext, eq_comm]

theorem loadBytes_encode (ha : a.Encodable) : loadBytes c a.encode = load c (some a) := by
  rw [loadBytes, Artifact.decode_encode ha]

theorem loadRead_encode (ha : a.Encodable) (path : String) :
    loadRead c path (.contents a.encode) =
      (load c (some a)).mapError
        fun e => e.withContext { grammar := some a.name, source := some path } := by
  have hr : artifactOfRead path (.contents a.encode) = .ok a :=
    artifactOfRead_eq_ok_iff.mpr ⟨_, rfl, Artifact.decode_encode ha⟩
  cases hl : load c (some a) with
  | ok L => simp [loadRead, hr, hl, Except.mapError]
  | error e =>
    -- the rejection already names the grammar; the file adds its path
    obtain ⟨f, -, rfl⟩ := load_some_eq_error_iff.mp hl
    simp [loadRead, hr, hl, Except.mapError, Error.withContext]

end Loader

namespace Artifact

/-- Saving into a file tree is writing the encoding there; a failed write names its step
and leaves the tree as it was. -/
theorem save_run (a : Artifact) (path : String) (t : FileTree) :
    (a.save (m := StateM FileTree) path).run t =
      match t.write path a.encode with
      | .ok s => (.ok (), s)
      | .error (.createFailed e) => (.error (Loader.fileError "create" path e), t)
      | .error (.writeFailed e) =>
        (.error (Loader.fileError (if a.encode.length < saveBufferBytes then "flush" else "write to")
          path e), t) := by
  simp only [save, FileStore.writeFile, StateT.run, bind, StateT.bind, get, getThe,
    MonadStateOf.get, StateT.get, pure, set]
  cases t.write path a.encode with
  | ok s => rfl
  | error e => cases e <;> rfl

theorem save_run_eq_ok {a : Artifact} {path : String} {t t' : FileTree} :
    (a.save (m := StateM FileTree) path).run t = (.ok (), t') ↔ t.write path a.encode = .ok t' := by
  rw [save_run]
  cases t.write path a.encode with
  | ok s =>
    constructor
    · intro h
      cases h
      rfl
    · intro h
      cases h
      rfl
  | error e =>
    constructor
    · intro h
      cases e <;> cases h
    · intro h
      cases h

end Artifact

/-! ## Two paths on the host

A file made in the scratch directory, and the null device. -/

namespace Files.FileTree

theorem parse_g : parse "g" = ⟨false, ["g"], false⟩ := by
  have hstart : "g".startsWith "/" = false := by decide +kernel
  have hend : "g".endsWith "/" = false := by decide +kernel
  simp +decide [hstart, hend, parse, String.splitOn, String.splitOnAux]

theorem parse_devNull : parse "/dev/null" = ⟨true, ["dev", "null"], false⟩ := by
  have hend : "/dev/null".endsWith "/" = false := by decide +kernel
  simp +decide [hend, parse, String.splitOn, String.splitOnAux]

theorem host_locate_g : host.locate "g" = .ok (scratch, parse "g") := by
  rw [locate_eq_ok, parse_g]
  exact ⟨by simp +decide [checkText], rfl, rfl, rfl⟩

theorem host_locate_devNull : host.locate "/dev/null" = .ok (["dev"], parse "/dev/null") := by
  rw [locate_eq_ok, parse_devNull]
  exact ⟨by simp +decide [checkText], rfl, rfl, rfl⟩

theorem host_resolve_g : host.resolve "g" = .ok (.absent (scratch ++ ["g"])) := by
  rw [resolve_of_lookup host_locate_g (by rw [parse_g]; rfl)]
  rfl

theorem host_write_g (bs : Bytes) :
    host.write "g" bs = .ok (host.put (scratch ++ ["g"]) (.file bs .readWrite)) := by
  unfold write
  rw [host_locate_g, parse_g]
  rfl

theorem host_resolve_devNull :
    host.resolve "/dev/null" = .ok (.node ["dev", "null"] (.device .null)) := by
  rw [resolve_of_lookup host_locate_devNull (by rw [parse_devNull]; rfl)]
  rfl

theorem host_write_devNull (bs : Bytes) : host.write "/dev/null" bs = .ok host := by
  unfold write
  rw [host_locate_devNull, parse_devNull]
  rfl

theorem host_read_devNull : host.read "/dev/null" = .contents [] := by
  unfold read
  rw [host_resolve_devNull, parse_devNull]
  rfl

end Files.FileTree

/-- An encodable artifact loads the same from its bytes as itself, and a rejection names
its grammar; saved to a file in a tree, it loads the same from that file, a rejection
naming the grammar and the path, unless the path led to a device. -/
theorem load_saved_artifact (c : LoaderConfig) (a : Artifact) (ha : a.Encodable) :
    Loader.loadBytes c a.encode = Loader.load c (some a) ∧
    (∀ L, Loader.load c (some a) = .ok L → L.artifact = a) ∧
    (∀ e, Loader.load c (some a) = .error e →
      ∃ f, a.validate c = .error f ∧ e = ⟨.loadFailure f, some { grammar := some a.name }⟩) ∧
    ∀ (t t' : FileTree) (path : String),
      (a.save (m := StateM FileTree) path).run t = (.ok (), t') →
      (∀ q d, t.resolve path ≠ .ok (.node q (.device d))) →
      (Loader.loadFile (m := StateM FileTree) c path).run t' =
        ((Loader.load c (some a)).mapError
          fun e => e.withContext { grammar := some a.name, source := some path }, t') := by
  refine ⟨Loader.loadBytes_encode ha, fun L h => ?_, fun e h => Loader.load_some_eq_error_iff.mp h,
    fun t t' path hsave hdev => ?_⟩
  · rw [(Loader.load_some_eq_ok_iff.mp h).1]
    rfl
  · have hread : t'.read path = .contents a.encode :=
      FileTree.read_write (Artifact.save_run_eq_ok.mp hsave) hdev
    rw [Loader.loadFile_run, hread, Loader.loadRead_encode ha]

theorem load_saved_builtin :
    (Builtin.artifact.save (m := StateM FileTree) "g").run FileTree.host =
        (.ok (), FileTree.host.put (FileTree.scratch ++ ["g"]) (.file Builtin.artifact.encode .readWrite)) ∧
      (Loader.loadFile (m := StateM FileTree) .standard "g").run
          (FileTree.host.put (FileTree.scratch ++ ["g"]) (.file Builtin.artifact.encode .readWrite)) =
        (.ok (.ofArtifact Builtin.artifact),
          FileTree.host.put (FileTree.scratch ++ ["g"]) (.file Builtin.artifact.encode .readWrite)) := by
  have hsave := Artifact.save_run_eq_ok.mpr (FileTree.host_write_g Builtin.artifact.encode)
  have hdev : ∀ q d, FileTree.host.resolve "g" ≠ .ok (.node q (.device d)) := by
    intro q d h
    rw [FileTree.host_resolve_g] at h
    cases h
  obtain ⟨-, -, -, hfile⟩ :=
    load_saved_artifact .standard Builtin.artifact Artifact.encodable_builtin
  refine ⟨hsave, ?_⟩
  rw [hfile _ _ "g" hsave hdev]
  rw [show Loader.load .standard (some Builtin.artifact) = _ from Builtin.language_eq_ok]
  rfl

/-- The null device takes the saved bytes and leaves the tree as it was, but reads back
empty: loading the file fails where loading the artifact succeeds. -/
theorem save_devNull_reads_empty :
    Builtin.artifact.Encodable ∧
      (Builtin.artifact.save (m := StateM FileTree) "/dev/null").run FileTree.host =
        (.ok (), FileTree.host) ∧
      (Loader.loadFile (m := StateM FileTree) .standard "/dev/null").run FileTree.host =
        (.error ⟨.loadFailure (.corrupt "0 bytes is too short for an artifact"),
          some { source := some "/dev/null" }⟩, FileTree.host) ∧
      Loader.load .standard (some Builtin.artifact) = .ok (.ofArtifact Builtin.artifact) := by
  refine ⟨Artifact.encodable_builtin, ?_, ?_, Builtin.language_eq_ok⟩
  · exact Artifact.save_run_eq_ok.mpr (FileTree.host_write_devNull _)
  · rw [Loader.loadFile_run, FileTree.host_read_devNull]
    rfl

end GrammarLoader
