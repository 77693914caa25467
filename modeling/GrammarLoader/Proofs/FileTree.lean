import Mathlib.Tactic.SplitIfs
import GrammarLoader.Files.Tree

/-! # Reading back what was written

Writing a file puts one node into the tree, at the path its last component (or the link
there) leads to. Everything a later lookup walks through is a directory, so that write
leaves every walk, search and location as it was (`find?_put`, `walk_put`,
`locate_put`), and the same path then leads to the new file: a path that does not
resolve to a device reads back the bytes just written (`read_write`).
-/

namespace GrammarLoader.Files.FileTree

variable {t : FileTree} {p q : List String} {n : Node}

theorem find?_put (hp : p ≠ []) (q : List String) :
    (t.put p n).find? q = if q = p then some n else t.find? q := by
  by_cases hq : q = []
  · simp [find?, hq, hp.symm]
  unfold put
  split
  · next hany =>
    -- replacing the node at `p` keeps which entry each path finds first
    have hkey : ∀ e : List String × Node,
        ((if e.1 == p then (p, n) else e).1 == q) = (e.1 == q) := by
      intro e
      by_cases he : e.1 = p <;> by_cases hqp : q = p <;> simp_all
    simp only [find?, hq, if_false, List.find?_map, Function.comp_def, hkey]
    cases hf : t.entries.find? (·.1 == q) with
    | none =>
      have hne : q ≠ p := by
        rintro rfl
        obtain ⟨e, he, hep⟩ := List.any_eq_true.mp hany
        exact (List.find?_eq_none.mp hf) e he hep
      simp [hne]
    | some e =>
      have heq : e.1 = q := by simpa using List.find?_some hf
      by_cases hqp : q = p
      · simp [heq, hqp]
      · simp [heq, hqp]
  · next hany =>
    simp only [find?, hq, if_false, List.find?_append]
    by_cases hqp : q = p
    · subst hqp
      have hnone : t.entries.find? (·.1 == q) = none := by
        apply List.find?_eq_none.mpr
        intro e he heq
        exact hany (List.any_eq_true.mpr ⟨e, he, heq⟩)
      simp [hnone]
    · simp [hqp, Ne.symm hqp]

/-- What writing a file may replace: nothing, or a file. -/
def FileOrNone : Option Node → Prop
  | none => True
  | some (.file _ _) => True
  | some _ => False

theorem search_put (hp : p ≠ []) (hslot : FileOrNone (t.find? p)) (bs : Bytes) (a : FileAccess)
    (d : List String) : (t.put p (.file bs a)).search d = t.search d := by
  unfold search dirNode
  rw [find?_put hp]
  by_cases hd : d = p
  · subst hd
    -- the written path held nothing or a file: neither is a directory closed to the user
    cases h : t.find? d with
    | none => simp [rootNode, DirAccess.searchable]
    | some m =>
      rw [h] at hslot
      cases m <;> simp_all [FileOrNone]
  · simp [hd]

theorem follow_put {x : List String} {m : Node} {y : List String} {a : DirAccess}
    (hp : p ≠ []) (hslot : FileOrNone (t.find? p)) (h : t.follow x m = (y, some (.directory a)))
    (N : Node) : (t.put p N).follow x m = (y, some (.directory a)) := by
  cases m with
  | link q =>
    simp only [follow, Prod.mk.injEq] at h ⊢
    obtain ⟨rfl, hq⟩ := h
    have hne : q ≠ p := by
      rintro rfl
      simp [hq, FileOrNone] at hslot
    simp [find?_put hp, hne, hq]
  | _ => exact h

theorem walk_put (hp : p ≠ []) (hslot : FileOrNone (t.find? p)) (bs : Bytes) (a : FileAccess) :
    ∀ {cur d : List String} {cs : List String}, t.walk cur cs = .ok d →
      (t.put p (.file bs a)).walk cur cs = .ok d := by
  intro cur d cs h
  induction cs generalizing cur with
  | nil => exact h
  | cons c rest ih =>
    simp only [walk, search_put hp hslot] at h ⊢
    cases hs : t.search cur with
    | error e =>
      rw [hs] at h
      exact nomatch h
    | ok u =>
      rw [hs] at h
      dsimp only [bind, Except.bind] at h ⊢
      split_ifs at h ⊢ with hdot hup hlong
      · exact ih h
      · exact ih h
      cases hf : t.find? (cur ++ [c]) with
      | none =>
        rw [hf] at h
        exact nomatch h
      | some m =>
        rw [hf] at h
        dsimp only at h
        -- the path walked through is a directory or a link to one, so it is not the file's
        have hne : cur ++ [c] ≠ p := by
          rintro rfl
          rw [hf] at hslot
          cases m <;> simp_all [FileOrNone, follow]
        rw [find?_put hp, if_neg hne, hf]
        dsimp only
        split at h
        · next y acc hfo =>
          rw [follow_put hp hslot hfo]
          exact ih h
        · exact nomatch h
        · exact nomatch h

theorem work_put : (t.put p n).work = t.work := by
  unfold put
  split <;> rfl

theorem locate_eq_ok {path : String} {dir : List String} {pp : Parsed} :
    t.locate path = .ok (dir, pp) ↔
      checkText path = .ok () ∧
        t.walk (t.start (parse path)) (parse path).components.dropLast = .ok dir ∧
        t.search dir = .ok () ∧ pp = parse path := by
  unfold locate
  cases hc : checkText path with
  | error e => simp [bind, Except.bind]
  | ok u =>
    cases hw : t.walk (t.start (parse path)) (parse path).components.dropLast with
    | error e => simp [hw, bind, Except.bind]
    | ok d =>
      cases hs : t.search d with
      | error e =>
        simp only [hw, hs, bind, Except.bind, reduceCtorEq, false_iff, not_and, Except.ok.injEq]
        rintro - rfl
        simp [hs]
      | ok v =>
        simp only [hw, hs, bind, Except.bind, pure, Except.pure, Except.ok.injEq, Prod.mk.injEq]
        constructor
        · rintro ⟨rfl, rfl⟩
          exact ⟨trivial, rfl, hs, rfl⟩
        · rintro ⟨-, rfl, -, rfl⟩
          exact ⟨rfl, rfl⟩

theorem locate_put (hp : p ≠ []) (hslot : FileOrNone (t.find? p)) (bs : Bytes) (a : FileAccess)
    {path : String} {dir : List String} {pp : Parsed} (h : t.locate path = .ok (dir, pp)) :
    (t.put p (.file bs a)).locate path = .ok (dir, pp) := by
  obtain ⟨hc, hw, hs, hpp⟩ := locate_eq_ok.mp h
  have hstart : (t.put p (.file bs a)).start (parse path) = t.start (parse path) := by
    simp only [start, work_put]
  refine locate_eq_ok.mpr ⟨hc, ?_, ?_, hpp⟩
  · rw [hstart]
    exact walk_put hp hslot bs a hw
  · rw [search_put hp hslot]
    exact hs

theorem resolve_of_lookup {path : String} {dir : List String} {pp : Parsed} {target : Target}
    (hloc : t.locate path = .ok (dir, pp)) (hlk : t.lookup dir pp.components.getLast? = .ok target) :
    t.resolve path = .ok (Target.follow t target) := by
  unfold resolve
  rw [hloc]
  dsimp only [bind, Except.bind]
  rw [hlk]
  rfl

theorem find?_nil (t : FileTree) : t.find? [] = some rootNode := if_pos rfl

theorem dirNode_put (hp : p ≠ []) (y : List String) :
    (t.put p n).dirNode y = if y = p then n else t.dirNode y := by
  unfold dirNode
  rw [find?_put hp]
  split <;> rfl

/-- Following a target ends at `q` on nothing or on a file. -/
def EndsOnFile (t : FileTree) (target : Target) (q : List String) : Prop :=
  Target.follow t target = .absent q ∨ ∃ bs a, Target.follow t target = .node q (.file bs a)

theorem dirNode_eq_file {x : List String} {bs : Bytes} {a : FileAccess}
    (h : t.dirNode x = .file bs a) : t.find? x = some (.file bs a) := by
  unfold dirNode at h
  cases hx : t.find? x with
  | none => simp [hx, rootNode] at h
  | some m => simpa [hx] using h

/-- A node found through the tree's own index that leads to `q` on nothing or a file leads
there to the written file once the file is written at `q`. -/
theorem follow_dirNode_put {x q : List String} (h : EndsOnFile t (.node x (t.dirNode x)) q)
    (bs : Bytes) (a : FileAccess) :
    q ≠ [] ∧ FileOrNone (t.find? q) ∧
      Target.follow (t.put q (.file bs a)) (.node x ((t.put q (.file bs a)).dirNode x)) =
        .node q (.file bs a) := by
  unfold EndsOnFile at h
  cases hm : t.dirNode x with
  | link r =>
    rw [hm] at h
    -- the node is a link: it leads to `r`, which holds nothing or a file
    have hr : q = r ∧ FileOrNone (t.find? r) := by
      cases hf : t.find? r with
      | none => simpa [Target.follow, follow, hf, FileOrNone, eq_comm] using h
      | some m =>
        simp only [Target.follow, follow, hf, reduceCtorEq, Target.node.injEq, false_or] at h
        obtain ⟨bs0, a0, rfl, rfl⟩ := h
        exact ⟨rfl, trivial⟩
    obtain ⟨rfl, hslot⟩ := hr
    have hq : q ≠ [] := by
      rintro rfl
      simp [find?_nil, rootNode, FileOrNone] at hslot
    have hxq : x ≠ q := by
      rintro rfl
      cases hf : t.find? x with
      | none => simp [dirNode, hf, rootNode] at hm
      | some m =>
        rw [hf] at hslot
        cases m <;> simp_all [dirNode, FileOrNone]
    refine ⟨hq, hslot, ?_⟩
    simp [Target.follow, follow, dirNode_put hq, hxq, hm, find?_put hq]
  | file bs0 a0 =>
    simp only [hm, Target.follow, follow, reduceCtorEq, Target.node.injEq, false_or] at h
    obtain ⟨_, _, rfl, -⟩ := h
    have hf := dirNode_eq_file hm
    have hq : x ≠ [] := by
      rintro rfl
      simp [find?_nil, rootNode] at hf
    refine ⟨hq, by simp [hf, FileOrNone], ?_⟩
    simp [Target.follow, follow, dirNode_put hq]
  | directory acc => simp [hm, Target.follow, follow] at h
  | device d => simp [hm, Target.follow, follow] at h

theorem lookup_put {dir : List String} {last : Option String} {target : Target}
    {q : List String} (h : t.lookup dir last = .ok target) (hend : EndsOnFile t target q)
    (bs : Bytes) (a : FileAccess) :
    q ≠ [] ∧ FileOrNone (t.find? q) ∧ ∃ target', (t.put q (.file bs a)).lookup dir last = .ok target' ∧
      Target.follow (t.put q (.file bs a)) target' = .node q (.file bs a) := by
  unfold lookup at h ⊢
  split at h
  case h_4 c hdot hup =>
    split_ifs at h ⊢ with hlong
    dsimp only at h ⊢
    cases hf : t.find? (dir ++ [c]) with
    | none =>
      rw [hf] at h
      cases h
      -- a name not there yet: the file is made at it
      have hq : q = dir ++ [c] := by
        simpa [EndsOnFile, Target.follow, eq_comm] using hend
      subst hq
      have hne : dir ++ [c] ≠ [] := by simp
      refine ⟨hne, by simp [hf, FileOrNone], .node (dir ++ [c]) (.file bs a), ?_, rfl⟩
      simp only [find?_put hne, if_true]
    | some m =>
      rw [hf] at h
      cases h
      have hm : t.dirNode (dir ++ [c]) = m := by simp [dirNode, hf]
      rw [← hm] at hend
      obtain ⟨hq, hslot, hfol⟩ := follow_dirNode_put hend bs a
      refine ⟨hq, hslot, _, ?_, hfol⟩
      have hfound : (t.put q (.file bs a)).find? (dir ++ [c]) =
          some ((t.put q (.file bs a)).dirNode (dir ++ [c])) := by
        rw [dirNode_put hq, find?_put hq]
        split <;> simp [hf, hm]
      simp only [hfound]
  -- none and `.` name the directory itself, `..` its parent: a node from the index
  all_goals
    cases h
    obtain ⟨hq, hslot, hfol⟩ := follow_dirNode_put hend bs a
    exact ⟨hq, hslot, _, rfl, hfol⟩

theorem read_put {path : String} {dir q : List String} {pp : Parsed} {target : Target}
    (hloc : t.locate path = .ok (dir, pp)) (hslash : pp.trailingSlash = false)
    (hlk : t.lookup dir pp.components.getLast? = .ok target) (hend : EndsOnFile t target q)
    (bs : Bytes) : (t.put q (.file bs .readWrite)).read path = .contents bs := by
  obtain ⟨-, -, -, hpp⟩ := locate_eq_ok.mp hloc
  obtain ⟨hq, hslot, target', hlk', hfol⟩ := lookup_put hlk hend bs .readWrite
  have hres := resolve_of_lookup (locate_put hq hslot bs .readWrite hloc) hlk'
  unfold read
  rw [hres, hfol]
  dsimp only
  rw [← hpp, hslash]
  rfl

theorem read_write {path : String} {bs : Bytes} {t' : FileTree} (h : t.write path bs = .ok t')
    (hdev : ∀ q d, t.resolve path ≠ .ok (.node q (.device d))) : t'.read path = .contents bs := by
  unfold write at h
  cases hloc : t.locate path with
  | error e =>
    rw [hloc] at h
    exact nomatch h
  | ok r =>
    obtain ⟨dir, pp⟩ := r
    rw [hloc] at h
    dsimp only at h
    split_ifs at h with hslash
    cases hlk : t.lookup dir pp.components.getLast? with
    | error e =>
      rw [hlk] at h
      exact nomatch h
    | ok target =>
      rw [hlk] at h
      dsimp only at h
      have hres := resolve_of_lookup hloc hlk
      have hslash' : pp.trailingSlash = false := by simpa using hslash
      split at h
      · next q hfol =>
        -- a new file, in a directory that takes it
        split at h
        · split at h
          · cases h
            exact read_put hloc hslash' hlk (.inl hfol) bs
          · exact nomatch h
        · exact nomatch h
      · exact nomatch h
      · next q x hfol =>
        cases h
        exact read_put hloc hslash' hlk (.inr ⟨x, _, hfol⟩) bs
      · exact nomatch h
      · next q d hfol =>
        exact absurd (hres.trans (congrArg _ hfol)) (hdev q d)
      · exact nomatch h

end GrammarLoader.Files.FileTree
