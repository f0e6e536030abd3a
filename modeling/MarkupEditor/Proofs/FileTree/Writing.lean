import Mathlib.Data.List.Basic
import MarkupEditor.FileTree

/-!
# Written files

What is put at a place is found there, and every other place holds what it held. A file is written
only where no directory is, so the steps through directories that led to a place before still lead to
it, and reading a path just written gives back the content. A text is written as its UTF-8 bytes and
read back as the same text.
-/

namespace MarkupEditor

section Except

variable {ε α β : Type}

theorem bind_eq_ok_iff {action : Except ε α} {rest : α → Except ε β} {result : β} :
    action >>= rest = .ok result ↔ ∃ value, action = .ok value ∧ rest value = .ok result := by
  cases action with
  | error error => simp [bind, Except.bind]
  | ok value => simp [bind, Except.bind]

theorem throw_ne_ok (error : ε) (value : α) : (throw error : Except ε α) ≠ .ok value :=
  nofun

theorem mapError_eq_ok_iff {action : Except ε α} {change : ε → β} {value : α} :
    action.mapError change = .ok value ↔ action = .ok value := by
  cases action with
  | error error => simp [Except.mapError]
  | ok value => simp [Except.mapError]

end Except

namespace FileTree

variable {tree next : FileTree} {place other parent origin : Location} {entry : Entry}
  {names : List Text} {path name : Text} {content : ByteArray}

theorem lookup_filter_ne (entries : List (Location × Entry)) :
    (entries.filter fun (other, _) => other != place).lookup other =
      if other = place then none else entries.lookup other := by
  induction entries with
  | nil => simp
  | cons first entries ih =>
      obtain ⟨here, held⟩ := first
      by_cases hhere : here = place
      · subst hhere
        rw [List.filter_cons_of_neg (by simp), ih, List.lookup_cons]
        by_cases hother : other = here
        · simp [hother]
        · have hne : (other == here) = false := by simpa using hother
          simp [hother, hne]
      · rw [List.filter_cons_of_pos (by simpa using hhere), List.lookup_cons, List.lookup_cons, ih]
        by_cases hother : other = here
        · subst hother
          simp [hhere]
        · have hne : (other == here) = false := by simpa using hother
          simp [hne]

theorem entry?_put (hplace : place ≠ []) :
    entry? (tree.put place entry) other =
      if other = place then some entry else tree.entry? other := by
  by_cases hroot : other = []
  · subst hroot
    simp [hplace.symm, entry?]
  · unfold entry?
    rw [if_neg hroot, if_neg hroot, put, List.lookup_append, lookup_filter_ne]
    by_cases hother : other = place
    · simp [hother]
    · have hne : (other == place) = false := by simpa using hother
      simp [hother, List.lookup_cons, hne]

/-! ### Steps through directories -/

theorem enter_eq_ok_iff : tree.enter place = .ok () ↔ tree.entry? place = some .directory := by
  unfold enter
  cases tree.entry? place with
  | none => simp
  | some entry => cases entry <;> simp

theorem step_eq_ok_iff :
    tree.step place name = .ok other ↔ tree.entry? place = some .directory ∧
      (if Path.isIdle name then place else if name = Path.up then place.dropLast
        else place ++ [name]) = other := by
  rw [← enter_eq_ok_iff, step]
  cases tree.enter place with
  | error error => simp [bind, Except.bind]
  | ok success => simp [bind, Except.bind, pure, Except.pure]

/-- The steps are taken in directories, and each directory of the first tree is one of the second. -/
theorem walk_of_directories (hkept : ∀ place, tree.entry? place = some .directory →
    next.entry? place = some .directory) (hwalk : tree.walk origin names = .ok place) :
    next.walk origin names = .ok place := by
  induction names generalizing origin with
  | nil => exact hwalk
  | cons name names ih =>
      rw [walk, List.foldlM_cons] at hwalk ⊢
      cases hstep : tree.step origin name with
      | error error => simp [hstep, bind, Except.bind] at hwalk
      | ok middle =>
          obtain ⟨hdirectory, hmiddle⟩ := step_eq_ok_iff.mp hstep
          have hnext : next.step origin name = .ok middle :=
            step_eq_ok_iff.mpr ⟨hkept origin hdirectory, hmiddle⟩
          rw [hstep] at hwalk
          rw [hnext]
          exact ih hwalk

/-! ### Reading what was written -/

/-- The path leads to a name in a directory, and a file may be put there. -/
structure Target (tree : FileTree) (path : Text) (parent : Location) (name : Text) : Prop where
  check : checkPath path = .ok ()
  steps : ∃ above, Path.steps path = above ++ [name] ∧
    tree.walk (tree.origin path) above = .ok parent
  isIdle : Path.isIdle name = false
  ne_up : name ≠ Path.up
  directory : tree.entry? parent = some .directory
  free : tree.entry? (parent ++ [name]) ≠ some .directory

theorem exists_target_of_write (hwrite : tree.write path content = .ok next) :
    ∃ parent name, tree.Target path parent name ∧
      next = tree.put (parent ++ [name]) (.file content) := by
  obtain ⟨above, name, hsteps⟩ : ∃ above name, Path.steps path = above ++ [name] :=
    (List.eq_nil_or_concat' _).resolve_left (List.splitOn_ne_nil '/' path)
  rw [write, bind_eq_ok_iff] at hwrite
  obtain ⟨success, hpath, hwrite⟩ := hwrite
  simp only [hsteps, List.reverse_append, List.reverse_singleton, List.singleton_append,
    List.head?_cons, Option.some.injEq, bind_eq_ok_iff] at hwrite
  obtain ⟨parent, hwalk, success, henter, hwrite⟩ := hwrite
  cases name with
  | nil =>
      -- the last step of a path that ends in a slash is empty
      split at hwrite
      · simp [throw_ne_ok] at hwrite
      · simp [throw_ne_ok, bind_eq_ok_iff] at hwrite
  | cons c rest =>
      have hnames : (((c :: rest) :: above.reverse).dropWhile List.isEmpty).reverse =
          above ++ [c :: rest] := by
        simp
      rw [hnames, List.dropLast_concat] at hwalk
      rw [hnames, List.getLast?_concat] at hwrite
      dsimp only at hwrite
      by_cases hstep : c :: rest = [] ∨ Path.isIdle (c :: rest) = true ∨ c :: rest = Path.up
      · rw [if_pos hstep, bind_eq_ok_iff] at hwrite
        simp [throw_ne_ok] at hwrite
      · rw [if_neg hstep] at hwrite
        by_cases hfree : tree.entry? (parent ++ [c :: rest]) = some .directory
        · rw [if_pos hfree, bind_eq_ok_iff] at hwrite
          simp [throw_ne_ok] at hwrite
        · rw [if_neg hfree] at hwrite
          simp only [not_or, Bool.not_eq_true] at hstep
          have htarget : tree.Target path parent (c :: rest) :=
            { check := hpath
              steps := ⟨above, hsteps, hwalk⟩
              isIdle := hstep.2.1
              ne_up := hstep.2.2
              directory := enter_eq_ok_iff.mp henter
              free := hfree }
          exact ⟨parent, c :: rest, htarget, (Except.ok.inj hwrite).symm⟩

/-- No directory stands where a file is put, so each directory is one afterwards. -/
theorem Target.directory_put (htarget : tree.Target path parent name)
    (hother : tree.entry? other = some .directory) :
    entry? (tree.put (parent ++ [name]) entry) other = some .directory := by
  have hne : other ≠ parent ++ [name] := by
    rintro rfl
    exact htarget.free hother
  rw [entry?_put (by simp), if_neg hne, hother]

/-- The last step leads from the directory to the name. -/
theorem Target.walk_of_walk (htarget : tree.Target path parent name) {above : List Text}
    (hsteps : Path.steps path = above ++ [name]) (hwalk : next.walk origin above = .ok parent)
    (hdirectory : next.entry? parent = some .directory) :
    next.walk origin (Path.steps path) = .ok (parent ++ [name]) := by
  have hstep : next.step parent name = .ok (parent ++ [name]) := by
    rw [step_eq_ok_iff, htarget.isIdle, if_neg Bool.false_ne_true, if_neg htarget.ne_up]
    exact ⟨hdirectory, rfl⟩
  rw [hsteps, walk, List.foldlM_append, bind_eq_ok_iff]
  exact ⟨parent, hwalk, by simpa using hstep⟩

theorem Target.walk_steps (htarget : tree.Target path parent name) :
    tree.walk (tree.origin path) (Path.steps path) = .ok (parent ++ [name]) := by
  obtain ⟨above, hsteps, hwalk⟩ := htarget.steps
  exact htarget.walk_of_walk hsteps hwalk htarget.directory

theorem Target.walk_put (htarget : tree.Target path parent name) :
    (tree.put (parent ++ [name]) entry).walk (tree.origin path) (Path.steps path) =
      .ok (parent ++ [name]) := by
  obtain ⟨above, hsteps, hwalk⟩ := htarget.steps
  have hwalkPut : (tree.put (parent ++ [name]) entry).walk (tree.origin path) above = .ok parent :=
    walk_of_directories (fun _ => htarget.directory_put) hwalk
  exact htarget.walk_of_walk hsteps hwalkPut (htarget.directory_put htarget.directory)

theorem read_eq_ok_iff : tree.read path = .ok content ↔ tree.find path = .ok (.file content) := by
  rw [read, bind_eq_ok_iff]
  constructor
  · rintro ⟨entry, hfind, hentry⟩
    cases entry with
    | directory => exact absurd hentry (throw_ne_ok _ _)
    | file held =>
        obtain rfl := Except.ok.inj hentry
        exact hfind
  · intro hfind
    exact ⟨_, hfind, rfl⟩

theorem find_eq_ok_iff :
    tree.find path = .ok entry ↔ checkPath path = .ok () ∧
      ∃ place, tree.walk (tree.origin path) (Path.steps path) = .ok place ∧
        tree.entry? place = some entry := by
  simp only [find, bind_eq_ok_iff]
  refine Unique.exists_iff.trans (and_congr_right fun _ => exists_congr fun place =>
    and_congr_right fun _ => ?_)
  cases tree.entry? place with
  | none => simp [throw_ne_ok]
  | some found => simp [pure, Except.pure]

theorem read_of_write (hwrite : tree.write path content = .ok next) :
    next.read path = .ok content := by
  obtain ⟨parent, name, htarget, rfl⟩ := exists_target_of_write hwrite
  have hentry : entry? (tree.put (parent ++ [name]) (.file content)) (parent ++ [name]) =
      some (.file content) := by
    rw [entry?_put (by simp), if_pos rfl]
  exact read_eq_ok_iff.mpr (find_eq_ok_iff.mpr ⟨htarget.check, _, htarget.walk_put, hentry⟩)

/-! ### What a write leaves as it is -/

/-- Of two trees, the second is the first with this content in the file that the path leads to. Every
other place holds what it held. -/
structure Overwrites (before after : FileTree) (path : Text) (content : ByteArray) : Prop where
  file : ∃ place old, before.walk (before.origin path) (Path.steps path) = .ok place ∧
    before.entry? place = some (.file old) ∧ after.entry? place = some (.file content) ∧
      ∀ other, other ≠ place → after.entry? other = before.entry? other
  workingDirectory_eq : after.workingDirectory = before.workingDirectory

/-- Writing to a file that can be read overwrites that file and nothing else. -/
theorem overwrites_of_write {old : ByteArray} (hread : tree.read path = .ok old)
    (hwrite : tree.write path content = .ok next) : Overwrites tree next path content := by
  obtain ⟨parent, name, htarget, rfl⟩ := exists_target_of_write hwrite
  have hwalk := htarget.walk_steps
  obtain ⟨-, place, hplace, hold⟩ := find_eq_ok_iff.mp (read_eq_ok_iff.mp hread)
  obtain rfl : parent ++ [name] = place := Except.ok.inj (hwalk.symm.trans hplace)
  constructor
  case file =>
    refine ⟨_, old, hwalk, hold, ?_, fun other hother => ?_⟩
    · rw [entry?_put (by simp), if_pos rfl]
    · rw [entry?_put (by simp), if_neg hother]
  case workingDirectory_eq => rfl

/-! ### Texts in files -/

section Texts

variable {text : Text}

def readText (tree : FileTree) (path : Text) : Except SystemError Text :=
  match tree.read path with
  | .error error => .error error
  | .ok content =>
    match String.fromUTF8? content with
    | some text => .ok text.toList
    | none => .error .invalidUtf8

theorem fromUTF8?_eq_some_iff {decoded : String} :
    String.fromUTF8? content = some decoded ↔ content = decoded.toUTF8 := by
  unfold String.fromUTF8?
  constructor
  · intro hdecoded
    split at hdecoded
    · obtain rfl := Option.some.inj hdecoded
      rfl
    · contradiction
  · rintro rfl
    exact dif_pos decoded.isValidUTF8

theorem readText_eq_ok_iff :
    tree.readText path = .ok text ↔ tree.read path = .ok (String.ofList text).toUTF8 := by
  unfold readText
  cases tree.read path with
  | error error => simp
  | ok content =>
      rw [Except.ok.injEq, ← fromUTF8?_eq_some_iff]
      cases hdecoded : String.fromUTF8? content with
      | none => simp [hdecoded]
      | some decoded =>
          simp only [hdecoded, Except.ok.injEq, Option.some.injEq]
          constructor
          · rintro rfl
            exact String.ofList_toList.symm
          · rintro rfl
            exact String.toList_ofList

theorem readText_of_write (hwrite : tree.write path (String.ofList text).toUTF8 = .ok next) :
    next.readText path = .ok text :=
  readText_eq_ok_iff.mpr (read_of_write hwrite)

end Texts

end FileTree

end MarkupEditor
