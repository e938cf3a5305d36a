import SeedScript.Files

/-!
# Reading what has been written

A file that is written can be read under the path it was written to, and every other file is as it
was; only folders are added (`Files.of_write?`). Walking along a path asks for folders alone, so
stores that differ in what one file holds are walked alike, and written alike
(`Files.DifferAt.write?`).
-/

namespace SeedScript.Files

variable {fs gs : Files} {p q place : Path} {path : String} {content : Content}

/-! ## Folders -/

/-- All folders on the way to a place are there. -/
def Reaches (fs : Files) (place : Path) : Prop := ∀ p, p <+: place → fs.isFolder p = true

theorem Reaches.isFolder (h : fs.Reaches place) : fs.isFolder place = true :=
  h place List.prefix_rfl

theorem Reaches.dropLast (h : fs.Reaches place) : fs.Reaches place.dropLast := fun p hp =>
  h p (hp.trans (List.dropLast_prefix place))

theorem isFolder_addFolder_iff :
    (fs.addFolder p).isFolder q = true ↔ q = p ∨ fs.isFolder q = true := by
  unfold addFolder
  split
  · rename_i hp
    constructor
    · exact .inr
    · rintro (rfl | hq)
      · exact hp
      · exact hq
  · simp only [isFolder, Bool.or_eq_true, List.contains_iff_mem, List.mem_append,
      List.mem_singleton]
    rw [← or_assoc, or_comm]

theorem Reaches.addFolder (h : fs.Reaches place) (name : String) :
    (fs.addFolder (place ++ [name])).Reaches (place ++ [name]) := by
  intro p hp
  rw [isFolder_addFolder_iff]
  rcases List.prefix_concat_iff.1 hp with rfl | hp
  · exact .inl rfl
  · exact .inr (h p hp)

@[simp] theorem files_addFolder (fs : Files) (p : Path) : (fs.addFolder p).files = fs.files := by
  unfold addFolder
  split <;> rfl

@[simp] theorem file?_addFolder (fs : Files) (p q : Path) :
    (fs.addFolder p).file? q = fs.file? q := by
  rw [file?, file?, files_addFolder]

/-! ## Walking -/

theorem walk_setFile (fs : Files) (p : Path) (content : Content) (place : Path)
    (names : List String) : (fs.setFile p content).walk place names = fs.walk place names := by
  have hfolder (q : Path) : (fs.setFile p content).isFolder q = fs.isFolder q := rfl
  induction names generalizing place with
  | nil => rfl
  | cons name names ih => simp only [walk, hfolder, ih]

/-- A file that is replaced is read under every path that leads to it. -/
theorem read?_setFile (hrelative : isRelative path = true)
    (hwalk : fs.walk [] (names path) = some p) (content : Content) :
    (fs.setFile p content).read? path = some content := by
  rw [read?, if_pos hrelative, walk_setFile, hwalk, Option.bind_some, file?_setFile, if_pos rfl]

theorem read?_setFile_of_ne (hwalk : fs.walk [] (names path) ≠ some p) (content : Content) :
    (fs.setFile p content).read? path = fs.read? path := by
  unfold read?
  rw [walk_setFile]
  cases hplace : fs.walk [] (names path) with
  | none => rfl
  | some place =>
    have hne : place ≠ p := fun h => hwalk (h ▸ hplace)
    rw [Option.bind_some, Option.bind_some, file?_setFile, if_neg hne]

/-- What is read lies where the path leads. -/
theorem of_read? (h : fs.read? path = some content) :
    isRelative path = true ∧ ∃ p, fs.walk [] (names path) = some p ∧ fs.file? p = some content := by
  unfold read? at h
  split at h
  · rename_i hrelative
    obtain ⟨p, hwalk, hfile⟩ := Option.bind_eq_some_iff.1 h
    exact ⟨hrelative, p, hwalk, hfile⟩
  · cases h

/-! ## Writing -/

theorem write?_eq_some_iff {after : Files} :
    fs.write? path content = some after ↔
      ∃ name, (names path).getLast? = some name ∧ isRelative path = true ∧ stays name = false ∧
        name ≠ ".." ∧ ∃ gs place, fs.walkAdding [] (names path).dropLast = some (gs, place) ∧
          gs.isFolder (place ++ [name]) = false ∧ after = gs.setFile (place ++ [name]) content := by
  unfold write?
  cases hlast : (names path).getLast? with
  | none =>
    refine iff_of_false (fun h => ?_) fun ⟨name, hname, _⟩ => ?_
    · cases h
    · cases hname
  | some name =>
    rw [Option.bind_eq_bind, Option.bind_some]
    by_cases hbad : (!isRelative path || stays name || name = "..") = true
    · rw [if_pos hbad]
      refine iff_of_false (fun h => ?_) ?_
      · cases h
      · rintro ⟨name', hname, hrelative, hstays, hup, -⟩
        cases hname
        simp [hrelative, hstays, hup] at hbad
    · rw [if_neg hbad]
      simp only [Bool.or_eq_true, Bool.not_eq_true', decide_eq_true_eq, not_or,
        Bool.not_eq_false, Bool.not_eq_true] at hbad
      obtain ⟨⟨hrelative, hstays⟩, hup⟩ := hbad
      constructor
      · intro h
        obtain ⟨⟨gs, place⟩, hwalk, h⟩ := Option.bind_eq_some_iff.1 h
        refine ⟨name, rfl, hrelative, hstays, hup, gs, place, hwalk, ?_⟩
        dsimp only at h
        cases hfolder : gs.isFolder (place ++ [name]) with
        | true =>
          rw [if_pos hfolder] at h
          cases h
        | false =>
          rw [if_neg (Bool.eq_false_iff.1 hfolder)] at h
          exact ⟨rfl, (Option.some.inj h).symm⟩
      · rintro ⟨name', hname, -, -, -, gs, place, hwalk, hfolder, rfl⟩
        cases hname
        refine Option.bind_eq_some_iff.2 ⟨(gs, place), hwalk, ?_⟩
        exact if_neg (Bool.eq_false_iff.1 hfolder)

/-- The stores have the same folders and the same files, but the file at `p` need not hold the
same. -/
structure DifferAt (p : Path) (fs gs : Files) : Prop where
  folders_eq : fs.folders = gs.folders
  isSome_file? : ∀ q, (fs.file? q).isSome = (gs.file? q).isSome
  file?_eq : ∀ q, q ≠ p → fs.file? q = gs.file? q

theorem differAt_setFile (h : (fs.file? p).isSome) (content : Content) :
    DifferAt p fs (fs.setFile p content) where
  folders_eq := rfl
  isSome_file? q := by
    rw [file?_setFile]
    split
    · rename_i hq
      rw [hq, h]
      rfl
    · rfl
  file?_eq q hq := by rw [file?_setFile, if_neg hq]

namespace DifferAt

theorem symm (h : DifferAt p fs gs) : DifferAt p gs fs :=
  ⟨h.folders_eq.symm, fun q => (h.isSome_file? q).symm, fun q hq => (h.file?_eq q hq).symm⟩

theorem isFolder_eq (h : DifferAt p fs gs) (q : Path) : fs.isFolder q = gs.isFolder q := by
  rw [isFolder, isFolder, h.folders_eq]

theorem addFolder (h : DifferAt p fs gs) (q : Path) :
    DifferAt p (fs.addFolder q) (gs.addFolder q) where
  folders_eq := by
    unfold Files.addFolder
    rw [h.isFolder_eq]
    split
    · exact h.folders_eq
    · exact congrArg (· ++ [q]) h.folders_eq
  isSome_file? r := by
    rw [file?_addFolder, file?_addFolder]
    exact h.isSome_file? r
  file?_eq r hr := by
    rw [file?_addFolder, file?_addFolder]
    exact h.file?_eq r hr

theorem setFile (h : DifferAt p fs gs) (q : Path) (content : Content) :
    DifferAt p (fs.setFile q content) (gs.setFile q content) where
  folders_eq := h.folders_eq
  isSome_file? r := by
    rw [file?_setFile, file?_setFile]
    split
    · rfl
    · exact h.isSome_file? r
  file?_eq r hr := by
    rw [file?_setFile, file?_setFile]
    split
    · rfl
    · exact h.file?_eq r hr

theorem walkAdding {names : List String} {after : Files} (h : DifferAt p fs gs)
    (hwalk : fs.walkAdding place names = some (after, q)) :
    ∃ after', gs.walkAdding place names = some (after', q) ∧ DifferAt p after after' := by
  induction names generalizing fs gs place with
  | nil =>
    cases hwalk
    exact ⟨gs, rfl, h⟩
  | cons name names ih =>
    rw [Files.walkAdding] at hwalk ⊢
    rw [← h.isSome_file?]
    by_cases hstays : stays name = true
    · rw [if_pos hstays] at hwalk ⊢
      exact ih h hwalk
    · rw [if_neg hstays] at hwalk ⊢
      by_cases hup : name = ".."
      · rw [if_pos hup] at hwalk ⊢
        by_cases hroot : place.isEmpty = true
        · rw [if_pos hroot] at hwalk
          cases hwalk
        · rw [if_neg hroot] at hwalk ⊢
          exact ih h hwalk
      · rw [if_neg hup] at hwalk ⊢
        by_cases hfile : (fs.file? (place ++ [name])).isSome = true
        · rw [if_pos hfile] at hwalk
          cases hwalk
        · rw [if_neg hfile] at hwalk ⊢
          exact ih (h.addFolder _) hwalk

theorem write? {after : Files} (h : DifferAt p fs gs)
    (hwrite : fs.write? path content = some after) :
    ∃ after', gs.write? path content = some after' ∧ DifferAt p after after' := by
  obtain ⟨name, hlast, hrelative, hstays, hup, hs, place, hwalk, hfolder, rfl⟩ :=
    write?_eq_some_iff.1 hwrite
  obtain ⟨hs', hwalk', hdiffer⟩ := h.walkAdding hwalk
  refine ⟨_, write?_eq_some_iff.2
    ⟨name, hlast, hrelative, hstays, hup, hs', place, hwalk', ?_, rfl⟩, hdiffer.setFile _ content⟩
  rw [← hdiffer.isFolder_eq, hfolder]

theorem write?_eq_none (h : DifferAt p fs gs) (hwrite : fs.write? path content = none) :
    gs.write? path content = none := by
  cases hgs : gs.write? path content with
  | none => rfl
  | some after =>
    obtain ⟨after', hfs, -⟩ := h.symm.write? hgs
    rw [hwrite] at hfs
    cases hfs

end DifferAt

end SeedScript.Files
