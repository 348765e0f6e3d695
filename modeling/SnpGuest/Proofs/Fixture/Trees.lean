import SnpGuest.Fixture.FileTree

namespace SnpGuest

/-!
# Files of one directory

What a tree answers about the path of a name inside a directory.  The directory decides where the
walk goes, and the name is looked up there (`FileTree.approach_join`), so all files of a directory
stand side by side.  Putting a file where no directory stands leaves every walk as it was; so files
can be put one after the other, and each is read back in the end.
-/

namespace Path

/-! ## Names behind a slash -/

theorem splitSlash_ne_nil (text : List Char) : splitSlash text ≠ [] := by
  cases text with
  | nil => simp [splitSlash]
  | cons c rest =>
      rw [splitSlash]
      split
      · simp
      · split <;> simp

theorem splitSlash_append_slash (front rest : List Char) :
    splitSlash (front ++ '/' :: rest) = splitSlash front ++ splitSlash rest := by
  induction front with
  | nil => simp [splitSlash]
  | cons c front ih =>
      rw [List.cons_append, splitSlash, ih]
      by_cases hSlash : c = '/'
      · simp [splitSlash, hSlash]
      · -- The first piece of the front takes the character, as it does alone.
        obtain ⟨piece, pieces, hFront⟩ := List.exists_cons_of_ne_nil (splitSlash_ne_nil front)
        simp [splitSlash, hSlash, hFront]

theorem splitSlash_of_not_mem {name : List Char} (hSlash : '/' ∉ name) :
    splitSlash name = [name] := by
  induction name with
  | nil => rfl
  | cons c name ih =>
      rw [List.mem_cons, not_or] at hSlash
      rw [splitSlash, if_neg (Ne.symm hSlash.1), ih hSlash.2]

/-- The directory ends in one slash, its own or an added one. -/
theorem exists_join (directory : String) :
    ∃ front : List Char, ∀ name, (join directory name).toList = front ++ '/' :: name.toList := by
  by_cases hSlash : directory.toList.getLast? = some '/'
  · obtain ⟨front, hFront⟩ := List.getLast?_eq_some_iff.mp hSlash
    exact ⟨front, fun name => by simp [join, hFront]⟩
  · exact ⟨directory.toList, fun name => by simp [join, hSlash]⟩

theorem join_ne_empty (directory name : String) : join directory name ≠ "" := by
  obtain ⟨front, hJoin⟩ := exists_join directory
  intro hEmpty
  have hText := hJoin name
  rw [hEmpty] at hText
  simp at hText

theorem pieces_join (directory : String) {name : String} (hSlash : '/' ∉ name.toList) :
    pieces (join directory name) = (pieces (join directory "")).dropLast ++ [name] := by
  obtain ⟨front, hJoin⟩ := exists_join directory
  simp [pieces, hJoin, splitSlash_append_slash, splitSlash_of_not_mem hSlash, splitSlash]

theorem isAbsolute_join (directory name : String) :
    isAbsolute (join directory name) = isAbsolute (join directory "") := by
  obtain ⟨front, hJoin⟩ := exists_join directory
  simp only [isAbsolute, hJoin]
  cases front <;> rfl

end Path

/-- What a file can be called. -/
structure IsFileName (name : String) : Prop where
  noSlash : '/' ∉ name.toList
  named : (Path.isIdle name || name = "..") = false
  short : name.utf8ByteSize ≤ FileTree.maxName

instance (name : String) : Decidable (IsFileName name) :=
  decidable_of_iff ('/' ∉ name.toList ∧ (Path.isIdle name || name = "..") = false ∧
      name.utf8ByteSize ≤ FileTree.maxName)
    ⟨fun ⟨hSlash, hNamed, hShort⟩ => ⟨hSlash, hNamed, hShort⟩,
      fun hName => ⟨hName.noSlash, hName.named, hName.short⟩⟩

namespace FileTree

variable {tree : FileTree} {location : Location}

/-! ## Looking up and putting -/

theorem ne_root_of_free (hFree : tree.entryAt location ≠ some .directory) : location ≠ [] := by
  rintro rfl
  exact hFree rfl

theorem entryAt_put_self (hRoot : location ≠ []) (entry : FileEntry) :
    (tree.put location entry).entryAt location = some entry := by
  rw [entryAt, if_neg hRoot]
  exact tree.entries.get?_insert_self location entry

theorem entryAt_put_of_ne {other : Location} (hOther : other ≠ location) (entry : FileEntry) :
    (tree.put location entry).entryAt other = tree.entryAt other := by
  rw [entryAt, entryAt]
  split
  · rfl
  · exact tree.entries.get?_insert_of_ne hOther entry

theorem child_of_short {name : String} (hShort : name.utf8ByteSize ≤ maxName) (place : Location) :
    tree.child place name = .ok (tree.entryAt (place ++ [name])) :=
  if_neg (Nat.not_lt.mpr hShort)

/-- One step of a walk that gets to its end. -/
theorem walk_cons_eq_ok_iff {place goal : Location} {piece : String} {rest : List String} :
    tree.walk place (piece :: rest) = .ok goal ↔
      if Path.isIdle piece then tree.walk place rest = .ok goal
      else if piece = ".." then tree.walk place.dropLast rest = .ok goal
      else piece.utf8ByteSize ≤ maxName ∧ tree.entryAt (place ++ [piece]) = some .directory ∧
        tree.walk (place ++ [piece]) rest = .ok goal := by
  rw [walk]
  split
  · rfl
  split
  · rfl
  by_cases hShort : piece.utf8ByteSize ≤ maxName
  · rw [child_of_short hShort]
    rcases hEntry : tree.entryAt (place ++ [piece]) with _ | _ | contents <;> simp [hShort]
  · simp [child, hShort, Nat.not_le.mp hShort]

/-- A walk that gets to its end still does when a file is put where no directory stands. -/
theorem walk_put (hFree : tree.entryAt location ≠ some .directory) (contents : Bytes)
    {place goal : Location} {pieces : List String} (hWalk : tree.walk place pieces = .ok goal) :
    (tree.put location (.file contents)).walk place pieces = .ok goal := by
  induction pieces generalizing place with
  | nil => exact hWalk
  | cons piece rest ih =>
      rw [walk_cons_eq_ok_iff] at hWalk ⊢
      split
      next hIdle =>
        rw [if_pos hIdle] at hWalk
        exact ih hWalk
      next hIdle =>
        rw [if_neg hIdle] at hWalk
        split
        next hUp =>
          rw [if_pos hUp] at hWalk
          exact ih hWalk
        next hUp =>
          rw [if_neg hUp] at hWalk
          obtain ⟨hShort, hEntry, hRest⟩ := hWalk
          have hOther : place ++ [piece] ≠ location := by
            rintro rfl
            exact hFree hEntry
          exact ⟨hShort, (entryAt_put_of_ne hOther _).trans hEntry, ih hRest⟩

/-! ## Names in a directory -/

/-- Where the files of a directory stand, if the path to it can be walked. -/
def inside (tree : FileTree) (directory : String) : Except OsError Location :=
  tree.walk (tree.start (Path.join directory ""))
    (Path.pieces (Path.join directory "")).dropLast

theorem approach_join (tree : FileTree) (directory : String) {name : String}
    (hSlash : '/' ∉ name.toList) :
    tree.approach (Path.join directory name) (Path.pieces (Path.join directory name)) =
      if maxPath < (Path.join directory name).utf8ByteSize then .error .nameTooLong
      else (tree.inside directory).map fun place => (place, name) := by
  rw [approach, if_neg (Path.join_ne_empty directory name), Path.pieces_join directory hSlash,
    start, Path.isAbsolute_join, ← start, List.dropLast_concat, inside, List.getLastD_concat]
  split
  · rfl
  · cases tree.walk _ _ <;> rfl

variable {directory name : String} {place : Location}

/-- A directory of the tree has room for a file of some name. -/
structure HasRoom (tree : FileTree) (directory : String) (place : Location) (name : String) :
    Prop where
  short : (Path.join directory name).utf8ByteSize ≤ maxPath
  inside : tree.inside directory = .ok place
  free : tree.entryAt (place ++ [name]) ≠ some .directory

theorem approach_of_room (hName : IsFileName name) (hRoom : tree.HasRoom directory place name) :
    tree.approach (Path.join directory name) (Path.pieces (Path.join directory name)) =
      .ok (place, name) := by
  rw [approach_join tree directory hName.noSlash, if_neg (Nat.not_lt.mpr hRoom.short),
    hRoom.inside]
  rfl

theorem writeFile_of_room (hName : IsFileName name) (hRoom : tree.HasRoom directory place name)
    (contents : Bytes) :
    tree.writeFile (Path.join directory name) contents =
      .ok (tree.put (place ++ [name]) (.file contents)) := by
  simp only [writeFile, approach_of_room hName hRoom, hName.named, child_of_short hName.short]
  have hFree := hRoom.free
  rcases hEntry : tree.entryAt (place ++ [name]) with _ | _ | old
  · rfl
  · exact absurd hEntry hFree
  · rfl

/-- Whoever can write a file has room for it. -/
theorem exists_room_of_writeFile (hName : IsFileName name) {contents : Bytes} {written : FileTree}
    (hWrite : tree.writeFile (Path.join directory name) contents = .ok written) :
    ∃ place, tree.HasRoom directory place name := by
  rw [writeFile, approach_join tree directory hName.noSlash] at hWrite
  by_cases hLong : maxPath < (Path.join directory name).utf8ByteSize
  · rw [if_pos hLong] at hWrite
    cases hWrite
  rw [if_neg hLong] at hWrite
  cases hInside : tree.inside directory with
  | error cause =>
      rw [hInside] at hWrite
      cases hWrite
  | ok place =>
      refine ⟨place, Nat.not_lt.mp hLong, hInside, fun hDirectory => ?_⟩
      simp [hInside, Except.map, hName.named, child_of_short hName.short, hDirectory] at hWrite

theorem readFile_of_room (hName : IsFileName name) (hRoom : tree.HasRoom directory place name)
    {contents : Bytes} (hEntry : tree.entryAt (place ++ [name]) = some (.file contents)) :
    tree.readFile (Path.join directory name) = .ok contents := by
  simp [readFile, find, approach_of_room hName hRoom, hName.named, child_of_short hName.short,
    hEntry]

/-- Reading a name in a directory looks at nothing else, once the directory was reached. -/
theorem readFile_congr (hName : IsFileName name) {left right : FileTree}
    (hLeft : left.inside directory = .ok place) (hRight : right.inside directory = .ok place)
    (hEntry : left.entryAt (place ++ [name]) = right.entryAt (place ++ [name])) :
    left.readFile (Path.join directory name) = right.readFile (Path.join directory name) := by
  have hFind : left.find (Path.join directory name) = right.find (Path.join directory name) := by
    rw [find, find, approach_join _ directory hName.noSlash,
      approach_join _ directory hName.noSlash, hLeft, hRight]
    by_cases hLong : maxPath < (Path.join directory name).utf8ByteSize
    · simp only [if_pos hLong]
    · simp only [if_neg hLong, Except.map, child_of_short hName.short, hEntry]
  rw [readFile, readFile, hFind]

theorem HasRoom.put (hRoom : tree.HasRoom directory place name)
    (hFree : tree.entryAt location ≠ some .directory) (contents : Bytes) :
    (tree.put location (.file contents)).HasRoom directory place name where
  short := hRoom.short
  inside := walk_put hFree contents hRoom.inside
  free := by
    by_cases hSame : place ++ [name] = location
    · rw [hSame, entryAt_put_self (ne_root_of_free hFree)]
      simp
    · rw [entryAt_put_of_ne hSame]
      exact hRoom.free

/-- Room that is there after a file was put into the same directory was there before. -/
theorem HasRoom.of_put {contents : Bytes} {later : Location}
    (hFree : tree.entryAt location ≠ some .directory) (hInside : tree.inside directory = .ok place)
    (hRoom : (tree.put location (.file contents)).HasRoom directory later name) :
    tree.HasRoom directory place name where
  short := hRoom.short
  inside := hInside
  free := by
    have hSame : place = later :=
      Except.ok.inj ((walk_put hFree contents hInside).symm.trans hRoom.inside)
    by_cases hHere : place ++ [name] = location
    · rw [hHere]
      exact hFree
    · rw [← entryAt_put_of_ne hHere (.file contents), hSame]
      exact hRoom.free

/-! ## Several files -/

/-- Puts files side by side, in order. -/
def putFiles (tree : FileTree) (place : Location) : List (String × Bytes) → FileTree
  | [] => tree
  | (name, contents) :: rest =>
    (tree.put (place ++ [name]) (.file contents)).putFiles place rest

/-- What is not a place of one of the files is as before. -/
theorem entryAt_putFiles_of_ne {files : List (String × Bytes)}
    (hOther : ∀ file ∈ files, location ≠ place ++ [file.1]) :
    (tree.putFiles place files).entryAt location = tree.entryAt location := by
  induction files generalizing tree with
  | nil => rfl
  | cons file rest ih =>
      rw [putFiles, ih fun later hLater => hOther later (List.mem_cons_of_mem _ hLater)]
      exact entryAt_put_of_ne (hOther file (List.mem_cons_self ..)) _

theorem place_ne_of_name_ne {name other : String} (hOther : name ≠ other) :
    place ++ [name] ≠ place ++ [other] := by
  simpa using hOther

/-- Of files with different names, each is there in the end. -/
theorem entryAt_putFiles {files : List (String × Bytes)}
    (hNames : (files.map Prod.fst).Nodup) {contents : Bytes} (hFile : (name, contents) ∈ files) :
    (tree.putFiles place files).entryAt (place ++ [name]) = some (.file contents) := by
  induction files generalizing tree with
  | nil => cases hFile
  | cons file rest ih =>
      rw [List.map_cons, List.nodup_cons] at hNames
      rw [putFiles]
      cases hFile with
      | head =>
          have hLater : ∀ later ∈ rest, place ++ [name] ≠ place ++ [later.1] := by
            intro later hLater
            apply place_ne_of_name_ne
            rintro rfl
            exact hNames.1 (List.mem_map.mpr ⟨later, hLater, rfl⟩)
          rw [entryAt_putFiles_of_ne hLater]
          exact entryAt_put_self (by simp) _
      | tail _ hFile => exact ih hNames.2 hFile

/-- Room for a name stays when files are put into places that have room for them. -/
theorem HasRoom.putFiles {files : List (String × Bytes)}
    (hRooms : ∀ file ∈ files, tree.HasRoom directory place file.1)
    (hRoom : tree.HasRoom directory place name) :
    (tree.putFiles place files).HasRoom directory place name := by
  induction files generalizing tree with
  | nil => exact hRoom
  | cons file rest ih =>
      have hFree := (hRooms file (List.mem_cons_self ..)).free
      exact ih (fun later hLater => (hRooms later (List.mem_cons_of_mem _ hLater)).put hFree file.2)
        (hRoom.put hFree file.2)

/-- Names that can all be written have room in one place. -/
theorem exists_rooms {names : List String} (hNames : ∀ name ∈ names, IsFileName name)
    {contents : Bytes} (hWrites : ∀ name ∈ names, ∃ written,
      tree.writeFile (Path.join directory name) contents = .ok written) (hSome : names ≠ []) :
    ∃ place, ∀ name ∈ names, tree.HasRoom directory place name := by
  obtain ⟨first, rest, rfl⟩ := List.exists_cons_of_ne_nil hSome
  have hEach : ∀ name ∈ first :: rest, ∃ place, tree.HasRoom directory place name := by
    intro name hName
    obtain ⟨written, hWrite⟩ := hWrites name hName
    exact exists_room_of_writeFile (hNames name hName) hWrite
  obtain ⟨place, hFirst⟩ := hEach first (List.mem_cons_self ..)
  refine ⟨place, fun name hName => ?_⟩
  obtain ⟨other, hRoom⟩ := hEach name hName
  obtain rfl : other = place := Except.ok.inj (hRoom.inside.symm.trans hFirst.inside)
  exact hRoom

theorem readFile_putFiles {files : List (String × Bytes)}
    (hFileNames : ∀ file ∈ files, IsFileName file.1) (hNames : (files.map Prod.fst).Nodup)
    (hRooms : ∀ file ∈ files, tree.HasRoom directory place file.1) {contents : Bytes}
    (hFile : (name, contents) ∈ files) :
    (tree.putFiles place files).readFile (Path.join directory name) = .ok contents :=
  readFile_of_room (hFileNames _ hFile) (HasRoom.putFiles hRooms (hRooms _ hFile))
    (entryAt_putFiles hNames hFile)

end FileTree

end SnpGuest
