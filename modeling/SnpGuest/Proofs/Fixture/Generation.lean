import SnpGuest.Fixture.Generate
import SnpGuest.Proofs.Certificate.RoundTrip
import SnpGuest.Proofs.Fixture.Trees
import SnpGuest.Proofs.Simulator.ClientRuns
import SnpGuest.Proofs.Simulator.SignedReports

namespace SnpGuest

/-!
# The steps of the fixture tool

One statement for each step: reading the certificates, asking the simulated device for the report,
and writing the files.  The device takes the same way whether it has certificates or not
(`Fixture.make_of_blob`), so the empty table needs a case in one place only, `Fixture.blob`.
-/

/-- What reading files gives in a state, when it changes nothing. -/
def FileSystem.Reads {σ : Type} (system : FileSystem (StateM σ)) (state : σ)
    (read : String → Except OsError Bytes) : Prop :=
  ∀ path, system.readFile path state = (read path, state)

theorem FileTree.reads (tree : FileTree) : fileSystem.Reads tree tree.readFile :=
  fun _ => rfl

namespace Fixture

/-! ## Reading certificates -/

/-- The sources that are given, in order. -/
def chosen (sources : List (CertificateKind × Option String)) : List (CertificateKind × String) :=
  sources.filterMap fun source => source.2.map fun path => (source.1, path)

/-- The certificates of some files, for known contents of the files. -/
def certificatesOf (contents : String → Bytes) (files : List (CertificateKind × String)) :
    List (CertificateKind × Bytes) :=
  files.map fun file => (file.1, contents file.2)

theorem map_fst_certificatesOf (contents : String → Bytes)
    (files : List (CertificateKind × String)) :
    (certificatesOf contents files).map Prod.fst = files.map Prod.fst := by
  rw [certificatesOf, List.map_map]
  rfl

theorem map_fst_chosen_sublist (sources : List (CertificateKind × Option String)) :
    ((chosen sources).map Prod.fst).Sublist (sources.map Prod.fst) := by
  induction sources with
  | nil => exact List.Sublist.refl _
  | cons source rest ih =>
      obtain ⟨kind, _ | path⟩ := source
      · exact ih.cons kind
      · exact ih.cons_cons kind

section Reading

variable {σ : Type} {system : FileSystem (StateM σ)} {state : σ}
  {read : String → Except OsError Bytes} {contents : String → Bytes}
  {sources : List (CertificateKind × Option String)}

/-- One file is read, and what it says decides how reading goes on. -/
theorem readCertificates_cons (hReads : system.Reads state read) (kind : CertificateKind)
    (path : String) (rest : List (CertificateKind × Option String)) (table : CertificateTable) :
    readCertificates system ((kind, some path) :: rest) table state =
      match read path with
      | .error cause => (.error (.certificate path cause), state)
      | .ok bytes => readCertificates system rest (table.insert kind bytes) state := by
  simp only [readCertificates, bind, StateT.bind, hReads path]
  cases read path <;> rfl

/-- Certificates that can be read go into the table, and the files stay. -/
theorem readCertificates_of_contents (hReads : system.Reads state read)
    (hRead : ∀ file ∈ chosen sources, read file.2 = .ok (contents file.2))
    (table : CertificateTable) :
    readCertificates system sources table state =
      (.ok ((certificatesOf contents (chosen sources)).foldl
        (fun table entry => table.insert entry.1 entry.2) table), state) := by
  induction sources generalizing table with
  | nil => rfl
  | cons source rest ih =>
      obtain ⟨kind, _ | path⟩ := source
      · exact ih hRead table
      · have hFile : read path = .ok (contents path) :=
          hRead (kind, path) (List.mem_cons_self ..)
        have hLater := ih (fun file hFile => hRead file (List.mem_cons_of_mem _ hFile))
          (table.insert kind (contents path))
        rw [readCertificates_cons hReads, hFile]
        exact hLater

/-- The first file that cannot be read ends the reading. -/
theorem readCertificates_of_failure (hReads : system.Reads state read)
    {front back : List (CertificateKind × String)} {kind : CertificateKind} {path : String}
    {cause : OsError} (hChosen : chosen sources = front ++ (kind, path) :: back)
    (hFront : ∀ file ∈ front, ∃ bytes, read file.2 = .ok bytes)
    (hFail : read path = .error cause) (table : CertificateTable) :
    readCertificates system sources table state = (.error (.certificate path cause), state) := by
  induction sources generalizing front table with
  | nil => simp [chosen] at hChosen
  | cons source rest ih =>
      obtain ⟨first, _ | place⟩ := source
      · exact ih hChosen hFront table
      · have hStep : (first, place) :: chosen rest = front ++ (kind, path) :: back := hChosen
        rw [readCertificates_cons hReads]
        cases front with
        | nil =>
            obtain ⟨hHere, -⟩ := List.cons.inj hStep
            obtain ⟨-, rfl⟩ := Prod.mk.inj hHere
            rw [hFail]
        | cons file front =>
            obtain ⟨rfl, hRest⟩ := List.cons.inj hStep
            obtain ⟨bytes, hFile⟩ := hFront (first, place) (List.mem_cons_self ..)
            rw [hFile]
            exact ih hRest (fun file hFile => hFront file (List.mem_cons_of_mem _ hFile)) _

end Reading

theorem readCertificates_of_read {tree : FileTree} {contents : String → Bytes}
    {sources : List (CertificateKind × Option String)}
    (hRead : ∀ file ∈ chosen sources, tree.readFile file.2 = .ok (contents file.2))
    (table : CertificateTable) :
    readCertificates FileTree.fileSystem sources table tree =
      (.ok ((certificatesOf contents (chosen sources)).foldl
        (fun table entry => table.insert entry.1 entry.2) table), tree) :=
  readCertificates_of_contents tree.reads hRead table

/-! ## The report -/

/-- What the device hands out with its reports. -/
def blob (table : CertificateTable) : Except TableError Bytes :=
  if table.isEmpty then .ok [] else CertificateTable.toBytes table

/-- Certificates of different known kinds whose table fits into four bytes make a blob: none for no
certificates, and else their table in written form. -/
theorem exists_blob {given : List (CertificateKind × Bytes)}
    (hDistinct : (given.map Prod.fst).Nodup)
    (hKnown : ∀ entry ∈ given, entry.1 ∈ CertificateKind.known)
    (hSize : CertificateTable.pageCeiling
        (CertificateRecord.size * (given.length + 1) + CertificateTable.dataLength given) <
      CertificateTable.wordLimit) :
    ∃ bytes, blob (OrderedMap.ofList given) = .ok bytes ∧
      bytes.length < CertificateTable.wordLimit ∧ (bytes = [] ↔ given = []) ∧
      (given ≠ [] → CertificateTable.parse bytes = .ok (OrderedMap.ofList given)) := by
  let table : CertificateTable := OrderedMap.ofList given
  have hEntries : table.entries = given := OrderedMap.entries_ofList hDistinct
  have hBase : CertificateTable.dataBase table = CertificateRecord.size * (given.length + 1) := by
    rw [CertificateTable.dataBase, OrderedMap.size, hEntries]
  cases hGiven : given with
  | nil => exact ⟨[], rfl, by decide, by simp, fun hSome => absurd rfl hSome⟩
  | cons entry rest =>
      rw [← hGiven]
      have hSome : given ≠ [] := by simp [hGiven]
      have hFull : ¬ table.isEmpty = true := by
        simpa [OrderedMap.isEmpty, hEntries] using hSome
      rw [← hBase, ← hEntries] at hSize
      have hCeiling := CertificateTable.le_pageCeiling
        (CertificateTable.dataBase table + CertificateTable.dataLength table.entries)
      obtain ⟨bytes, hWritten⟩ :=
        CertificateTable.exists_toBytes_of_small (Nat.lt_of_le_of_lt hCeiling hSize)
      have hBytes : bytes ≠ [] := by
        have hRoom := CertificateTable.dataBase_le_length hWritten
        rintro rfl
        simp [hBase] at hRoom
      refine ⟨bytes, (if_neg hFull).trans hWritten,
        (CertificateTable.length_toBytes hWritten).symm ▸ hSize, by simp [hBytes, hSome],
        fun _ => CertificateTable.parse_written_of_known hWritten ?_⟩
      rw [hEntries]
      exact hKnown

/-- The device with one accepted report and some certificates. -/
def prepared (signer : Signer) (reportData : Block 64) (certificates : Bytes) : SimulatedDevice :=
  { SimulatedDevice.new signer with
    registry := (Registry.empty.insert reportData (.accepted reportData)).2
    certificates := certificates }

theorem prepare_of_blob {table : CertificateTable} {bytes : Bytes} (hBlob : blob table = .ok bytes)
    (signer : Signer) (reportData : Block 64) :
    prepare signer reportData table = .ok (prepared signer reportData bytes) := by
  rw [blob] at hBlob
  rw [prepare]
  split at hBlob
  next hEmpty =>
    rw [if_pos hEmpty, ← Except.ok.inj hBlob]
    rfl
  next hEmpty =>
    rw [if_neg hEmpty, hBlob]
    rfl

/-- The certificates that come back are those of the blob, and the level plays no part. -/
theorem make_of_blob {scheme : SignatureScheme} {key : scheme.PrivateKey} {reportData : Block 64}
    {signed : Report} {table : CertificateTable} {bytes : Bytes}
    (hSign : (PreparedResponse.currentReport reportData).sign (.ofKey scheme key) =
      (.ok (), signed))
    (hBlob : blob table = .ok bytes) (hSize : bytes.length < CertificateTable.wordLimit)
    (vmpl : UInt32) :
    make scheme key reportData vmpl table =
      .ok ⟨signed, bytes, scheme.encodeKey (scheme.publicKey key)⟩ := by
  let device : SimulatedDevice :=
    { prepared (.ofKey scheme key) reportData bytes with isOpen := true }
  have hFound : device.registry.get? reportData = some (.accepted reportData) :=
    OrderedMap.get?_insert_self _ _ _
  have hServe := SimulatedDevice.serve_of_signed hFound rfl hSign .zero .clear
  have hIsOpen : device.isOpen = true := rfl
  have hClient := SimulatedDevice.requestWithCertificates_open hIsOpen hSize reportData vmpl
  rw [hServe] at hClient
  have hOpen : (prepared (.ofKey scheme key) reportData bytes).openDevice = .ok device := rfl
  rw [make, prepare_of_blob hBlob]
  simp only [bind, Except.bind, hOpen, hClient]
  rfl

theorem make_of_unwritten {scheme : SignatureScheme} {key : scheme.PrivateKey}
    {reportData : Block 64} {table : CertificateTable} {cause : TableError}
    (hBlob : blob table = .error cause) (vmpl : UInt32) :
    make scheme key reportData vmpl table = .error (.certificateTable cause) := by
  rw [blob] at hBlob
  split at hBlob
  next => cases hBlob
  next hFull =>
    rw [make, prepare, if_neg hFull, hBlob]
    rfl

/-- A request that fails is passed on. -/
theorem make_of_failure {scheme : SignatureScheme} {key : scheme.PrivateKey}
    {reportData : Block 64} {table : CertificateTable} {bytes : Bytes} {vmpl : UInt32}
    {device after : SimulatedDevice} {cause : Error} (hBlob : blob table = .ok bytes)
    (hOpen : (prepared (.ofKey scheme key) reportData bytes).openDevice = .ok device)
    (hClient : Client.requestWithCertificates SimulatedDevice.guestDevice reportData vmpl device =
      (.error cause, after)) :
    make scheme key reportData vmpl table = .error cause := by
  rw [make, prepare_of_blob hBlob]
  simp only [bind, Except.bind, hOpen, hClient]

/-- The report that the tool makes for a key and some data. -/
def signedReport (scheme : SignatureScheme) (key : scheme.PrivateKey) (reportData : Block 64) :
    Report :=
  ((PreparedResponse.currentReport reportData).sign (.ofKey scheme key)).2

theorem signedBy_signedReport {scheme : SignatureScheme} (hLawful : scheme.Lawful)
    (key : scheme.PrivateKey) (reportData : Block 64) :
    Report.SignedBy scheme key (PreparedResponse.currentReport reportData)
      (signedReport scheme key reportData) := by
  obtain ⟨signed, hSigned⟩ :=
    Report.exists_signedBy hLawful key (PreparedResponse.currentReport reportData)
  rw [signedReport, hSigned.sign]
  exact hSigned

/-! ## Writing files -/

theorem writeFiles_of_room {tree : FileTree} {directory : String} {place : Location}
    {files : List (String × Bytes)} (hNames : ∀ file ∈ files, IsFileName file.1)
    (hRooms : ∀ file ∈ files, tree.HasRoom directory place file.1) :
    writeFiles FileTree.fileSystem directory files tree =
      (.ok (), tree.putFiles place files) := by
  induction files generalizing tree with
  | nil => rfl
  | cons file rest ih =>
      obtain ⟨name, contents⟩ := file
      have hRoom := hRooms (name, contents) (List.mem_cons_self ..)
      have hWrite := FileTree.writeFile_of_room (hNames _ (List.mem_cons_self ..)) hRoom contents
      have hStep : writeFiles FileTree.fileSystem directory ((name, contents) :: rest) tree =
          writeFiles FileTree.fileSystem directory rest
            (tree.put (place ++ [name]) (.file contents)) := by
        simp only [writeFiles, FileTree.fileSystem, FileTree.update, bind, StateT.bind, hWrite]
      rw [hStep, FileTree.putFiles]
      exact ih (fun later hLater => hNames later (List.mem_cons_of_mem _ hLater))
        fun later hLater =>
          (hRooms later (List.mem_cons_of_mem _ hLater)).put hRoom.free contents

/-- Files that were all written had room side by side before the first of them was. -/
theorem exists_rooms_of_writeFiles {tree final : FileTree} {directory : String}
    {files : List (String × Bytes)} (hNames : ∀ file ∈ files, IsFileName file.1)
    (hWrite : writeFiles FileTree.fileSystem directory files tree = (.ok (), final)) :
    ∃ place, ∀ file ∈ files, tree.HasRoom directory place file.1 := by
  induction files generalizing tree with
  | nil => exact ⟨[], fun file hFile => absurd hFile List.not_mem_nil⟩
  | cons file rest ih =>
      obtain ⟨name, contents⟩ := file
      have hName : IsFileName name := hNames (name, contents) (List.mem_cons_self ..)
      cases hFirst : tree.writeFile (Path.join directory name) contents with
      | error cause =>
          simp only [writeFiles, FileTree.fileSystem, FileTree.update, bind, StateT.bind,
            hFirst] at hWrite
          cases congrArg Prod.fst hWrite
      | ok next =>
          obtain ⟨place, hRoom⟩ := FileTree.exists_room_of_writeFile hName hFirst
          obtain rfl : tree.put (place ++ [name]) (.file contents) = next :=
            Except.ok.inj ((FileTree.writeFile_of_room hName hRoom contents).symm.trans hFirst)
          simp only [writeFiles, FileTree.fileSystem, FileTree.update, bind, StateT.bind,
            hFirst] at hWrite
          obtain ⟨later, hLater⟩ :=
            ih (fun file hFile => hNames file (List.mem_cons_of_mem _ hFile)) hWrite
          refine ⟨place, List.forall_mem_cons.mpr ⟨hRoom, fun file hFile => ?_⟩⟩
          exact FileTree.HasRoom.of_put hRoom.free hRoom.inside (hLater file hFile)

theorem readFile_of_writeFiles {tree final : FileTree} {directory : String}
    {files : List (String × Bytes)} (hNames : ∀ file ∈ files, IsFileName file.1)
    (hDifferent : (files.map Prod.fst).Nodup)
    (hWrite : writeFiles FileTree.fileSystem directory files tree = (.ok (), final))
    {name : String} {contents : Bytes} (hFile : (name, contents) ∈ files) :
    final.readFile (Path.join directory name) = .ok contents := by
  obtain ⟨place, hRooms⟩ := exists_rooms_of_writeFiles hNames hWrite
  have hFinal : tree.putFiles place files = final :=
    congrArg Prod.snd ((writeFiles_of_room hNames hRooms).symm.trans hWrite)
  rw [← hFinal]
  exact FileTree.readFile_putFiles hNames hDifferent hRooms hFile

theorem map_fst_files_sublist (fixture : Fixture) :
    (fixture.files.map Prod.fst).Sublist ["report.bin", "certs.bin", "vcek_public_key.hex"] := by
  have hTwo : ["report.bin", "vcek_public_key.hex"].Sublist
      ["report.bin", "certs.bin", "vcek_public_key.hex"] := by decide
  rw [files]
  split
  · exact hTwo
  · exact List.Sublist.refl _

theorem isFileName_of_mem_files {fixture : Fixture} {file : String × Bytes}
    (hFile : file ∈ fixture.files) : IsFileName file.1 := by
  have hAll : ∀ name ∈ ["report.bin", "certs.bin", "vcek_public_key.hex"], IsFileName name := by
    decide
  exact hAll file.1 (fixture.map_fst_files_sublist.subset (List.mem_map_of_mem hFile))

/-- A fixture is written once its directory is there. -/
theorem exists_made_of_write {σ : Type} {system : FileSystem (StateM σ)} {state final : σ}
    {directory : String} {fixture : Fixture}
    (hWrite : write system directory fixture state = (.ok (), final)) :
    ∃ made, system.createDirectories directory state = (.ok (), made) ∧
      writeFiles system directory fixture.files made = (.ok (), final) := by
  rcases hMade : system.createDirectories directory state with ⟨cause | _, made⟩
  · simp only [write, bind, StateT.bind, hMade] at hWrite
    cases congrArg Prod.fst hWrite
  · simp only [write, bind, StateT.bind, hMade] at hWrite
    exact ⟨made, rfl, hWrite⟩

/-- Whoever writes a fixture finds each of its files in the directory. -/
theorem readFile_of_write {tree final : FileTree} {directory : String} {fixture : Fixture}
    (hWrite : write FileTree.fileSystem directory fixture tree = (.ok (), final)) {name : String}
    {contents : Bytes} (hFile : (name, contents) ∈ fixture.files) :
    final.readFile (Path.join directory name) = .ok contents := by
  obtain ⟨made, -, hFiles⟩ := exists_made_of_write hWrite
  exact readFile_of_writeFiles (fun file => isFileName_of_mem_files)
    (fixture.map_fst_files_sublist.nodup (by decide)) hFiles hFile

end Fixture

end SnpGuest
