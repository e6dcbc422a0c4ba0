import Uam.FtpSessions

/-! Which files the server changes, in the build that protects the system's paths. A write goes to
the file of its descriptor. -/
namespace AerialManipulator
open Bytes Files CString Runs

/-- "/..". -/
def parentEnd : Path := [47#8,46#8,46#8]

/-- The path starts with the card and has no component "..", not even the last one. -/
def OnCard (path : Path) : Prop := microsd <+: path ∧ ¬ parentDir <:+: path ++ [47#8]

instance (path : Path) : Decidable (OnCard path) := inferInstanceAs (Decidable (_ ∧ _))

lemma truncTmp_onCard : OnCard truncTmp := by decide +kernel

lemma FtpBuild.onCard_of_valid {build : FtpBuild} (nuttx : build.nuttx)
    (valid : build.validatePathIsWritable buffer) (ends : ¬parentEnd <:+ text buffer) :
    OnCard (text buffer) := by
  rw [validatePathIsWritable,if_pos nuttx,Bool.and_eq_true,strncmp_length_iff _ _ (by decide)] at valid
  obtain ⟨card,inside⟩ := valid
  have inside : ¬parentDir <:+: text buffer := by
    rw [← strstr_iff]
    simpa using inside
  refine ⟨begins_text (by decide) card,?_⟩
  rw [List.infix_concat_iff]
  rintro (last | within)
  · have last : parentEnd ++ [47#8] <:+ text buffer ++ [47#8] := last
    exact ends (List.suffix_append_self_iff.mp last)
  · exact inside within

namespace FtpTask
variable {Φ : Type} (fs : FileSystem Φ) {build : FtpBuild} (t : FtpTask (Recorded Φ))

def openPath (build : FtpBuild) : Path := CString.text (build.rooted workBuffer1Len t.payload.dataAsCstring.data)

def pathBuffer (build : FtpBuild) : List Byte := build.rootedAndEnded workBuffer1Len t.payload.dataAsCstring.data

def path (build : FtpBuild) : Path := CString.text (t.pathBuffer build)

def newPathBuffer (build : FtpBuild) : List Byte :=
  let payload := t.payload.dataAsCstring
  build.rootedAndEnded workBuffer2Len ((payload.data ++ t.behind).drop ((CString.text payload.data).length + 1))

def newPath (build : FtpBuild) : Path := CString.text (t.newPathBuffer build)

def hasNewPath : Bool := (CString.text t.payload.dataAsCstring.data).length ≠ t.payload.size.toNat

def Harmless (build : FtpBuild) : FtpOpcode → Prop
  | .createFile | .openFileWO => t.session.fd < 0 → OnCard (t.openPath build)
  | .removeFile | .createDirectory | .removeDirectory | .truncateFile =>
    build.validatePathIsWritable (t.pathBuffer build) = true → ¬ parentEnd <:+ t.path build
  | .rename => t.hasNewPath = true → build.validatePathIsWritable (t.newPathBuffer build) = true →
    OnCard (t.path build) ∧ ¬ parentEnd <:+ t.newPath build
  | _ => True

variable {t}

variable {files : Recorded Φ} {path : Path}

lemma confined_skipEntries (directory n : Nat) (kept : Confined OnCard files) :
    Confined OnCard (skipEntries fs.recorded directory n files) := by
  induction n generalizing files with
  | zero => exact kept
  | succ n ih =>
    have next : Confined OnCard (fs.recorded.readdir files directory).1 := kept.keep _
    unfold skipEntries
    split
    · exact next
    · exact ih next

lemma confined_listEntries (buffer1 : List Byte) (directory : Nat) (start : BitVec 32) (fuel : Nat)
    (data : List Byte) (offset : Nat) (kept : Confined OnCard files) :
    Confined OnCard (listEntries fs.recorded buffer1 directory start fuel files data offset).files := by
  induction fuel generalizing files data offset with
  | zero => exact kept
  | succ fuel ih =>
    have next : Confined OnCard (fs.recorded.readdir files directory).1 := kept.keep _
    unfold listEntries
    dsimp only
    split
    · split <;> exact next
    · split
      · exact next
      · exact ih _ _ next

lemma confined_workList (kept : Confined OnCard t.files) : Confined OnCard (t.workList fs.recorded build).task.files := by
  unfold workList
  dsimp only
  split
  · exact kept.keep _
  next directory _ =>
  apply Confined.closedir
  apply confined_listEntries
  apply confined_skipEntries
  exact kept.keep _

lemma confined_crcLoop (build : FtpBuild) (fd : Int) (fuel : Nat) (checksum : BitVec 32) (kept : Confined OnCard files) :
    Confined OnCard (crcLoop fs.recorded build fd fuel files checksum).files := by
  induction fuel generalizing files checksum with
  | zero => exact kept
  | succ fuel ih =>
    have next : Confined OnCard (fs.recorded.read files fd workBuffer2Len).1 := kept.keep _
    unfold crcLoop
    dsimp only
    split
    · exact next
    · split
      · exact ih _ next
      · exact next

section
variable (confined : Confined OnCard t.files)
include confined

lemma confined_workCalcFileCRC32 : Confined OnCard (t.workCalcFileCRC32 fs.recorded build).task.files := by
  have opened (path : Path) : Confined OnCard (fs.recorded.openFile t.files path oRdonly).1 :=
    confined.openFile (by simp [oRdonly])
  unfold workCalcFileCRC32
  dsimp only
  split
  · exact opened _
  next fd _ =>
  generalize fs.recorded.remaining _ _+1 = fuel
  have read := confined_crcLoop fs build fd fuel 0#32
    (opened (text (build.rootedAndEnded workBuffer2Len t.payload.dataAsCstring.data)))
  generalize crcLoop _ _ _ _ _ _ = crc at read ⊢
  cases crc.failed <;> exact read.close fd

lemma confined_workOpen {flags : OpenFlags}
    (harmless : t.session.fd < 0 → flags.write ∨ flags.create ∨ flags.truncate → OnCard (t.openPath build)) :
    Confined OnCard (t.workOpen fs.recorded build flags).task.files := by
  unfold workOpen
  split
  · exact confined
  next closed =>
  have opened : Confined OnCard (fs.recorded.openFile t.files (t.openPath build) flags).1 :=
    confined.openFile (harmless (not_le.mp closed))
  dsimp only
  (repeat' split) <;> first | exact opened | exact confined

lemma confined_workRead : Confined OnCard (t.workRead fs.recorded).task.files := by
  have sought : Confined OnCard (fs.recorded.lseek t.files t.session.fd t.payload.offset.toNat).1 := confined.keep _
  unfold workRead
  dsimp only
  (repeat' split) <;> first | exact confined | exact sought | exact sought.keep _

lemma confined_workWrite : Confined OnCard (t.workWrite fs.recorded build).task.files := by
  have sought : Confined OnCard (fs.recorded.lseek t.files t.session.fd t.payload.offset.toNat).1 := confined.keep _
  unfold workWrite
  dsimp only
  -- the descriptor decides where the bytes go, not the path that is checked
  (repeat' split) <;> first | exact confined | exact sought | exact sought.write _ _

end

lemma confined_workOnPath (nuttx : build.nuttx)
    (ends : build.validatePathIsWritable (t.pathBuffer build) → ¬parentEnd <:+ t.path build)
    (kept : Confined OnCard t.files)
    (touches : ∀ path,OnCard path → Confined OnCard (call t.files path).1) :
    Confined OnCard (t.workOnPath build call).task.files := by
  unfold workOnPath
  dsimp only
  split
  · exact kept
  next valid =>
  have valid : build.validatePathIsWritable (t.pathBuffer build) := by simpa [pathBuffer] using valid
  have called : Confined OnCard (call t.files (t.path build)).1 :=
    touches _ (FtpBuild.onCard_of_valid nuttx valid (ends valid))
  split <;> exact called

lemma confined_workRename (nuttx : build.nuttx)
    (harmless : t.hasNewPath → build.validatePathIsWritable (t.newPathBuffer build) →
      OnCard (t.path build) ∧ ¬parentEnd <:+ t.newPath build)
    (kept : Confined OnCard t.files) : Confined OnCard (t.workRename fs.recorded build).task.files := by
  unfold workRename
  dsimp only
  split
  · exact kept
  next two =>
  split
  · exact kept
  next valid =>
  have valid : build.validatePathIsWritable (t.newPathBuffer build) := by simpa [newPathBuffer] using valid
  obtain ⟨source,ends⟩ := harmless (decide_eq_true two) valid
  have destination : OnCard (t.newPath build) := FtpBuild.onCard_of_valid nuttx valid ends
  have renamed : Confined OnCard (fs.recorded.rename t.files (t.path build) (t.newPath build)).1 :=
    kept.change (by simp [Change.paths,source,destination]) _
  split <;> exact renamed

lemma confined_copyLoop (source target : Int) (fuel : Nat) (length : Nat) (kept : Confined OnCard files) :
    Confined OnCard (copyLoop fs.recorded source target fuel files length).files := by
  induction fuel generalizing files length with
  | zero => exact kept
  | succ fuel ih =>
    have read : Confined OnCard (fs.recorded.read files source (min length workBuffer2Len)).1 := kept.keep _
    unfold copyLoop
    dsimp only
    (repeat' split) <;> first | exact kept | exact read | exact read.write _ _ | exact ih _ (read.write _ _)

lemma confined_copyFile (length : Nat) (kept : Confined OnCard files)
    (target : OnCard dstPath) : Confined OnCard (copyFile fs.recorded files srcPath dstPath length).files := by
  have source : Confined OnCard (fs.recorded.openFile files srcPath oRdonly).1 := kept.openFile (by simp [oRdonly])
  have both : Confined OnCard (fs.recorded.openFile (fs.recorded.openFile files srcPath oRdonly).1 dstPath oCreatTruncWronly).1 :=
    source.openFile fun _ => target
  unfold copyFile
  dsimp only
  split
  · exact source
  · split
    · exact both.close _
    · exact ((confined_copyLoop fs _ _ _ _ both).close _).close _

section
variable (target : OnCard path) (confined : Confined OnCard t.files)
include target confined

lemma confined_truncateAll : Confined OnCard (t.truncateAll fs.recorded path).task.files := by
  have opened : Confined OnCard (fs.recorded.openFile t.files path oTruncWronly).1 := confined.openFile fun _ => target
  unfold truncateAll
  dsimp only
  split
  · exact opened
  · exact opened.close _

lemma confined_extend : Confined OnCard (t.extend fs.recorded path).task.files := by
  have opened : Confined OnCard (fs.recorded.openFile t.files path oWronly).1 := confined.openFile fun _ => target
  unfold extend
  dsimp only
  split
  · exact opened
  next fd _ =>
  have sought : Confined OnCard
      (fs.recorded.lseek (fs.recorded.openFile t.files path oWronly).1 fd (t.payload.offset.toNat-1)).1 := opened.keep _
  split
  · exact sought.close _
  · split <;> exact (sought.write _ _).close _

lemma confined_shorten : Confined OnCard (t.shorten fs.recorded path).task.files := by
  have there : Confined OnCard (copyFile fs.recorded t.files path truncTmp t.payload.offset.toNat).files :=
    confined_copyFile fs _ confined truncTmp_onCard
  unfold shorten
  dsimp only
  generalize copyFile fs.recorded t.files path truncTmp t.payload.offset.toNat = first at there ⊢
  have back : Confined OnCard (copyFile fs.recorded first.files truncTmp path t.payload.offset.toNat).files :=
    confined_copyFile fs _ there target
  have removed : Confined OnCard
      (fs.recorded.unlink (copyFile fs.recorded first.files truncTmp path t.payload.offset.toNat).files truncTmp).1 :=
    back.change (by simp [Change.paths,truncTmp_onCard]) _
  (repeat' split) <;> first | exact there | exact back | exact removed

lemma confined_truncateNuttx : Confined OnCard (t.truncateNuttx fs.recorded path).task.files := by
  unfold truncateNuttx
  (repeat' split) <;> first
    | exact confined
    | exact confined_truncateAll fs target confined
    | exact confined_extend fs target confined
    | exact confined_shorten fs target confined

end

lemma confined_workTruncateFile (nuttx : build.nuttx)
    (ends : build.validatePathIsWritable (t.pathBuffer build) → ¬parentEnd <:+ t.path build)
    (kept : Confined OnCard t.files) : Confined OnCard (t.workTruncateFile fs.recorded build).task.files := by
  unfold workTruncateFile
  dsimp only
  split
  · exact kept
  next valid =>
  have valid : build.validatePathIsWritable (t.pathBuffer build) := by simpa [pathBuffer] using valid
  have target : OnCard (t.path build) := FtpBuild.onCard_of_valid nuttx valid (ends valid)
  exact confined_truncateNuttx fs target kept

lemma confined_work (nuttx : build.nuttx) (sysid compid : Byte)
    (harmless : t.Harmless build opcode) (kept : Confined OnCard t.files) :
    Confined OnCard (t.work fs.recorded build sysid compid opcode).task.files := by
  cases opcode with
  | none => exact kept
  | terminateSession =>
    change Confined OnCard (t.workTerminate fs.recorded).task.files
    unfold workTerminate
    split
    · exact kept
    · exact kept.close _
  | resetSessions =>
    change Confined OnCard (t.workReset fs.recorded).task.files
    unfold workReset
    split
    · exact kept.close _
    · exact kept
  | burstReadFile =>
    change Confined OnCard (t.workBurst sysid compid).task.files
    unfold workBurst
    split <;> exact kept
  | listDirectory => exact confined_workList fs kept
  | openFileRO => exact confined_workOpen fs kept (by simp [oRdonly])
  | createFile | openFileWO => exact confined_workOpen fs kept fun closed _ => harmless closed
  | readFile => exact confined_workRead fs kept
  | writeFile => exact confined_workWrite fs kept
  | removeFile | createDirectory | removeDirectory =>
    exact confined_workOnPath nuttx harmless kept fun path card => kept.change (by simp [Change.paths,card]) _
  | rename => exact confined_workRename fs nuttx harmless kept
  | truncateFile => exact confined_workTruncateFile fs nuttx harmless kept
  | calcFileCRC32 => exact confined_workCalcFileCRC32 fs kept

end FtpTask

namespace FtpServer
variable {Φ : Type} (fs : FileSystem Φ) {build : FtpBuild} {s : FtpServer (Recorded Φ)} {r : FtpRequest}

lemma confined_processRequest (nuttx : build.nuttx) (kept : Confined OnCard s.files)
    (harmless : s.Executes r → ∀ opcode,FtpOpcode.ofByte r.payload.opcode = some opcode →
      FtpTask.Harmless ⟨s.files,s.session,[],r.payload,r.behind⟩ build opcode) :
    Confined OnCard (s.processRequest fs.recorded build r).1.files := by
  obtain held | ⟨executes,opcode,buffer1,asks,held⟩ := s.held_processRequest fs.recorded build r
  · exact (Prod.mk.inj held).1.symm ▸ kept
  · have harmless : FtpTask.Harmless ⟨s.files,s.session,buffer1,r.payload,r.behind⟩ build opcode :=
      harmless executes opcode asks
    exact (Prod.mk.inj held).1.symm ▸ FtpTask.confined_work fs nuttx r.sysid r.compid harmless kept

lemma confined_send (e : FtpSend) (kept : Confined OnCard s.files) : Confined OnCard (s.send fs.recorded e).1.files := by
  refine send_invariant fs.recorded (fun held => Confined OnCard held.1) ?_ (fun _ _ kept => kept.close _) e kept
  intro s room stack kept
  have kept : Confined OnCard s.files := kept
  have sought : Confined OnCard (fs.recorded.lseek s.files s.session.fd s.session.streamOffset.toNat).1 := kept.keep _
  unfold packet streamNak streamAck
  dsimp only
  (repeat' split) <;> first | exact kept | exact sought | exact sought.keep _

/-- The paths that the server does not check, or not to their ends, stay on the card. -/
def Harmless (build : FtpBuild) (s : FtpServer (Recorded Φ)) : FtpEvent → Prop
  | .message r => Addressed build r → s.Executes r → ∀ opcode,FtpOpcode.ofByte r.payload.opcode = some opcode →
      FtpTask.Harmless ⟨s.files,s.session,[],r.payload,r.behind⟩ build opcode
  | .send _ => True

lemma confined_step (nuttx : build.nuttx) (e : FtpEvent) (harmless : s.Harmless build e)
    (kept : Confined OnCard s.files) : Confined OnCard (s.step fs.recorded build e).files := by
  cases e with
  | send e => exact confined_send fs e kept
  | message r =>
    change Confined OnCard (s.handleMessage fs.recorded build r).1.files
    by_cases addressed : Addressed build r
    · rw [handleMessage_addressed fs.recorded build addressed]
      exact confined_processRequest fs nuttx kept (harmless addressed)
    · rw [handleMessage_other fs.recorded build addressed]
      exact kept

/-- Every run from start-up, with any paths and data and any outcomes of the calls. -/
theorem changes_on_card (nuttx : build.nuttx = true) (files : Φ) {events : List FtpEvent}
    (harmless : Along (step fs.recorded build) (Harmless build) (start (.blank files)) events) :
    Along (step fs.recorded build)
      (fun s e => ∀ c ∈ (s.step fs.recorded build e).files.changes,∀ path ∈ c.paths,OnCard path)
      (start (.blank files)) events := by
  refine along_of_invariant (fun s => Confined OnCard s.files) ?_ ?_ harmless (.blank files)
  · intro s e harmless confined
    exact confined_step fs nuttx e harmless confined
  · intro s e harmless confined
    exact (confined_step fs nuttx e harmless confined).changes

theorem changes_on_card_of_upload : Along (step pathsOnly.recorded flightBuild)
    (fun s e => ∀ c ∈ (s.step pathsOnly.recorded flightBuild e).files.changes,∀ path ∈ c.paths,OnCard path)
    (start (.blank [])) [.message (asking 1 6 someFile),.message (asking 3 7 [1#8])] :=
  changes_on_card pathsOnly rfl []
    ⟨fun _ _ opcode asks => by cases asks; exact fun _ => by decide +kernel,fun _ _ opcode asks => by cases asks; trivial,trivial⟩

/-- "/etc/x". -/
def systemFile : Path := [47#8,101#8,116#8,99#8,47#8,120#8]

/-- A system file is created, one is moved away from there, and the parent of the card's directory is removed. -/
theorem changes_off_card : let changed (files : List Path) (opcode : Nat) (data : List Byte) :=
      ((start (.blank files)).step pathsOnly.recorded flightBuild (.message (asking 1 opcode data))).files.changes.map Change.paths
    changed [] 6 systemFile = [[systemFile],[systemFile]] ∧
    changed [systemFile] 13 (systemFile ++ [0#8] ++ someFile) = [[systemFile,someFile]] ∧
    changed [microsd ++ [46#8,46#8]] 10 (microsd ++ [46#8,46#8]) = [[microsd ++ [46#8,46#8]]] ∧
    ¬ OnCard systemFile ∧ ¬ OnCard (microsd ++ [46#8,46#8]) := by
  decide +kernel

end FtpServer
end AerialManipulator
