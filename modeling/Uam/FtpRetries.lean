import Uam.MavlinkFtp
import Uam.Library.Runs

/-! Requests that are sent again because the reply was lost. -/
namespace AerialManipulator
open Bytes Files Runs
open Prod (fst)

namespace FtpTask
variable {Φ : Type} (fs : FileSystem Φ) (build : FtpBuild) (t : FtpTask Φ)

def untouched : BitVec 16 × FtpSession := (t.payload.seqNumber,t.session)

lemma untouched_workList : (t.workList fs build).task.untouched = t.untouched := by
  unfold workList
  dsimp only
  split <;> rfl

lemma untouched_workRead : (t.workRead fs).task.untouched = t.untouched := by
  unfold workRead
  dsimp only
  (repeat' split) <;> rfl

lemma untouched_workWrite : (t.workWrite fs build).task.untouched = t.untouched := by
  unfold workWrite
  dsimp only
  (repeat' split) <;> rfl

lemma untouched_workOnPath (call : Φ → Path → Φ × Attempt Unit) : (t.workOnPath build call).task.untouched = t.untouched := by
  unfold workOnPath
  dsimp only
  (repeat' split) <;> rfl

lemma untouched_workRename : (t.workRename fs build).task.untouched = t.untouched := by
  unfold workRename
  dsimp only
  (repeat' split) <;> rfl

lemma task_truncateNuttx (path : Path) : ∃ files,(t.truncateNuttx fs path).task = {t with files := files} := by
  unfold truncateNuttx truncateAll extend shorten
  dsimp only
  (repeat' split) <;> exact ⟨_,rfl⟩

lemma task_truncatePosix (path : Path) : ∃ files,(t.truncatePosix fs path).task = {t with files := files} := by
  unfold truncatePosix
  dsimp only
  split <;> exact ⟨_,rfl⟩

lemma task_workTruncateFile : ∃ files,(t.workTruncateFile fs build).task = {t with
    files := files
    payload := {t.payload.dataAsCstring with size := 0#8}
    buffer1 := build.rootedAndEnded workBuffer1Len t.payload.dataAsCstring.data} := by
  unfold workTruncateFile
  dsimp only
  split_ifs
  · exact ⟨_,rfl⟩
  · exact task_truncateNuttx ..
  · exact task_truncatePosix ..

lemma untouched_workTruncateFile : (t.workTruncateFile fs build).task.untouched = t.untouched := by
  obtain ⟨files,same⟩ := t.task_workTruncateFile fs build
  rw [same]
  rfl

lemma untouched_workCalcFileCRC32 : (t.workCalcFileCRC32 fs build).task.untouched = t.untouched := by
  unfold workCalcFileCRC32
  dsimp only
  split
  · rfl
  · generalize crcLoop _ _ _ _ _ _ = crc
    cases crc.failed <;> rfl

lemma seqNumber_workOpen (flags : OpenFlags) : (t.workOpen fs build flags).task.payload.seqNumber = t.payload.seqNumber := by
  unfold workOpen
  dsimp only
  (repeat' split) <;> rfl

lemma seqNumber_work (sysid compid : Byte) (opcode : FtpOpcode) :
    (t.work fs build sysid compid opcode).task.payload.seqNumber = t.payload.seqNumber := by
  cases opcode with
  | none => rfl
  | terminateSession =>
    change (t.workTerminate fs).task.payload.seqNumber = _
    unfold workTerminate
    split <;> rfl
  | resetSessions =>
    change (t.workReset fs).task.payload.seqNumber = _
    unfold workReset
    split <;> rfl
  | burstReadFile =>
    change (t.workBurst sysid compid).task.payload.seqNumber = _
    unfold workBurst
    split <;> rfl
  | openFileRO | createFile | openFileWO => exact t.seqNumber_workOpen fs build _
  | listDirectory => exact congrArg fst (t.untouched_workList fs build)
  | readFile => exact congrArg fst (t.untouched_workRead fs)
  | writeFile => exact congrArg fst (t.untouched_workWrite fs build)
  | removeFile | createDirectory | removeDirectory => exact congrArg fst (t.untouched_workOnPath build _)
  | rename => exact congrArg fst (t.untouched_workRename fs build)
  | truncateFile => exact congrArg fst (t.untouched_workTruncateFile fs build)
  | calcFileCRC32 => exact congrArg fst (t.untouched_workCalcFileCRC32 fs build)

end FtpTask

def FtpMessage.kept (m : FtpMessage) : FtpMessage := {m with payload := {m.payload with data := m.payload.data.take 4}}

namespace FtpServer
variable {Φ : Type} (fs : FileSystem Φ) (build : FtpBuild) {s : FtpServer Φ} {r : FtpRequest}

def Addressed (r : FtpRequest) : Prop :=
  (r.targetSystem = build.systemId ∨ r.targetSystem = 0#8) ∧ (r.targetComponent = build.componentId ∨ r.targetComponent = 0#8)

lemma handleMessage_addressed (addressed : Addressed build r) :
    s.handleMessage fs build r = s.processRequest fs build r := if_pos addressed

def HasBuffers (s : FtpServer Φ) (r : FtpRequest) : Prop :=
  (s.buffer1.isSome ∨ r.memory1.isSome) ∧ (s.buffer2 = true ∨ r.memory2 = true)

structure Executes (s : FtpServer Φ) (r : FtpRequest) : Prop where
  buffers : s.HasBuffers r
  size : r.payload.size.toNat ≤ kMaxDataLength
  fresh : s.resends r.payload = none

lemma HasBuffers.available (buffers : s.HasBuffers r) : ∃ buffer1,s.buffer1.or r.memory1 = some buffer1 ∧
    (s.ensureBuffersExist r).workBuffer = some buffer1 := by
  obtain ⟨first,second⟩ := buffers
  have there : (s.buffer1.or r.memory1).isSome := by simpa using first
  obtain ⟨buffer1,found⟩ := Option.isSome_iff_exists.mp there
  have both : (s.ensureBuffersExist r).buffer2 := by
    change (s.buffer2 || r.memory2) = true
    simpa using second
  exact ⟨buffer1,found,by rw [workBuffer,if_pos both]; exact found⟩

lemma Executes.processRequest (executes : s.Executes r) : ∃ buffer1,s.buffer1.or r.memory1 = some buffer1 ∧
    s.processRequest fs build r = (s.ensureBuffersExist r).execute fs build r buffer1 := by
  obtain ⟨buffer1,found,available⟩ := executes.buffers.available
  refine ⟨buffer1,found,?_⟩
  have fresh : (s.ensureBuffersExist r).resends r.payload = none := executes.fresh
  rw [FtpServer.processRequest,available,Option.elim_some,if_neg (not_lt.mpr executes.size),fresh]
  rfl

lemma seqNumber_answer (p : FtpPayload) (errorCode : FtpError) (errno : Nat) :
    (answer p errorCode errno).seqNumber = p.seqNumber+1#16 := by
  unfold answer nak
  (repeat' split) <;> rfl

variable {m : FtpMessage}

lemma finish_some (answered : (s.finish r p errorCode streamSend).2 = some m) :
    m = ⟨r.sysid,r.compid,answer p errorCode s.ourErrno⟩ ∧
      (s.finish r p errorCode streamSend).1 = {s with lastReply := none}.reply m := by
  unfold finish at answered ⊢
  split at answered
  · next replies =>
    rw [if_pos replies]
    exact ⟨(Option.some.inj answered).symm,by rw [← Option.some.inj answered]⟩
  · cases answered

lemma Executes.keeps (executes : s.Executes r) (answered : (s.processRequest fs build r).2 = some m)
    (small : m.payload.size.toNat ≤ 4) : (s.processRequest fs build r).1.lastReply = some m.kept ∧
      m.payload.seqNumber = r.payload.seqNumber+1#16 := by
  obtain ⟨buffer1,found,same⟩ := executes.processRequest fs build
  rw [same] at answered ⊢
  unfold execute at answered ⊢
  obtain ⟨message,state⟩ := finish_some answered
  rw [state,reply,if_pos small]
  refine ⟨rfl,?_⟩
  rw [message,seqNumber_answer]
  congr 1
  unfold outcome
  cases FtpOpcode.ofByte r.payload.opcode with
  | none => rfl
  | some opcode => exact FtpTask.seqNumber_work ..

lemma isResent_next (p last : FtpPayload) (next : last.seqNumber = p.seqNumber+1#16) :
    isResent p last ↔ p.seqNumber.toNat ≠ 65535 := by
  have bound := p.seqNumber.isLt
  rw [isResent,decide_eq_true_iff,next,BitVec.toNat_add]
  constructor
  · intro same wrapped
    rw [wrapped] at same
    simp at same
  · intro inside
    have small : p.seqNumber.toNat+1 < 2^16 := by omega
    exact (Nat.mod_eq_of_lt small).symm

/-- A message is the same request again, and there is memory for buffers that were freed meanwhile. -/
def Resends (r : FtpRequest) : FtpEvent → Prop
  | .message again => again.payload = r.payload ∧ Addressed build again ∧ again.memory1.isSome ∧ again.memory2
  | .send _ => True

/-- A repetition is answered with the reply that was kept, and nothing is done. -/
def Repeats (m : FtpMessage) (s : FtpServer Φ) : FtpEvent → Prop
  | .message again => ¬s.Executes again ∧ s.handleMessage fs build again = (s.ensureBuffersExist again,some m.kept)
  | .send _ => True

/-- A repetition finds the reply still kept, and its number is not the last one. -/
def Retains (p : FtpPayload) (m : FtpMessage) (s : FtpServer Φ) : FtpEvent → Prop
  | .message _ => s.lastReply = some m.kept ∧ p.seqNumber.toNat ≠ 65535
  | .send _ => True

/-- No time-out and no packet of a stream takes the place of the reply. -/
def Spares (s : FtpServer Φ) : FtpEvent → Prop
  | .message _ => True
  | .send e => (s.send fs e).1.lastReply = s.lastReply

lemma repeats_iff (size : r.payload.size.toNat ≤ kMaxDataLength) (next : m.payload.seqNumber = r.payload.seqNumber+1#16)
    (e : FtpEvent) (resent : Resends build r e) : s.Repeats fs build m e ↔ s.Retains r.payload m e := by
  cases e with
  | send e => exact Iff.rfl
  | message again =>
    obtain ⟨same,addressed,memory1,memory2⟩ := resent
    have buffers : s.HasBuffers again := ⟨.inr memory1,.inr memory2⟩
    obtain ⟨buffer1,-,available⟩ := buffers.available
    have fits : ¬again.payload.size.toNat > kMaxDataLength := by
      rw [same]
      exact not_lt.mpr size
    have retains : s.Retains r.payload m (.message again) ↔ s.resends again.payload = some m.kept := by
      rw [resends,Option.filter_eq_some_iff,same,isResent_next _ m.kept.payload next]
      rfl
    rw [retains,Repeats,handleMessage_addressed fs build addressed,FtpServer.processRequest,available,Option.elim_some,
      if_neg fits]
    change _ ∧ (s.resends again.payload).elim _ _ = _ ↔ _
    cases found : s.resends again.payload with
    | none => exact ⟨fun repeats => absurd ⟨buffers,not_lt.mp fits,found⟩ repeats.1,nofun⟩
    | some last =>
      constructor
      · intro repeats
        exact congrArg Prod.snd repeats.2
      · intro kept
        refine ⟨fun executes => ?_,congrArg _ kept⟩
        rw [executes.fresh] at found
        cases found

end FtpServer

def pathsOnly : FileSystem (List Path) where
  stat files path := if path ∈ files then .done ⟨0,true,true⟩ else .failed Errno.enoent
  openFile files path flags :=
    if path ∈ files then (files,.done 3)
    else if flags.create then (files ++ [path],.done 3) else (files,.failed Errno.enoent)
  close files _ := files
  lseek files fd _ := (files,if fd < 0 then .failed Errno.ebadf else .done ())
  read files fd _ := (files,if fd < 0 then .failed Errno.ebadf else .done [])
  write files fd bytes := (files,if fd < 0 then ⟨-1,Errno.ebadf⟩ else ⟨bytes.length,0⟩)
  unlink files path := if path ∈ files then (files.erase path,.done ()) else (files,.failed Errno.enoent)
  rename files source destination :=
    if source ∈ files then (files.erase source ++ [destination],.done ()) else (files,.failed Errno.enoent)
  mkdir files path := if path ∈ files then (files,.failed Errno.eexist) else (files ++ [path],.done ())
  rmdir files path := if path ∈ files then (files.erase path,.done ()) else (files,.failed Errno.enoent)
  truncate files path _ := (files,if path ∈ files then .done () else .failed Errno.enoent)
  opendir files _ := (files,.failed Errno.enoent)
  readdir files _ := (files,.nothing 0)
  closedir files _ := files
  remaining _ _ := 0
  read_remaining files fd n bytes read := by
    split at read
    · cases read
    · cases read
      exact ⟨Nat.zero_le n,le_refl 0⟩

def flightBuild : FtpBuild := ⟨true,1#8,1#8,fun _ checksum => checksum⟩

/-- "/fs/microsd/a". -/
def someFile : Path := microsd ++ [97#8]

def asking (seq : Nat) (opcode : Nat) (data : List Byte) : FtpRequest where
  now := 1000000
  memory1 := some []
  memory2 := true
  sysid := 255#8
  compid := 190#8
  targetSystem := 1#8
  targetComponent := 1#8
  payload := {
    seqNumber := BitVec.ofNat 16 seq
    session := 0#8
    opcode := BitVec.ofNat 8 opcode
    size := BitVec.ofNat 8 data.length
    reqOpcode := 0#8
    burstComplete := 0#8
    offset := 0#32
    data := data ++ [0#8,0#8] }
  behind := []

namespace FtpServer

end FtpServer
end AerialManipulator
