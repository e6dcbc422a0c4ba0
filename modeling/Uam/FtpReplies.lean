import Uam.FtpRetries

/-! What a reply tells about earlier requests: `_our_errno` and the path in the first work buffer outlive them. -/
namespace AerialManipulator
open Bytes Files Option
open Errno (eexist)
open FtpOpcode (ofByte)
open Option (map)

def FtpOutcome.shown {Φ : Type} (o : FtpOutcome Φ) : FtpPayload × FtpError × Option Nat := (o.task.payload,o.errorCode,o.errno)

namespace FtpTask
variable {Φ : Type} (fs : FileSystem Φ) (build : FtpBuild) (t : FtpTask Φ) (old : List Byte)

lemma shown_workOpen (flags : OpenFlags) :
    ({t with buffer1 := old}.workOpen fs build flags).shown = (t.workOpen fs build flags).shown := by
  unfold workOpen
  split <;> rfl

lemma shown_workRead : ({t with buffer1 := old}.workRead fs).shown = (t.workRead fs).shown := by
  unfold workRead
  dsimp only
  (repeat' split) <;> rfl

lemma shown_workRename : ({t with buffer1 := old}.workRename fs build).shown = (t.workRename fs build).shown := by
  unfold workRename
  dsimp only
  split <;> rfl

lemma shown_workCalcFileCRC32 :
    ({t with buffer1 := old}.workCalcFileCRC32 fs build).shown = (t.workCalcFileCRC32 fs build).shown := by
  unfold workCalcFileCRC32
  dsimp only
  split
  · rfl
  · generalize crcLoop _ _ _ _ _ _ = crc
    cases crc.failed <;> rfl

section
variable (verdict : build.validatePathIsWritable old = build.validatePathIsWritable t.buffer1)
include verdict

lemma shown_workWrite : ({t with buffer1 := old}.workWrite fs build).shown = (t.workWrite fs build).shown := by
  unfold workWrite
  dsimp only
  rw [verdict]
  (repeat' split) <;> rfl

lemma shown_work (sysid compid : Byte) (opcode : FtpOpcode) :
    ({t with buffer1 := old}.work fs build sysid compid opcode).shown = (t.work fs build sysid compid opcode).shown := by
  cases opcode with
  | none => rfl
  | terminateSession | resetSessions | burstReadFile =>
    simp only [work,workTerminate,workReset,workBurst]
    split <;> rfl
  | listDirectory | removeFile | createDirectory | removeDirectory | truncateFile => rfl
  | openFileRO | createFile | openFileWO => exact t.shown_workOpen fs build old _
  | readFile => exact t.shown_workRead fs old
  | writeFile => exact t.shown_workWrite fs build old verdict
  | rename => exact t.shown_workRename fs build old
  | calcFileCRC32 => exact t.shown_workCalcFileCRC32 fs build old

end
end FtpTask

namespace FtpServer
variable {Φ : Type} (build : FtpBuild) {s₁ s₂ : FtpServer Φ}

/-- The reply to the next request is the same, whatever it asks for; one with the last number gets the last reply. -/
def SameReplies (s₁ s₂ : FtpServer Φ) : Prop :=
  ∀ (fs : FileSystem Φ) (r : FtpRequest),s₁.resends r.payload = none → s₂.resends r.payload = none →
    (s₁.processRequest fs build r).2 = (s₂.processRequest fs build r).2

structure LookAlike (first second : Nat) : Prop where
  byte : first % 2^8 = second % 2^8
  exist : first = Errno.eexist ↔ second = Errno.eexist
  missing : first = Errno.enoent ↔ second = Errno.enoent

structure Alike (s₁ s₂ : FtpServer Φ) : Prop where
  errno : LookAlike s₁.ourErrno s₂.ourErrno
  buffer1 : s₁.buffer1.map build.validatePathIsWritable = s₂.buffer1.map build.validatePathIsWritable
  buffer2 : s₁.buffer2 = s₂.buffer2

lemma LookAlike.refl (errno : Nat) : LookAlike errno errno := ⟨rfl,Iff.rfl,Iff.rfl⟩

variable {first second : Nat}

lemma LookAlike.shownError (alike : LookAlike first second) (errorCode : FtpError) :
    shownError errorCode first = shownError errorCode second := by
  unfold FtpServer.shownError
  rw [if_congr alike.exist rfl rfl]
  simp only [alike.missing]

lemma LookAlike.answer (alike : LookAlike first second) (p : FtpPayload) (errorCode : FtpError) :
    answer p errorCode first = answer p errorCode second := by
  have byte : BitVec.ofNat 8 first = BitVec.ofNat 8 second := BitVec.eq_of_toNat_eq (by simpa using alike.byte)
  unfold FtpServer.answer nak
  rw [alike.shownError,byte]

lemma finish_congr {s₁ s₂ : FtpServer Φ} (alike : LookAlike s₁.ourErrno s₂.ourErrno) (r : FtpRequest) (p : FtpPayload)
    (errorCode : FtpError) (streamSend : Bool) :
    (s₁.finish r p errorCode streamSend).2 = (s₂.finish r p errorCode streamSend).2 := by
  unfold finish
  dsimp only
  split
  · rw [alike.answer]
  · rfl

section
variable (fs : FileSystem Φ) (r : FtpRequest) {first second : List Byte} (files : s₁.files = s₂.files)
  (session : s₁.session = s₂.session) (verdict : build.validatePathIsWritable first = build.validatePathIsWritable second)
include files session verdict

lemma outcome_congr : (s₁.outcome fs build r first).shown = (s₂.outcome fs build r second).shown := by
  unfold outcome
  rw [files,session]
  cases ofByte r.payload.opcode with
  | none => rfl
  | some opcode =>
    exact FtpTask.shown_work fs build ⟨s₂.files,s₂.session,second,r.payload,r.behind⟩ first verdict r.sysid r.compid opcode

lemma execute_congr (alike : LookAlike s₁.ourErrno s₂.ourErrno) :
    (s₁.execute fs build r first).2 = (s₂.execute fs build r second).2 := by
  have shown := outcome_congr build fs r files session verdict
  unfold execute
  generalize s₁.outcome fs build r first = o₁ at shown ⊢
  generalize s₂.outcome fs build r second = o₂ at shown ⊢
  obtain ⟨payload,code⟩ := Prod.mk.inj shown
  obtain ⟨errorCode,errno⟩ := Prod.mk.inj code
  dsimp only
  rw [payload,errorCode]
  apply finish_congr
  change LookAlike (o₁.errno.getD s₁.ourErrno) (o₂.errno.getD s₂.ourErrno)
  rw [errno]
  cases o₂.errno with
  | none => exact alike
  | some errno => exact .refl errno

end

lemma Alike.workBuffer (alike : Alike build s₁ s₂) (r : FtpRequest) :
    (s₁.ensureBuffersExist r).workBuffer.map build.validatePathIsWritable =
      (s₂.ensureBuffersExist r).workBuffer.map build.validatePathIsWritable := by
  have first : (s₁.buffer1.or r.memory1).map build.validatePathIsWritable =
      (s₂.buffer1.or r.memory1).map build.validatePathIsWritable := by
    rw [map_or,map_or,alike.buffer1]
  unfold FtpServer.workBuffer ensureBuffersExist
  rw [alike.buffer2]
  split
  · exact first
  · rfl

lemma Alike.sameReplies (alike : Alike build s₁ s₂) (files : s₁.files = s₂.files) (session : s₁.session = s₂.session) :
    SameReplies build s₁ s₂ := by
  intro fs r first second
  have fresh₁ : (s₁.ensureBuffersExist r).resends r.payload = none := first
  have fresh₂ : (s₂.ensureBuffersExist r).resends r.payload = none := second
  have buffers := alike.workBuffer build r
  unfold processRequest
  dsimp only
  generalize (s₁.ensureBuffersExist r).workBuffer = b₁ at buffers ⊢
  generalize (s₂.ensureBuffersExist r).workBuffer = b₂ at buffers ⊢
  rw [fresh₁,fresh₂]
  cases b₁ with
  | none =>
    cases b₂ with
    | none =>
      simp only [elim_none]
      apply finish_congr
      exact .refl _
    | some _ => cases buffers
  | some first =>
    cases b₂ with
    | none => cases buffers
    | some second =>
      have verdict := some.inj buffers
      simp only [elim_some,elim_none]
      split
      · apply finish_congr
        exact alike.errno
      · exact execute_congr build fs r files session verdict alike.errno

def accepting : FileSystem Φ where
  stat _ _ := .failed Errno.enoent
  openFile files _ _ := (files,.failed Errno.enoent)
  close files _ := files
  lseek files _ _ := (files,.done ())
  read files _ _ := (files,.failed Errno.ebadf)
  write files _ bytes := (files,⟨bytes.length,0⟩)
  unlink files _ := (files,.failed Errno.enoent)
  rename files _ _ := (files,.failed Errno.enoent)
  mkdir files _ := (files,.failed Errno.enoent)
  rmdir files _ := (files,.failed Errno.enoent)
  truncate files _ _ := (files,.failed Errno.enoent)
  opendir files _ := (files,.failed Errno.enoent)
  readdir files _ := (files,.nothing 0)
  closedir files _ := files
  remaining _ _ := 0
  read_remaining _ _ _ _ read := by cases read

lemma exists_fresh (s₁ s₂ : FtpServer Φ) : ∃ seq < 3,∀ p : FtpPayload,p.seqNumber = BitVec.ofNat 16 seq →
    s₁.resends p = none ∧ s₂.resends p = none := by
  have differs (s : FtpServer Φ) : ∃ taken : Nat,∀ seq < 3,seq+1 ≠ taken → ∀ p : FtpPayload,
      p.seqNumber = BitVec.ofNat 16 seq → s.resends p = none := by
    cases last : s.lastReply with
    | none => exact ⟨0,fun seq _ _ p _ => by rw [resends,last]; rfl⟩
    | some m =>
      refine ⟨m.payload.seqNumber.toNat,fun seq small other p number => ?_⟩
      have value : p.seqNumber.toNat = seq := by
        rw [number,BitVec.toNat_ofNat]
        exact Nat.mod_eq_of_lt (by omega)
      have missed : isResent p m.payload = false := by
        rw [isResent,value]
        exact decide_eq_false other
      rw [resends,last]
      simp [Option.filter,missed]
  obtain ⟨first,fresh₁⟩ := differs s₁
  obtain ⟨second,fresh₂⟩ := differs s₂
  have free : ∃ seq < 3,seq+1 ≠ first ∧ seq+1 ≠ second := by
    by_contra none
    have taken (seq : Nat) (small : seq < 3) : seq+1 = first ∨ seq+1 = second := by
      by_contra other
      exact none ⟨seq,small,by omega,by omega⟩
    have := taken 0 (by omega)
    have := taken 1 (by omega)
    have := taken 2 (by omega)
    omega
  obtain ⟨seq,small,other₁,other₂⟩ := free
  exact ⟨seq,small,fun p number => ⟨fresh₁ seq small other₁ p number,fresh₂ seq small other₂ p number⟩⟩

lemma opcode_answer (p : FtpPayload) (errorCode : FtpError) (errno : Nat) :
    (answer p errorCode errno).opcode = if errorCode = .none then kRspAck else kRspNak := by
  unfold answer nak
  (repeat' split) <;> rfl

lemma finish_replies (s : FtpServer Φ) (r : FtpRequest) (p : FtpPayload) (errorCode : FtpError) :
    (s.finish r p errorCode false).2 = some ⟨r.sysid,r.compid,answer p errorCode s.ourErrno⟩ := rfl

lemma processRequest_opcode {s : FtpServer Φ} {r : FtpRequest} (fs : FileSystem Φ) (fresh : s.resends r.payload = none)
    (size : r.payload.size.toNat ≤ kMaxDataLength) (direct : ofByte r.payload.opcode ≠ some .burstReadFile) :
    (s.processRequest fs build r).2.map (·.payload.opcode) = some ((s.ensureBuffersExist r).workBuffer.elim kRspNak fun buffer1 =>
      if ((s.ensureBuffersExist r).outcome fs build r buffer1).errorCode = .none then kRspAck else kRspNak) := by
  have fresh : (s.ensureBuffersExist r).resends r.payload = none := fresh
  unfold processRequest
  dsimp only
  cases (s.ensureBuffersExist r).workBuffer with
  | none =>
    rw [elim_none,finish_replies]
    exact congrArg some (opcode_answer ..)
  | some buffer1 =>
    rw [elim_some,if_neg (not_lt.mpr size),fresh,elim_none,execute,decide_eq_false direct,finish_replies]
    exact congrArg some (opcode_answer ..)

lemma data_answer {p : FtpPayload} (data : p.data = a::b::rest) (errno : Nat) :
    (answer p .failErrno errno).data = if errno = eexist then 8#8::b::rest
      else if errno = Errno.enoent then 10#8::b::rest else 2#8::BitVec.ofNat 8 errno::rest := by
  by_cases exist : errno = eexist
  · simp [answer,nak,shownError,exist,data,FtpError.number]
  · by_cases missing : errno = Errno.enoent
    · subst missing
      simp [answer,nak,shownError,data,FtpError.number,Errno.enoent,eexist]
    · simp [answer,nak,shownError,exist,missing,data,FtpError.number]

lemma lookAlike_of_answer {p : FtpPayload} (data : p.data = a::b::rest)
    (same : answer p .failErrno first = answer p .failErrno second) : LookAlike first second := by
  have bytes := congrArg FtpPayload.data same
  rw [data_answer data,data_answer data] at bytes
  have head := congrArg List.head? bytes
  have exist : first = eexist ↔ second = eexist := by
    (repeat' split at head) <;> simp_all
  have missing : first = Errno.enoent ↔ second = Errno.enoent := by
    (repeat' split at head) <;> simp_all
  refine ⟨?_,exist,missing⟩
  by_cases known : first = eexist ∨ first = Errno.enoent
  · rcases known with known | known
    · rw [known,exist.mp known]
    · rw [known,missing.mp known]
  · obtain ⟨other,found⟩ := not_or.mp known
    rw [if_neg other,if_neg found,if_neg (mt exist.mpr other),if_neg (mt missing.mpr found)] at bytes
    have number := congrArg BitVec.toNat (List.cons.inj (List.cons.inj bytes).2).1
    simpa using number

section
variable (same : SameReplies build s₁ s₂)
include same

lemma SameReplies.errno : LookAlike s₁.ourErrno s₂.ourErrno := by
  obtain ⟨seq,_,fresh⟩ := exists_fresh s₁ s₂
  obtain ⟨fresh₁,fresh₂⟩ := fresh (asking seq 13 [97#8]).payload rfl
  have replies := same accepting (asking seq 13 [97#8]) fresh₁ fresh₂
  have executes {s : FtpServer Φ} (fresh : s.resends (asking seq 13 [97#8]).payload = none) :
      s.Executes (asking seq 13 [97#8]) := ⟨⟨.inr rfl,.inr rfl⟩,by simp [asking,kMaxDataLength],fresh⟩
  have reply {s : FtpServer Φ} (executes : s.Executes (asking seq 13 [97#8])) :
      (s.processRequest accepting build (asking seq 13 [97#8])).2 =
        some ⟨255#8,190#8,answer (asking seq 13 [97#8]).payload.dataAsCstring .failErrno s.ourErrno⟩ := by
    obtain ⟨buffer1,-,processed⟩ := executes.processRequest accepting build
    rw [processed]
    rfl
  rw [reply (executes fresh₁),reply (executes fresh₂)] at replies
  have payload := congrArg FtpMessage.payload (some.inj replies)
  exact lookAlike_of_answer rfl payload

lemma SameReplies.present {r : FtpRequest} (fresh₁ : s₁.resends r.payload = none)
    (fresh₂ : s₂.resends r.payload = none) (empty : r.payload.opcode = 0#8) (size : r.payload.size.toNat ≤ kMaxDataLength) :
    (s₁.ensureBuffersExist r).workBuffer.isSome = (s₂.ensureBuffersExist r).workBuffer.isSome := by
  have nothing : ofByte r.payload.opcode = some .none := by rw [empty]; rfl
  have opcode {s : FtpServer Φ} (fresh : s.resends r.payload = none) :
      (s.processRequest accepting build r).2.map (fun m => m.payload.opcode) =
        some (if (s.ensureBuffersExist r).workBuffer.isSome then kRspAck else kRspNak) := by
    rw [processRequest_opcode build accepting fresh size (by rw [nothing]; decide)]
    unfold outcome
    rw [nothing]
    cases (s.ensureBuffersExist r).workBuffer <;> rfl
  have replies := congrArg (map fun m => m.payload.opcode) (same accepting r fresh₁ fresh₂)
  rw [opcode fresh₁,opcode fresh₂] at replies
  have ends := some.inj replies
  generalize (s₁.ensureBuffersExist r).workBuffer.isSome = first at ends ⊢
  generalize (s₂.ensureBuffersExist r).workBuffer.isSome = second at ends ⊢
  revert ends
  cases first <;> cases second <;> decide

lemma SameReplies.buffers : s₁.buffer2 = s₂.buffer2 ∧ s₁.buffer1.isSome = s₂.buffer1.isSome := by
  obtain ⟨seq,_,fresh⟩ := exists_fresh s₁ s₂
  obtain ⟨fresh₁,fresh₂⟩ := fresh (asking seq 0 []).payload rfl
  have second := same.present (r := {asking seq 0 [] with memory2 := false}) build fresh₁ fresh₂ rfl (by simp [asking])
  have shows₂ (s : FtpServer Φ) : (s.ensureBuffersExist {asking seq 0 [] with memory2 := false}).workBuffer.isSome = s.buffer2 := by
    unfold workBuffer ensureBuffersExist
    cases s.buffer2 <;> simp [asking]
  have first := same.present (r := {asking seq 0 [] with memory1 := none}) build fresh₁ fresh₂ rfl (by simp [asking])
  have shows₁ (s : FtpServer Φ) : (s.ensureBuffersExist {asking seq 0 [] with memory1 := none}).workBuffer = s.buffer1 := by
    unfold workBuffer ensureBuffersExist
    simp [asking]
  rw [shows₂,shows₂] at second
  rw [shows₁,shows₁] at first
  exact ⟨second,first⟩

lemma SameReplies.verdict {first second : List Byte} (there₁ : s₁.buffer1 = some first)
    (there₂ : s₂.buffer1 = some second) : build.validatePathIsWritable first = build.validatePathIsWritable second := by
  obtain ⟨seq,_,fresh⟩ := exists_fresh s₁ s₂
  obtain ⟨fresh₁,fresh₂⟩ := fresh (asking seq 7 []).payload rfl
  have opcode {s : FtpServer Φ} {buffer1 : List Byte} (fresh : s.resends (asking seq 7 []).payload = none)
      (there : s.buffer1 = some buffer1) :
      (s.processRequest accepting build (asking seq 7 [])).2.map (fun m => m.payload.opcode) =
        some (if build.validatePathIsWritable buffer1 then kRspAck else kRspNak) := by
    have work : (s.ensureBuffersExist (asking seq 7 [])).workBuffer = some buffer1 := by
      unfold workBuffer ensureBuffersExist
      simp [asking,there]
    have direct : ofByte (asking seq 7 []).payload.opcode ≠ some .burstReadFile := by
      change ofByte 7#8 ≠ _
      decide
    rw [processRequest_opcode build accepting fresh (by simp [asking]) direct,work,elim_some]
    change some (if (FtpTask.workWrite accepting build ⟨s.files,s.session,buffer1,(asking seq 7 []).payload,[]⟩).errorCode = .none
      then kRspAck else kRspNak) = _
    cases verdict : build.validatePathIsWritable buffer1 with
    | false => simp [FtpTask.workWrite,asking,verdict]
    | true => simp [FtpTask.workWrite,asking,verdict,accepting]
  have replies := congrArg (map fun m => m.payload.opcode) (same accepting (asking seq 7 []) fresh₁ fresh₂)
  rw [opcode fresh₁ there₁,opcode fresh₂ there₂] at replies
  have ends := some.inj replies
  generalize build.validatePathIsWritable first = first at ends ⊢
  generalize build.validatePathIsWritable second = second at ends ⊢
  revert ends
  cases first <;> cases second <;> decide

end

/-- The replies to whatever comes next are the same if the old outcomes look the same, and only then. -/
theorem replies_same_iff (files : s₁.files = s₂.files) (session : s₁.session = s₂.session) :
    SameReplies build s₁ s₂ ↔ Alike build s₁ s₂ := by
  refine ⟨fun same => ⟨same.errno,?_,same.buffers.1⟩,fun alike => alike.sameReplies build files session⟩
  have present := same.buffers.2
  cases there₁ : s₁.buffer1 with
  | none =>
    cases there₂ : s₂.buffer1 with
    | none => rfl
    | some second =>
      rw [there₁,there₂] at present
      cases present
  | some first =>
    cases there₂ : s₂.buffer1 with
    | none =>
      rw [there₁,there₂] at present
      cases present
    | some second => exact congrArg some (same.verdict build there₁ there₂)

def afterMkdir : FtpServer (List Path) := ((start [someFile]).processRequest pathsOnly flightBuild (asking 1 9 someFile)).1

def afterNothing : FtpServer (List Path) := ((start [someFile]).processRequest pathsOnly flightBuild (asking 1 0 [])).1

theorem replies_same_after_nothing : afterMkdir.files = afterNothing.files ∧ afterMkdir.session = afterNothing.session ∧
    (SameReplies flightBuild afterMkdir afterNothing ↔ Alike flightBuild afterMkdir afterNothing) :=
  ⟨rfl,rfl,replies_same_iff flightBuild rfl rfl⟩

/-- A read without a session is answered with the error of the directory. -/
theorem old_error_shown : afterMkdir.files = afterNothing.files ∧ afterMkdir.session = afterNothing.session ∧
    (afterMkdir.processRequest pathsOnly flightBuild (asking 5 5 [])).2.map (·.payload.data.head?) =
      some (some FtpError.failFileExists.number) ∧
    (afterNothing.processRequest pathsOnly flightBuild (asking 5 5 [])).2.map (·.payload.data.head?) =
      some (some FtpError.invalidSession.number) := by
  decide +kernel

end FtpServer
end AerialManipulator
