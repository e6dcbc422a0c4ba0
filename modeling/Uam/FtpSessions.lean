import Uam.FtpRetries

/-! Sessions: who may use one, and when a stream runs. -/
namespace AerialManipulator
open Bytes Files Runs

def FtpOpcode.usesSession : FtpOpcode → Bool
  | .readFile | .writeFile | .burstReadFile | .terminateSession => true
  | _ => false

def FtpPayload.IsRefusal (p : FtpPayload) : Prop :=
  p.opcode = kRspNak ∧ p.size = 1#8 ∧ p.data.head? = some FtpError.invalidSession.number

def FtpSession.StreamOpen (x : FtpSession) : Prop := x.streamDownload = true → 0 ≤ x.fd

namespace FtpTask
variable {Φ : Type} (fs : FileSystem Φ) (build : FtpBuild) (t : FtpTask Φ)

lemma streamOpen_workOpen (flags : OpenFlags) (before : t.session.StreamOpen) :
    (t.workOpen fs build flags).task.session.StreamOpen := by
  unfold workOpen
  dsimp only
  (repeat' split) <;> first | exact before | exact nofun

lemma streamOpen_work (sysid compid : Byte) (opcode : FtpOpcode) (before : t.session.StreamOpen)
    (burst : opcode = .burstReadFile → 0 ≤ t.session.fd ∨ t.payload.session ≠ 0#8) :
    (t.work fs build sysid compid opcode).task.session.StreamOpen := by
  have stays {o : FtpOutcome Φ} (same : o.task.untouched = t.untouched) : o.task.session.StreamOpen := by
    have session : o.task.session = t.session := congrArg Prod.snd same
    rw [session]
    exact before
  cases opcode with
  | none => exact before
  | terminateSession =>
    change (t.workTerminate fs).task.session.StreamOpen
    unfold workTerminate
    split
    · exact before
    · exact nofun
  | resetSessions =>
    change (t.workReset fs).task.session.StreamOpen
    unfold workReset
    split
    · exact nofun
    · exact before
  | burstReadFile =>
    change (t.workBurst sysid compid).task.session.StreamOpen
    unfold workBurst
    split
    · exact before
    next founded =>
    intro _
    by_contra closed
    have closed : t.session.fd < 0 := by simpa using closed
    rcases burst rfl with there | other
    · omega
    · exact founded ⟨other,closed⟩
  | openFileRO | createFile | openFileWO => exact t.streamOpen_workOpen fs build _ before
  | listDirectory => exact stays (t.untouched_workList fs build)
  | readFile => exact stays (t.untouched_workRead fs)
  | writeFile => exact stays (t.untouched_workWrite fs build)
  | removeFile | createDirectory | removeDirectory => exact stays (t.untouched_workOnPath build _)
  | rename => exact stays (t.untouched_workRename fs build)
  | truncateFile => exact stays (t.untouched_workTruncateFile fs build)
  | calcFileCRC32 => exact stays (t.untouched_workCalcFileCRC32 fs build)

def Finds (session : Byte) (fd : Int) : FtpOpcode → Prop
  | .writeFile | .burstReadFile => session ≠ 0#8 ∧ fd < 0
  | _ => session ≠ 0#8 ∨ fd < 0

lemma work_finds {opcode : FtpOpcode} (uses : opcode.usesSession)
    (finds : Finds t.payload.session t.session.fd opcode) :
    t.work fs build sysid compid opcode = ⟨t,.invalidSession,none⟩ := by
  cases opcode with
  | readFile | writeFile | burstReadFile | terminateSession => exact if_pos finds
  | _ => cases uses

lemma errorCode_workWrite (missed : ¬(t.payload.session ≠ 0#8 ∧ t.session.fd < 0)) :
    (t.workWrite fs build).errorCode ≠ .invalidSession := by
  unfold workWrite
  rw [if_neg missed]
  dsimp only
  (repeat' split) <;> exact nofun

lemma work_misses {opcode : FtpOpcode} (uses : opcode.usesSession)
    (without : t.payload.session ≠ 0#8 ∨ t.session.fd < 0) (misses : ¬Finds t.payload.session t.session.fd opcode) :
    (t.work fs build sysid compid opcode).errorCode ≠ .invalidSession := by
  cases opcode with
  | readFile | terminateSession => exact absurd without misses
  | writeFile => exact t.errorCode_workWrite fs build misses
  | burstReadFile =>
    have misses : ¬(t.payload.session ≠ 0#8 ∧ t.session.fd < 0) := misses
    change (t.workBurst sysid compid).errorCode ≠ _
    rw [workBurst,if_neg misses]
    exact nofun
  | _ => cases uses

end FtpTask

namespace FtpServer
variable {Φ : Type} (fs : FileSystem Φ) (build : FtpBuild) {s : FtpServer Φ} {r : FtpRequest}

def held (s : FtpServer Φ) : Φ × FtpSession := (s.files,s.session)

lemma held_reply (s : FtpServer Φ) (m : FtpMessage) : (s.reply m).held = s.held := by
  unfold reply
  split <;> rfl

lemma held_finish (s : FtpServer Φ) (r : FtpRequest) (p : FtpPayload) (errorCode : FtpError) (streamSend : Bool) :
    (s.finish r p errorCode streamSend).1.held = s.held := by
  unfold finish
  split
  · exact held_reply ..
  · rfl

variable {errorCode : FtpError} {opcode : FtpOpcode}

lemma finish_error (failed : errorCode ≠ .none) (streamSend : Bool) :
    (s.finish r p errorCode streamSend).2 = some ⟨r.sysid,r.compid,answer p errorCode s.ourErrno⟩ := by
  unfold finish
  rw [if_pos (by simp [failed])]

inductive Fate (s : FtpServer Φ) (r : FtpRequest) : Prop
  | noMemory (result : s.processRequest fs build r =
      finish {s.ensureBuffersExist r with ourErrno := Errno.enomem} r r.payload .failErrno false)
  | tooLong (result : s.processRequest fs build r = (s.ensureBuffersExist r).finish r r.payload .invalidDataSize false)
  | repeated {last : FtpMessage} (buffers : s.HasBuffers r) (size : r.payload.size.toNat ≤ kMaxDataLength)
      (resends : s.resends r.payload = some last)
      (result : s.processRequest fs build r = (s.ensureBuffersExist r,some last))
  | executed (executes : s.Executes r)

lemma workBuffer_none (missing : ¬s.HasBuffers r) : (s.ensureBuffersExist r).workBuffer = none := by
  unfold workBuffer ensureBuffersExist
  split
  · next second =>
    have first : ¬(s.buffer1.or r.memory1).isSome := by
      intro first
      exact missing ⟨by simpa using first,by simpa using second⟩
    simpa using first
  · rfl

lemma fate (s : FtpServer Φ) (r : FtpRequest) : s.Fate fs build r := by
  by_cases buffers : s.HasBuffers r
  · obtain ⟨buffer1,-,available⟩ := buffers.available
    by_cases size : r.payload.size.toNat > kMaxDataLength
    · exact .tooLong (by rw [processRequest,available,Option.elim_some,if_pos size])
    cases resends : s.resends r.payload with
    | none => exact .executed ⟨buffers,not_lt.mp size,resends⟩
    | some last =>
      refine .repeated buffers (not_lt.mp size) resends ?_
      have again : (s.ensureBuffersExist r).resends r.payload = some last := resends
      rw [processRequest,available,Option.elim_some,if_neg size,again,Option.elim_some]
  · exact .noMemory (by rw [processRequest,workBuffer_none buffers,Option.elim_none])

lemma held_of_not_executes (idle : ¬s.Executes r) : (s.processRequest fs build r).1.held = s.held := by
  cases s.fate fs build r with
  | noMemory result | tooLong result =>
    rw [result,held_finish]
    rfl
  | repeated buffers size resends result =>
    rw [result]
    rfl
  | executed executes => exact absurd executes idle

lemma held_processRequest (s : FtpServer Φ) (r : FtpRequest) : (s.processRequest fs build r).1.held = s.held ∨
    s.Executes r ∧ ∃ opcode buffer1,FtpOpcode.ofByte r.payload.opcode = some opcode ∧
      let task := (FtpTask.work fs build ⟨s.files,s.session,buffer1,r.payload,r.behind⟩ r.sysid r.compid opcode).task
      (s.processRequest fs build r).1.held = (task.files,task.session) := by
  by_cases executes : s.Executes r
  · obtain ⟨buffer1,-,same⟩ := executes.processRequest fs build
    rw [same,execute,held_finish,outcome]
    cases asks : FtpOpcode.ofByte r.payload.opcode with
    | none => exact .inl rfl
    | some opcode => exact .inr ⟨executes,opcode,buffer1,rfl,rfl⟩
  · exact .inl (held_of_not_executes fs build executes)

lemma shownError_invalidSession :
    shownError errorCode errno = .invalidSession ↔ errorCode = .invalidSession ∧ errno ≠ Errno.eexist := by
  unfold shownError
  split
  next exist => simp [exist]
  next other =>
  split
  next missing => simp [missing]
  · simp [other]

lemma isRefusal_answer :
    (answer p errorCode errno).IsRefusal ↔ p.data ≠ [] ∧ errorCode = .invalidSession ∧ errno ≠ Errno.eexist := by
  rw [← shownError_invalidSession]
  unfold answer
  split
  · next fine =>
    constructor
    · intro refusal
      cases refusal.1
    · intro ⟨_,shown⟩
      rw [shownError_invalidSession,fine] at shown
      cases shown.1
  · unfold nak
    split
    · next failed =>
      rw [failed]
      constructor
      · intro refusal
        cases refusal.2.1
      · intro ⟨_,shown⟩
        cases shown
    · unfold FtpPayload.IsRefusal
      cases p.data with
      | nil => simp
      | cons first rest => cases shownError errorCode errno <;> simp [FtpError.number]

/-- The request works on the open file, but names another session or comes when no file is open. -/
structure Unfounded (s : FtpServer Φ) (r : FtpRequest) (opcode : FtpOpcode) : Prop where
  asks : FtpOpcode.ofByte r.payload.opcode = some opcode
  uses : opcode.usesSession = true
  without : r.payload.session ≠ 0#8 ∨ s.session.fd < 0

def Refuses (s : FtpServer Φ) (r : FtpRequest) : Prop :=
  ∃ m,(s.processRequest fs build r).2 = some m ∧ m.payload.IsRefusal

/-- The handler finds out with no old error in the way, or the request was refused before. -/
inductive Noticed (s : FtpServer Φ) (r : FtpRequest) (opcode : FtpOpcode) : Prop
  | tested (executes : s.Executes r) (errno : s.ourErrno ≠ Errno.eexist)
      (finds : FtpTask.Finds r.payload.session s.session.fd opcode)
  | repeated {last : FtpMessage} (buffers : s.HasBuffers r) (size : r.payload.size.toNat ≤ kMaxDataLength)
      (resends : s.resends r.payload = some last) (refusal : last.payload.IsRefusal)

lemma Unfounded.outcome (apart : s.Unfounded r opcode) (buffer1 : List Byte) :
    (s.ensureBuffersExist r).outcome fs build r buffer1 =
      FtpTask.work fs build ⟨s.files,s.session,buffer1,r.payload,r.behind⟩ r.sysid r.compid opcode := by
  rw [FtpServer.outcome,apart.asks]
  rfl

lemma Executes.refuses_iff (executes : s.Executes r) (room : r.payload.data ≠ [])
    (apart : s.Unfounded r opcode) : s.Refuses fs build r ↔
      s.ourErrno ≠ Errno.eexist ∧ FtpTask.Finds r.payload.session s.session.fd opcode := by
  obtain ⟨buffer1,-,same⟩ := executes.processRequest fs build
  rw [Refuses,same,execute,apart.outcome]
  constructor
  · rintro ⟨m,answered,refusal⟩
    obtain ⟨rfl,-⟩ := finish_some answered
    obtain ⟨-,code,errno⟩ := isRefusal_answer.mp refusal
    have finds : FtpTask.Finds r.payload.session s.session.fd opcode := by
      by_contra misses
      exact FtpTask.work_misses fs build _ apart.uses apart.without misses code
    rw [FtpTask.work_finds fs build _ apart.uses finds] at errno
    exact ⟨errno,finds⟩
  · intro ⟨errno,finds⟩
    rw [FtpTask.work_finds fs build _ apart.uses finds]
    have failed : FtpError.invalidSession ≠ .none := by decide
    refine ⟨_,finish_error failed _,?_⟩
    exact isRefusal_answer.mpr ⟨room,rfl,errno⟩

lemma refuses_iff (room : r.payload.data ≠ []) (apart : s.Unfounded r opcode) :
    s.Refuses fs build r ↔ s.Noticed r opcode := by
  constructor
  · intro refuses
    cases s.fate fs build r with
    | noMemory result | tooLong result =>
      obtain ⟨m,answered,refusal⟩ := refuses
      rw [result] at answered
      obtain ⟨rfl,-⟩ := finish_some answered
      obtain ⟨-,code,-⟩ := isRefusal_answer.mp refusal
      cases code
    | repeated buffers size resends result =>
      obtain ⟨m,answered,refusal⟩ := refuses
      rw [result] at answered
      cases answered
      exact .repeated buffers size resends refusal
    | executed executes =>
      obtain ⟨errno,finds⟩ := (executes.refuses_iff fs build room apart).mp refuses
      exact .tested executes errno finds
  · intro noticed
    cases noticed with
    | tested executes errno finds => exact (executes.refuses_iff fs build room apart).mpr ⟨errno,finds⟩
    | repeated buffers size resends refusal =>
      obtain ⟨buffer1,-,available⟩ := buffers.available
      have again : (s.ensureBuffersExist r).resends r.payload = some _ := resends
      refine ⟨_,?_,refusal⟩
      rw [processRequest,available,Option.elim_some,if_neg (not_lt.mpr size),again]
      rfl

lemma Noticed.held (noticed : s.Noticed r opcode) (apart : s.Unfounded r opcode) :
    (s.processRequest fs build r).1.held = s.held := by
  cases noticed with
  | tested executes errno finds =>
    obtain ⟨buffer1,-,same⟩ := executes.processRequest fs build
    rw [same,execute,held_finish,apart.outcome,FtpTask.work_finds fs build _ apart.uses finds]
    rfl
  | repeated buffers size resends refusal =>
    apply held_of_not_executes
    intro executes
    rw [executes.fresh] at resends
    cases resends

lemma streamOpen_processRequest (before : s.session.StreamOpen)
    (noticed : ∀ opcode,s.Unfounded r opcode → s.Noticed r opcode) :
    (s.processRequest fs build r).1.session.StreamOpen := by
  obtain held | ⟨executes,opcode,buffer1,asks,held⟩ := s.held_processRequest fs build r
  · exact (Prod.mk.inj held).2.symm ▸ before
  refine (Prod.mk.inj held).2.symm ▸ FtpTask.streamOpen_work fs build _ r.sysid r.compid opcode before ?_
  rintro rfl
  by_contra neither
  push Not at neither
  have apart : s.Unfounded r .burstReadFile := ⟨asks,rfl,.inr neither.1⟩
  cases noticed _ apart with
  | tested executes errno finds => exact finds.1 neither.2
  | repeated buffers size resends refusal =>
    rw [executes.fresh] at resends
    cases resends

section
variable (invariant : Φ × FtpSession → Prop)
  (sent : ∀ s : FtpServer Φ,∀ room stack,invariant s.held →
    invariant ((s.packet fs room stack).files,(s.packet fs room stack).session))
include sent

lemma streamLoop_invariant (stack : Nat → FtpPayload) (fuel room : Nat) (before : invariant s.held) :
    invariant (streamLoop fs stack fuel room s).1.held := by
  induction fuel generalizing room s with
  | zero => exact before
  | succ fuel ih =>
    have replied (m : FtpMessage) : invariant ({s with
        files := (s.packet fs room (stack fuel)).files
        session := (s.packet fs room (stack fuel)).session}.reply m).held := by
      rw [held_reply]
      exact sent s room (stack fuel) before
    unfold streamLoop
    dsimp only
    split
    · exact ih _ (replied _)
    · exact replied _

lemma send_invariant (ended : ∀ files session,invariant (files,session) →
      invariant (fs.close files session.fd,{session with fd := -1,streamDownload := false}))
    (e : FtpSend) (before : invariant s.held) : invariant (s.send fs e).1.held := by
  have tidied : invariant (s.tidy fs e.now).held := by
    unfold tidy
    (repeat' split) <;> first | exact before | exact ended s.files s.session before
  unfold send
  dsimp only
  (repeat' split)
  · exact tidied
  · exact tidied
  · exact streamLoop_invariant fs invariant sent e.stack _ _ tidied

end

lemma streamOpen_send (e : FtpSend) (before : s.session.StreamOpen) : (s.send fs e).1.session.StreamOpen := by
  refine send_invariant fs (fun held => held.2.StreamOpen) ?_ (fun _ _ _ => nofun) e before
  intro s room stack before
  have before : s.session.StreamOpen := before
  unfold packet streamNak streamAck
  dsimp only
  (repeat' split) <;> first | exact before | exact nofun

lemma handleMessage_other (other : ¬Addressed build r) : s.handleMessage fs build r = (s,none) := if_neg other

/-- Requests without a session are refused and change nothing; a stream needs an open file. -/
def SessionsValid (s : FtpServer Φ) : FtpEvent → Prop
  | .message r =>
    (Addressed build r → ∀ opcode,s.Unfounded r opcode →
      (∃ m,(s.handleMessage fs build r).2 = some m ∧ m.payload.IsRefusal) ∧ (s.handleMessage fs build r).1.held = s.held) ∧
    (s.handleMessage fs build r).1.session.StreamOpen
  | .send e => (s.send fs e).1.session.StreamOpen

def AllNoticed (s : FtpServer Φ) : FtpEvent → Prop
  | .message r => Addressed build r → ∀ opcode,s.Unfounded r opcode → s.Noticed r opcode
  | .send _ => True

def HasRoom : FtpEvent → Prop
  | .message r => r.payload.data ≠ []
  | .send _ => True

lemma sessionsValid_step (e : FtpEvent) (room : HasRoom e) (before : s.session.StreamOpen) :
    s.SessionsValid fs build e ↔ s.AllNoticed build e := by
  cases e with
  | send e => exact iff_of_true (streamOpen_send fs e before) trivial
  | message r =>
    by_cases addressed : Addressed build r
    · have same := handleMessage_addressed fs build addressed (s := s)
      constructor
      · intro valid _ opcode unfounded
        obtain ⟨refused,-⟩ := valid.1 addressed opcode unfounded
        rw [same] at refused
        exact (refuses_iff fs build room unfounded).mp refused
      · intro noticed
        have noticed := noticed addressed
        rw [SessionsValid,same]
        refine ⟨fun _ opcode unfounded => ⟨?_,?_⟩,streamOpen_processRequest fs build before noticed⟩
        · exact (refuses_iff fs build room unfounded).mpr (noticed opcode unfounded)
        · exact (noticed opcode unfounded).held fs build unfounded
    · refine iff_of_true ⟨fun addresses => absurd addresses addressed,?_⟩ fun addresses => absurd addresses addressed
      rw [handleMessage_other fs build addressed]
      exact before

lemma SessionsValid.streamOpen (valid : s.SessionsValid fs build e) : (s.step fs build e).session.StreamOpen := by
  cases e with
  | message r => exact valid.2
  | send e => exact valid

/-- Sessions are respected along a run exactly if every request without its session is noticed. -/
theorem sessions_valid_iff (files : Φ) {events : List FtpEvent} (room : ∀ e ∈ events,HasRoom e) :
    Along (step fs build) (SessionsValid fs build) (start files) events ↔
      Along (step fs build) (AllNoticed build) (start files) events := by
  have admitted : Along (step fs build) (fun _ e => HasRoom e) (start files) events :=
    along_of_mem (fun e member _ => room e member) _
  refine along_congr_along (fun s => s.session.StreamOpen) ?_ ?_ admitted nofun
  · intro s e _ valid _
    exact valid.streamOpen fs build
  · intro s e room before
    exact sessionsValid_step fs build e room before

theorem sessions_valid_before_opening :
    Along (step pathsOnly flightBuild) (SessionsValid pathsOnly flightBuild) (start [someFile])
        [.message (asking 1 5 []),.message (asking 3 4 someFile)] ↔
      Along (step pathsOnly flightBuild) (AllNoticed flightBuild) (start [someFile])
        [.message (asking 1 5 []),.message (asking 3 4 someFile)] :=
  sessions_valid_iff pathsOnly flightBuild [someFile] (by simp [HasRoom,asking])

/-- A burst starts a stream without an open file; a request of another session writes to the open file. -/
theorem sessions_not_tested : let burst := (start [someFile]).handleMessage pathsOnly flightBuild (asking 1 15 [])
    let opened := (start [someFile]).handleMessage pathsOnly flightBuild (asking 1 11 someFile)
    let other := asking 3 7 [1#8]
    let written := opened.1.handleMessage pathsOnly flightBuild { other with payload := { other.payload with session := 9#8 } }
    burst.2 = none ∧ burst.1.session.fd = -1 ∧ burst.1.session.streamDownload = true ∧ opened.1.session.fd = 3 ∧
      written.2.map (fun m => (m.payload.opcode,m.payload.data.take 4)) = some (kRspAck,[1#8,0#8,0#8,0#8]) := by
  decide +kernel

end FtpServer
end AerialManipulator
