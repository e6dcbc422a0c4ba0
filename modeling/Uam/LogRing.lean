import Uam.LogWriter

/-! The writer of log files with a file system that writes less than it is asked to, or fails. -/
namespace AerialManipulator
open Bytes Cyclic

/-- `asked` is what the last write was asked to write, nothing if it failed twice. -/
structure LogWriting extends LogWriter where
  asked : Option Nat

namespace LogWriter
variable (w : LogWriter)

def writeSome (type : LogType) (data : ReadPtr) (outcome : Option Nat) : LogWriter :=
  w.writeToFile type {data with available := outcome.elim 0 (min data.available)}

def finishSome (type : LogType) (data : ReadPtr) (asked : Option Nat) : LogWriter :=
  let b := (w.buffers type).markRead data.available
  { w.setBuffer type (asked.elim { b with shouldRun := false }.closeFile fun asked =>
      -- stop only when all data written
      if !b.shouldRun && data.available = asked && !data.isPart then b.closeFile else b) with
    thread := if data.isPart then .service type else following type }

end LogWriter

namespace LogWriting

def new (bufferSize : Nat) : LogWriting := ⟨.new bufferSize,none⟩

/-- What comes of a write to a file: how much is written, nothing if it fails twice. -/
def step (w : LogWriting) (event : LogEvent × Option Nat) : LogWriting :=
  match event.1,w.thread with
  | .run _,.writing type data => ⟨w.writeSome type data event.2,event.2.map fun _ => data.available⟩
  | .run _,.written type data => ⟨w.finishSome type data w.asked,w.asked⟩
  | event,_ => ⟨w.toLogWriter.step event,w.asked⟩

/-- The file and the rest of the buffer are all that was accepted; no write changes what is being written out. -/
structure Intact (w : LogWriting) : Prop where
  kept : ∀ type, (w.buffers type).opened = true →
    w.file type ++ (w.buffers type).pending.drop (w.thread.job type).ahead = w.accepted type
  spared : ∀ type data, (w.thread.job type).data = some data → ∀ dropout bytes k, k < data.available →
    ((w.write type dropout bytes).buffers type).buffer (data.position+k) =
      (w.buffers type).buffer (data.position+k)

end LogWriting

structure KeptLog (b : LogFileBuffer) (file accepted : List Byte) (job : WriterJob) : Prop where
  opened : b.shouldRun → b.opened
  sound : SoundLog {b with shouldRun := b.opened} file accepted job

namespace KeptLog
variable {b : LogFileBuffer} {file accepted : List Byte} {job : WriterJob}

lemma writeSome (kept : KeptLog b file accepted (.writing data)) (part : n ≤ data.available) :
    KeptLog b (file ++ (List.range n).map fun k => b.buffer (data.position + k)) accepted
      (.written {data with available := n}) := by
  have busy := kept.sound.busy data rfl
  have opened : b.opened = true := by
    cases opened : b.opened with
    | true => rfl
    | false => cases (kept.sound.closed opened).2.2
  have less : SoundLog {b with shouldRun := b.opened} file accepted (.writing {data with available := n}) := by
    refine ⟨kept.sound.valid,fun closed => ?_,kept.sound.kept,fun _ found => ?_⟩
    · cases closed.symm.trans opened
    · cases found
      exact ⟨busy.position,(Nat.add_le_add_left part _).trans busy.inside,part.trans busy.within,
        fun _ stopped => by cases stopped.symm.trans opened⟩
  exact ⟨kept.opened,less.writeToFile⟩

lemma closeFile (kept : KeptLog b file accepted .away) (stopped : b.shouldRun = false) :
    KeptLog b.closeFile file accepted .away := by
  refine ⟨fun running => ?_,(kept.sound.stopLog fun _ found => by cases found).closeFile rfl⟩
  cases running.symm.trans stopped

lemma invariant : LogInvariant KeptLog where
  valid kept := ⟨kept.sound.valid.inside,kept.sound.valid.fits⟩
  startLog kept closed := ⟨fun _ => rfl,kept.sound.startLog closed⟩
  write kept running _ fits := ⟨fun _ => kept.opened running,kept.sound.write (kept.opened running) fits⟩
  starts kept some := ⟨kept.opened,kept.sound.starts some⟩
  closeFile kept stopped _ := kept.closeFile stopped

end KeptLog

namespace LogWriting
variable {w : LogWriting}

lemma kept_step (kept : w.Each KeptLog) (event : LogEvent × Option Nat) : (w.step event).Each KeptLog := by
  obtain ⟨event,outcome⟩ := event
  cases event with
  | startLog type => exact kept.startLog KeptLog.invariant type
  | stopLog type => exact kept.setBuffer type ⟨by simp,(kept type).sound⟩
  | write type dropout data => exact kept.write KeptLog.invariant type dropout data
  | run callFsync =>
    rw [step]
    cases here : w.thread with
    | writing type data =>
      have busy := kept type
      rw [here,WriterState.job,if_pos rfl] at busy
      have part : outcome.elim 0 (min data.available) ≤ data.available := by cases outcome <;> simp
      exact kept.writeToFile here (busy.writeSome part)
    | written type data =>
      have busy := kept type
      rw [here,WriterState.job,if_pos rfl] at busy
      have marked : KeptLog ((w.buffers type).markRead data.available) (w.file type) (w.accepted type) .away :=
        ⟨busy.opened,busy.sound.markRead⟩
      refine kept.finish here ?_
      cases w.asked with
      | none => exact KeptLog.closeFile ⟨by simp,marked.sound⟩ rfl
      | some asked =>
        rw [Option.elim_some]
        split
        next all =>
          simp only [Bool.and_eq_true,Bool.not_eq_true'] at all
          exact marked.closeFile all.1.1
        · exact marked
    | _ => exact kept.run KeptLog.invariant (fun _ => by rw [here]; rfl) callFsync

lemma kept_new (bufferSize : Nat) : (new bufferSize).Each KeptLog := by
  intro type
  have sound := LogWriter.sound_new bufferSize type
  cases type with
  | full | mission => exact ⟨by simp [new,LogWriter.new],sound⟩

lemma region_writeNoCheck {b : LogFileBuffer} {data : List Byte} (valid : b.Valid)
    (room : b.count+data.length ≤ b.bufferSize) (within : k+1 ≤ b.count)
    (inside : b.getReadPtr.position+(k+1) ≤ b.bufferSize) :
    (b.writeNoCheck data).buffer (b.getReadPtr.position+k) = b.buffer (b.getReadPtr.position+k) := by
  obtain ⟨_,position,pending⟩ := valid.writeNoCheck room
  have before := LogFileBuffer.chunk_eq_take within inside
  have after := LogFileBuffer.chunk_eq_take (b := b.writeNoCheck data) (within.trans (Nat.le_add_right _ _))
    (position ▸ inside)
  rw [position,pending,List.take_append_of_le_length (by rwa [b.length_pending]),← before] at after
  simpa using congrArg (·[k]?) after

lemma intact_of_kept (kept : w.Each KeptLog) : w.Intact := by
  refine ⟨fun type opened => ((kept type).sound.kept opened).symm,fun type data found dropout bytes k inside => ?_⟩
  have valid := KeptLog.invariant.valid (kept type)
  have busy := (kept type).sound.busy data found
  have place : data.position = (w.buffers type).getReadPtr.position := busy.position
  have within : k+1 ≤ (w.buffers type).count := Nat.le_trans inside busy.within
  have ends : data.position+(k+1) ≤ (w.buffers type).bufferSize :=
    (Nat.add_le_add_left (Nat.succ_le_of_lt inside) _).trans busy.inside
  rw [LogWriter.write]
  split
  · rfl
  next fits =>
    rw [Bool.or_eq_true,not_or,decide_eq_true_iff,Nat.not_lt,LogFileBuffer.available] at fits
    have bound := valid.fits
    have room : (w.buffers type).count+dropout.length+bytes.length ≤ (w.buffers type).bufferSize := by omega
    have some : (w.buffers type).count+dropout.length ≤ (w.buffers type).bufferSize := by omega
    obtain ⟨valid',position,_⟩ := valid.writeNoCheck some
    have first := region_writeNoCheck valid some within (place ▸ ends)
    have second := region_writeNoCheck valid' room (within.trans (Nat.le_add_right _ _)) (position ▸ place ▸ ends)
    rw [position] at second
    simpa [LogWriter.setBuffer,place] using second.trans first

/-- In every run the file and the buffer are what was accepted, and what is being written out is not changed. -/
theorem intact_run (bufferSize : Nat) (events : List (LogEvent × Option Nat)) :
    (events.foldl step (new bufferSize)).Intact :=
  intact_of_kept (Runs.foldl_preserved (fun w : LogWriting => w.Each KeptLog) (fun _ event kept => kept_step kept event)
    (kept_new bufferSize) events)

end LogWriting
end AerialManipulator
