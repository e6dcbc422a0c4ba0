import Uam.Library.Bytes
import Uam.Library.Cyclic
import Uam.Library.Runs

/-! The writer of log files, after `LogWriterFile`. Producers fill a buffer under a mutex;
one thread takes the data out and releases the mutex while it writes. A wait may end at any
time; file operations succeed. -/
namespace AerialManipulator
open Bytes Cyclic Runs
open Bool (and_eq_true false_ne_true not_eq_true')

inductive LogType
  | full
  | mission
  deriving DecidableEq

structure LogFileBuffer where
  bufferSize : Nat
  opened : Bool
  buffer : Nat → Byte
  head : Nat
  count : Nat
  totalWritten : Nat
  shouldRun : Bool

structure ReadPtr where
  position : Nat
  available : Nat
  isPart : Bool
  deriving DecidableEq

namespace LogFileBuffer
variable (b : LogFileBuffer)

def available : Nat := b.bufferSize-b.count

def writeNoCheck (data : List Byte) : LogFileBuffer :=
  { b with
    buffer := Cyclic.store b.bufferSize b.buffer b.head data
    head := ((if data.length > b.bufferSize - b.head then 0 else b.head) +
      (data.length - if data.length > b.bufferSize - b.head then b.bufferSize - b.head else 0)) % b.bufferSize
    count := b.count+data.length }

/-- The `int` of the source is a `Nat`, for buffers below 2 GiB. -/
def getReadPtr : ReadPtr :=
  if b.head < b.count then
    let position := b.head+b.bufferSize-b.count
    ⟨position,b.bufferSize-position,true⟩
  else ⟨b.head-b.count,b.count,false⟩

def startLog : LogFileBuffer := {b with opened := true, head := 0, count := 0, totalWritten := 0, shouldRun := true}

def markRead (n : Nat) : LogFileBuffer := {b with count := b.count-n, totalWritten := b.totalWritten+n}

def closeFile : LogFileBuffer := {b with head := 0, count := 0, opened := false}

end LogFileBuffer

/-- Where the thread is in `run`: waiting for a log, at a buffer with the mutex, without it before
and after the write, in `fsync`, at the end. -/
inductive WriterState
  | idle
  | service (type : LogType)
  | writing (type : LogType) (data : ReadPtr)
  | written (type : LogType) (data : ReadPtr)
  | syncing (type : LogType)
  | roundEnd
  deriving DecidableEq

inductive WriterJob
  | away
  | writing (data : ReadPtr)
  | written (data : ReadPtr)

def WriterState.job (type : LogType) : WriterState → WriterJob
  | .writing other data => if other = type then .writing data else .away
  | .written other data => if other = type then .written data else .away
  | _ => .away

def WriterJob.data : WriterJob → Option ReadPtr
  | .away => none
  | .writing data => some data
  | .written data => some data

structure LogWriter where
  buffers : LogType → LogFileBuffer
  thread : WriterState
  file : LogType → List Byte
  /-- What `write` has accepted for it. -/
  accepted : LogType → List Byte

inductive LogEvent
  | startLog (type : LogType)
  | stopLog (type : LogType)
  | write (type : LogType) (dropout data : List Byte)
  | run (callFsync : Bool)

namespace LogWriter

def minWriteChunk : Nat := 4096

def minAvailable : LogType → Nat
  | .full => minWriteChunk
  | .mission => 1

def following : LogType → WriterState
  | .mission => .service .full
  | .full => .roundEnd

def new (bufferSize : Nat) : LogWriter where
  buffers
    | .full => ⟨max bufferSize (minWriteChunk+300),false,fun _ => 0,0,0,0,false⟩
    | .mission => ⟨300,false,fun _ => 0,0,0,0,false⟩
  thread := .idle
  file _ := []
  accepted _ := []

variable (w : LogWriter)

def setBuffer (type : LogType) (b : LogFileBuffer) : LogWriter :=
  {w with buffers := Function.update w.buffers type b}

def startLog (type : LogType) : LogWriter :=
  if (w.buffers type).opened then w
  else
    { w.setBuffer type (w.buffers type).startLog with
      file := Function.update w.file type []
      accepted := Function.update w.accepted type [] }

def stopLog (type : LogType) : LogWriter := w.setBuffer type {w.buffers type with shouldRun := false}

def write (type : LogType) (dropout data : List Byte) : LogWriter :=
  let b := w.buffers type
  if !b.shouldRun || data.length+dropout.length > b.available then w
  else
    { w.setBuffer type ((b.writeNoCheck dropout).writeNoCheck data) with
      accepted := Function.update w.accepted type (w.accepted type ++ dropout ++ data) }

def service (type : LogType) (callFsync : Bool) : LogWriter :=
  let b := w.buffers type
  let data := b.getReadPtr
  if data.available ≥ minAvailable type || data.isPart || !b.shouldRun && data.available > 0 then
    {w with thread := .writing type data}
  else if callFsync && b.shouldRun then {w with thread := .syncing type}
  else if data.available = 0 && !b.shouldRun then {w.setBuffer type b.closeFile with thread := following type}
  else {w with thread := following type}

def writeToFile (type : LogType) (data : ReadPtr) : LogWriter :=
  let b := w.buffers type
  { w with
    file := Function.update w.file type
      (w.file type ++ (List.range data.available).map fun k => b.buffer (data.position + k))
    thread := .written type data }

def finish (type : LogType) (data : ReadPtr) : LogWriter :=
  let b := (w.buffers type).markRead data.available
  { w.setBuffer type (if !b.shouldRun && !data.isPart then b.closeFile else b) with
    -- if split into two parts, the second is written immediately as well
    thread := if data.isPart then .service type else following type }

def run (callFsync : Bool) : LogWriter :=
  match w.thread with
  | .idle =>
    if (w.buffers .full).shouldRun || (w.buffers .mission).shouldRun then {w with thread := .service .mission} else w
  | .service type => w.service type callFsync
  | .writing type data => w.writeToFile type data
  | .written type data => w.finish type data
  | .syncing type => {w with thread := following type}
  | .roundEnd =>
    if (w.buffers .full).opened || (w.buffers .mission).opened then {w with thread := .service .mission}
    else {w with thread := .idle}

def step : LogEvent → LogWriter
  | .startLog type => w.startLog type
  | .stopLog type => w.stopLog type
  | .write type dropout data => w.write type dropout data
  | .run callFsync => w.run callFsync

/-- A file that a step closes holds all that was accepted for it. -/
def ClosesComplete (event : LogEvent) : Prop :=
  ∀ type, (w.buffers type).opened = true → ((w.step event).buffers type).opened = false →
    (w.step event).file type = (w.step event).accepted type

/-- The last part of a buffer is being written, and more has arrived since. -/
def Overtaken (type : LogType) : Prop :=
  ∃ data, (w.thread.job type).data = some data ∧ data.isPart = false ∧ data.available < (w.buffers type).count

def StopsInTime : LogEvent → Prop
  | .stopLog type => ¬ w.Overtaken type
  | _ => True

end LogWriter

namespace LogFileBuffer
variable {b : LogFileBuffer}

structure Valid (b : LogFileBuffer) : Prop where
  inside : b.head < b.bufferSize
  fits : b.count ≤ b.bufferSize

def pending (b : LogFileBuffer) : List Byte :=
  Cyclic.window b.bufferSize b.buffer b.getReadPtr.position b.count

lemma length_pending (b : LogFileBuffer) : b.pending.length = b.count := by rw [pending,length_window]

lemma getReadPtr_position (b : LogFileBuffer) :
    b.getReadPtr.position = if b.head < b.count then b.head+b.bufferSize-b.count else b.head-b.count := by
  rw [getReadPtr]
  split <;> rfl

lemma Valid.position_lt (valid : b.Valid) : b.getReadPtr.position < b.bufferSize := by
  have inside := valid.inside
  rw [getReadPtr_position]
  split <;> omega

lemma Valid.position_add_count (valid : b.Valid) : (b.getReadPtr.position + b.count) % b.bufferSize = b.head := by
  have inside := valid.inside
  have fits := valid.fits
  rw [getReadPtr_position]
  split
  · rw [Nat.sub_add_cancel (by omega),Nat.add_mod_right,Nat.mod_eq_of_lt inside]
  · rw [Nat.sub_add_cancel (by omega),Nat.mod_eq_of_lt inside]

lemma Valid.position_eq (valid : b.Valid) (within : position < b.bufferSize)
    (behind : (position + b.count) % b.bufferSize = b.head) : b.getReadPtr.position = position := by
  have same : (b.getReadPtr.position + b.count) % b.bufferSize = (position + b.count) % b.bufferSize := by
    rw [behind,valid.position_add_count]
  have equal := Nat.ModEq.add_right_cancel' b.count same
  rwa [Nat.ModEq,Nat.mod_eq_of_lt valid.position_lt,Nat.mod_eq_of_lt within] at equal

lemma Valid.available_le (valid : b.Valid) : b.getReadPtr.available ≤ b.count ∧
    b.getReadPtr.position+b.getReadPtr.available ≤ b.bufferSize := by
  have inside := valid.inside
  have fits := valid.fits
  rw [getReadPtr]
  split
  all_goals
    dsimp only
    omega

lemma available_eq_count (whole : b.getReadPtr.isPart = false) : b.getReadPtr.available = b.count := by
  rw [getReadPtr] at whole ⊢
  split at whole
  · cases whole
  next behind => rw [if_neg behind]

lemma count_pos_of_isPart (part : b.getReadPtr.isPart) : 0 < b.count := by
  rw [getReadPtr] at part
  split at part
  next behind => exact Nat.zero_lt_of_lt behind
  · cases part

lemma writeNoCheck_head (data : List Byte) (inside : b.head < b.bufferSize) :
    (b.writeNoCheck data).head = (b.head + data.length) % b.bufferSize := by
  rw [writeNoCheck]
  split
  · have turn : b.head+data.length = 0+(data.length-(b.bufferSize-b.head))+b.bufferSize := by omega
    rw [turn,Nat.add_mod_right]
  · rw [Nat.sub_zero]

lemma Valid.writeNoCheck (valid : b.Valid) {data : List Byte} (fits : b.count+data.length ≤ b.bufferSize) :
    (b.writeNoCheck data).Valid ∧ (b.writeNoCheck data).getReadPtr.position = b.getReadPtr.position ∧
      (b.writeNoCheck data).pending = b.pending ++ data := by
  have head := writeNoCheck_head data valid.inside
  have stays : (b.writeNoCheck data).Valid := by
    refine ⟨?_,fits⟩
    rw [head]
    exact Nat.mod_lt _ (by have := valid.inside; omega)
  have position : (b.writeNoCheck data).getReadPtr.position = b.getReadPtr.position := by
    apply stays.position_eq valid.position_lt
    have count : (b.writeNoCheck data).count = b.count+data.length := rfl
    have size : (b.writeNoCheck data).bufferSize = b.bufferSize := rfl
    rw [head,count,size,← Nat.add_assoc,← Nat.mod_add_mod,valid.position_add_count]
  refine ⟨stays,position,?_⟩
  rw [pending,position]
  exact window_store b.buffer valid.inside valid.position_add_count fits

lemma Valid.markRead (valid : b.Valid) (within : n ≤ b.count) :
    (b.markRead n).Valid ∧ (b.markRead n).pending = b.pending.drop n := by
  have stays : (b.markRead n).Valid := ⟨valid.inside,(Nat.sub_le b.count n).trans valid.fits⟩
  refine ⟨stays,?_⟩
  have position : (b.markRead n).getReadPtr.position = (b.getReadPtr.position + n) % b.bufferSize := by
    apply stays.position_eq (Nat.mod_lt _ (Nat.zero_lt_of_lt valid.inside))
    have rest : b.getReadPtr.position+n+(b.count-n) = b.getReadPtr.position+b.count := by omega
    change ((b.getReadPtr.position + n) % b.bufferSize + (b.count - n)) % b.bufferSize = b.head
    rw [Nat.mod_add_mod,rest,valid.position_add_count]
  have split : b.pending = window b.bufferSize b.buffer b.getReadPtr.position n ++ (b.markRead n).pending := by
    rw [pending,pending,position]
    change _ = _ ++ window b.bufferSize b.buffer ((b.getReadPtr.position + n) % b.bufferSize) (b.count - n)
    rw [window_mod,← window_add,Nat.add_sub_cancel' within]
  rw [split,List.drop_left' (length_window _ _ _ _)]

lemma chunk_eq_take {available : Nat} (within : available ≤ b.count)
    (inside : b.getReadPtr.position+available ≤ b.bufferSize) :
    ((List.range available).map fun k => b.buffer (b.getReadPtr.position+k)) = b.pending.take available := by
  rw [← window_eq_map b.buffer inside,pending]
  have split : b.count = available+(b.count-available) := by omega
  rw [split,window_add,List.take_left' (length_window _ _ _ _)]

end LogFileBuffer

namespace WriterJob

def ahead : WriterJob → Nat
  | written data => data.available
  | _ => 0

end WriterJob

/-- The thread writes a first part of the buffer; once the log is stopped all of it, unless a second part follows. -/
structure Busy (b : LogFileBuffer) (data : ReadPtr) : Prop where
  position : data.position = b.getReadPtr.position
  inside : data.position+data.available ≤ b.bufferSize
  within : data.available ≤ b.count
  whole : data.isPart = false → b.shouldRun = false → data.available = b.count

structure SoundLog (b : LogFileBuffer) (file accepted : List Byte) (job : WriterJob) : Prop where
  valid : b.Valid
  closed : b.opened = false → b.count = 0 ∧ b.shouldRun = false ∧ job = .away
  kept : b.opened = true → accepted = file ++ b.pending.drop job.ahead
  busy : ∀ data, job.data = some data → Busy b data

namespace SoundLog
variable {b : LogFileBuffer} {file accepted : List Byte} {job : WriterJob}

section
variable (sound : SoundLog b file accepted job)
include sound

lemma opened_of_count (some : 0 < b.count) : b.opened := by
  cases opened : b.opened with
  | true => rfl
  | false => exact absurd (sound.closed opened).1 some.ne'

lemma startLog (closed : b.opened = false) : SoundLog b.startLog [] [] job := by
  obtain ⟨_,_,rfl⟩ := sound.closed closed
  have size := Nat.zero_lt_of_lt sound.valid.inside
  refine ⟨⟨size,Nat.zero_le _⟩,fun closed => ?_,fun _ => rfl,fun data found => ?_⟩
  · cases closed
  · cases found

lemma stopLog (inTime : ∀ data, job.data = some data → data.isPart = false → ¬data.available < b.count) :
    SoundLog {b with shouldRun := false} file accepted job := by
  refine ⟨⟨sound.valid.inside,sound.valid.fits⟩,fun closed => ?_,sound.kept,fun data found => ?_⟩
  · exact ⟨(sound.closed closed).1,rfl,(sound.closed closed).2.2⟩
  · have busy := sound.busy data found
    exact ⟨busy.position,busy.inside,busy.within,
      fun last _ => busy.within.antisymm (Nat.not_lt.mp (inTime data found last))⟩

lemma write (running : b.shouldRun) {data : List Byte}
    (fits : b.count + data.length ≤ b.bufferSize) : SoundLog (b.writeNoCheck data) file (accepted ++ data) job := by
  obtain ⟨valid,position,pending⟩ := sound.valid.writeNoCheck fits
  have opened : b.opened := by
    cases opened : b.opened with
    | true => rfl
    | false => exact absurd running (by simp [(sound.closed opened).2.1])
  have ahead : job.ahead ≤ b.pending.length := by
    rw [b.length_pending]
    cases job with
    | written data => exact (sound.busy data rfl).within
    | away | writing data => exact Nat.zero_le _
  refine ⟨valid,fun closed => ?_,fun _ => ?_,fun data found => ?_⟩
  · exact absurd (closed.symm.trans opened) false_ne_true
  · rw [pending,List.drop_append_of_le_length ahead,sound.kept opened,List.append_assoc]
  · have busy := sound.busy data found
    refine ⟨busy.position.trans position.symm,busy.inside,busy.within.trans (Nat.le_add_right _ _),fun _ stopped => ?_⟩
    exact absurd (stopped.symm.trans running) false_ne_true

end

lemma starts (sound : SoundLog b file accepted .away) (some : 0 < b.count) :
    SoundLog b file accepted (.writing b.getReadPtr) := by
  obtain ⟨within,inside⟩ := sound.valid.available_le
  refine ⟨sound.valid,fun closed => ?_,sound.kept,fun data found => ?_⟩
  · exact absurd (sound.opened_of_count some) (by simp [closed])
  · cases found
    exact ⟨rfl,inside,within,fun last _ => LogFileBuffer.available_eq_count last⟩

lemma writeToFile {data : ReadPtr} (sound : SoundLog b file accepted (.writing data)) :
    SoundLog b (file ++ (List.range data.available).map fun k => b.buffer (data.position + k)) accepted
      (.written data) := by
  have busy := sound.busy data rfl
  refine ⟨sound.valid,fun closed => ?_,fun opened => ?_,fun other found => sound.busy other found⟩
  · cases (sound.closed closed).2.2
  · rw [busy.position,LogFileBuffer.chunk_eq_take busy.within (busy.position ▸ busy.inside),List.append_assoc]
    simpa [WriterJob.ahead] using sound.kept opened

lemma markRead (sound : SoundLog b file accepted (.written data)) :
    SoundLog (b.markRead data.available) file accepted .away := by
  have busy := sound.busy data rfl
  obtain ⟨valid,pending⟩ := sound.valid.markRead busy.within
  refine ⟨valid,fun closed => ?_,fun opened => ?_,fun other found => by cases found⟩
  · cases (sound.closed closed).2.2
  · rw [pending]
    simpa [WriterJob.ahead] using sound.kept opened

lemma closeFile (sound : SoundLog b file accepted .away) (stopped : b.shouldRun = false) :
    SoundLog b.closeFile file accepted .away := by
  have size := Nat.zero_lt_of_lt sound.valid.inside
  refine ⟨⟨size,Nat.zero_le _⟩,fun _ => ⟨rfl,stopped,rfl⟩,fun opened => ?_,fun other found => ?_⟩
  · cases opened
  · cases found

lemma complete (sound : SoundLog b file accepted .away) (opened : b.opened) (empty : b.count = 0) :
    file = accepted := by
  have nothing : b.pending = [] := List.length_eq_zero_iff.mp (b.length_pending.trans empty)
  simpa [nothing] using (sound.kept opened).symm

end SoundLog

structure LogInvariant (P : LogFileBuffer → List Byte → List Byte → WriterJob → Prop) : Prop where
  valid : P b file accepted job → b.Valid
  startLog : P b file accepted job → b.opened = false → P b.startLog [] [] job
  write : P b file accepted job → b.shouldRun → ∀ data : List Byte, b.count+data.length ≤ b.bufferSize →
    P (b.writeNoCheck data) file (accepted ++ data) job
  starts : P b file accepted .away → 0 < b.count → P b file accepted (.writing b.getReadPtr)
  closeFile : P b file accepted .away → b.shouldRun = false → b.count = 0 → P b.closeFile file accepted .away

namespace LogWriter
variable {w : LogWriter} {type : LogType}

lemma job_writing (apart : other ≠ type) (data : ReadPtr) :
    (WriterState.writing type data).job other = .away := if_neg apart.symm

lemma job_written (apart : other ≠ type) (data : ReadPtr) :
    (WriterState.written type data).job other = .away := if_neg apart.symm

lemma job_following (type other : LogType) : (following type).job other = .away := by
  cases type <;> rfl

lemma count_pos_of_writes {b : LogFileBuffer} (valid : b.Valid)
    (some : (b.getReadPtr.available ≥ minAvailable type || b.getReadPtr.isPart ||
      !b.shouldRun && b.getReadPtr.available > 0)) : 0 < b.count := by
  have minimum : 0 < minAvailable type := by cases type <;> decide
  have within := valid.available_le.1
  simp only [Bool.or_eq_true,and_eq_true,decide_eq_true_iff] at some
  rcases some with (enough | part) | ⟨_,rest⟩
  · omega
  · exact LogFileBuffer.count_pos_of_isPart part
  · omega

def Each (P : LogFileBuffer → List Byte → List Byte → WriterJob → Prop) (w : LogWriter) : Prop :=
  ∀ type, P (w.buffers type) (w.file type) (w.accepted type) (w.thread.job type)

namespace Each
variable {P : LogFileBuffer → List Byte → List Byte → WriterJob → Prop} (inv : LogInvariant P) (each : w.Each P)
include each

lemma change (type : LogType) {next : LogWriter}
    (here : P (next.buffers type) (next.file type) (next.accepted type) (next.thread.job type))
    (others : ∀ other, other ≠ type → next.buffers other = w.buffers other ∧ next.file other = w.file other ∧
      next.accepted other = w.accepted other ∧ next.thread.job other = w.thread.job other) : next.Each P := by
  intro other
  by_cases same : other = type
  · rw [same]
    exact here
  · obtain ⟨buffer,file,accepted,job⟩ := others other same
    rw [buffer,file,accepted,job]
    exact each other

lemma move {thread : WriterState} (same : ∀ type, thread.job type = w.thread.job type) :
    {w with thread := thread}.Each P := by
  intro type
  have here := each type
  rw [← same type] at here
  exact here

lemma setBuffer (type : LogType) (here : P b (w.file type) (w.accepted type) (w.thread.job type)) :
    (w.setBuffer type b).Each P := by
  refine each.change type ?_ fun other apart => ?_
  · simpa [LogWriter.setBuffer] using here
  · simp [LogWriter.setBuffer,apart]

lemma writeToFile (here : w.thread = .writing type data) {part : ReadPtr} (wrote : P (w.buffers type)
      (w.file type ++ (List.range part.available).map fun k => (w.buffers type).buffer (part.position + k))
      (w.accepted type) (.written part)) : (w.writeToFile type part).Each P := by
  refine each.change type ?_ fun other apart => ?_
  · simpa [LogWriter.writeToFile,WriterState.job] using wrote
  · simp [LogWriter.writeToFile,apart,here,job_writing apart,job_written apart]

lemma finish (here : w.thread = .written type data) (done : P b (w.file type) (w.accepted type) .away) :
    {w.setBuffer type b with thread := if data.isPart then .service type else following type}.Each P := by
  have next (other : LogType) : (if data.isPart then .service type else following type).job other = .away := by
    split
    · rfl
    · exact job_following type other
  refine each.change type ?_ fun other apart => ?_
  · simpa [LogWriter.setBuffer,next] using done
  · simp [LogWriter.setBuffer,apart,next,here,job_written apart]

include inv

lemma startLog (type : LogType) : (w.startLog type).Each P := by
  rw [LogWriter.startLog]
  split
  · exact each
  next closed =>
    refine each.change type ?_ fun other apart => ?_
    · simpa [LogWriter.setBuffer] using inv.startLog (each type) (by simpa using closed)
    · simp [LogWriter.setBuffer,apart]

lemma write (type : LogType) (dropout data : List Byte) : (w.write type dropout data).Each P := by
  rw [LogWriter.write]
  split
  · exact each
  next fits =>
    rw [Bool.or_eq_true,not_or,decide_eq_true_iff,Nat.not_lt,LogFileBuffer.available] at fits
    have running : (w.buffers type).shouldRun := by simpa using fits.1
    have bound := (inv.valid (each type)).fits
    have room : (w.buffers type).count+dropout.length+data.length ≤ (w.buffers type).bufferSize := by omega
    refine each.change type ?_ fun other apart => ?_
    · have first := inv.write (each type) running dropout (by omega)
      simpa [LogWriter.setBuffer] using inv.write first running data room
    · simp [LogWriter.setBuffer,apart]

lemma service (here : w.thread = .service type) (callFsync : Bool) : (w.service type callFsync).Each P := by
  have away (other : LogType) : w.thread.job other = .away := by rw [here]; rfl
  have idle := each type
  rw [away type] at idle
  have next : {w with thread := following type}.Each P :=
    each.move fun other => (job_following type other).trans (away other).symm
  rw [LogWriter.service]
  split_ifs with some sync done
  · refine each.change type ?_ fun other apart => ?_
    · simpa [WriterState.job] using inv.starts idle (count_pos_of_writes (inv.valid idle) some)
    · exact ⟨rfl,rfl,rfl,(job_writing apart _).trans (away other).symm⟩
  · exact each.move fun other => (away other).symm
  · rw [and_eq_true,decide_eq_true_iff,not_eq_true'] at done
    rw [Bool.not_eq_true,Bool.or_eq_false_iff,Bool.or_eq_false_iff] at some
    refine next.setBuffer type ?_
    rw [job_following]
    exact inv.closeFile idle done.2 ((LogFileBuffer.available_eq_count some.1.2).symm.trans done.1)
  · exact next

lemma run (away : ∀ type, w.thread.job type = .away) (callFsync : Bool) : (w.run callFsync).Each P := by
  have moves {thread : WriterState} (there : ∀ type, thread.job type = .away) : {w with thread := thread}.Each P :=
    each.move fun type => (there type).trans (away type).symm
  rw [LogWriter.run]
  split
  · split
    · exact moves fun _ => rfl
    · exact each
  next type here => exact each.service inv here callFsync
  next type data here =>
    have busy := away type
    simp [here,WriterState.job] at busy
  next type data here =>
    have busy := away type
    simp [here,WriterState.job] at busy
  next type _ => exact moves (job_following type)
  · split <;> exact moves fun _ => rfl

end Each

structure CompleteLog (b : LogFileBuffer) (file accepted : List Byte) (job : WriterJob) : Prop
    extends SoundLog b file accepted job where
  complete : b.opened = false → file = accepted

lemma CompleteLog.of_empty (log : CompleteLog b bytes all .away) (empty : b.count = 0) : bytes = all := by
  cases opened : b.opened with
  | true => exact log.toSoundLog.complete opened empty
  | false => exact log.complete opened

lemma completeLog_invariant : LogInvariant CompleteLog where
  valid log := log.valid
  startLog log closed := ⟨log.toSoundLog.startLog closed,fun _ => rfl⟩
  write log running data fits := by
    refine ⟨log.toSoundLog.write running fits,fun closed => ?_⟩
    cases (log.closed closed).2.1.symm.trans running
  starts log some := ⟨log.toSoundLog.starts some,log.complete⟩
  closeFile log stopped empty := ⟨log.toSoundLog.closeFile stopped,fun _ => log.of_empty empty⟩

lemma complete_step (each : w.Each CompleteLog) (event : LogEvent) (inTime : w.StopsInTime event) :
    (w.step event).Each CompleteLog := by
  cases event with
  | startLog type => exact each.startLog completeLog_invariant type
  | stopLog type =>
    have stopped := (each type).toSoundLog.stopLog fun data found last more => inTime ⟨data,found,last,more⟩
    exact each.setBuffer type ⟨stopped,(each type).complete⟩
  | write type dropout data => exact each.write completeLog_invariant type dropout data
  | run callFsync =>
    rw [step]
    cases here : w.thread with
    | writing type data =>
      have busy := each type
      rw [here,WriterState.job,if_pos rfl] at busy
      rw [run,here]
      refine each.writeToFile here ⟨busy.toSoundLog.writeToFile,fun closed => ?_⟩
      cases (busy.closed closed).2.2
    | written type data =>
      have busy := each type
      rw [here,WriterState.job,if_pos rfl] at busy
      have opened : (w.buffers type).opened := by
        cases opened : (w.buffers type).opened with
        | true => rfl
        | false => cases (busy.closed opened).2.2
      have marked : CompleteLog ((w.buffers type).markRead data.available) (w.file type) (w.accepted type) .away :=
        ⟨busy.toSoundLog.markRead,fun closed => by cases closed.symm.trans opened⟩
      rw [run,here]
      refine each.finish here ?_
      split
      next stopped =>
        -- the log was stopped and this was the last part, so nothing is left in the buffer
        rw [and_eq_true,not_eq_true',not_eq_true'] at stopped
        have whole := (busy.busy data rfl).whole stopped.2 stopped.1
        exact completeLog_invariant.closeFile marked stopped.1 (Nat.sub_eq_zero_of_le whole.ge)
      · exact marked
    | _ => exact each.run completeLog_invariant (fun _ => by rw [here]; rfl) callFsync

def Sound (w : LogWriter) : Prop :=
  ∀ type, SoundLog (w.buffers type) (w.file type) (w.accepted type) (w.thread.job type)

lemma sound_new (bufferSize : Nat) : (new bufferSize).Sound := by
  intro type
  have size : 0 < ((new bufferSize).buffers type).bufferSize := by
    cases type with
    | full => exact lt_of_lt_of_le (by decide) (le_max_right bufferSize (minWriteChunk+300))
    | mission => exact Nat.succ_pos 299
  have closed : ((new bufferSize).buffers type).opened = false := by cases type <;> rfl
  have empty : ((new bufferSize).buffers type).count = 0 ∧ ((new bufferSize).buffers type).head = 0 ∧
      ((new bufferSize).buffers type).shouldRun = false := by cases type <;> exact ⟨rfl,rfl,rfl⟩
  refine ⟨⟨empty.2.1 ▸ size,empty.1 ▸ Nat.zero_le _⟩,fun _ => ⟨empty.1,empty.2.2,rfl⟩,fun opened => ?_,
    fun data found => ?_⟩
  · exact absurd (closed.symm.trans opened) false_ne_true
  · cases found

/-- If no log is stopped while more has arrived than is being written, every closed file holds all that was accepted. -/
theorem closes_complete (bufferSize : Nat) (events : List LogEvent)
    (inTime : Along step StopsInTime (new bufferSize) events) :
    Along step ClosesComplete (new bufferSize) events :=
  along_of_invariant (Each CompleteLog) (fun _ event inTime each => complete_step each event inTime)
    (fun _ event inTime each type _ closed => (complete_step each event inTime type).complete closed) inTime
    fun type => ⟨sound_new bufferSize type,fun _ => rfl⟩

def stoppedEarly : List LogEvent :=
  [.startLog .mission,.write .mission [] [1],.run false,.stopLog .mission,.run false,.run false,.run false]

theorem closes_complete_stoppedEarly :
    Along step StopsInTime (new 0) stoppedEarly ∧ Along step ClosesComplete (new 0) stoppedEarly := by
  have inTime : Along step StopsInTime (new 0) stoppedEarly := by
    refine ⟨trivial,trivial,trivial,?_,trivial,trivial,trivial,trivial⟩
    intro overtaken
    obtain ⟨data,found,_⟩ := overtaken
    cases found
  exact ⟨inTime,closes_complete 0 stoppedEarly inTime⟩

def stoppedWhileWriting : List LogEvent :=
  [.startLog .mission,.write .mission [] [1],.run false,.run false,.write .mission [] [2],.stopLog .mission,.run false,
    .run false]

theorem not_closes_complete_stoppedWhileWriting : ¬ Along step ClosesComplete (new 0) stoppedWhileWriting := by
  intro complete
  have last := ((along_append (new 0) (stoppedWhileWriting.take 7) (stoppedWhileWriting.drop 7)).mp complete).2.1
  have equal := last .mission (by decide +kernel) (by decide +kernel)
  revert equal
  decide +kernel

end LogWriter
end AerialManipulator
