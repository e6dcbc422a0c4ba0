import Uam.Library.Bytes
import Uam.Library.CString
import Uam.Library.Runs

/-! Status texts in chunks. `MavlinkStatustextHandler` puts them together in the buffer it publishes
from; the collector says what is to be published. -/
namespace AerialManipulator.StatustextHandler
open Bytes CString List Runs

def logTextSize : Nat := 127

def textSize : Nat := 50

def missing : List Byte := "[ missing ... ]".toList.map fun c => BitVec.ofNat 8 c.toNat

structure Statustext where
  severity : Nat
  id : Nat
  chunkSeq : Nat
  text : List Byte
  size : text.length = textSize

structure LogMessage where
  timestamp : Nat
  severity : Nat
  text : List Byte
  deriving DecidableEq

structure Handler where
  logMsg : LogMessage
  lastLogChunkSeq : Int
  lastLogId : Nat

def strlen (buffer : List Byte) : Nat := (CString.text buffer).length

namespace Handler

def init : Handler := ⟨⟨0,0,List.replicate logTextSize 0⟩,-1,0⟩

def withText (h : Handler) (text : List Byte) : Handler := {h with logMsg := {h.logMsg with text := text}}

def shouldPublishPrevious (h : Handler) (m : Statustext) : Handler × Bool :=
  if h.lastLogId > 0 ∧ m.id ≠ h.lastLogId then
    let offset := strlen h.logMsg.text
    (h.withText ((CString.copyAt h.logMsg.text offset (logTextSize-offset) missing).set (logTextSize-1) 0),true)
  else (h,false)

/-- The note for a gap is ended as if it were counted from the end of the buffer. -/
def addMissing (h : Handler) : Handler :=
  let offset := strlen h.logMsg.text
  h.withText ((CString.copyAt h.logMsg.text offset (logTextSize-offset) missing).set (logTextSize-offset-1) 0)

def addChunk (h : Handler) (m : Statustext) : Handler :=
  let offset := strlen h.logMsg.text
  let maxToAdd := min (logTextSize-offset-1) textSize
  h.withText ((CString.copyAt h.logMsg.text offset maxToAdd m.text).set (min (offset+maxToAdd) (logTextSize-1)) 0)

def startText (h : Handler) (m : Statustext) : Handler :=
  h.withText ((CString.copyAt h.logMsg.text 0 (min logTextSize textSize) m.text).set textSize 0)

def extend (h : Handler) (m : Statustext) : Handler :=
  if m.chunkSeq = 0 then h.startText m
  else (if (m.chunkSeq : Int) ≠ h.lastLogChunkSeq+1 then h.addMissing else h).addChunk m

def stamp (h : Handler) (m : Statustext) (now : Nat) : Handler :=
  {h with logMsg := {h.logMsg with timestamp := now, severity := m.severity}}

def shouldPublishCurrent (h : Handler) (m : Statustext) (now : Nat) : Handler × Bool :=
  if m.id > 0 then
    let h := (if h.lastLogId ≠ m.id then h.stamp m now else h).extend m
    if logTextSize-1 = strlen h.logMsg.text ∨ strlen m.text < textSize then
      ({h with lastLogChunkSeq := -1, lastLogId := 0},true)
    else ({h with lastLogChunkSeq := m.chunkSeq, lastLogId := m.id},false)
  else
    let h := h.stamp m now
    let h := h.withText ((CString.copyAt h.logMsg.text 0 (min logTextSize textSize) m.text).set (textSize-1) 0)
    ({h with lastLogId := 0},true)

def receive (h : Handler) (m : Statustext) (now : Nat) : Handler × List LogMessage :=
  let previous := h.shouldPublishPrevious m
  let current := previous.1.shouldPublishCurrent m now
  (current.1,(if previous.2 then [previous.1.logMsg] else []) ++ if current.2 then [current.1.logMsg] else [])

end Handler

def gapNote (last : Int) (m : Statustext) : List Byte := if (m.chunkSeq : Int) = last+1 then [] else missing

def assemble : Int → List Statustext → List Byte
  | _,[] => []
  | last,m :: rest => gapNote last m ++ CString.text m.text ++ assemble m.chunkSeq rest

structure Collector where
  id : Nat
  chunks : List Statustext
  own : ∀ m ∈ chunks, m.id = id

namespace Collector

def empty : Collector := ⟨0,[],nofun⟩

def text (c : Collector) : List Byte := assemble (-1) c.chunks

def add (c : Collector) (m : Statustext) : Collector :=
  if same : c.id = m.id then
    ⟨m.id,c.chunks ++ [m],fun k member => by
      rcases List.mem_append.mp member with old | new
      · exact (c.own k old).trans same
      · rw [List.mem_singleton.mp new]⟩
  else ⟨m.id,[m],fun k member => by rw [List.mem_singleton.mp member]⟩

/-- A text ends with a chunk that holds its end, or when no more of it can be published. -/
def finished (c : Collector) (m : Statustext) : Bool :=
  decide (logTextSize-1 ≤ (c.add m).text.length) || decide (0 ∈ m.text)

def previous (c : Collector) (m : Statustext) : List (List Byte) :=
  if c.id ≠ 0 ∧ m.id ≠ c.id then [(c.text ++ missing).take (logTextSize - 1)] else []

def receive (c : Collector) (m : Statustext) : Collector × List (List Byte) :=
  if m.id = 0 then (empty,c.previous m ++ [CString.text m.text])
  else if c.finished m then (empty,c.previous m ++ [(c.add m).text.take (logTextSize - 1)])
  else (c.add m,c.previous m)

end Collector

structure Reception where
  handler : Handler
  collector : Collector

structure Arrival where
  message : Statustext
  now : Nat

namespace Reception

def init : Reception := ⟨.init,.empty⟩

def step (r : Reception) (a : Arrival) : Reception :=
  ⟨(r.handler.receive a.message a.now).1,(r.collector.receive a.message).1⟩

def Faithful (r : Reception) (a : Arrival) : Prop :=
  (r.handler.receive a.message a.now).2.map (fun log => CString.text log.text) = (r.collector.receive a.message).2

def InOrder (r : Reception) (a : Arrival) : Prop :=
  a.message.id ≠ 0 → a.message.id = r.collector.id → ∀ m ∈ r.collector.chunks, m.chunkSeq < a.message.chunkSeq

instance (r : Reception) (a : Arrival) : Decidable (r.Faithful a) := by
  unfold Faithful
  infer_instance

instance (r : Reception) (a : Arrival) : Decidable (r.InOrder a) := by
  unfold InOrder
  infer_instance

end Reception

/-- A single text has at most 49 characters, a text starts with its first chunk, and no gap follows 55 characters. -/
structure Manageable (h : Handler) (m : Statustext) : Prop where
  single : m.id = 0 → 0 ∈ m.text
  starts : m.id ≠ 0 → m.id ≠ h.lastLogId → m.chunkSeq ≠ 0 →
    h.lastLogId = 0 ∧ strlen h.logMsg.text = 0 ∧ (m.chunkSeq : Int) ≠ h.lastLogChunkSeq+1
  gap : m.id ≠ 0 → m.id = h.lastLogId → (m.chunkSeq : Int) ≠ h.lastLogChunkSeq+1 → strlen h.logMsg.text ≤ 55

instance (h : Handler) (m : Statustext) : Decidable (Manageable h m) :=
  decidable_of_iff ((m.id = 0 → 0 ∈ m.text) ∧ (m.id ≠ 0 → m.id ≠ h.lastLogId → m.chunkSeq ≠ 0 →
      h.lastLogId = 0 ∧ strlen h.logMsg.text = 0 ∧ (m.chunkSeq : Int) ≠ h.lastLogChunkSeq+1) ∧
    (m.id ≠ 0 → m.id = h.lastLogId → (m.chunkSeq : Int) ≠ h.lastLogChunkSeq+1 → strlen h.logMsg.text ≤ 55))
    ⟨fun each => ⟨each.1,each.2.1,each.2.2⟩,fun each => ⟨each.single,each.starts,each.gap⟩⟩

lemma text_missing : text missing = missing := by decide +kernel

lemma length_missing : missing.length = 15 := by decide +kernel

section
variable {h : Handler} {m : Statustext}

lemma length_text_le_textSize (m : Statustext) : (text m.text).length ≤ textSize := by
  rw [← m.size]
  exact length_text_le m.text

lemma text_copied (source : List Byte) (size : h.logMsg.text.length = logTextSize)
    (inside : strlen h.logMsg.text+n ≤ logTextSize) (ending : k ≤ strlen h.logMsg.text+n) (room : k < logTextSize) :
    text ((copyAt h.logMsg.text (strlen h.logMsg.text) n source).set k 0) =
      (text h.logMsg.text ++ text source).take k :=
  text_copyAt_set source (zero_notMem_text _) (take_length_text _) (size ▸ inside) ending
    (size ▸ room)

lemma length_copied (source : List Byte) (size : h.logMsg.text.length = logTextSize) (inside : offset+n ≤ logTextSize) :
    ((copyAt h.logMsg.text offset n source).set k 0).length = logTextSize := by
  rw [length_set,length_copyAt source (size ▸ inside),size]

section
variable (size : h.logMsg.text.length = logTextSize)
include size

lemma text_shouldPublishPrevious
    (short : strlen h.logMsg.text < logTextSize) (held : h.lastLogId > 0 ∧ m.id ≠ h.lastLogId) :
    text (h.shouldPublishPrevious m).1.logMsg.text = (text h.logMsg.text ++ missing).take (logTextSize - 1) := by
  rw [Handler.shouldPublishPrevious,if_pos held]
  have copied := text_copied missing size (n := logTextSize-strlen h.logMsg.text) (k := logTextSize-1)
    (by omega) (by omega) (by decide)
  rw [text_missing] at copied
  exact copied

lemma text_addMissing (short : strlen h.logMsg.text ≤ 55) :
    text h.addMissing.logMsg.text = text h.logMsg.text ++ missing := by
  have bound : logTextSize = 127 := rfl
  have copied := text_copied missing size (n := logTextSize-strlen h.logMsg.text)
    (k := logTextSize-strlen h.logMsg.text-1) (by omega) (by omega) (by omega)
  rw [text_missing,take_of_length_le] at copied
  · exact copied
  · rw [length_append,length_missing]
    change strlen h.logMsg.text+15 ≤ _
    omega

lemma text_addChunk (short : strlen h.logMsg.text < logTextSize) : text (h.addChunk m).logMsg.text =
      (text h.logMsg.text ++ text m.text).take (logTextSize - 1) := by
  have whole := length_text_le_textSize m
  have last : min (strlen h.logMsg.text+min (logTextSize-strlen h.logMsg.text-1) textSize) (logTextSize-1) =
      strlen h.logMsg.text+min (logTextSize-strlen h.logMsg.text-1) textSize := by omega
  have copied := text_copied m.text size (n := min (logTextSize-strlen h.logMsg.text-1) textSize)
    (k := strlen h.logMsg.text+min (logTextSize-strlen h.logMsg.text-1) textSize) (by omega) (by omega) (by omega)
  have same : (text h.logMsg.text ++ text m.text).take
      (strlen h.logMsg.text+min (logTextSize-strlen h.logMsg.text-1) textSize) =
      (text h.logMsg.text ++ text m.text).take (logTextSize - 1) := by
    rcases Nat.le_total (logTextSize-strlen h.logMsg.text-1) textSize with full | room
    · rw [Nat.min_eq_left full]
      congr 1
      omega
    · have all : (text h.logMsg.text ++ text m.text).length ≤ strlen h.logMsg.text + textSize := by
        rw [length_append]
        exact Nat.add_le_add_left whole _
      rw [Nat.min_eq_right room,take_of_length_le all,take_of_length_le (by omega)]
  rw [← same,← copied,Handler.addChunk,last]
  rfl

lemma text_startText : text (h.startText m).logMsg.text = text m.text := by
  have copied : text (h.startText m).logMsg.text = ([] ++ text m.text).take textSize :=
    text_copyAt_set m.text not_mem_nil rfl (by rw [size]; decide) (by decide) (by rw [size]; decide)
  rw [copied,nil_append,take_of_length_le (length_text_le_textSize m)]

lemma length_extend (short : strlen h.logMsg.text < logTextSize) : (h.extend m).logMsg.text.length = logTextSize := by
  unfold Handler.extend
  split
  · exact length_copied m.text size (by decide)
  · split
    · have noted : h.addMissing.logMsg.text.length = logTextSize := length_copied missing size (by omega)
      refine length_copied m.text noted ?_
      have bound : strlen h.addMissing.logMsg.text ≤ logTextSize := noted ▸ length_text_le _
      omega
    · exact length_copied m.text size (by omega)

end

lemma finished_iff (m : Statustext) : strlen m.text < textSize ↔ 0 ∈ m.text := by
  rw [strlen,← m.size]
  exact length_text_lt_iff m.text

end

section

def lastSeq : Int → List Statustext → Int
  | last,[] => last
  | _,m :: rest => lastSeq m.chunkSeq rest

lemma assemble_append (last : Int) (chunks : List Statustext) (m : Statustext) : assemble last (chunks ++ [m]) =
      assemble last chunks ++ (gapNote (lastSeq last chunks) m ++ text m.text) := by
  induction chunks generalizing last with
  | nil => simp [assemble,lastSeq]
  | cons k rest ih => simp [assemble,lastSeq,ih]

lemma lastSeq_append (last : Int) (chunks : List Statustext) (m : Statustext) :
    lastSeq last (chunks ++ [m]) = m.chunkSeq := by
  induction chunks generalizing last with
  | nil => rfl
  | cons k rest ih => exact ih k.chunkSeq

lemma lastSeq_mem (last : Int) (nonempty : chunks ≠ []) : ∃ m ∈ chunks, lastSeq last chunks = m.chunkSeq := by
  induction chunks generalizing last with
  | nil => exact absurd rfl nonempty
  | cons k rest ih =>
    cases rest with
    | nil => exact ⟨k,mem_singleton_self k,rfl⟩
    | cons other rest =>
      obtain ⟨m,member,same⟩ := ih k.chunkSeq (cons_ne_nil other rest)
      exact ⟨m,mem_cons_of_mem k member,same⟩

end

structure Agrees (h : Handler) (c : Collector) : Prop where
  size : h.logMsg.text.length = logTextSize
  ended : strlen h.logMsg.text < logTextSize
  id : h.lastLogId = c.id
  text : c.id ≠ 0 → CString.text h.logMsg.text = c.text
  room : c.id ≠ 0 → c.text.length < logTextSize-1
  nonempty : c.id ≠ 0 → c.chunks ≠ []
  seq : c.id ≠ 0 → h.lastLogChunkSeq = lastSeq (-1) c.chunks

section
variable {h : Handler} {c : Collector} {m : Statustext}

lemma add_text_same (same : c.id = m.id) :
    (c.add m).text = c.text ++ (gapNote (lastSeq (-1) c.chunks) m ++ text m.text) := by
  rw [Collector.add,dif_pos same,Collector.text,assemble_append,Collector.text]

lemma add_text_other (other : c.id ≠ m.id) : (c.add m).text = gapNote (-1) m ++ text m.text := by
  rw [Collector.add,dif_neg other,Collector.text,assemble,assemble,append_nil]

lemma text_extend_later (size : h.logMsg.text.length = logTextSize) (short : strlen h.logMsg.text < logTextSize)
    (later : m.chunkSeq ≠ 0) (note : (m.chunkSeq : Int) ≠ h.lastLogChunkSeq+1 → strlen h.logMsg.text ≤ 55) :
    text (h.extend m).logMsg.text =
      (text h.logMsg.text ++ (gapNote h.lastLogChunkSeq m ++ text m.text)).take (logTextSize - 1) := by
  rw [Handler.extend,if_neg later,gapNote]
  by_cases follows : (m.chunkSeq : Int) = h.lastLogChunkSeq+1
  · rw [if_neg (not_not_intro follows),if_pos follows,nil_append,text_addChunk size short]
  have noted := text_addMissing size (note follows)
  have noted_size : h.addMissing.logMsg.text.length = logTextSize := length_copied missing size (by omega)
  have noted_short : strlen h.addMissing.logMsg.text < logTextSize := by
    rw [strlen,noted,length_append,length_missing]
    have bound := note follows
    unfold strlen at bound
    unfold logTextSize
    omega
  rw [if_pos follows,if_neg follows,text_addChunk noted_size noted_short,noted,append_assoc]

lemma unpublished_iff (agrees : Agrees h c) : (h.lastLogId > 0 ∧ m.id ≠ h.lastLogId) ↔ (c.id ≠ 0 ∧ m.id ≠ c.id) := by
  rw [agrees.id,gt_iff_lt,Nat.pos_iff_ne_zero]

lemma previous_published (agrees : Agrees h c) :
    (if (h.shouldPublishPrevious m).2 then [(h.shouldPublishPrevious m).1.logMsg] else []).map
      (fun log => text log.text) = c.previous m := by
  unfold Collector.previous
  by_cases held : h.lastLogId > 0 ∧ m.id ≠ h.lastLogId
  · have pending := (unpublished_iff agrees).mp held
    have flag : (h.shouldPublishPrevious m).2 := by rw [Handler.shouldPublishPrevious,if_pos held]
    rw [if_pos flag,if_pos pending,map_singleton,text_shouldPublishPrevious agrees.size agrees.ended held,
      agrees.text pending.1]
  · have flag : ¬(h.shouldPublishPrevious m).2 := by
      rw [Handler.shouldPublishPrevious,if_neg held]
      exact Bool.false_ne_true
    rw [if_neg flag,if_neg ((unpublished_iff agrees).not.mp held),map_nil]

lemma previous_kept (agrees : Agrees h c) (m : Statustext) :
    (h.shouldPublishPrevious m).1.logMsg.text.length = logTextSize ∧
    strlen (h.shouldPublishPrevious m).1.logMsg.text < logTextSize ∧
    (h.shouldPublishPrevious m).1.lastLogId = h.lastLogId ∧
    (h.shouldPublishPrevious m).1.lastLogChunkSeq = h.lastLogChunkSeq := by
  by_cases held : h.lastLogId > 0 ∧ m.id ≠ h.lastLogId
  · have text := text_shouldPublishPrevious agrees.size agrees.ended held
    have short : strlen (h.shouldPublishPrevious m).1.logMsg.text < logTextSize := by
      rw [strlen,text,length_take]
      have positive : 0 < logTextSize := by decide
      omega
    have ended := agrees.ended
    refine ⟨?_,short,?_,?_⟩
    · rw [Handler.shouldPublishPrevious,if_pos held]
      exact length_copied missing agrees.size (by omega)
    all_goals
      rw [Handler.shouldPublishPrevious,if_pos held]
      rfl
  · rw [Handler.shouldPublishPrevious,if_neg held]
    exact ⟨agrees.size,agrees.ended,rfl,rfl⟩

def chunked (h : Handler) (m : Statustext) (now : Nat) : Handler :=
  (if (h.shouldPublishPrevious m).1.lastLogId ≠ m.id then (h.shouldPublishPrevious m).1.stamp m now
    else (h.shouldPublishPrevious m).1).extend m

section
variable (agrees : Agrees h c)
include agrees

lemma length_chunked (m : Statustext) (now : Nat) : (chunked h m now).logMsg.text.length = logTextSize := by
  obtain ⟨size,short,_,_⟩ := previous_kept agrees m
  unfold chunked
  split
  · exact length_extend size short
  · exact length_extend size short

section
variable (id : m.id ≠ 0) (manageable : Manageable h m) (now : Nat)
include id manageable

lemma text_chunked_same (same : c.id = m.id) (inOrder : ∀ k ∈ c.chunks, k.chunkSeq < m.chunkSeq) :
    text (chunked h m now).logMsg.text = (c.add m).text.take (logTextSize-1) := by
  have pending : c.id ≠ 0 := same ▸ id
  have mine : m.id = h.lastLogId := (agrees.id.trans same).symm
  have published : ¬(h.lastLogId > 0 ∧ m.id ≠ h.lastLogId) := fun other => other.2 mine
  obtain ⟨k,member,last⟩ := lastSeq_mem (-1) (agrees.nonempty pending)
  have later : m.chunkSeq ≠ 0 := Nat.ne_of_gt (Nat.zero_lt_of_lt (inOrder k member))
  rw [chunked,Handler.shouldPublishPrevious,if_neg published,if_neg (not_not_intro mine.symm),
    text_extend_later agrees.size agrees.ended later (manageable.gap id mine),add_text_same same,agrees.text pending,
    agrees.seq pending]

lemma text_chunked_other (other : c.id ≠ m.id) : text (chunked h m now).logMsg.text = (c.add m).text.take (logTextSize-1) := by
  obtain ⟨size,short,same,_⟩ := previous_kept agrees m
  have foreign : m.id ≠ h.lastLogId := fun mine => other (agrees.id.symm.trans mine.symm)
  rw [chunked,if_pos (same ▸ foreign.symm),add_text_other other]
  by_cases first : m.chunkSeq = 0
  · have stamped : ((h.shouldPublishPrevious m).1.stamp m now).logMsg.text.length = logTextSize := size
    have follows : gapNote (-1) m = [] := by
      rw [gapNote,first]
      rfl
    have bound := length_text_le_textSize m
    rw [Handler.extend,if_pos first,text_startText stamped,follows,nil_append,take_of_length_le]
    exact Nat.le_trans bound (by decide)
  · obtain ⟨none_pending,empty,jumps⟩ := manageable.starts id foreign first
    have published : ¬(h.lastLogId > 0 ∧ m.id ≠ h.lastLogId) := fun pending => by
      rw [none_pending] at pending
      exact absurd pending.1 (Nat.lt_irrefl 0)
    have nothing : text h.logMsg.text = [] := eq_nil_of_length_eq_zero empty
    have note : gapNote h.lastLogChunkSeq m = missing := if_neg jumps
    have note_first : gapNote (-1) m = missing := by
      refine if_neg fun follows => first ?_
      omega
    rw [Handler.shouldPublishPrevious,if_neg published]
    have extended := text_extend_later (h := h.stamp m now) (m := m) agrees.size agrees.ended first
      fun _ => empty ▸ Nat.zero_le 55
    rw [extended,note_first]
    change (text h.logMsg.text ++ (gapNote h.lastLogChunkSeq m ++ _)).take _ = _
    rw [nothing,note,nil_append]

lemma text_chunked (inOrder : m.id = c.id → ∀ k ∈ c.chunks, k.chunkSeq < m.chunkSeq) :
    text (chunked h m now).logMsg.text = (c.add m).text.take (logTextSize-1) := by
  by_cases same : c.id = m.id
  · exact text_chunked_same agrees id manageable now same (inOrder same.symm)
  · exact text_chunked_other agrees id manageable now same

lemma complete_iff (inOrder : m.id = c.id → ∀ k ∈ c.chunks, k.chunkSeq < m.chunkSeq) :
    (logTextSize-1 = strlen (chunked h m now).logMsg.text ∨ strlen m.text < textSize) ↔ c.finished m := by
  have full : logTextSize-1 = strlen (chunked h m now).logMsg.text ↔ logTextSize-1 ≤ (c.add m).text.length := by
    rw [strlen,text_chunked agrees id manageable now inOrder,length_take]
    omega
  rw [full,finished_iff,Collector.finished,Bool.or_eq_true_iff,decide_eq_true_iff,decide_eq_true_iff]

end

end

lemma shouldPublishCurrent_chunk (id : m.id ≠ 0) (now : Nat) :
    (h.shouldPublishPrevious m).1.shouldPublishCurrent m now =
      if logTextSize-1 = strlen (chunked h m now).logMsg.text ∨ strlen m.text < textSize then
        ({chunked h m now with lastLogChunkSeq := -1, lastLogId := 0},true)
      else ({chunked h m now with lastLogChunkSeq := m.chunkSeq, lastLogId := m.id},false) := by
  rw [Handler.shouldPublishCurrent,if_pos (Nat.pos_of_ne_zero id)]
  rfl

lemma add_id (c : Collector) (m : Statustext) : (c.add m).id = m.id := by
  unfold Collector.add
  split
  · rfl
  · rfl

lemma add_lastSeq (c : Collector) (m : Statustext) : lastSeq (-1) (c.add m).chunks = m.chunkSeq := by
  unfold Collector.add
  split
  · exact lastSeq_append (-1) c.chunks m
  · rfl

lemma add_nonempty (c : Collector) (m : Statustext) : (c.add m).chunks ≠ [] := by
  unfold Collector.add
  split
  · simp
  · simp

lemma chunk_step (agrees : Agrees h c) (id : m.id ≠ 0) (manageable : Manageable h m)
    (inOrder : m.id = c.id → ∀ k ∈ c.chunks, k.chunkSeq < m.chunkSeq) (now : Nat) :
    (h.receive m now).2.map (fun log => text log.text) = (c.receive m).2 ∧
    Agrees (h.receive m now).1 (c.receive m).1 := by
  have text := text_chunked agrees id manageable now inOrder
  have size := length_chunked agrees m now
  have ended : strlen (chunked h m now).logMsg.text < logTextSize := by
    rw [strlen,text,length_take]
    have positive : 0 < logTextSize := by decide
    omega
  have complete := complete_iff agrees id manageable now inOrder
  simp only [Handler.receive,shouldPublishCurrent_chunk id now,Collector.receive,if_neg id,map_append,
    previous_published agrees]
  by_cases finished : c.finished m = true
  · rw [if_pos (complete.mpr finished),if_pos finished]
    refine ⟨?_,size,ended,rfl,?_,?_,?_,?_⟩
    · rw [if_pos rfl,map_singleton,text]
    all_goals
      intro pending
      exact absurd rfl pending
  · have goes_on := complete.not.mpr finished
    rw [if_neg goes_on,if_neg finished]
    have short : (c.add m).text.length < logTextSize-1 := by
      by_contra long
      refine finished ?_
      rw [Collector.finished,decide_eq_true (Nat.not_lt.mp long),Bool.true_or]
    refine ⟨?_,size,ended,(add_id c m).symm,?_,fun _ => short,fun _ => add_nonempty c m,fun _ => (add_lastSeq c m).symm⟩
    · rw [if_neg Bool.false_ne_true,map_nil,append_nil]
    · intro _
      exact text.trans (take_of_length_le (Nat.le_of_lt short))

lemma single_step (agrees : Agrees h c) (id : m.id = 0) (terminated : 0 ∈ m.text) (now : Nat) :
    (h.receive m now).2.map (fun log => text log.text) = (c.receive m).2 ∧
    Agrees (h.receive m now).1 (c.receive m).1 := by
  obtain ⟨size,_,_,_⟩ := previous_kept agrees m
  have short : strlen m.text < textSize := (finished_iff m).mpr terminated
  have copied : text ((copyAt (h.shouldPublishPrevious m).1.logMsg.text 0
      (min logTextSize textSize) m.text).set (textSize - 1) 0) = ([] ++ text m.text).take (textSize - 1) :=
    text_copyAt_set m.text not_mem_nil rfl (by rw [size]; decide) (by decide) (by rw [size]; decide)
  rw [nil_append,take_of_length_le (Nat.le_sub_one_of_lt short)] at copied
  have ended : (text ((copyAt (h.shouldPublishPrevious m).1.logMsg.text 0
      (min logTextSize textSize) m.text).set (textSize-1) 0)).length < logTextSize := by
    rw [copied]
    exact Nat.lt_trans short (by decide)
  have none_id : ¬m.id > 0 := by
    rw [id]
    exact Nat.lt_irrefl 0
  simp only [Handler.receive,Handler.shouldPublishCurrent,if_neg none_id,Collector.receive,if_pos id,map_append,
    previous_published agrees]
  refine ⟨?_,?_,?_,rfl,?_,?_,?_,?_⟩
  · rw [if_pos trivial,map_singleton]
    exact congrArg (fun text => c.previous m ++ [text]) copied
  · exact length_copied m.text size (by decide)
  · exact ended
  all_goals
    intro pending
    exact absurd rfl pending

end

/-- If the chunks come in order and are manageable, exactly the texts of the collector are published. -/
theorem faithful_of_run (arrivals : List Arrival) (inOrder : Along Reception.step Reception.InOrder .init arrivals)
    (manageable : Along Reception.step (fun r a => Manageable r.handler a.message) .init arrivals) :
    Along Reception.step Reception.Faithful .init arrivals := by
  have both := (along_and Reception.init arrivals).mpr ⟨inOrder,manageable⟩
  have one_step : ∀ (r : Reception) (a : Arrival), r.InOrder a ∧ Manageable r.handler a.message →
      Agrees r.handler r.collector → r.Faithful a ∧ Agrees (r.step a).handler (r.step a).collector := by
    intro r a admitted agrees
    by_cases id : a.message.id = 0
    · exact single_step agrees id (admitted.2.single id) a.now
    · exact chunk_step agrees id admitted.2 (admitted.1 id) a.now
  refine along_of_invariant (fun r => Agrees r.handler r.collector) (fun r a admitted agrees => ?_)
    (fun r a admitted agrees => ?_) both ?_
  · exact (one_step r a admitted agrees).2
  · exact (one_step r a admitted agrees).1
  · refine ⟨rfl,by decide +kernel,rfl,?_,?_,?_,?_⟩
    all_goals
      intro pending
      exact absurd rfl pending

def chunk (id chunkSeq : Nat) (c : Byte) (n : Nat) : Arrival where
  message :=
    { severity := 2
      id := id
      chunkSeq := chunkSeq
      text := (List.replicate n c ++ List.replicate textSize 0).take textSize
      size := by
        rw [List.length_take,List.length_append,List.length_replicate,List.length_replicate]
        omega }
  now := 0

/-- A text whose first chunk is lost, one with a gap, one without an end, and a single one. -/
theorem faithful_of_run_lossy : Along Reception.step Reception.Faithful .init
    [chunk 1 1 0x62 35,chunk 2 0 0x61 50,chunk 2 2 0x63 25,chunk 3 0 0x61 50,chunk 0 0 0x62 49] :=
  faithful_of_run _ (by decide +kernel) (by decide +kernel)

/-- A text of 50 characters loses one; one without its first chunk joins the one before; a gap cuts 100 characters to
26. -/
theorem not_faithful_of_run : [[chunk 0 0 0x61 50],[chunk 0 0 0x61 10,chunk 1 1 0x62 20],
      [chunk 1 0 0x61 50,chunk 1 1 0x62 50,chunk 1 3 0x63 20]].all (fun arrivals =>
    Along Reception.step Reception.InOrder .init arrivals ∧
    ¬ Along Reception.step Reception.Faithful .init arrivals) = true := by
  decide +kernel

end AerialManipulator.StatustextHandler
